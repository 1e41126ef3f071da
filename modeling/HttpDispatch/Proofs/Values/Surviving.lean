import HttpDispatch.Proofs.Values.Specificity
import Mathlib.Data.List.Induction

/-!
What a map holds after any updates. Of each type it holds the provider given last since the type was
last removed, with its current value, and every answer depends on these survivors alone.
-/

namespace HttpDispatch.TypeMap

variable {κ : Type} [Catalog κ]

/-! ### What a map keeps -/

/-- A map holds exactly the survivors, each once, in the order in which they are asked. -/
structure Keeps (map : TypeMap κ) (surviving : κ → Option (Provider κ)) : Prop where
  ordered : map.InOrder
  distinct : map.Distinct
  holds : ∀ {key : κ} {provider : Provider κ},
    surviving key = some provider ↔ provider ∈ map.providers ∧ provider.key = key

/-- No two types that survive share their name. -/
def DistinctlyNamed (surviving : κ → Option (Provider κ)) : Prop :=
  ∀ one other : κ, (surviving one).isSome → (surviving other).isSome →
    Catalog.name one = Catalog.name other → one = other

namespace Keeps

variable {map : TypeMap κ} {surviving : κ → Option (Provider κ)}

theorem mem_iff (keeps : Keeps map surviving) (provider : Provider κ) :
    surviving provider.key = some provider ↔ provider ∈ map.providers :=
  keeps.holds.trans (and_iff_left rfl)

/-- Providers of distinct types with distinct names are strictly ordered. -/
theorem specific (keeps : Keeps map surviving) (named : DistinctlyNamed surviving) :
    map.providers.Pairwise Provider.MoreSpecific := by
  refine List.Pairwise.imp_of_mem ?_ (keeps.ordered.and keeps.distinct)
  rintro earlier later member member' ⟨before, apart⟩
  rcases Ordering.isLE_iff_eq_lt_or_eq_eq.mp before with less | equal
  · exact Provider.order_eq_lt.mp less
  · -- Providers that tie would be of two types with one name.
    have survives : ∀ provider ∈ map.providers, (surviving provider.key).isSome := by
      intro provider member
      rw [keeps.holds.mpr ⟨member, rfl⟩]
      rfl
    have same := (Provider.order_eq_eq.mp equal).2.symm
    exact absurd (named _ _ (survives earlier member) (survives later member') same) apart

/-- The survivors alone determine the map. -/
theorem unique {other : TypeMap κ} (keeps : Keeps map surviving) (keeps' : Keeps other surviving)
    (named : DistinctlyNamed surviving) : map = other := by
  have apart : ∀ {map : TypeMap κ}, map.Distinct → map.providers.Nodup := fun distinct =>
    distinct.imp fun differ same => differ (congrArg Provider.key same)
  have perm : map.providers.Perm other.providers := by
    rw [List.perm_ext_iff_of_nodup (apart keeps.distinct) (apart keeps'.distinct)]
    intro provider
    rw [← keeps.mem_iff, keeps'.mem_iff]
  -- The same providers in one strict order stand at the same places.
  have same := perm.eq_of_pairwise
    (fun _ _ _ _ before after => absurd after before.asymm)
    (keeps.specific named) (keeps'.specific named)
  cases map
  cases other
  exact congrArg TypeMap.mk same

end Keeps

/-! ### What updates leave -/

/-- A change of a map. -/
inductive Update (κ : Type) [Catalog κ] where
  | insert (key : κ) (value : Carrier key)
  | provide (provider : Provider κ)
  | remove (key : κ)
  | modify (key : κ) (change : Carrier key → Carrier key)

/-- The type that an update is about. -/
def Update.key : Update κ → κ
  | insert key _ => key
  | provide provider => provider.key
  | remove key => key
  | modify key _ => key

variable [DecidableEq κ]

namespace Update

/-- Updates a map, and gives the value that was stored under the type. -/
def perform (map : TypeMap κ) : (update : Update κ) → Option (Carrier update.key) × TypeMap κ
  | insert key value => map.exchange (.ofValue key value)
  | provide provider => map.exchange provider
  | remove key => map.take key
  | modify key change => (map.stored? key, map.modify key change)

/-- What an update makes of the provider for its type. -/
def effect : Update κ → Option (Provider κ) → Option (Provider κ)
  | insert key value, _ => some (.ofValue key value)
  | provide provider, _ => some provider
  | remove _, _ => none
  | modify key change, held => held.map (·.modify key change)

end Update

/-- The map that updates make. -/
def after (updates : List (Update κ)) : TypeMap κ :=
  updates.foldl (fun map update => (update.perform map).2) .empty

/-- The provider that updates leave for a type. -/
def surviving (updates : List (Update κ)) (key : κ) : Option (Provider κ) :=
  (updates.filter (·.key = key)).foldl (fun held update => update.effect held) none

/-- What an update makes of all survivors. -/
def replaced (surviving : κ → Option (Provider κ)) (update : Update κ) (key : κ) :
    Option (Provider κ) :=
  if update.key = key then update.effect (surviving key) else surviving key

theorem surviving_concat (updates : List (Update κ)) (update : Update κ) :
    surviving (updates ++ [update]) = replaced (surviving updates) update := by
  funext key
  rw [surviving, List.filter_append, List.foldl_append, replaced]
  by_cases here : update.key = key
  · simp [here, surviving]
  · simp [here, surviving]

namespace Keeps

variable {map : TypeMap κ} {surviving : κ → Option (Provider κ)}

/-- Which providers an update leaves: the others, and what it makes of the one for its type. -/
theorem leaves (keeps : Keeps map surviving) (update : Update κ) (provider : Provider κ) :
    provider ∈ (update.perform map).2.providers ↔
      if provider.key = update.key then update.effect (surviving update.key) = some provider
      else provider ∈ map.providers := by
  have exchanged (given : Provider κ) : provider ∈ (map.exchange given).2.providers ↔
      if provider.key = given.key then some given = some provider
      else provider ∈ map.providers := by
    rw [keeps.distinct.mem_exchange keeps.ordered]
    by_cases here : provider.key = given.key
    · simp [here, eq_comm]
    · have other : provider ≠ given := fun same => here (congrArg Provider.key same)
      simp [here, other]
  cases update with
  | insert key value => exact exchanged (.ofValue key value)
  | provide given => exact exchanged given
  | remove key =>
    show provider ∈ (map.remove key).providers ↔
      if provider.key = key then none = some provider else provider ∈ map.providers
    rw [keeps.distinct.mem_remove]
    by_cases here : provider.key = key <;> simp [here]
  | modify key change =>
    show provider ∈ map.providers.map (·.modify key change) ↔
      if provider.key = key then (surviving key).map (·.modify key change) = some provider
      else provider ∈ map.providers
    rw [List.mem_map]
    by_cases here : provider.key = key
    · rw [if_pos here, Option.map_eq_some_iff]
      constructor
      · rintro ⟨held, member, rfl⟩
        rw [Provider.key_modify] at here
        exact ⟨held, keeps.holds.mpr ⟨member, here⟩, rfl⟩
      · rintro ⟨held, survives, rfl⟩
        exact ⟨held, (keeps.holds.mp survives).1, rfl⟩
    · rw [if_neg here]
      constructor
      · rintro ⟨held, member, rfl⟩
        rw [Provider.key_modify] at here
        rwa [Provider.modify_of_ne here]
      · intro member
        exact ⟨provider, member, Provider.modify_of_ne here change⟩

theorem key_of_effect (keeps : Keeps map surviving) {update : Update κ} {provider : Provider κ}
    (made : update.effect (surviving update.key) = some provider) : provider.key = update.key := by
  cases update with
  | insert key value =>
    cases made
    rfl
  | provide given =>
    cases made
    rfl
  | remove key => cases made
  | modify key change =>
    obtain ⟨held, survives, rfl⟩ := Option.map_eq_some_iff.mp made
    rw [Provider.key_modify]
    exact (keeps.holds.mp survives).2

theorem perform (keeps : Keeps map surviving) (update : Update κ) :
    Keeps (update.perform map).2 (replaced surviving update) where
  ordered := by
    cases update with
    | insert key value => exact keeps.ordered.exchange _
    | provide provider => exact keeps.ordered.exchange provider
    | remove key => exact keeps.ordered.remove key
    | modify key change => exact keeps.ordered.modify key change
  distinct := by
    cases update with
    | insert key value => exact keeps.distinct.exchange keeps.ordered _
    | provide provider => exact keeps.distinct.exchange keeps.ordered provider
    | remove key => exact keeps.distinct.remove key
    | modify key change => exact keeps.distinct.modify key change
  holds := by
    intro wanted provider
    have left := keeps.leaves update provider
    rw [replaced]
    by_cases here : update.key = wanted
    · subst here
      rw [if_pos rfl]
      constructor
      · intro made
        have same := keeps.key_of_effect made
        rw [if_pos same] at left
        exact ⟨left.mpr made, same⟩
      · rintro ⟨member, same⟩
        rw [if_pos same] at left
        exact left.mp member
    · rw [if_neg here, keeps.holds]
      constructor
      · rintro ⟨member, rfl⟩
        rw [if_neg (Ne.symm here)] at left
        exact ⟨left.mpr member, rfl⟩
      · rintro ⟨member, rfl⟩
        rw [if_neg (Ne.symm here)] at left
        exact ⟨left.mp member, rfl⟩

end Keeps

theorem keeps_after (updates : List (Update κ)) : Keeps (after updates) (surviving updates) := by
  induction updates using List.reverseRecOn with
  | nil => exact ⟨.nil, .nil, by simp [after, surviving, TypeMap.empty]⟩
  | append_singleton updates update ih =>
    rw [after, List.foldl_append, surviving_concat]
    exact ih.perform update

/-! ### What a map answers -/

/-- What a look-up finds among the survivors. -/
inductive Finds (surviving : κ → Option (Provider κ)) (wanted : κ) : Option (Carrier wanted) → Prop
  | stored (value : Carrier wanted) (views : List (View κ wanted))
      (held : surviving wanted = some ⟨wanted, value, views⟩) : Finds surviving wanted (some value)
  | viewed (provider : Provider κ) (value : Carrier wanted) (missing : surviving wanted = none)
      (held : surviving provider.key = some provider) (shown : provider.FirstView wanted value)
      (first : ∀ other, surviving other.key = some other → other ≠ provider → other.Views wanted →
        provider.MoreSpecific other) : Finds surviving wanted (some value)
  | missing (missing : surviving wanted = none)
      (unseen : ∀ provider, surviving provider.key = some provider → ¬provider.Views wanted) :
      Finds surviving wanted none

/-- How a map serves look-ups from the survivors. -/
structure Serves (map : TypeMap κ) (surviving : κ → Option (Provider κ)) : Prop where
  distinct : (map.providers.map (·.key)).Nodup
  ordered : map.providers.Pairwise Provider.MoreSpecific
  holds : ∀ key provider,
    surviving key = some provider ↔ provider ∈ map.providers ∧ provider.key = key
  stored : ∀ key, map.stored? key = (surviving key).bind (·.stored? key)
  finds : ∀ wanted, Finds surviving wanted (map.get? wanted)
  contains : ∀ wanted, map.contains wanted ↔ (map.get? wanted).isSome

/-- What an update does to a map that has a provider for its type. -/
structure Update.Replaces (update : Update κ) (map : TypeMap κ) (held : Option (Provider κ)) :
    Prop where
  gives : (update.perform map).1 = held.bind (·.stored? update.key)
  leaves : ∀ provider, provider ∈ (update.perform map).2.providers ↔
    if provider.key = update.key then update.effect held = some provider
    else provider ∈ map.providers

namespace Keeps

variable {map : TypeMap κ} {surviving : κ → Option (Provider κ)}

theorem stored?_eq (keeps : Keeps map surviving) (key : κ) :
    map.stored? key = (surviving key).bind (·.stored? key) := by
  have silent : ∀ provider ∈ map.providers, provider.key ≠ key → provider.stored? key = none := by
    intro provider _ other
    rw [Provider.stored?, dif_neg other]
  cases held : surviving key with
  | none =>
    refine List.findSome?_eq_none_iff.mpr fun provider member => silent provider member ?_
    intro same
    rw [keeps.holds.mpr ⟨member, same⟩] at held
    cases held
  | some provider =>
    obtain ⟨member, same⟩ := keeps.holds.mp held
    obtain ⟨value, stored⟩ := Option.isSome_iff_exists.mp (Provider.isSome_stored?.mpr same)
    obtain ⟨before, after, split⟩ := List.append_of_mem member
    have apart := keeps.distinct
    rw [Distinct, split, List.pairwise_append] at apart
    rw [Option.bind_some, stored, stored?, List.findSome?_eq_some_iff]
    refine ⟨before, provider, after, split, stored, ?_⟩
    intro other earlier
    have inside : other ∈ map.providers := split ▸ List.mem_append_left _ earlier
    apply silent other inside
    rw [← same]
    exact apart.2.2 other earlier provider List.mem_cons_self

theorem finds (keeps : Keeps map surviving) (named : DistinctlyNamed surviving) (wanted : κ) :
    Finds surviving wanted (map.get? wanted) := by
  rw [get?, keeps.stored?_eq]
  cases held : surviving wanted with
  | some provider =>
    obtain ⟨-, rfl⟩ := keeps.holds.mp held
    simpa [Provider.stored?] using Finds.stored provider.value provider.views held
  | none =>
    rw [Option.bind_none, Option.none_or]
    cases found : map.view? wanted with
    | none =>
      refine .missing held fun provider survives => ?_
      have member := (keeps.holds.mp survives).1
      exact Provider.view?_eq_none.mp (List.findSome?_eq_none_iff.mp found provider member)
    | some value =>
      obtain ⟨before, provider, after, split, shown, unseen⟩ := List.findSome?_eq_some_iff.mp found
      have member : provider ∈ map.providers := by simp [split]
      refine .viewed provider value held (keeps.holds.mpr ⟨member, rfl⟩)
        (Provider.firstView_of_view? shown) ?_
      intro other survives apart views
      have specific := keeps.specific named
      have inside := (keeps.holds.mp survives).1
      rw [split] at specific inside
      -- Those before the provider have no such view, and those behind it are less specific.
      rcases List.mem_append.mp inside with earlier | later
      · exact absurd views (Provider.view?_eq_none.mp (unseen other earlier))
      · have behind := (List.mem_cons.mp later).resolve_left apart
        exact List.rel_of_pairwise_cons (List.pairwise_append.mp specific).2.1 behind

end Keeps

theorem contains_iff (map : TypeMap κ) (wanted : κ) :
    map.contains wanted ↔ (map.get? wanted).isSome := by
  have views (provider : Provider κ) :
      provider.Views wanted ↔ (provider.view? wanted).isSome := by
    rw [Option.isSome_iff_ne_none, ne_eq, Provider.view?_eq_none, Classical.not_not]
  simp only [contains, get?, Option.isSome_or, Bool.or_eq_true, stored?, view?,
    List.findSome?_isSome_iff, List.any_eq_true, Provider.offers_iff, Provider.isSome_stored?,
    ← views]
  constructor
  · rintro ⟨provider, member, stored | viewed⟩
    · exact .inl ⟨provider, member, stored⟩
    · exact .inr ⟨provider, member, viewed⟩
  · rintro (⟨provider, member, stored⟩ | ⟨provider, member, viewed⟩)
    · exact ⟨provider, member, .inl stored⟩
    · exact ⟨provider, member, .inr viewed⟩

/-- Whatever updates make a map, the survivors decide what it holds, in which order, and what it
answers. Updates that leave the same survivors make the same map, and an update gives the value of
the survivor that it replaces. -/
theorem survivors_decide (updates : List (Update κ))
    (named : DistinctlyNamed (surviving updates)) :
    (after updates).Serves (surviving updates) ∧
      (∀ others, surviving others = surviving updates → after others = after updates) ∧
      ∀ update : Update κ,
        update.Replaces (after updates) (surviving updates update.key) := by
  have keeps := keeps_after updates
  refine ⟨?_, ?_, ?_⟩
  · constructor
    · exact List.pairwise_map.mpr keeps.distinct
    · exact keeps.specific named
    · exact fun key provider => keeps.holds
    · exact keeps.stored?_eq
    · exact keeps.finds named
    · exact contains_iff (after updates)
  · intro others same
    exact (same ▸ keeps_after others).unique keeps named
  · intro update
    constructor
    · have gives : (update.perform (after updates)).1 = (after updates).stored? update.key := by
        cases update <;> rfl
      rw [gives, keeps.stored?_eq]
    · exact keeps.leaves update

/-- Numbers of three widths. -/
inductive Width where
  | byte
  | half
  | long
  deriving DecidableEq

instance : Catalog Width where
  Carrier
    | .byte => UInt8
    | .half => UInt16
    | .long => UInt64
  name
    | .byte => "u8"
    | .half => "u16"
    | .long => "u64"

/-- A byte and a half that can be seen as a long number, with changes on the way. -/
def Width.updates : List (Update Width) :=
  [.insert .long (9 : UInt64), .provide ⟨.half, (2 : UInt16), [⟨.long, UInt16.toUInt64⟩]⟩,
    .provide ⟨.byte, (1 : UInt8), [⟨.long, UInt8.toUInt64⟩]⟩, .remove .long,
    .modify .byte fun value : UInt8 => value + 3]

/-- Made in another order, the map is the same, and the byte is asked for a long number before the
half. -/
theorem byte_asked_before_half :
    DistinctlyNamed (surviving Width.updates) ∧
      (after Width.updates).typeNames = ["u8", "u16"] ∧
      some (4 : UInt64) = (after Width.updates).get? .long ∧
      after [.provide ⟨.byte, (4 : UInt8), [⟨.long, UInt8.toUInt64⟩]⟩,
        .provide ⟨.half, (2 : UInt16), [⟨.long, UInt16.toUInt64⟩]⟩] = after Width.updates := by
  have named : DistinctlyNamed (surviving Width.updates) := by
    intro one other _ _ same
    cases one <;> cases other <;> simp [Catalog.name] at same ⊢
  refine ⟨named, by decide +kernel, by decide +kernel, ?_⟩
  apply (survivors_decide Width.updates named).2.1
  funext key
  cases key <;> rfl

end HttpDispatch.TypeMap
