import HttpDispatch.Proofs.Values.Surviving
import HttpDispatch.Serving.Extractor

/-!
What a context holds after any changes that a hook makes to it. The request and the endpoint that it
was seeded with are there as long as no others are stored in their stead, and no view passes for
them; so the arguments that come from them can always be had, and any other is missing exactly if
nothing that is held offers it.
-/

namespace HttpDispatch

/-! ### Updates of a map -/

theorem Provider.stored?_modify {κ : Type} [Catalog κ] [DecidableEq κ] (provider : Provider κ)
    (key : κ) (change : Carrier key → Carrier key) :
    (provider.modify key change).stored? key = (provider.stored? key).map change := by
  obtain ⟨own, value, views⟩ := provider
  by_cases same : own = key
  · subst same
    have modified : modify ⟨own, value, views⟩ own change = ⟨own, change value, views⟩ :=
      dif_pos rfl
    rw [modified]
    simp [stored?]
  · simp [modify, stored?, same]

namespace TypeMap.Keeps

variable {κ : Type} [Catalog κ] [DecidableEq κ] {map : TypeMap κ}
variable {surviving : κ → Option (Provider κ)}

theorem stored?_perform (keeps : Keeps map surviving) (update : Update κ) (wanted : κ) :
    (update.perform map).2.stored? wanted =
      if update.key = wanted then (update.effect (surviving wanted)).bind (·.stored? wanted)
      else map.stored? wanted := by
  rw [(keeps.perform update).stored?_eq, keeps.stored?_eq, replaced]
  split <;> rfl

/-- A provider that is put in place stores its value under its own type. -/
theorem stored?_exchange (keeps : Keeps map surviving) (provider : Provider κ) {wanted : κ}
    {held : Carrier wanted} (stored : map.stored? wanted = some held) :
    (map.exchange provider).2.stored? wanted = some ((provider.stored? wanted).getD held) := by
  have exchanged : (map.exchange provider).2.stored? wanted =
      if provider.key = wanted then provider.stored? wanted else map.stored? wanted :=
    keeps.stored?_perform (.provide provider) wanted
  by_cases same : provider.key = wanted
  · obtain ⟨value, found⟩ := Option.isSome_iff_exists.mp (Provider.isSome_stored?.mpr same)
    rw [exchanged, if_pos same, found, Option.getD_some]
  · rw [exchanged, if_neg same, stored, Provider.stored?, dif_neg same, Option.getD_none]

theorem stored?_modify (keeps : Keeps map surviving) (key : κ)
    (change : Carrier key → Carrier key) {wanted : κ} {held : Carrier wanted}
    (stored : map.stored? wanted = some held) :
    (map.modify key change).stored? wanted =
      some (if same : key = wanted then (same ▸ change) held else held) := by
  have modified : (map.modify key change).stored? wanted =
      if key = wanted then ((surviving wanted).map (·.modify key change)).bind (·.stored? wanted)
      else map.stored? wanted :=
    keeps.stored?_perform (.modify key change) wanted
  by_cases same : key = wanted
  · subst same
    rw [keeps.stored?_eq] at stored
    obtain ⟨provider, survives, found⟩ := Option.bind_eq_some_iff.mp stored
    rw [modified, if_pos rfl, dif_pos rfl, survives, Option.map_some, Option.bind_some,
      Provider.stored?_modify, found, Option.map_some]
  · rw [modified, if_neg same, dif_neg same, stored]

/-- A look-up fails exactly if no survivor is of the type or has a view of it. -/
theorem get?_eq_none_iff (keeps : Keeps map surviving) (wanted : κ) :
    map.get? wanted = none ↔
      ¬∃ provider, surviving provider.key = some provider ∧
        (provider.key = wanted ∨ provider.Views wanted) := by
  rw [← Option.not_isSome_iff_eq_none, ← contains_iff, contains, List.any_eq_true]
  simp only [keeps.mem_iff, Provider.offers_iff]

end TypeMap.Keeps

namespace Context

variable {κ : Type} [DecidableEq κ] [ContextCatalog κ]

/-! ### Changes -/

/-- A change that a hook can make to a context. -/
inductive Change (κ : Type) [DecidableEq κ] [ContextCatalog κ] where
  | insert (key : ContextKey κ) (value : Carrier key)
  | provide (provider : Provider (ContextKey κ))
  | modify (key : ContextKey κ) (change : Carrier key → Carrier key)
  | setResponse (response : Response)
  | takeResponse
  | modifyResponse (change : Response → Response)

namespace Change

def apply (context : Context κ) : Change κ → Context κ
  | insert key value => context.insert key value
  | provide provider => context.provide provider
  | modify key change => context.modify key change
  | setResponse response => context.setResponse response
  | takeResponse => context.takeResponse
  | modifyResponse change => context.modifyResponse change

/-- What a change does to the values, if it is about them and not about the response. -/
def update? : Change κ → Option (TypeMap.Update (ContextKey κ))
  | insert key value => some (.insert key value)
  | provide provider => some (.provide provider)
  | modify key change => some (.modify key change)
  | setResponse _ | takeResponse | modifyResponse _ => none

/-- The value stored under a type after a change, from the one before it. -/
def stores (key : ContextKey κ) (held : Carrier key) : Change κ → Carrier key
  | insert stored value => ((Provider.ofValue stored value).stored? key).getD held
  | provide provider => (provider.stored? key).getD held
  | modify stored change => if same : stored = key then (same ▸ change) held else held
  | setResponse _ | takeResponse | modifyResponse _ => held

/-- The response after a change, from the one before it. -/
def answers (held : Option Response) : Change κ → Option Response
  | setResponse response => some response
  | takeResponse => none
  | modifyResponse change => held.map change
  | insert _ _ | provide _ | modify _ _ => held

end Change

/-- The context that changes make of the one in which a request to an endpoint is served. -/
def after (request : Request) (endpoint : Endpoint) (changes : List (Change κ)) : Context κ :=
  changes.foldl Change.apply (.seeded request endpoint)

/-- The value stored last under a type, or else the seed. -/
def lastStored (key : ContextKey κ) (seed : Carrier key) (changes : List (Change κ)) :
    Carrier key :=
  changes.foldl (Change.stores key) seed

/-- The updates of values that changes come to, the seeds before them. -/
def updates (request : Request) (endpoint : Endpoint) (changes : List (Change κ)) :
    List (TypeMap.Update (ContextKey κ)) :=
  [.insert .request request, .insert .endpoint endpoint] ++ changes.filterMap Change.update?

/-! ### What is kept -/

theorem values_apply (context : Context κ) (change : Change κ) :
    (change.apply context).values =
      match change.update? with
      | some update => (update.perform context.values).2
      | none => context.values := by
  cases change <;> rfl

theorem response_apply (context : Context κ) (change : Change κ) :
    (change.apply context).response = change.answers context.response := by
  cases change <;> rfl

section

variable (request : Request) (endpoint : Endpoint) (changes : List (Change κ))

theorem values_after :
    (after request endpoint changes).values = TypeMap.after (updates request endpoint changes) := by
  have step (context : Context κ) : (changes.foldl Change.apply context).values =
      (changes.filterMap Change.update?).foldl (fun map update => (update.perform map).2)
        context.values := by
    induction changes generalizing context with
    | nil => rfl
    | cons change changes ih =>
      rw [List.foldl_cons, ih, values_apply, List.filterMap_cons]
      cases change.update? <;> rfl
  rw [after, step, TypeMap.after, updates, List.foldl_append]
  rfl

theorem response_after :
    (after request endpoint changes).response = changes.foldl Change.answers none := by
  have step (context : Context κ) : (changes.foldl Change.apply context).response =
      changes.foldl Change.answers context.response := by
    induction changes generalizing context with
    | nil => rfl
    | cons change changes ih => rw [List.foldl_cons, List.foldl_cons, ih, response_apply]
  exact step _

theorem keeps_after : (after request endpoint changes).values.Keeps
    (TypeMap.surviving (updates request endpoint changes)) := by
  rw [values_after]
  exact TypeMap.keeps_after _

end

theorem stored?_apply {context : Context κ}
    {surviving : ContextKey κ → Option (Provider (ContextKey κ))}
    (keeps : context.values.Keeps surviving) {key : ContextKey κ} {held : Carrier key}
    (stored : context.values.stored? key = some held) (change : Change κ) :
    (change.apply context).values.stored? key = some (change.stores key held) := by
  rw [values_apply]
  cases change with
  | insert given value => exact keeps.stored?_exchange (.ofValue given value) stored
  | provide provider => exact keeps.stored?_exchange provider stored
  | modify given change => exact keeps.stored?_modify given change stored
  | setResponse response => exact stored
  | takeResponse => exact stored
  | modifyResponse change => exact stored

section

variable (request : Request) (endpoint : Endpoint) (changes : List (Change κ))

theorem stored?_seeded :
    (seeded request endpoint : Context κ).values.stored? .request = some request ∧
      (seeded request endpoint : Context κ).values.stored? .endpoint = some endpoint := by
  have keeps : (seeded request endpoint : Context κ).values.Keeps _ :=
    keeps_after request endpoint []
  rw [keeps.stored?_eq, keeps.stored?_eq]
  constructor
  · rfl
  · rfl

/-- Whatever is done to a context, under the type of a seed the value stored last is found. -/
theorem stored?_after {key : ContextKey κ} {seed : Carrier key}
    (seeded : (seeded request endpoint : Context κ).values.stored? key = some seed) :
    (after request endpoint changes).values.stored? key = some (lastStored key seed changes) := by
  induction changes using List.reverseRecOn with
  | nil => exact seeded
  | append_singleton changes change ih =>
    rw [after, lastStored, List.foldl_append, List.foldl_append]
    exact stored?_apply (keeps_after request endpoint changes) ih change

end

/-- A value that survives is of this type or has a view of it. -/
def Offers (surviving : ContextKey κ → Option (Provider (ContextKey κ))) (key : ContextKey κ) :
    Prop :=
  ∃ provider, surviving provider.key = some provider ∧ (provider.key = key ∨ provider.Views key)

/-- What handlers get from a context that holds a request, an endpoint and what else survives. -/
structure Gives (context : Context κ) (request : Request) (endpoint : Endpoint)
    (surviving : ContextKey κ → Option (Provider (ContextKey κ))) : Prop where
  holds : context.request? = some request ∧ context.endpoint? = some endpoint
  /-- No view stands in for them. -/
  exact : context.values.get? .request = some request ∧
    context.values.get? .endpoint = some endpoint
  takes : ∀ {σ : Type} (world : World σ),
    Extractor.request context world = (.ok request, world) ∧
    Extractor.endpoint context world = (.ok endpoint, world) ∧
    Extractor.verb context world = (.ok endpoint.verb, world) ∧
    Extractor.params context world = (.ok request.params, world)
  finds : ∀ {σ : Type} (key : ContextKey κ) (world : World σ), Offers surviving key →
    ∃ value, context.values.get? key = some value ∧
      Extractor.data key context world = (.ok value, world)
  misses : ∀ {σ : Type} (key : ContextKey κ) (world : World σ), ¬Offers surviving key →
    Extractor.data key context world =
      (.error (.failed (.ofLayer (.contextMiss (Catalog.name key)
        (endpoint.verb.token ++ " " ++ endpoint.path)))), world)

/-- What is held under the types of the seeds decides what handlers get. -/
theorem gives {context : Context κ} {request : Request} {endpoint : Endpoint}
    {surviving : ContextKey κ → Option (Provider (ContextKey κ))}
    (keeps : context.values.Keeps surviving)
    (requested : context.values.stored? .request = some request)
    (matched : context.values.stored? .endpoint = some endpoint) :
    context.Gives request endpoint surviving where
  holds := ⟨requested, matched⟩
  exact := by
    rw [TypeMap.get?, TypeMap.get?, requested, matched]
    exact ⟨rfl, rfl⟩
  takes world := by
    refine ⟨Extractor.required_of_some requested world, Extractor.required_of_some matched world,
      Extractor.required_of_some ?_ world, Extractor.required_of_some ?_ world⟩
    · rw [endpoint?, matched, Option.map_some]
    · rw [request?, requested, Option.map_some]
  finds key world offered := by
    have found := mt (keeps.get?_eq_none_iff key).mp (not_not_intro offered)
    obtain ⟨value, found⟩ := Option.ne_none_iff_exists'.mp found
    exact ⟨value, found, Extractor.required_of_some found world⟩
  misses key world missing := by
    have missed : context.miss (Catalog.name key) = .ofLayer (.contextMiss (Catalog.name key)
        (endpoint.verb.token ++ " " ++ endpoint.path)) := by
      rw [miss, endpoint?, matched]
      rfl
    rw [← missed]
    exact Extractor.required_of_none ((keeps.get?_eq_none_iff key).mpr missing) world

/-- Whatever a hook does to a context, the request and the endpoint stored last are there, the seeds
if there are no others, and handlers get them; anything else is missing exactly if nothing offers
it. The values come from the changes about them alone, and so does the response. -/
theorem seeds_kept (request : Request) (endpoint : Endpoint) (changes : List (Change κ)) :
    (after request endpoint changes).Gives (lastStored .request request changes)
        (lastStored .endpoint endpoint changes)
        (TypeMap.surviving (updates request endpoint changes)) ∧
      (after request endpoint changes).values =
        TypeMap.after (updates request endpoint changes) ∧
      (after request endpoint changes).response = changes.foldl Change.answers none ∧
      ∀ (context : Context κ) (change : Change κ),
        (change.update? = none → (change.apply context).values = context.values) ∧
          (change.update? ≠ none → (change.apply context).response = context.response) := by
  obtain ⟨requested, matched⟩ := stored?_seeded (κ := κ) request endpoint
  refine ⟨gives (keeps_after request endpoint changes) (stored?_after _ _ _ requested)
    (stored?_after _ _ _ matched), values_after _ _ _, response_after _ _ _, ?_⟩
  intro context change
  constructor
  · intro other
    rw [values_apply, other]
  · cases change with
    | setResponse | takeResponse | modifyResponse => exact fun values => absurd rfl values
    | insert | provide | modify => exact fun _ => rfl

end Context

end HttpDispatch
