import HttpDispatch.Proofs.Routing.Bisection
import HttpDispatch.Values.TypeMap

/-!
The order in which a map asks its providers. Every operation keeps the providers in that order, and
in it the first provider with a view is the most specific one.
-/

namespace HttpDispatch

namespace Provider

variable {κ : Type} [Catalog κ] {earlier later provider : Provider κ}

/-- More views, or as many and a greater type name. -/
def MoreSpecific (earlier later : Provider κ) : Prop :=
  later.views.length < earlier.views.length ∨
    later.views.length = earlier.views.length ∧ Catalog.name later.key < Catalog.name earlier.key

instance : Std.TransCmp (order : Provider κ → Provider κ → Ordering) :=
  inferInstanceAs (Std.TransCmp fun left right : Provider κ =>
    compareLex (compareOn (·.views.length)) (compareOn (Catalog.name ·.key)) right left)

theorem order_eq_lt : earlier.order later = .lt ↔ earlier.MoreSpecific later := by
  have names : compare (Catalog.name later.key) (Catalog.name earlier.key) = .lt ↔
      Catalog.name later.key < Catalog.name earlier.key := compareOfLessAndEq_eq_lt
  rw [order, Ordering.then_eq_lt, Nat.compare_eq_lt, Nat.compare_eq_eq, names, MoreSpecific]

theorem order_eq_eq :
    earlier.order later = .eq ↔ later.views.length = earlier.views.length ∧
      Catalog.name later.key = Catalog.name earlier.key := by
  rw [order, Ordering.then_eq_eq, Nat.compare_eq_eq,
    Std.LawfulEqCmp.compare_eq_iff_eq]

theorem MoreSpecific.asymm (specific : earlier.MoreSpecific later) :
    ¬later.MoreSpecific earlier := by
  rw [← order_eq_lt] at specific ⊢
  exact Std.OrientedCmp.not_lt_of_lt specific

variable [DecidableEq κ] {wanted : κ}

@[simp] theorem key_modify (provider : Provider κ) (wanted : κ)
    (change : Carrier wanted → Carrier wanted) :
    (provider.modify wanted change).key = provider.key := by
  unfold modify
  split <;> rfl

theorem length_views_modify (provider : Provider κ) (wanted : κ)
    (change : Carrier wanted → Carrier wanted) :
    (provider.modify wanted change).views.length = provider.views.length := by
  unfold modify
  by_cases same : provider.key = wanted
  · rw [dif_pos same]
  · rw [dif_neg same]

theorem modify_of_ne (other : provider.key ≠ wanted) (change : Carrier wanted → Carrier wanted) :
    provider.modify wanted change = provider := by
  rw [modify, dif_neg other]

theorem order_modify (earlier later : Provider κ) (wanted : κ)
    (change : Carrier wanted → Carrier wanted) :
    (earlier.modify wanted change).order (later.modify wanted change) = earlier.order later := by
  simp only [order, key_modify, length_views_modify]

/-- Whether the value can be seen as this type. -/
def Views (provider : Provider κ) (wanted : κ) : Prop :=
  ∃ view ∈ provider.views, view.target = wanted

/-- What the first view of the value as this type shows. -/
inductive FirstView (provider : Provider κ) (wanted : κ) : Carrier wanted → Prop
  | intro (before after : List (View κ provider.key))
      (apply : Carrier provider.key → Carrier wanted)
      (split : provider.views = before ++ ⟨wanted, apply⟩ :: after)
      (earliest : ∀ view ∈ before, view.target ≠ wanted) :
      FirstView provider wanted (apply provider.value)

theorem view?_eq_none : provider.view? wanted = none ↔ ¬provider.Views wanted := by
  simp only [view?, Views, List.findSome?_eq_none_iff, not_exists, not_and]
  apply forall₂_congr
  intro view _
  by_cases same : view.target = wanted <;> simp [same]

theorem firstView_of_view? {value : Carrier wanted} (found : provider.view? wanted = some value) :
    provider.FirstView wanted value := by
  obtain ⟨before, view, after, split, shown, unseen⟩ := List.findSome?_eq_some_iff.mp found
  have earliest : ∀ other ∈ before, other.target ≠ wanted := by
    intro other member same
    have hidden := unseen other member
    rw [dif_pos same] at hidden
    cases hidden
  by_cases same : view.target = wanted
  · obtain ⟨target, apply⟩ := view
    subst same
    rw [dif_pos rfl, Option.some.injEq] at shown
    subst shown
    exact .intro before after apply split earliest
  · rw [dif_neg same] at shown
    cases shown

theorem isSome_stored? : (provider.stored? wanted).isSome ↔ provider.key = wanted := by
  by_cases same : provider.key = wanted <;> simp [stored?, same]

theorem offers_iff : provider.offers wanted ↔ provider.key = wanted ∨ provider.Views wanted := by
  simp [offers, Views]

end Provider

namespace TypeMap

variable {κ : Type} [Catalog κ] {map : TypeMap κ}

/-- No provider stands behind one that is asked after it. -/
def InOrder (map : TypeMap κ) : Prop :=
  map.providers.Pairwise fun earlier later => (earlier.order later).isLE

/-- No two providers are of one type. -/
def Distinct (map : TypeMap κ) : Prop :=
  map.providers.Pairwise fun earlier later => earlier.key ≠ later.key

/-- A provider is put between those asked before it and those asked after it. -/
theorem InOrder.exists_place (ordered : map.InOrder) (provider : Provider κ) :
    ∃ before after, map.providers = before ++ after ∧
      (map.place provider).providers = before ++ provider :: after ∧
      (∀ earlier ∈ before, (earlier.order provider).isLE) ∧
      ∀ later ∈ after, (provider.order later).isLE := by
  have front : map.providers.Pairwise fun earlier later =>
      (later.order provider).isLT → (earlier.order provider).isLT := by
    apply ordered.imp
    intro earlier later before reached
    rw [Ordering.isLT_iff_eq_lt] at reached ⊢
    exact Std.TransCmp.lt_of_isLE_of_lt before reached
  obtain ⟨before, after, split, ends, asked, unasked⟩ := Routing.partitionPoint_splits front
  refine ⟨before, after, split, ?_, ?_, ?_⟩
  · rw [place, ends, split, List.take_left, List.drop_left]
  · intro earlier member
    rw [Ordering.isLT_iff_eq_lt.mp (asked earlier member)]
    rfl
  · intro later member
    have notBefore := unasked later member
    rw [Ordering.isLT_iff_eq_lt, ← Std.OrientedCmp.gt_iff_lt] at notBefore
    exact Ordering.isLE_iff_ne_gt.mpr notBefore

theorem InOrder.place (ordered : map.InOrder) (provider : Provider κ) :
    (map.place provider).InOrder := by
  obtain ⟨before, after, split, placed, asked, unasked⟩ := ordered.exists_place provider
  rw [InOrder, split] at ordered
  obtain ⟨first, last, across⟩ := List.pairwise_append.mp ordered
  rw [InOrder, placed, List.pairwise_append]
  refine ⟨first, List.pairwise_cons.mpr ⟨unasked, last⟩, ?_⟩
  intro earlier member later member'
  rcases List.mem_cons.mp member' with rfl | behind
  · exact asked earlier member
  · exact across earlier member later behind

theorem InOrder.perm_place (ordered : map.InOrder) (provider : Provider κ) :
    (map.place provider).providers.Perm (provider :: map.providers) := by
  obtain ⟨before, after, split, placed, -, -⟩ := ordered.exists_place provider
  rw [split, placed]
  exact List.perm_middle

variable [DecidableEq κ]

theorem InOrder.remove (ordered : map.InOrder) (key : κ) : (map.remove key).InOrder :=
  ordered.sublist List.eraseP_sublist

theorem InOrder.exchange (ordered : map.InOrder) (provider : Provider κ) :
    (map.exchange provider).2.InOrder := (ordered.remove provider.key).place provider

theorem InOrder.modify (ordered : map.InOrder) (key : κ) (change : Carrier key → Carrier key) :
    (map.modify key change).InOrder := by
  rw [InOrder, TypeMap.modify, List.pairwise_map]
  simp only [Provider.order_modify]
  exact ordered

theorem Distinct.remove (distinct : map.Distinct) (key : κ) : (map.remove key).Distinct :=
  distinct.sublist List.eraseP_sublist

/-- Of providers of distinct types only the one of the type goes. -/
theorem Distinct.mem_remove (distinct : map.Distinct) {key : κ} {provider : Provider κ} :
    provider ∈ (map.remove key).providers ↔ provider ∈ map.providers ∧ provider.key ≠ key := by
  constructor
  · intro member
    refine ⟨List.mem_of_mem_eraseP member, ?_⟩
    rintro rfl
    have present := List.mem_of_mem_eraseP member
    obtain ⟨held, before, after, -, same, split, left⟩ :=
      List.exists_of_eraseP (p := (·.key == provider.key)) present (beq_self_eq_true provider.key)
    rw [Distinct, split, List.pairwise_middle Ne.symm] at distinct
    rw [TypeMap.remove, left] at member
    exact List.rel_of_pairwise_cons distinct member (beq_iff_eq.mp same)
  · rintro ⟨member, other⟩
    exact (List.mem_eraseP_of_neg (by simpa using other)).mpr member

theorem InOrder.perm_exchange (ordered : map.InOrder) (provider : Provider κ) :
    (map.exchange provider).2.providers.Perm
      (provider :: (map.remove provider.key).providers) :=
  (ordered.remove provider.key).perm_place provider

theorem Distinct.exchange (distinct : map.Distinct) (ordered : map.InOrder)
    (provider : Provider κ) : (map.exchange provider).2.Distinct := by
  rw [Distinct, (ordered.perm_exchange provider).pairwise_iff Ne.symm, List.pairwise_cons]
  refine ⟨?_, distinct.remove provider.key⟩
  intro other member
  exact Ne.symm (distinct.mem_remove.mp member).2

/-- A provider takes the place of the one for its type. -/
theorem Distinct.mem_exchange (distinct : map.Distinct) (ordered : map.InOrder)
    {provider other : Provider κ} : other ∈ (map.exchange provider).2.providers ↔
      other = provider ∨ other ∈ map.providers ∧ other.key ≠ provider.key := by
  rw [(ordered.perm_exchange provider).mem_iff, List.mem_cons, distinct.mem_remove]

theorem Distinct.modify (distinct : map.Distinct) (key : κ) (change : Carrier key → Carrier key) :
    (map.modify key change).Distinct := by
  rw [Distinct, TypeMap.modify, List.pairwise_map]
  simp only [Provider.key_modify]
  exact distinct

end TypeMap

end HttpDispatch
