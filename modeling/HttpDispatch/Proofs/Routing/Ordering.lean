import HttpDispatch.Routing.Label

/-!
The order of labels. Two labels are in the same place of it exactly when they fold to the same
thing, so a folded label is what a label is looked up by.
-/

namespace HttpDispatch.Routing.Label

/-- A label without regard to letter case. -/
inductive Folded where
  | literal (text : List Char)
  | wildcard
  deriving DecidableEq

def folded : Label → Folded
  | .literal text => .literal (Text.fold text)
  | .wildcard => .wildcard

theorem order_eq_iff {left right : Label} :
    left.order right = .eq ↔ left.folded = right.folded := by
  cases left <;> cases right <;> simp [order, folded]

theorem folded_ne_of_lt {left right : Label} (less : left.order right = .lt) :
    left.folded ≠ right.folded := by
  intro same
  rw [order_eq_iff.mpr same] at less
  cases less

instance : Std.OrientedCmp order where
  eq_swap {left right} := by
    cases left <;> cases right <;> simp [order]
    exact Std.OrientedOrd.eq_swap

instance : Std.TransCmp order where
  isLE_trans {first second third} low high := by
    cases first <;> cases second <;> cases third <;> simp [order] at low high ⊢
    exact Std.TransOrd.isLE_trans low high

/-- A label behind another one is also behind everything before that. -/
theorem order_gt_of_lt {earlier later wanted : Label} (less : earlier.order later = .lt)
    (reached : earlier.order wanted ≠ .lt) : later.order wanted = .gt := by
  rw [Std.OrientedCmp.gt_iff_lt]
  cases here : earlier.order wanted with
  | lt => exact absurd here reached
  | eq => exact Std.TransCmp.lt_of_eq_of_lt (Std.OrientedCmp.eq_symm here) less
  | gt => exact Std.TransCmp.lt_trans (Std.OrientedCmp.gt_iff_lt.mp here) less

end HttpDispatch.Routing.Label
