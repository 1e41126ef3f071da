/-!
Searching among items in order by halving. `search` finds the one item that stands neither before
nor after what is wanted, or the place where it would stand.
-/

namespace HttpDispatch.Routing

/-- Where a search ends: at the place of an item, or at the place that the wanted one would take. -/
inductive Place where
  | found (index : Nat)
  | missing (index : Nat)
  deriving DecidableEq

variable {α : Type u}

/-- Halves the stretch of `size` items from `base` on until one item is left. `side` tells on which
side of the wanted one an item stands; the upper half is kept unless it starts behind it. -/
def bisect (side : α → Ordering) (items : List α) (base size : Nat) : Nat :=
  if size ≤ 1 then base
  else if items[base + size / 2]?.map side = some .gt then
    bisect side items base (size - size / 2)
  else bisect side items (base + size / 2) (size - size / 2)
termination_by size
decreasing_by all_goals omega

/-- Searches all items. -/
def search (side : α → Ordering) (items : List α) : Place :=
  let last := bisect side items 0 items.length
  match items[last]?.map side with
  | none => .missing 0
  | some .lt => .missing (last + 1)
  | some .eq => .found last
  | some .gt => .missing last

/-- The place where the items that come first end, on items of which these stand at the front. -/
def partitionPoint (first : α → Bool) (items : List α) : Nat :=
  match search (fun item => if first item then .lt else .gt) items with
  | .found place => place
  | .missing place => place

end HttpDispatch.Routing
