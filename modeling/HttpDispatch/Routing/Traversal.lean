import HttpDispatch.Routing.Trie

/-!
Listing a table with a stack of the places still to be visited, each with the text that leads to
it. A place is taken off the stack, listed if it holds a value, and its children are put in its
stead, the first one on top.
-/

namespace HttpDispatch.Routing

variable {α : Type u}

namespace Edges

/-- The number of places below, the children and what is below them. -/
def count : Edges α → Nat
  | nil => 0
  | cons _ _ below rest => 1 + below.count + rest.count

/-- The children of a place, each with the text that leads to it. -/
def visits (mode : Mode) (stem : String) : Edges α → List (String × Node α)
  | nil => []
  | cons label value below rest =>
    (stem ++ "/" ++ label.render mode, ⟨value, below⟩) :: rest.visits mode stem

end Edges

/-- How a pattern is shown. That of the root is empty. -/
def display (text : String) : String := if text.isEmpty then "/" else text

/-- The number of places that are still to be visited. -/
def remaining : List (String × Node α) → Nat
  | [] => 0
  | (_, node) :: stack => 1 + node.below.count + remaining stack

theorem remaining_visits (mode : Mode) (stem : String) (edges : Edges α)
    (stack : List (String × Node α)) :
    remaining (edges.visits mode stem ++ stack) = edges.count + remaining stack := by
  induction edges with
  | nil => simp [Edges.visits, Edges.count]
  | cons label value below rest _ ih =>
    rw [Edges.visits, List.cons_append, remaining, ih, Edges.count]
    simp only [Nat.add_assoc]

/-- Visits the places on a stack, and those below them. -/
def traverse (mode : Mode) : List (String × Node α) → List (String × α)
  | [] => []
  | (text, node) :: stack =>
    (node.value.toList.map fun held => (display text, held)) ++
      traverse mode (node.below.visits mode text ++ stack)
termination_by stack => remaining stack
decreasing_by
  rw [remaining_visits, remaining]
  omega

/-- Every pattern that holds a value, with the value, as they are visited from the root on. -/
def Trie.visited (trie : Trie α) : List (String × α) := traverse trie.mode [("", trie.root)]

end HttpDispatch.Routing
