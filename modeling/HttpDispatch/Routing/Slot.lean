import HttpDispatch.Routing.Trie

/-!
Parts of a tree that are handed out to be written to. A slot is what a part holds together with
the whole that it becomes when something else is put there, so one walk serves both the reading
and the writing.
-/

namespace HttpDispatch.Routing

/-- A part of a whole: what it holds, and the whole once something else is put there. -/
structure Slot (α : Type u) (β : Type v) where
  held : α
  put : α → β

variable {α : Type u}

namespace Edges

/-- The child under a label equal to this one ignoring case. -/
def slot? (wanted : Label) (edges : Edges α) : Option (Slot (Node α) (Edges α)) :=
  match edges.position wanted with
  | .found index => (edges.child? index).map fun child =>
    ⟨child, fun changed => edges.changeAt (fun _ => changed) index⟩
  | .missing _ => none

/-- The child under a label, put in its place first if there is none. A child that is already
there keeps the spelling of its label. -/
def slotOrNew (wanted : Label) (edges : Edges α) : Slot (Node α) (Edges α) :=
  match edges.position wanted with
  | .found index =>
    ⟨(edges.child? index).getD .empty, fun changed => edges.changeAt (fun _ => changed) index⟩
  | .missing index => ⟨.empty, fun changed => edges.insertAt wanted changed index⟩

end Edges

namespace Node

/-- The place that a sequence of labels leads to. -/
def slot? : List Label → Node α → Option (Slot (Node α) (Node α))
  | [], node => some ⟨node, id⟩
  | label :: path, node =>
    (node.below.slot? label).bind fun child =>
      (child.held.slot? path).map fun last =>
        ⟨last.held, fun changed => { node with below := child.put (last.put changed) }⟩

/-- The same place, which is created with those on the way to it if it is not there. -/
def slotOrNew : List Label → Node α → Slot (Node α) (Node α)
  | [], node => ⟨node, id⟩
  | label :: path, node =>
    let child := node.below.slotOrNew label
    let last := child.held.slotOrNew path
    ⟨last.held, fun changed => { node with below := child.put (last.put changed) }⟩

end Node

namespace Trie

/-- Gives a pattern a value. The answer is the value that it replaces; a pattern that had none is
counted. -/
def replace (trie : Trie α) (pattern : String) (value : α) : Option α × Trie α :=
  let place := trie.root.slotOrNew (labels trie.mode pattern)
  let previous := place.held.value
  (previous,
    { trie with
      root := place.put { place.held with value := some value }
      size := if previous.isNone then trie.size + 1 else trie.size })

/-- The value of a pattern, to be written to. -/
def slot? (trie : Trie α) (pattern : String) : Option (Slot α (Trie α)) :=
  (trie.root.slot? (labels trie.mode pattern)).bind fun place =>
    place.held.value.map fun held =>
      ⟨held, fun written =>
        { trie with root := place.put { place.held with value := some written } }⟩

/-- The value of a pattern, to be written to. A pattern that has none gets one and is counted. -/
def slotOrInsert (trie : Trie α) (pattern : String) (value : α) : Slot α (Trie α) :=
  let place := trie.root.slotOrNew (labels trie.mode pattern)
  ⟨place.held.value.getD value, fun written =>
    { trie with
      root := place.put { place.held with value := some written }
      size := if place.held.value.isNone then trie.size + 1 else trie.size }⟩

end Trie

end HttpDispatch.Routing
