import HttpDispatch.Routing.Label
import HttpDispatch.Routing.Search

/-!
The tree behind a table of patterns. The children of a node are kept in label order and searched
by halving, and a wildcard can only be the last child.
-/

namespace HttpDispatch.Routing

/-- The children of a node, each with its label, its value, its own children and its later
siblings. -/
inductive Edges (α : Type u) where
  | nil
  | cons (label : Label) (value : Option α) (below : Edges α) (rest : Edges α)

/-- A place in the tree: the value held there, if any, and the children. -/
structure Node (α : Type u) where
  value : Option α
  below : Edges α

namespace Node

def empty : Node α := ⟨none, .nil⟩

end Node

namespace Edges

def labels : Edges α → List Label
  | nil => []
  | cons label _ _ rest => label :: rest.labels

def position (wanted : Label) (edges : Edges α) : Place :=
  search (·.order wanted) edges.labels

def child? : Nat → Edges α → Option (Node α)
  | _, nil => none
  | 0, cons _ value below _ => some ⟨value, below⟩
  | index + 1, cons _ _ _ rest => rest.child? index

/-- The child under a label equal to this one ignoring case. -/
def find? (wanted : Label) (edges : Edges α) : Option (Node α) :=
  match edges.position wanted with
  | .found index => edges.child? index
  | .missing _ => none

/-- The child that a segment of a path names. -/
def literal? (segment : String) (edges : Edges α) : Option (Node α) :=
  edges.find? (.literal segment)

/-- The child that stands for any segment, which is the last one if there is one. -/
def wildcard? : Edges α → Option (Node α)
  | nil => none
  | cons label value below nil => if label = .wildcard then some ⟨value, below⟩ else none
  | cons _ _ _ rest => rest.wildcard?

/-- Changes the child at a place. -/
def changeAt (change : Node α → Node α) : Nat → Edges α → Edges α
  | _, nil => nil
  | 0, cons label value below rest =>
    cons label (change ⟨value, below⟩).value (change ⟨value, below⟩).below rest
  | index + 1, cons label value below rest => cons label value below (rest.changeAt change index)

/-- Puts a child at a place, before the one that was there. -/
def insertAt (label : Label) (node : Node α) : Nat → Edges α → Edges α
  | 0, edges => cons label node.value node.below edges
  | _ + 1, nil => cons label node.value node.below nil
  | index + 1, cons first value below rest =>
    cons first value below (rest.insertAt label node index)

/-- Changes the child under a label, creating it in its place first if there is none. A child
that is already there keeps the spelling of its label. -/
def alter (wanted : Label) (change : Node α → Node α) (edges : Edges α) : Edges α :=
  match edges.position wanted with
  | .found index => edges.changeAt change index
  | .missing index => edges.insertAt wanted (change .empty) index

/-- Every value below, each with the labels that lead to it, a node before its children. -/
def entries (path : List Label) : Edges α → List (List Label × α)
  | nil => []
  | cons label value below rest =>
    (value.toList.map fun held => (path ++ [label], held)) ++
      below.entries (path ++ [label]) ++ rest.entries path

end Edges

namespace Node

/-- The place that a sequence of labels leads to. -/
def at? : List Label → Node α → Option (Node α)
  | [], node => some node
  | label :: path, node => (node.below.find? label).bind (at? path)

/-- Sets the value at a sequence of labels from the one held there, creating the places on the
way. -/
def update (change : Option α → α) : List Label → Node α → Node α
  | [], node => { node with value := some (change node.value) }
  | label :: path, node => { node with below := node.below.alter label (update change path) }

/-- Follows the segments of a path, preferring a named child to the wildcard at every step and
never taking a step back. The segments that met a wildcard are captured as they were written. -/
def walk : List String → Node α → Option (Node α × List String)
  | [], node => some (node, [])
  | segment :: path, node =>
    match node.below.literal? segment with
    | some child => child.walk path
    | none =>
      match node.below.wildcard? with
      | some child => (child.walk path).map fun (last, captured) => (last, segment :: captured)
      | none => none

/-- Every value in the tree with the labels that lead to it, in label order. -/
def entries (node : Node α) : List (List Label × α) :=
  (node.value.toList.map fun held => ([], held)) ++ node.below.entries []

end Node

end HttpDispatch.Routing
