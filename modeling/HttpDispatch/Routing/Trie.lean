import HttpDispatch.Routing.Node

/-!
A table from patterns to values, searched by path. Patterns that differ only in letter case or in
empty segments are one pattern; the first spelling stays the listed one.
-/

namespace HttpDispatch.Routing

/-- A table of patterns. `size` counts the patterns that hold a value. -/
structure Trie (α : Type u) where
  root : Node α
  mode : Mode
  size : Nat

/-- What a path leads to: the value, and the segments that met a wildcard. -/
structure Resolution (α : Type u) where
  value : α
  captured : List String

namespace Trie

def empty (mode : Mode) : Trie α := ⟨.empty, mode, 0⟩

def isEmpty (trie : Trie α) : Bool := trie.size == 0

def node? (trie : Trie α) (pattern : String) : Option (Node α) :=
  trie.root.at? (labels trie.mode pattern)

/-- The value of a pattern, wildcards matching only themselves. -/
def get? (trie : Trie α) (pattern : String) : Option α :=
  (trie.node? pattern).bind Node.value

/-- Sets the value of a pattern from the one it has. -/
def update (trie : Trie α) (pattern : String) (change : Option α → α) : Trie α where
  root := trie.root.update change (labels trie.mode pattern)
  mode := trie.mode
  size := if (trie.get? pattern).isNone then trie.size + 1 else trie.size

/-- Gives a pattern a value, replacing the one it has. -/
def insert (trie : Trie α) (pattern : String) (value : α) : Trie α :=
  trie.update pattern fun _ => value

/-- Gives a pattern a value unless it has one. -/
def insertIfNew (trie : Trie α) (pattern : String) (value : α) : Trie α :=
  trie.update pattern (·.getD value)

def modify (trie : Trie α) (pattern : String) (change : α → α) : Trie α :=
  match trie.get? pattern with
  | some held => trie.insert pattern (change held)
  | none => trie

def resolve (trie : Trie α) (path : String) : Option (Resolution α) :=
  match trie.root.walk (segments path) with
  | some (node, captured) => node.value.map (⟨·, captured⟩)
  | none => none

/-- Every pattern that holds a value, with the value, in label order. -/
def entries (trie : Trie α) : List (String × α) :=
  trie.root.entries.map fun (path, value) => (renderPattern trie.mode path, value)

def keys (trie : Trie α) : List String := trie.entries.map (·.1)

/-- The patterns one segment longer than this one that lead towards a value. The given pattern
is written as given, the added segment as stored. -/
def childKeys (trie : Trie α) (pattern : String) : List String :=
  match trie.node? pattern with
  | none => []
  | some node =>
    node.below.labels.map fun label =>
      renderPath trie.mode (labels trie.mode pattern ++ [label])

end Trie

end HttpDispatch.Routing
