import HttpDispatch.Routing.Trie
import HttpDispatch.Proofs.Routing.Tree
import Mathlib.Data.List.AList

/-!
A table of patterns as a finite map. The keys of the map are label sequences without regard to
letter case; whatever calls were made, the tree of the table holds at every label sequence what
the map holds under its key.
-/

namespace HttpDispatch.Routing

variable {α : Type u}

/-- What patterns are told apart by: their labels without regard to letter case. -/
def key (mode : Mode) (pattern : String) : List Label.Folded :=
  (labels mode pattern).map Label.folded

/-- The values of patterns by key. -/
abbrev PatternMap (α : Type u) := AList fun _ : List Label.Folded => α

/-- The calls that give a pattern a value or change the one it has. -/
inductive Call (α : Type u) where
  | insert (pattern : String) (value : α)
  /-- Takes the value of a pattern, giving it one first if it has none, and writes to it. -/
  | getOrInsert (pattern : String) (value : α) (write : α → α)
  /-- Writes to the value of a pattern that has one. -/
  | modify (pattern : String) (write : α → α)

namespace Call

def pattern : Call α → String
  | insert pattern _ | getOrInsert pattern _ _ | modify pattern _ => pattern

/-- The key of the pattern that a call is about. -/
def key (mode : Mode) (call : Call α) : List Label.Folded := Routing.key mode call.pattern

/-- The value after a call from the one before it. -/
def effect : Call α → Option α → Option α
  | insert _ value, _ => some value
  | getOrInsert _ value write, held => some (write (held.getD value))
  | modify _ write, held => held.map write

def apply (trie : Trie α) : Call α → Trie α
  | insert pattern value => trie.insert pattern value
  | getOrInsert pattern value write => trie.update pattern fun held => write (held.getD value)
  | modify pattern write => trie.modify pattern write

def record (mode : Mode) (map : PatternMap α) (call : Call α) : PatternMap α :=
  match call.effect (map.lookup (call.key mode)) with
  | some value => map.insert (call.key mode) value
  | none => map

theorem lookup_record (mode : Mode) (map : PatternMap α) (call : Call α)
    (wanted : List Label.Folded) :
    (call.record mode map).lookup wanted =
      if call.key mode = wanted then call.effect (map.lookup wanted) else map.lookup wanted := by
  unfold record
  by_cases same : call.key mode = wanted
  · subst same
    rw [if_pos rfl]
    cases after : call.effect (map.lookup (call.key mode)) with
    | some value => exact AList.lookup_insert map
    | none =>
      -- Only a change of a value that is not there comes to none.
      cases call with
      | insert pattern value => cases after
      | getOrInsert pattern value write => cases after
      | modify pattern write => simpa [effect] using after
  · rw [if_neg same]
    split
    · exact AList.lookup_insert_ne (Ne.symm same)
    · rfl

end Call

def Trie.after (mode : Mode) (calls : List (Call α)) : Trie α :=
  calls.foldl Call.apply (.empty mode)

def PatternMap.after (mode : Mode) (calls : List (Call α)) : PatternMap α :=
  calls.foldl (Call.record mode) ∅

/-- What a map holds under a key comes from the calls about that key, in their order. -/
theorem PatternMap.lookup_after (mode : Mode) (calls : List (Call α))
    (wanted : List Label.Folded) :
    (PatternMap.after mode calls).lookup wanted =
      ((calls.filter (·.key mode = wanted)).map Call.effect).foldl (fun held effect => effect held)
        none := by
  have step (map : PatternMap α) : (calls.foldl (Call.record mode) map).lookup wanted =
      ((calls.filter (·.key mode = wanted)).map Call.effect).foldl (fun held effect => effect held)
        (map.lookup wanted) := by
    induction calls generalizing map with
    | nil => rfl
    | cons call calls ih =>
      rw [List.foldl_cons, ih, Call.lookup_record]
      by_cases same : call.key mode = wanted <;> simp [same]
  exact step ∅

namespace Trie

/-- A table with a sound tree in which every label sequence has the value of its key, and no key
of which is out of reach of labels. -/
structure Holds (trie : Trie α) (map : PatternMap α) : Prop where
  sound : trie.root.Sound
  values : ∀ path, trie.root.valueAt path = map.lookup (path.map Label.folded)
  reached : ∀ key ∈ map, ∃ path : List Label, path.map Label.folded = key

variable {trie : Trie α} {map : PatternMap α}

theorem holds_empty (mode : Mode) : (Trie.empty mode : Trie α).Holds ∅ where
  sound := Node.sound_empty
  values path := Node.valueAt_empty path
  reached key member := absurd member (AList.notMem_empty key)

theorem mode_apply (trie : Trie α) (call : Call α) : (call.apply trie).mode = trie.mode := by
  cases call with
  | insert pattern value => rfl
  | getOrInsert pattern value write => rfl
  | modify pattern write =>
    rw [Call.apply, modify]
    split <;> rfl

theorem mode_after (mode : Mode) (calls : List (Call α)) : (Trie.after mode calls).mode = mode := by
  have step (trie : Trie α) : (calls.foldl Call.apply trie).mode = trie.mode := by
    induction calls generalizing trie with
    | nil => rfl
    | cons call calls ih => rw [List.foldl_cons, ih, mode_apply]
  exact step _

theorem sound_apply (sound : trie.root.Sound) (call : Call α) : (call.apply trie).root.Sound := by
  cases call with
  | insert pattern value => exact (sound.update _ _).1
  | getOrInsert pattern value write => exact (sound.update _ _).1
  | modify pattern write =>
    rw [Call.apply, modify]
    split
    · exact (sound.update _ _).1
    · exact sound

theorem valueAt_update (sound : trie.root.Sound) (pattern : String) (change : Option α → α)
    (path : List Label) :
    (trie.update pattern change).root.valueAt path =
      if key trie.mode pattern = path.map Label.folded then
        some (change (trie.root.valueAt path))
      else trie.root.valueAt path := by
  rw [update, Node.valueAt_update sound, key]
  split
  · rename_i same
    rw [Node.valueAt_congr _ same]
  · rfl

theorem valueAt_modify (sound : trie.root.Sound) (pattern : String) (write : α → α)
    (path : List Label) :
    (trie.modify pattern write).root.valueAt path =
      if key trie.mode pattern = path.map Label.folded then
        (trie.root.valueAt path).map write
      else trie.root.valueAt path := by
  have here (same : key trie.mode pattern = path.map Label.folded) :
      trie.get? pattern = trie.root.valueAt path := Node.valueAt_congr trie.root same
  rw [modify]
  split
  · rename_i held found
    rw [insert, valueAt_update sound]
    split
    · rename_i same
      rw [← here same, found, Option.map_some]
    · rfl
  · rename_i missing
    split
    · rename_i same
      rw [← here same, missing, Option.map_none]
    · rfl

/-- A call has its effect on the value of its pattern and on no other. -/
theorem valueAt_apply (sound : trie.root.Sound) (call : Call α) (path : List Label) :
    (call.apply trie).root.valueAt path =
      if call.key trie.mode = path.map Label.folded then call.effect (trie.root.valueAt path)
      else trie.root.valueAt path := by
  cases call with
  | insert pattern value => exact valueAt_update sound pattern _ path
  | getOrInsert pattern value write => exact valueAt_update sound pattern _ path
  | modify pattern write => exact valueAt_modify sound pattern write path

/-- A call to a table and to its map leaves the table with that map. -/
theorem Holds.apply (holds : trie.Holds map) (call : Call α) :
    (call.apply trie).Holds (call.record trie.mode map) where
  sound := sound_apply holds.sound call
  values path := by
    rw [valueAt_apply holds.sound, Call.lookup_record, holds.values]
  reached wanted member := by
    by_cases same : call.key trie.mode = wanted
    · exact ⟨labels trie.mode call.pattern, same⟩
    · apply holds.reached
      rw [← AList.lookup_isSome] at member ⊢
      rwa [Call.lookup_record, if_neg same] at member

/-- After any calls a table holds what the map holds after the same calls. -/
theorem holds_after (mode : Mode) (calls : List (Call α)) :
    (Trie.after mode calls).Holds (PatternMap.after mode calls) := by
  have step (trie : Trie α) (map : PatternMap α) (holds : trie.Holds map) :
      (calls.foldl Call.apply trie).Holds (calls.foldl (Call.record trie.mode) map) := by
    induction calls generalizing trie map with
    | nil => exact holds
    | cons call calls ih =>
      rw [List.foldl_cons, List.foldl_cons, ← mode_apply trie call]
      exact ih _ _ (mode_apply trie call ▸ holds.apply call)
  exact step _ _ (holds_empty mode)

end Trie

end HttpDispatch.Routing
