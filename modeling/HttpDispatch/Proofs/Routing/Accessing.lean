import HttpDispatch.Proofs.Routing.Enumeration
import HttpDispatch.Proofs.Routing.Slots
import HttpDispatch.Proofs.Routing.Spelling

/-!
A table accessed by pattern is a finite map. Every call reads and writes what the map has under
the key of its pattern, so it is seen under the patterns with the same segments and no others.
-/

namespace HttpDispatch.Routing

variable {α : Type u}

namespace Edges

variable {edges : Edges α} {child : Node α}

theorem changeAt_self {index : Nat} (there : edges.child? index = some child) :
    edges.changeAt (fun _ => child) index = edges := by
  induction edges generalizing index with
  | nil => cases index <;> rfl
  | cons label value below rest _ ih =>
    cases index with
    | zero =>
      cases there
      rfl
    | succ index => exact congrArg (cons label value below) (ih there)

theorem alter_self {wanted : Label} (found : edges.find? wanted = some child) :
    edges.alter wanted (fun _ => child) = edges := by
  unfold find? at found
  unfold alter
  cases here : edges.position wanted with
  | missing index => simp [here] at found
  | found index =>
    rw [here] at found
    exact changeAt_self found

end Edges

/-- Giving a place the value that it holds changes nothing. -/
theorem Node.update_self {node : Node α} {path : List Label} {value : α}
    (held : node.valueAt path = some value) : node.update (fun _ => value) path = node := by
  induction path generalizing node with
  | nil =>
    rw [valueAt_nil] at held
    rw [update, ← held]
  | cons label path ih =>
    rw [valueAt_cons] at held
    obtain ⟨child, found, inner⟩ := Option.bind_eq_some_iff.mp held
    have same : node.below.alter label (update (fun _ => value) path) =
        node.below.alter label fun _ => child := Edges.alter_congr _ found (ih inner)
    rw [update, same, Edges.alter_self found]

/-- Setting a value from the one that is held is giving a value. -/
theorem Trie.update_eq_insert (table : Trie α) (pattern : String) (change : Option α → α) :
    table.update pattern change = table.insert pattern (change (table.get? pattern)) := by
  rw [insert, update, update, ← Node.put_slotOrNew, ← Node.put_slotOrNew, Node.value_slotOrNew]
  rfl

namespace Call

/-- A call as it is made: the slot that it is given, if any, is read and written to once. -/
def perform (table : Trie α) : Call α → Trie α
  | insert pattern value => (table.replace pattern value).2
  | getOrInsert pattern value write =>
    let slot := table.slotOrInsert pattern value
    slot.put (write slot.held)
  | modify pattern write =>
    match table.slot? pattern with
    | some slot => slot.put (write slot.held)
    | none => table

theorem perform_eq_apply (table : Trie α) (call : Call α) :
    call.perform table = call.apply table := by
  cases call with
  | insert pattern value => exact congrArg Prod.snd (Trie.replace_eq table pattern value)
  | getOrInsert pattern value write =>
    rw [perform, apply, Trie.put_slotOrInsert, Trie.held_slotOrInsert, Trie.update_eq_insert]
  | modify pattern write =>
    rw [perform, apply, Trie.modify, Trie.slot?_eq]
    cases table.get? pattern <;> rfl

end Call

namespace Trie

variable {table : Trie α} {map : PatternMap α} {mode : Mode}

/-- A table after calls, each made as it is. -/
def run (mode : Mode) (calls : List (Call α)) : Trie α := calls.foldl Call.perform (.empty mode)

theorem run_eq_after (mode : Mode) (calls : List (Call α)) :
    Trie.run mode calls = Trie.after mode calls := by
  have same : (Call.perform : Trie α → Call α → Trie α) = Call.apply := by
    funext table call
    exact call.perform_eq_apply table
  rw [run, after, same]

/-- Giving a pattern the value that it has changes nothing. -/
theorem insert_self {pattern : String} {value : α} (held : table.get? pattern = some value) :
    table.insert pattern value = table := by
  rw [insert, update, Node.update_self held, held]
  rfl

theorem get?_insert (sound : table.root.Sound) (pattern other : String) (value : α) :
    (table.insert pattern value).get? other =
      if SamePattern table.mode pattern other then some value else table.get? other := by
  simp only [← key_eq_iff]
  exact valueAt_update sound pattern _ (labels table.mode other)

theorem size_insert {pattern : String} {held : α} (there : table.get? pattern = some held)
    (value : α) : (table.insert pattern value).size = table.size := by
  rw [insert, update, there]
  rfl

/-- A table of patterns that is a map from keys to values, whichever way it is accessed. -/
structure IsMap (mode : Mode) (table : Trie α) (map : PatternMap α) : Prop where
  reads : ∀ pattern, table.get? pattern = map.lookup (key mode pattern)
  counts : table.size = map.keys.length ∧ (table.isEmpty ↔ map.keys.length = 0)
  /-- The replaced value is handed back, and the new one is read under the same patterns only. -/
  replaces : ∀ pattern value,
    (table.replace pattern value).1 = table.get? pattern ∧
      ∀ other, (table.replace pattern value).2.get? other =
        if SamePattern mode pattern other then some value else table.get? other
  /-- A value that is there is kept. -/
  keeps : ∀ pattern held, table.get? pattern = some held → ∀ value,
    (table.slotOrInsert pattern value).held = held ∧
      (table.slotOrInsert pattern value).put held = table
  /-- Where there is none, a value is given and written as if it replaced one. -/
  gives : ∀ pattern, table.get? pattern = none → ∀ value,
    (table.slotOrInsert pattern value).held = value ∧
      ∀ written, (table.slotOrInsert pattern value).put written =
        (table.replace pattern written).2
  writesNew : ∀ pattern value written other,
    ((table.slotOrInsert pattern value).put written).get? other =
      if SamePattern mode pattern other then some written else table.get? other
  /-- What can be read can be written to. -/
  offers : ∀ pattern, (table.slot? pattern).map Slot.held = table.get? pattern
  /-- A slot left as it is changes nothing; writing to it makes no new pattern. -/
  writes : ∀ pattern slot, table.slot? pattern = some slot →
    slot.put slot.held = table ∧ ∀ written, (slot.put written).size = table.size ∧
      ∀ other, (slot.put written).get? other =
        if SamePattern mode pattern other then some written else table.get? other

theorem Holds.isMap (holds : table.Holds map) (counted : table.size = map.keys.length) :
    table.IsMap table.mode map where
  reads := holds.get?_eq
  counts := by
    refine ⟨counted, ?_⟩
    rw [isEmpty, beq_iff_eq, counted]
  replaces pattern value := by
    rw [replace_eq]
    exact ⟨rfl, fun other => get?_insert holds.sound pattern other value⟩
  keeps pattern held there value := by
    rw [held_slotOrInsert, put_slotOrInsert, there, insert_self there]
    exact ⟨rfl, rfl⟩
  gives pattern missing value := by
    rw [held_slotOrInsert, missing]
    refine ⟨rfl, fun written => ?_⟩
    rw [put_slotOrInsert, replace_eq]
  writesNew pattern value written other := by
    rw [put_slotOrInsert]
    exact get?_insert holds.sound pattern other written
  offers pattern := by
    rw [slot?_eq, Option.map_map]
    exact congrFun Option.map_id _
  writes pattern slot there := by
    rw [slot?_eq] at there
    obtain ⟨held, found, rfl⟩ := Option.map_eq_some_iff.mp there
    refine ⟨insert_self found, fun written => ⟨size_insert found written, fun other => ?_⟩⟩
    exact get?_insert holds.sound pattern other written

/-- After any calls a table is the map that the same calls make. -/
theorem isMap_run (mode : Mode) (calls : List (Call α)) :
    (Trie.run mode calls).IsMap mode (PatternMap.after mode calls) := by
  have result := (holds_after mode calls).isMap (size_after mode calls)
  rwa [mode_after, ← run_eq_after] at result

end Trie

end HttpDispatch.Routing
