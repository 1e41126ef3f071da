import HttpDispatch.Routing.Slot
import HttpDispatch.Proofs.Routing.PatternMap

/-!
Writing through slots. A slot holds what reading finds, and what is put into it ends up where
setting the value would put it; so the calls that hand out slots leave a table as the calls that
set values do.
-/

namespace HttpDispatch.Routing

variable {α : Type u}

namespace Edges

variable {edges : Edges α} {index : Nat} {child : Node α}

theorem changeAt_congr {first second : Node α → Node α}
    (same : ∀ child, edges.child? index = some child → first child = second child) :
    edges.changeAt first index = edges.changeAt second index := by
  induction edges generalizing index with
  | nil => cases index <;> rfl
  | cons label value below rest _ ih =>
    cases index with
    | zero => rw [changeAt, changeAt, same _ rfl]
    | succ index =>
      rw [changeAt, changeAt]
      exact congrArg (cons label value below) (ih same)

theorem slot?_eq (wanted : Label) (edges : Edges α) :
    edges.slot? wanted =
      (edges.find? wanted).map fun child =>
        ⟨child, fun changed => edges.alter wanted fun _ => changed⟩ := by
  unfold slot? find? alter
  cases edges.position wanted <;> rfl

theorem held_slotOrNew (wanted : Label) (edges : Edges α) :
    (edges.slotOrNew wanted).held = (edges.find? wanted).getD .empty := by
  unfold slotOrNew find?
  cases edges.position wanted <;> rfl

theorem put_slotOrNew (wanted : Label) (change : Node α → Node α) (edges : Edges α) :
    (edges.slotOrNew wanted).put (change (edges.slotOrNew wanted).held) =
      edges.alter wanted change := by
  unfold slotOrNew alter
  cases edges.position wanted with
  | missing index => rfl
  | found index =>
    apply changeAt_congr
    intro child there
    exact congrArg (fun held => change (held.getD .empty)) there

theorem alter_congr (edges : Edges α) {wanted : Label} {first second : Node α → Node α}
    (found : edges.find? wanted = some child) (same : first child = second child) :
    edges.alter wanted first = edges.alter wanted second := by
  unfold find? at found
  unfold alter
  cases here : edges.position wanted with
  | missing index => simp [here] at found
  | found index =>
    simp only [here] at found
    apply changeAt_congr
    intro other there
    cases Option.some.inj (found.symm.trans there)
    exact same

end Edges

namespace Node

variable {node : Node α} {path : List Label}

theorem at?_empty (path : List Label) : (((empty : Node α).at? path).getD .empty) = .empty := by
  cases path with
  | nil => rfl
  | cons label path =>
    have none : (empty : Node α).below.find? label = none := Edges.find?_nil label
    rw [at?, none, Option.bind_none, Option.getD_none]

theorem held_slotOrNew (path : List Label) (node : Node α) :
    (node.slotOrNew path).held = (node.at? path).getD .empty := by
  induction path generalizing node with
  | nil => rfl
  | cons label path ih =>
    rw [slotOrNew, at?, ih, Edges.held_slotOrNew]
    cases node.below.find? label with
    | none => exact at?_empty path
    | some child => rfl

/-- What a place that is created where it is not there holds is what can be found there. -/
theorem value_slotOrNew (path : List Label) (node : Node α) :
    (node.slotOrNew path).held.value = node.valueAt path := by
  rw [held_slotOrNew, valueAt]
  cases node.at? path <;> rfl

theorem put_slotOrNew (change : Option α → α) (path : List Label) (node : Node α) :
    (node.slotOrNew path).put
        { (node.slotOrNew path).held with
          value := some (change (node.slotOrNew path).held.value) } =
      node.update change path := by
  induction path generalizing node with
  | nil => rfl
  | cons label path ih =>
    rw [update, ← Edges.put_slotOrNew, ← ih]
    rfl

theorem map_held_slot? (path : List Label) (node : Node α) :
    (node.slot? path).map Slot.held = node.at? path := by
  induction path generalizing node with
  | nil => rfl
  | cons label path ih =>
    rw [slot?, at?, Edges.slot?_eq]
    cases node.below.find? label with
    | none => rfl
    | some child =>
      rw [Option.map_some, Option.bind_some, Option.bind_some, Option.map_map, ← ih]
      rfl

theorem put_slot? {slot : Slot (Node α) (Node α)} (there : node.slot? path = some slot)
    (written : α) :
    slot.put { slot.held with value := some written } = node.update (fun _ => written) path := by
  induction path generalizing node slot with
  | nil =>
    cases there
    rfl
  | cons label path ih =>
    rw [slot?, Edges.slot?_eq] at there
    obtain ⟨first, found, later⟩ := Option.bind_eq_some_iff.mp there
    obtain ⟨child, reached, rfl⟩ := Option.map_eq_some_iff.mp found
    obtain ⟨last, below, rfl⟩ := Option.map_eq_some_iff.mp later
    rw [update]
    exact congrArg _ (Edges.alter_congr _ reached (ih below))

end Node

namespace Trie

variable (trie : Trie α) (pattern : String)

theorem replace_eq (value : α) :
    trie.replace pattern value = (trie.get? pattern, trie.insert pattern value) := by
  have same : (trie.root.slotOrNew (labels trie.mode pattern)).held.value = trie.get? pattern :=
    Node.value_slotOrNew _ _
  rw [replace, insert, update, ← Node.put_slotOrNew, same]

theorem held_slotOrInsert (value : α) :
    (trie.slotOrInsert pattern value).held = (trie.get? pattern).getD value :=
  congrArg (·.getD value) (Node.value_slotOrNew _ _)

theorem put_slotOrInsert (value written : α) :
    (trie.slotOrInsert pattern value).put written = trie.insert pattern written := by
  have same : (trie.root.slotOrNew (labels trie.mode pattern)).held.value = trie.get? pattern :=
    Node.value_slotOrNew _ _
  rw [slotOrInsert, insert, update, ← Node.put_slotOrNew, same]

theorem slot?_eq :
    trie.slot? pattern =
      (trie.get? pattern).map fun held => ⟨held, fun written => trie.insert pattern written⟩ := by
  unfold slot? get? node?
  rw [← Node.map_held_slot?]
  cases there : trie.root.slot? (labels trie.mode pattern) with
  | none => rfl
  | some place =>
    rw [Option.bind_some, Option.map_some, Option.bind_some]
    cases held : place.held.value with
    | none => rfl
    | some value =>
      have counted : trie.get? pattern = some value := by
        rw [get?, node?, ← Node.map_held_slot?, there]
        exact held
      simp only [Option.map_some, insert, update, counted, ← Node.put_slot? there]
      rfl

end Trie

end HttpDispatch.Routing
