import HttpDispatch.Proofs.Routing.Accessing
import HttpDispatch.Proofs.Routing.Listing

/-!
Rebuilding a table from its listing. The listed patterns spell what they have in common alike, so
that no insertion depends on which of them came before, and what they are read back to is what the
tree was built of.
-/

namespace HttpDispatch.Routing

variable {α : Type u} {mode : Mode}

/-! ### Labels as they are kept -/

namespace Edges

/-- Children under labels that patterns can have, here and below. -/
def Spelled (mode : Mode) : Edges α → Prop
  | nil => True
  | cons label _ below rest => label.Spelled mode ∧ below.Spelled mode ∧ rest.Spelled mode

variable {edges : Edges α} {wanted label : Label} {path : List Label} {held : α}

theorem Spelled.alter (spelled : edges.Spelled mode) (sound : edges.Sound)
    (proper : wanted.Spelled mode) {change : Node α → Node α}
    (keeps : ∀ node, node.Sound → node.below.Spelled mode → (change node).below.Spelled mode) :
    (edges.alter wanted change).Spelled mode := by
  have fresh := keeps .empty Node.sound_empty trivial
  induction edges with
  | nil =>
    rw [alter_nil]
    exact ⟨proper, fresh, trivial⟩
  | cons label value below rest _ ih =>
    rw [alter_cons sound]
    obtain ⟨here, inner, later⟩ := spelled
    split
    · exact ⟨here, inner, ih later sound.later⟩
    · exact ⟨here, keeps _ sound.inner inner, later⟩
    · exact ⟨proper, fresh, here, inner, later⟩

theorem Spelled.of_mem_entries (spelled : edges.Spelled mode)
    (member : (path, held) ∈ edges.entries []) : ∀ label ∈ path, label.Spelled mode := by
  induction edges generalizing path with
  | nil => simp [entries] at member
  | cons label value below rest below_ih rest_ih =>
    obtain ⟨here, inner, later⟩ := spelled
    rw [entries_cons, List.mem_append] at member
    rcases member with first | behind
    · obtain ⟨⟨more, _⟩, listed, same⟩ := List.mem_map.mp first
      cases same
      rw [List.forall_mem_cons]
      refine ⟨here, ?_⟩
      cases more with
      | nil => simp
      | cons next more => exact below_ih inner (Node.mem_entries_cons.mp listed)
    · exact rest_ih later behind

end Edges

theorem Node.spelled_of_mem_entries {node : Node α} {path : List Label} {held : α}
    (spelled : node.below.Spelled mode) (member : (path, held) ∈ node.entries) :
    ∀ label ∈ path, label.Spelled mode := by
  cases path with
  | nil => exact fun _ none => absurd none List.not_mem_nil
  | cons label path => exact spelled.of_mem_entries (mem_entries_cons.mp member)

theorem Node.spelled_update {node : Node α} {path : List Label} (sound : node.Sound)
    (spelled : node.below.Spelled mode) (change : Option α → α)
    (proper : ∀ label ∈ path, label.Spelled mode) :
    (node.update change path).below.Spelled mode := by
  induction path generalizing node with
  | nil => exact spelled
  | cons label path ih =>
    rw [List.forall_mem_cons] at proper
    exact spelled.alter sound proper.1 fun _ inner kept => ih inner kept proper.2

namespace Trie

theorem spelled_update {table : Trie α} (sound : table.root.Sound)
    (spelled : table.root.below.Spelled table.mode) (pattern : String) (change : Option α → α) :
    (table.update pattern change).root.below.Spelled table.mode :=
  Node.spelled_update sound spelled change fun _ member => spelled_of_mem_labels member

theorem spelled_apply {table : Trie α} (sound : table.root.Sound)
    (spelled : table.root.below.Spelled table.mode) (call : Call α) :
    (call.apply table).root.below.Spelled table.mode := by
  cases call with
  | insert pattern value => exact spelled_update sound spelled _ _
  | getOrInsert pattern value write => exact spelled_update sound spelled _ _
  | modify pattern write =>
    rw [Call.apply, modify]
    split
    · exact spelled_update sound spelled _ _
    · exact spelled

/-- Every label of a table is one that patterns have. -/
theorem spelled_after (mode : Mode) (calls : List (Call α)) :
    (Trie.after mode calls).root.below.Spelled mode := by
  have step (table : Trie α) (sound : table.root.Sound)
      (spelled : table.root.below.Spelled table.mode) :
      (calls.foldl Call.apply table).root.below.Spelled table.mode := by
    induction calls generalizing table with
    | nil => exact spelled
    | cons call calls ih =>
      rw [List.foldl_cons, ← mode_apply table call]
      exact ih _ (sound_apply sound call) (mode_apply table call ▸ spelled_apply sound spelled call)
  exact step (.empty mode) Node.sound_empty trivial

end Trie

/-! ### Label sequences side by side -/

/-- Label sequences that spell alike what they have in common. -/
def Agree : List Label → List Label → Prop
  | left :: path, right :: other => left.folded = right.folded → left = right ∧ Agree path other
  | _, _ => True

theorem Agree.symm {path other : List Label} (agree : Agree path other) : Agree other path := by
  induction path generalizing other with
  | nil => cases other <;> trivial
  | cons label path ih =>
    cases other with
    | nil => trivial
    | cons next other =>
      intro same
      obtain ⟨equal, rest⟩ := agree same.symm
      exact ⟨equal.symm, ih rest⟩

/-- Label sequences of different keys that agree. -/
def Coexist (path other : List Label) : Prop :=
  Agree path other ∧ path.map Label.folded ≠ other.map Label.folded

theorem Coexist.symm {path other : List Label} (coexist : Coexist path other) :
    Coexist other path :=
  ⟨coexist.1.symm, coexist.2.symm⟩

theorem Node.agree_of_below {node : Node α} {path other : List Label} {held also : α}
    (below : (path, held) ∈ node.below.entries [] → (other, also) ∈ node.below.entries [] →
      Agree path other)
    (one : (path, held) ∈ node.entries) (two : (other, also) ∈ node.entries) :
    Agree path other := by
  cases path with
  | nil => cases other <;> trivial
  | cons label path =>
    cases other with
    | nil => trivial
    | cons next other => exact below (mem_entries_cons.mp one) (mem_entries_cons.mp two)

namespace Edges

variable {edges : Edges α} {wanted label next : Label} {path other : List Label} {held also : α}

theorem Sound.agree (sound : edges.Sound) (one : (path, held) ∈ edges.entries [])
    (two : (other, also) ∈ edges.entries []) : Agree path other := by
  induction edges generalizing path other with
  | nil => simp [entries] at one
  | cons label value below rest below_ih rest_ih =>
    cases path with
    | nil => cases other <;> trivial
    | cons left path =>
      cases other with
      | nil => trivial
      | cons right other =>
        intro same
        have behind {next : Label} {more : List Label} {held : α}
            (later : (next :: more, held) ∈ rest.entries []) : label.folded ≠ next.folded :=
          Label.folded_ne_of_lt (sound.order_lt (mem_labels_of_mem_entries later))
        by_cases here : left = label <;> by_cases there : right = label
        · subst here there
          rw [mem_entries_first sound.notMem_labels] at one two
          exact ⟨rfl, Node.agree_of_below (below_ih sound.inner) one two⟩
        · subst here
          rw [mem_entries_later there] at two
          exact absurd same (behind two)
        · subst there
          rw [mem_entries_later here] at one
          exact absurd same.symm (behind one)
        · rw [mem_entries_later here] at one
          rw [mem_entries_later there] at two
          exact rest_ih sound.later one two same

theorem Sound.exists_entry_of_mem (sound : edges.Sound) (member : label ∈ edges.labels) :
    ∃ path held, (label :: path, held) ∈ edges.entries [] := by
  induction edges with
  | nil => exact absurd member List.not_mem_nil
  | cons first value below rest _ ih =>
    rcases List.mem_cons.mp member with rfl | later
    · obtain ⟨path, held, listed⟩ := sound.exists_entry
      exact ⟨path, held, (mem_entries_first sound.notMem_labels).mpr listed⟩
    · obtain ⟨path, held, listed⟩ := ih sound.later later
      refine ⟨path, held, ?_⟩
      rw [entries_cons]
      exact List.mem_append_right _ listed

/-- Changing the child under a label that is spelled as it is kept changes the entries that begin
with this label and no others. -/
theorem mem_entries_alter (sound : edges.Sound)
    (kept : ∀ label ∈ edges.labels, label.folded = wanted.folded → label = wanted)
    (change : Node α → Node α) :
    (next :: path, held) ∈ (edges.alter wanted change).entries [] ↔
      if next = wanted then (path, held) ∈ (change ((edges.find? wanted).getD .empty)).entries
      else (next :: path, held) ∈ edges.entries [] := by
  induction edges with
  | nil =>
    rw [alter_nil, find?_nil]
    split
    · rename_i same
      subst same
      exact mem_entries_first List.not_mem_nil
    · rename_i different
      exact mem_entries_later different
  | cons label value below rest _ ih =>
    rw [alter_cons sound, find?_cons sound]
    cases here : label.order wanted with
    | lt =>
      have apart : label ≠ wanted := fun same => Label.folded_ne_of_lt here (same ▸ rfl)
      by_cases first : next = label
      · subst first
        have absent : next ∉ (rest.alter wanted change).labels := by
          intro member
          rcases mem_labels_alter sound.later change member with same | old
          · exact apart same
          · exact sound.notMem_labels old
        rw [if_neg apart, mem_entries_first sound.notMem_labels, mem_entries_first absent]
      · rw [mem_entries_later first, mem_entries_later first]
        exact ih sound.later fun label member => kept label (.tail _ member)
    | eq =>
      have same := kept label (.head _) (Label.order_eq_iff.mp here)
      subst same
      dsimp only
      split
      · rename_i first
        subst first
        exact mem_entries_first sound.notMem_labels
      · rename_i different
        rw [mem_entries_later different, mem_entries_later different]
    | gt =>
      have absent : wanted ∉ (cons label value below rest).labels := by
        intro member
        rcases List.mem_cons.mp member with rfl | later
        · exact Label.folded_ne_of_lt (Std.OrientedCmp.gt_iff_lt.mp here) rfl
        · cases here.symm.trans (sound.order_lt later)
      dsimp only
      split
      · rename_i first
        subst first
        exact mem_entries_first absent
      · rename_i different
        exact mem_entries_later different

/-- The entries that begin with a label that is spelled as it is kept are those of its child. -/
theorem mem_entries_find? (sound : edges.Sound)
    (kept : ∀ label ∈ edges.labels, label.folded = wanted.folded → label = wanted) :
    (wanted :: path, held) ∈ edges.entries [] ↔
      (path, held) ∈ ((edges.find? wanted).getD .empty).entries := by
  cases found : edges.find? wanted with
  | none =>
    refine iff_of_false ?_ (by simp [Node.entries, Node.empty, entries])
    intro member
    obtain ⟨first, -, more, same, reached⟩ := sound.of_mem_entries member
    cases same
    rw [found] at reached
    cases reached
  | some child =>
    have same : (wanted :: path, held) ∈ (edges.alter wanted fun _ => child).entries [] ↔ _ :=
      mem_entries_alter sound kept fun _ => child
    rwa [alter_self found, if_pos rfl] at same

end Edges

namespace Node

variable {node : Node α} {path other : List Label} {value held : α}

/-- A value under a new key that is spelled as what is there is listed with what is there. -/
theorem mem_entries_update (sound : node.Sound) (missing : node.valueAt path = none)
    (agrees : ∀ entry ∈ node.entries, Agree path entry.1) :
    (other, held) ∈ (node.update (fun _ => value) path).entries ↔
      (other, held) = (path, value) ∨ (other, held) ∈ node.entries := by
  induction path generalizing node other with
  | nil =>
    rw [valueAt_nil] at missing
    cases other with
    | nil => simp [update, mem_entries_nil, missing, eq_comm]
    | cons next other => simp [update, mem_entries_cons]
  | cons label path ih =>
    cases other with
    | nil => simp [update, mem_entries_nil]
    | cons next other =>
      have kept : ∀ first ∈ node.below.labels, first.folded = label.folded → first = label := by
        intro first member same
        obtain ⟨more, listed, entry⟩ := Edges.Sound.exists_entry_of_mem sound member
        exact (agrees _ (mem_entries_cons.mpr entry) same.symm).1.symm
      rw [mem_entries_cons, mem_entries_cons, update, Edges.mem_entries_alter sound kept]
      split
      · rename_i same
        subst same
        rw [Edges.mem_entries_find? sound kept, ih]
        · simp
        · cases found : node.below.find? next with
          | none => exact sound_empty
          | some child => exact (Edges.Sound.of_find? sound found).2
        · rw [valueAt_cons] at missing
          cases found : node.below.find? next with
          | none => exact valueAt_empty path
          | some child => rwa [found] at missing
        · intro entry listed
          rw [← Edges.mem_entries_find? sound kept] at listed
          exact (agrees _ (mem_entries_cons.mpr listed) rfl).2
      · rename_i different
        simp [different]

/-- A tree with values added one after the other. -/
def plant (order : List (List Label × α)) (node : Node α) : Node α :=
  order.foldl (fun node entry => node.update (fun _ => entry.2) entry.1) node

/-- Values that can be side by side are all listed once they are added. -/
theorem plant_spec {order : List (List Label × α)} (sound : node.Sound)
    (apart : order.Pairwise fun earlier later => Coexist earlier.1 later.1)
    (fits : ∀ entry ∈ order, ∀ old ∈ node.entries, Coexist entry.1 old.1) :
    (node.plant order).Sound ∧
      ∀ entry, entry ∈ (node.plant order).entries ↔ entry ∈ node.entries ∨ entry ∈ order := by
  induction order generalizing node with
  | nil => exact ⟨sound, fun entry => by simp [plant]⟩
  | cons first order ih =>
    rw [List.pairwise_cons] at apart
    rw [List.forall_mem_cons] at fits
    have missing : node.valueAt first.1 = none := by
      rw [Option.eq_none_iff_forall_ne_some]
      intro held found
      obtain ⟨spelled, same, listed⟩ := sound.exists_mem_entries found
      exact (fits.1 _ listed).2 same.symm
    have listed (entry : List Label × α) :
        entry ∈ (node.update (fun _ => first.2) first.1).entries ↔
          entry = first ∨ entry ∈ node.entries :=
      mem_entries_update sound missing fun old member => (fits.1 old member).1
    obtain ⟨after, all⟩ := ih (sound.update _ _).1 apart.2 (by
      intro entry member old there
      rcases (listed old).mp there with rfl | before
      · exact (apart.1 entry member).symm
      · exact fits.2 entry member old before)
    refine ⟨after, fun entry => (all entry).trans ?_⟩
    rw [listed, List.mem_cons, or_assoc, or_left_comm]

/-- The values that a sound tree lists can be side by side. -/
theorem Sound.coexist (sound : node.Sound) :
    node.entries.Pairwise fun earlier later => Coexist earlier.1 later.1 := by
  have apart := sound.nodup_keys
  rw [keys, List.nodup_iff_pairwise_ne, List.pairwise_map] at apart
  refine apart.imp_of_mem ?_
  rintro ⟨path, held⟩ ⟨other, also⟩ one two different
  exact ⟨agree_of_below (Edges.Sound.agree sound) one two, different⟩

/-- A sound tree is what its entries make, in whatever order they are added. -/
theorem Sound.plant_entries (sound : node.Sound) {order : List (List Label × α)}
    (listed : order.Perm node.entries) : empty.plant order = node := by
  have apart := (listed.pairwise_iff Coexist.symm).mpr sound.coexist
  have none : (empty : Node α).entries = [] := rfl
  obtain ⟨after, all⟩ := plant_spec sound_empty apart (by simp [none])
  refine after.ext sound fun path held => ?_
  rw [all, none, listed.mem_iff]
  simp

end Node

/-! ### Tables -/

namespace Trie

variable {table : Trie α} {map : PatternMap α}

/-- The patterns that a table lists are read back to the labels that are kept. -/
theorem map_labels_visited (spelled : table.root.below.Spelled table.mode) :
    table.visited.map (fun entry => (labels table.mode entry.1, entry.2)) = table.root.entries := by
  rw [visited_eq, entries, List.map_map]
  conv_rhs => rw [← List.map_id table.root.entries]
  apply List.map_congr_left
  rintro ⟨path, held⟩ member
  exact congrArg (·, held) (labels_renderPattern (Node.spelled_of_mem_entries spelled member))

theorem root_inserted (mode : Mode) (order : List (String × α)) :
    (Trie.after mode (order.map fun entry => .insert entry.1 entry.2)).root =
      Node.empty.plant (order.map fun entry => (labels mode entry.1, entry.2)) := by
  have step (table : Trie α) :
      ((order.map fun entry => Call.insert entry.1 entry.2).foldl Call.apply table).root =
        table.root.plant (order.map fun entry => (labels table.mode entry.1, entry.2)) := by
    induction order generalizing table with
    | nil => rfl
    | cons first order ih => exact ih _
  exact step (.empty mode)

/-- A table counts the values that its tree lists. -/
theorem size_eq_length (mode : Mode) (calls : List (Call α)) :
    (Trie.after mode calls).size = (Trie.after mode calls).root.entries.length := by
  rw [size_after, ← (holds_after mode calls).keys_perm.length_eq, Node.keys, List.length_map]

/-- A table that is known from what it lists. -/
structure IsListed (mode : Mode) (table : Trie α) : Prop where
  lists : ∀ pattern value, table.get? pattern = some value ↔
    ∃ entry ∈ table.visited, SamePattern mode entry.1 pattern ∧ entry.2 = value
  once : table.visited.Pairwise fun earlier later => ¬ SamePattern mode earlier.1 later.1
  ordered : table.visited.Pairwise fun earlier later =>
    (labels mode earlier.1).compareLex Label.order (labels mode later.1) = .lt
  counts : table.visited.length = table.size
  reads : ∀ entry ∈ table.visited, table.get? entry.1 = some entry.2
  /-- Inserting what is listed, in any order, makes the same table. -/
  rebuilt : ∀ order : List (String × α), order.Perm table.visited →
    Trie.run mode (order.map fun entry => .insert entry.1 entry.2) = table

theorem isListed (sound : table.root.Sound) (spelled : table.root.below.Spelled table.mode)
    (counted : table.size = table.root.entries.length) : table.IsListed table.mode := by
  have read := map_labels_visited spelled
  have reads (entry : String × α) (member : entry ∈ table.visited) :
      table.get? entry.1 = some entry.2 := by
    apply sound.valueAt_of_mem_entries
    rw [← read]
    exact List.mem_map_of_mem member
  refine ⟨?_, ?_, ?_, ?_, reads, ?_⟩
  · intro pattern value
    constructor
    · intro found
      obtain ⟨spelling, same, member⟩ := sound.exists_mem_entries found
      rw [← read] at member
      obtain ⟨entry, shown, whole⟩ := List.mem_map.mp member
      cases whole
      exact ⟨entry, shown, key_eq_iff.mp same, rfl⟩
    · rintro ⟨entry, member, alike, rfl⟩
      rw [← reads entry member]
      exact (Node.valueAt_congr table.root (key_eq_iff.mpr alike)).symm
  · have apart := sound.coexist
    rw [← read, List.pairwise_map] at apart
    exact apart.imp fun coexist alike => coexist.2 (key_eq_iff.mpr alike)
  · have ordered := sound.ordered
    rwa [← read, List.pairwise_map] at ordered
  · rw [counted, ← read, List.length_map]
  · intro order again
    rw [run_eq_after]
    have root := root_inserted table.mode order
    have mode := mode_after table.mode (order.map fun entry => .insert entry.1 entry.2)
    have size := size_eq_length table.mode (order.map fun entry => .insert entry.1 entry.2)
    rw [sound.plant_entries (read ▸ again.map _)] at root
    rw [root, ← counted] at size
    generalize Trie.after table.mode _ = rebuilt at root mode size
    cases rebuilt
    cases root
    cases mode
    cases size
    rfl

/-- After any calls a table is known from what it lists. -/
theorem isListed_run (mode : Mode) (calls : List (Call α)) :
    (Trie.run mode calls).IsListed mode := by
  have spelled : (Trie.after mode calls).root.below.Spelled (Trie.after mode calls).mode := by
    rw [mode_after]
    exact spelled_after mode calls
  have listed := isListed (holds_after mode calls).sound spelled (size_eq_length mode calls)
  rwa [mode_after, ← run_eq_after] at listed

end Trie

end HttpDispatch.Routing
