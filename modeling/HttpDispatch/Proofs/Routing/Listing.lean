import HttpDispatch.Routing.Traversal
import HttpDispatch.Proofs.Routing.Enumeration

/-!
What a listing tells of a table. The places on a stack are visited in the order of their labels,
and a sound tree is known from the values that it lists.
-/

namespace HttpDispatch.Routing

variable {α : Type u}

/-! ### Visiting -/

theorem renderPath_concat (mode : Mode) (stem : List Label) (label : Label) :
    renderPath mode (stem ++ [label]) = renderPath mode stem ++ "/" ++ label.render mode := by
  simp [renderPath, String.join_append, String.append_assoc]

theorem display_renderPath (mode : Mode) (path : List Label) :
    display (renderPath mode path) = renderPattern mode path := by
  cases path with
  | nil => cases mode <;> rfl
  | cons label path =>
    have shown : (renderPath mode (label :: path)).isEmpty = false := by
      simp [renderPath, String.join_cons]
    rw [display, shown, renderPattern]
    rfl

/-- The children of a place are visited as they are listed, before anything else on the stack. -/
theorem Edges.traverse_visits (mode : Mode) (edges : Edges α) (stem : List Label)
    (stack : List (String × Node α)) :
    traverse mode (edges.visits mode (renderPath mode stem) ++ stack) =
      ((edges.entries stem).map fun (path, value) => (renderPattern mode path, value)) ++
        traverse mode stack := by
  induction edges generalizing stem stack with
  | nil => rfl
  | cons label value below rest below_ih rest_ih =>
    rw [visits, List.cons_append, traverse, ← renderPath_concat, below_ih, rest_ih, entries,
      display_renderPath]
    simp only [List.map_append, List.map_map, List.append_assoc]
    rfl

/-- A table is visited in the order of its entries. -/
theorem Trie.visited_eq (trie : Trie α) : trie.visited = trie.entries := by
  have below := trie.root.below.traverse_visits trie.mode [] []
  rw [List.append_nil, traverse, List.append_nil] at below
  rw [visited, traverse, List.append_nil, entries, Node.entries, List.map_append, List.map_map]
  exact congrArg _ below

/-! ### Entries -/

namespace Edges

variable {edges below rest : Edges α} {label next : Label} {path : List Label}
variable {value : Option α} {held : α}

theorem entries_stem (edges : Edges α) (stem : List Label) :
    edges.entries stem = (edges.entries []).map fun entry => (stem ++ entry.1, entry.2) := by
  induction edges generalizing stem with
  | nil => rfl
  | cons label value below rest below_ih rest_ih =>
    rw [entries, entries, below_ih (stem ++ [label]), below_ih ([] ++ [label]), rest_ih stem]
    simp [Function.comp_def]

/-- The entries of a child come before those of the later ones. -/
theorem entries_cons :
    (cons label value below rest).entries [] =
      (Node.entries ⟨value, below⟩).map (fun entry => (label :: entry.1, entry.2)) ++
        rest.entries [] := by
  rw [entries, List.nil_append, entries_stem below, Node.entries, List.map_append, List.map_map]
  rfl

theorem nil_notMem_entries : ([], held) ∉ edges.entries [] := by
  induction edges with
  | nil => simp [entries]
  | cons label value below rest _ ih => simp [entries_cons, ih]

theorem mem_labels_of_mem_entries (member : (label :: path, held) ∈ edges.entries []) :
    label ∈ edges.labels := by
  induction edges with
  | nil => simp [entries] at member
  | cons first value below rest _ ih =>
    rw [entries_cons, List.mem_append] at member
    rcases member with here | later
    · obtain ⟨_, -, same⟩ := List.mem_map.mp here
      cases same
      exact .head _
    · exact .tail _ (ih later)

theorem mem_entries_first (apart : label ∉ rest.labels) :
    (label :: path, held) ∈ (cons label value below rest).entries [] ↔
      (path, held) ∈ Node.entries ⟨value, below⟩ := by
  have later : (label :: path, held) ∉ rest.entries [] := mt mem_labels_of_mem_entries apart
  rw [entries_cons, List.mem_append, or_iff_left later]
  simp

theorem mem_entries_later (other : next ≠ label) :
    (next :: path, held) ∈ (cons label value below rest).entries [] ↔
      (next :: path, held) ∈ rest.entries [] := by
  simp [entries_cons, other.symm]

theorem Sound.notMem_labels (sound : (cons label value below rest).Sound) :
    label ∉ rest.labels :=
  fun member => Label.folded_ne_of_lt (sound.order_lt member) rfl

end Edges

namespace Node

variable {node : Node α} {label : Label} {path : List Label} {held : α}

theorem mem_entries_nil : ([], held) ∈ node.entries ↔ node.value = some held := by
  rw [entries, List.mem_append, or_iff_left Edges.nil_notMem_entries]
  simp

theorem mem_entries_cons :
    (label :: path, held) ∈ node.entries ↔ (label :: path, held) ∈ node.below.entries [] := by
  simp [entries]

end Node

/-! ### Order -/

theorem Node.pairwise_entries_of_below {node : Node α}
    (below : (node.below.entries []).Pairwise fun earlier later =>
      earlier.1.compareLex Label.order later.1 = .lt) :
    node.entries.Pairwise fun earlier later =>
      earlier.1.compareLex Label.order later.1 = .lt := by
  rw [entries, List.pairwise_append]
  refine ⟨?_, below, ?_⟩
  · cases node.value <;> simp
  · rintro ⟨path, _⟩ here ⟨deep, held⟩ inner
    obtain ⟨_, _, whole⟩ := List.mem_map.mp here
    cases whole
    cases deep with
    | nil => exact absurd inner Edges.nil_notMem_entries
    | cons label deep => rfl

/-- The values of a sound tree are listed in the order of their label sequences. -/
theorem Edges.Sound.ordered {edges : Edges α} (sound : edges.Sound) :
    (edges.entries []).Pairwise fun earlier later =>
      earlier.1.compareLex Label.order later.1 = .lt := by
  induction edges with
  | nil => exact .nil
  | cons label value below rest below_ih rest_ih =>
    rw [entries_cons, List.pairwise_append, List.pairwise_map]
    refine ⟨?_, rest_ih sound.later, ?_⟩
    · refine (Node.pairwise_entries_of_below (below_ih sound.inner)).imp ?_
      intro earlier later less
      rwa [List.compareLex_cons_cons, Label.order_eq_iff.mpr rfl]
    · rintro ⟨path, _⟩ early ⟨other, _⟩ late
      obtain ⟨entry, -, whole⟩ := List.mem_map.mp early
      cases whole
      cases other with
      | nil => exact absurd late nil_notMem_entries
      | cons next other =>
        rw [List.compareLex_cons_cons, sound.order_lt (mem_labels_of_mem_entries late)]
        rfl

theorem Node.Sound.ordered {node : Node α} (sound : node.Sound) :
    node.entries.Pairwise fun earlier later =>
      earlier.1.compareLex Label.order later.1 = .lt :=
  pairwise_entries_of_below (Edges.Sound.ordered sound)

/-! ### Trees with the same listing -/

namespace Node

variable {node other : Node α}

theorem value_eq_of_listed
    (same : ∀ path held, (path, held) ∈ node.entries ↔ (path, held) ∈ other.entries) :
    node.value = other.value := by
  ext held
  exact mem_entries_nil.symm.trans ((same [] held).trans mem_entries_nil)

/-- Places that list the same values list the same below. -/
theorem below_listed
    (same : ∀ path held, (path, held) ∈ node.entries ↔ (path, held) ∈ other.entries)
    (path : List Label) (held : α) :
    (path, held) ∈ node.below.entries [] ↔ (path, held) ∈ other.below.entries [] := by
  cases path with
  | nil => exact iff_of_false Edges.nil_notMem_entries Edges.nil_notMem_entries
  | cons label path => exact mem_entries_cons.symm.trans ((same _ held).trans mem_entries_cons)

end Node

namespace Edges

variable {edges other below rest : Edges α} {label next : Label} {value : Option α}

/-- Something is listed at or below every child. -/
theorem Sound.exists_entry (sound : (cons label value below rest).Sound) :
    ∃ path held, (path, held) ∈ Node.entries ⟨value, below⟩ := by
  rcases sound.bears with held | branches
  · obtain ⟨held, there⟩ := Option.isSome_iff_exists.mp held
    exact ⟨[], held, Node.mem_entries_nil.mpr there⟩
  · obtain ⟨next, path, reached⟩ := sound.inner.exists_value branches
    obtain ⟨held, found⟩ := Option.isSome_iff_exists.mp reached
    obtain ⟨spelled, -, listed⟩ := sound.inner.exists_mem_entries found []
    exact ⟨spelled, held, List.mem_append_right _ listed⟩

theorem Sound.head_mem (sound : (cons label value below rest).Sound)
    (listed : ∀ path held, (path, held) ∈ (cons label value below rest).entries [] →
      (path, held) ∈ other.entries []) :
    label ∈ other.labels := by
  obtain ⟨path, held, member⟩ := sound.exists_entry
  have first := (mem_entries_first sound.notMem_labels).mpr member
  exact mem_labels_of_mem_entries (listed _ _ first)

/-- Sound trees that list the same values have the same first label. -/
theorem Sound.head_eq {found : Option α} {inner behind : Edges α}
    (sound : (cons label value below rest).Sound)
    (sound_other : (cons next found inner behind).Sound)
    (same : ∀ path held, (path, held) ∈ (cons label value below rest).entries [] ↔
      (path, held) ∈ (cons next found inner behind).entries []) : label = next := by
  have one := sound.head_mem fun path held => (same path held).mp
  have two := sound_other.head_mem fun path held => (same path held).mpr
  rcases List.mem_cons.mp one with equal | less
  · exact equal
  · rcases List.mem_cons.mp two with equal | more
    · exact equal.symm
    · -- Each would be the smaller one.
      have order := sound.order_lt more
      rw [← Std.OrientedCmp.gt_iff_lt, sound_other.order_lt less] at order
      cases order

/-- Sound trees that list the same values are the same tree. -/
theorem Sound.ext (sound : edges.Sound) (sound_other : other.Sound)
    (same : ∀ path held, (path, held) ∈ edges.entries [] ↔ (path, held) ∈ other.entries []) :
    edges = other := by
  induction edges generalizing other with
  | nil =>
    cases other with
    | nil => rfl
    | cons label value below rest =>
      exact absurd (sound_other.head_mem fun path held => (same path held).mpr) List.not_mem_nil
  | cons label value below rest below_ih rest_ih =>
    cases other with
    | nil => exact absurd (sound.head_mem fun path held => (same path held).mp) List.not_mem_nil
    | cons first held inner later =>
      have heads := sound.head_eq sound_other same
      subst heads
      have children (path : List Label) (listed : α) :
          (path, listed) ∈ Node.entries ⟨value, below⟩ ↔
            (path, listed) ∈ Node.entries ⟨held, inner⟩ := by
        rw [← mem_entries_first sound.notMem_labels, same,
          mem_entries_first sound_other.notMem_labels]
      have values : value = held := Node.value_eq_of_listed children
      have lower : below = inner :=
        below_ih sound.inner sound_other.inner (Node.below_listed children)
      have siblings : rest = later := by
        refine rest_ih sound.later sound_other.later ?_
        intro path listed
        cases path with
        | nil => exact iff_of_false nil_notMem_entries nil_notMem_entries
        | cons next path =>
          by_cases here : next = label
          · subst here
            exact iff_of_false (mt mem_labels_of_mem_entries sound.notMem_labels)
              (mt mem_labels_of_mem_entries sound_other.notMem_labels)
          · rw [← mem_entries_later here, same, mem_entries_later here]
      rw [values, lower, siblings]

end Edges

theorem Node.Sound.ext {node other : Node α} (sound : node.Sound) (sound_other : other.Sound)
    (same : ∀ path held, (path, held) ∈ node.entries ↔ (path, held) ∈ other.entries) :
    node = other := by
  have values := value_eq_of_listed same
  have below : node.below = other.below := Edges.Sound.ext sound sound_other (below_listed same)
  cases node
  cases other
  cases values
  cases below
  rfl

end HttpDispatch.Routing
