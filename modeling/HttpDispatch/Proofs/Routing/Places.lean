import HttpDispatch.Proofs.Routing.Rebuilding

/-!
The places of a table, one by one. At each of them the children stand in strict label order, so
that no two are under labels that are equal but for letter case and a wildcard is the last one;
the searches by halving therefore find what looking at every child would find. No place is there
in vain, and a table counts those that hold a value.
-/

namespace HttpDispatch.Routing

variable {α : Type u} {mode : Mode}

namespace Edges

/-- The children of a place, each with its label. -/
def children : Edges α → List (Label × Node α)
  | nil => []
  | cons label value below rest => (label, ⟨value, below⟩) :: rest.children

/-- Every place below, the children and what is below them. -/
def places : Edges α → List (Node α)
  | nil => []
  | cons _ value below rest => ⟨value, below⟩ :: (below.places ++ rest.places)

end Edges

/-- The place itself and every place below it. -/
def Node.places (node : Node α) : List (Node α) := node :: node.below.places

/-! ### Labels -/

namespace Label

variable {label : Label} {text : String}

theorem folded_eq_wildcard : label.folded = Label.wildcard.folded ↔ label = .wildcard := by
  cases label <;> simp [folded]

/-- Nothing stands behind a wildcard. -/
theorem order_wildcard_ne (label : Label) : Label.wildcard.order label ≠ .lt := by
  cases label <;> simp [order]

theorem Spelled.isSegment (spelled : (Label.literal text).Spelled mode) : IsSegment text := by
  have shown := spelled.of_render.1
  by_cases star : text = "*"
  · subst star
    constructor <;> decide
  · rwa [render, if_neg fun both => star both.2] at shown

/-- A star is an ordinary segment where there are no wildcards. -/
theorem Spelled.ne_wildcard (spelled : label.Spelled .literal) : label ≠ .wildcard := by
  obtain ⟨segment, -, rfl⟩ := spelled
  exact nofun

end Label

/-! ### Searching by halving and one by one -/

namespace Edges

variable {edges : Edges α}

theorem labels_children (edges : Edges α) : edges.children.map (·.1) = edges.labels := by
  induction edges with
  | nil => rfl
  | cons label value below rest _ ih => exact congrArg (label :: ·) ih

theorem Sound.find?_eq (sound : edges.Sound) (wanted : Label) :
    edges.find? wanted =
      (edges.children.find? fun child => child.1.folded = wanted.folded).map (·.2) := by
  induction edges with
  | nil => exact find?_nil wanted
  | cons label value below rest _ ih =>
    rw [find?_cons sound, children, List.find?_cons]
    cases here : label.order wanted with
    | lt => simp [Label.folded_ne_of_lt here, ih sound.later]
    | eq => simp [Label.order_eq_iff.mp here]
    | gt =>
      -- Whatever stands behind a label that is too large is too large itself.
      have apart : label.folded ≠ wanted.folded :=
        (Label.folded_ne_of_lt (Std.OrientedCmp.gt_iff_lt.mp here)).symm
      have none : rest.children.find? (fun child => child.1.folded = wanted.folded) = none := by
        rw [List.find?_eq_none]
        intro child member same
        have later : child.1 ∈ rest.labels := labels_children rest ▸ List.mem_map_of_mem member
        have behind : child.1.order wanted = .gt :=
          Label.order_gt_of_lt (sound.order_lt later) (by simp [here])
        rw [Label.order_eq_iff.mpr (of_decide_eq_true same)] at behind
        cases behind
      simp [apart, none]

theorem Sound.wildcard?_eq_scan (sound : edges.Sound) :
    edges.wildcard? = (edges.children.find? fun child => child.1 = .wildcard).map (·.2) := by
  rw [wildcard?_eq sound, sound.find?_eq]
  simp only [Label.folded_eq_wildcard]

/-! ### What holds at every place -/

/-- What is known of a whole tree is known at every place of it. -/
theorem Sound.at_places (sound : edges.Sound) (spelled : edges.Spelled mode) :
    ∀ node ∈ edges.places, node.Bears ∧ node.Sound ∧ node.below.Spelled mode := by
  induction edges with
  | nil => exact fun _ member => absurd member List.not_mem_nil
  | cons label value below rest below_ih rest_ih =>
    obtain ⟨-, inner, later⟩ := spelled
    intro node member
    rw [places, List.mem_cons, List.mem_append] at member
    rcases member with rfl | deeper | behind
    · exact ⟨sound.bears, sound.inner, inner⟩
    · exact below_ih sound.inner inner node deeper
    · exact rest_ih sound.later later node behind

/-- Where there are children, some value is held below. -/
theorem Sound.exists_held (sound : edges.Sound) (nonempty : edges ≠ nil) :
    ∃ node ∈ edges.places, node.value.isSome := by
  induction edges with
  | nil => exact absurd rfl nonempty
  | cons label value below rest below_ih _ =>
    rcases sound.bears with held | branches
    · exact ⟨_, .head _, held⟩
    · obtain ⟨node, deeper, held⟩ := below_ih sound.inner branches
      exact ⟨node, .tail _ (List.mem_append_left _ deeper), held⟩

/-- The values that are listed are those that the places hold. -/
theorem length_entries (edges : Edges α) :
    (edges.entries []).length = (edges.places.filter (·.value.isSome)).length := by
  induction edges with
  | nil => rfl
  | cons label value below rest below_ih rest_ih =>
    rw [entries_cons, List.length_append, List.length_map, Node.entries, List.length_append,
      below_ih, rest_ih, places, List.filter_cons, List.filter_append]
    cases value <;> simp [Nat.add_assoc, Nat.add_comm 1]

end Edges

/-- A place whose children are in order, each found as looking at all of them would find it. -/
structure Node.Orderly (mode : Mode) (node : Node α) : Prop where
  ordered : node.below.labels.Pairwise fun earlier later => earlier.order later = .lt
  /-- No two labels are equal but for letter case. -/
  apart : node.below.labels.Pairwise fun earlier later => earlier.folded ≠ later.folded
  wildcardLast : ∀ index : Nat, node.below.labels[index]? = some .wildcard →
    index + 1 = node.below.labels.length
  segments : ∀ text : String, Label.literal text ∈ node.below.labels → IsSegment text
  literal : mode = .literal → Label.wildcard ∉ node.below.labels
  finds : ∀ wanted : Label, node.below.find? wanted =
    (node.below.children.find? fun child => child.1.folded = wanted.folded).map (·.2)
  findsLiteral : ∀ segment : String, node.below.literal? segment =
    (node.below.children.find? fun child =>
      child.1.folded = .literal (Text.fold segment)).map (·.2)
  findsWildcard : node.below.wildcard? =
    (node.below.children.find? fun child => child.1 = .wildcard).map (·.2)

namespace Node

variable {node : Node α}

theorem Sound.orderly (sound : node.Sound) (spelled : node.below.Spelled mode) :
    node.Orderly mode := by
  have proper (label : Label) (member : label ∈ node.below.labels) : label.Spelled mode := by
    obtain ⟨path, held, listed⟩ := Edges.Sound.exists_entry_of_mem sound member
    exact spelled.of_mem_entries listed label (.head _)
  have ordered := Edges.Sound.pairwise sound
  constructor
  · exact ordered
  · exact ordered.imp Label.folded_ne_of_lt
  · intro index found
    obtain ⟨inside, here⟩ := List.getElem?_eq_some_iff.mp found
    apply Decidable.byContradiction
    intro more
    have less := List.pairwise_iff_getElem.mp ordered index (index + 1) inside (by omega)
      (Nat.lt_succ_self index)
    rw [here] at less
    exact Label.order_wildcard_ne _ less
  · intro text member
    exact (proper _ member).isSegment
  · rintro rfl member
    exact (proper _ member).ne_wildcard rfl
  · exact Edges.Sound.find?_eq sound
  · intro segment
    exact Edges.Sound.find?_eq sound (.literal segment)
  · exact Edges.Sound.wildcard?_eq_scan sound

/-- A place that bears something holds a value or leads to a place that does. -/
theorem Sound.exists_held (sound : node.Sound) (bears : node.Bears) :
    ∃ place ∈ node.places, place.value.isSome := by
  rcases bears with held | branches
  · exact ⟨node, .head _, held⟩
  · obtain ⟨place, deeper, held⟩ := Edges.Sound.exists_held sound branches
    exact ⟨place, .tail _ deeper, held⟩

theorem length_entries (node : Node α) :
    node.entries.length = (node.places.filter (·.value.isSome)).length := by
  rw [entries, List.length_append, Edges.length_entries, places, List.filter_cons]
  cases node.value <;> simp [Nat.add_comm]

end Node

namespace Trie

/-- A table that is orderly at every place, with no place in vain and every value counted. -/
structure IsOrderly (mode : Mode) (table : Trie α) : Prop where
  orderly : ∀ node ∈ table.root.places, node.Orderly mode
  bears : ∀ node ∈ table.root.below.places, ∃ place ∈ node.places, place.value.isSome
  counts : table.size = (table.root.places.filter (·.value.isSome)).length

/-- After any calls a table is orderly. -/
theorem isOrderly_run (mode : Mode) (calls : List (Call α)) :
    (Trie.run mode calls).IsOrderly mode := by
  rw [run_eq_after]
  have sound := (holds_after mode calls).sound
  have spelled := spelled_after mode calls
  have below := Edges.Sound.at_places sound spelled
  constructor
  · intro node member
    rcases List.mem_cons.mp member with rfl | deeper
    · exact sound.orderly spelled
    · obtain ⟨-, inner, proper⟩ := below node deeper
      exact inner.orderly proper
  · intro node member
    obtain ⟨bears, inner, -⟩ := below node member
    exact inner.exists_held bears
  · rw [size_eq_length, Node.length_entries]

end Trie

end HttpDispatch.Routing
