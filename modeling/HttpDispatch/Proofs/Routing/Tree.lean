import HttpDispatch.Routing.Node
import HttpDispatch.Proofs.Routing.Bisection
import HttpDispatch.Proofs.Routing.Ordering

/-!
What the tree of patterns holds. `Sound` is what every change keeps: children in strict label
order, none of them in vain. In a sound tree the searches by halving find what a scan would find,
and `valueAt` behaves as a map from folded label sequences.
-/

namespace HttpDispatch.Routing

variable {α : Type u}

def Node.valueAt (node : Node α) (path : List Label) : Option α := (node.at? path).bind Node.value

/-- A place that holds a value or leads on to others. -/
def Node.Bears (node : Node α) : Prop := node.value.isSome ∨ node.below ≠ .nil

namespace Edges

/-- Children in strict label order, each of them bearing something, here and below. -/
def Sound : Edges α → Prop
  | nil => True
  | cons label value below rest =>
    (∀ later ∈ rest.labels, label.order later = .lt) ∧ Node.Bears ⟨value, below⟩ ∧
      below.Sound ∧ rest.Sound

variable {edges below rest : Edges α} {label wanted other : Label} {value : Option α}

theorem Sound.order_lt (sound : (cons label value below rest).Sound) (later : other ∈ rest.labels) :
    label.order other = .lt :=
  sound.1 other later

theorem Sound.bears (sound : (cons label value below rest).Sound) : Node.Bears ⟨value, below⟩ :=
  sound.2.1

theorem Sound.inner (sound : (cons label value below rest).Sound) : below.Sound := sound.2.2.1

theorem Sound.later (sound : (cons label value below rest).Sound) : rest.Sound := sound.2.2.2

theorem Sound.pairwise (sound : edges.Sound) :
    edges.labels.Pairwise fun earlier later => earlier.order later = .lt := by
  induction edges with
  | nil => exact .nil
  | cons label value below rest _ ih => exact .cons sound.1 (ih sound.later)

theorem Sound.around (sound : edges.Sound) (wanted : Label) :
    Around (·.order wanted) edges.labels :=
  sound.pairwise.imp Label.order_gt_of_lt

theorem position_cons (sound : (cons label value below rest).Sound) (wanted : Label) :
    (cons label value below rest).position wanted =
      match label.order wanted with
      | .lt => (rest.position wanted).after
      | .eq => .found 0
      | .gt => .missing 0 := by
  unfold position
  rw [search_eq_scan (sound.around wanted), search_eq_scan (sound.later.around wanted)]
  rfl

theorem find?_nil (wanted : Label) : (nil : Edges α).find? wanted = none := by
  simp [find?, position, labels, search]

theorem alter_nil (wanted : Label) (change : Node α → Node α) :
    nil.alter wanted change = cons wanted (change .empty).value (change .empty).below nil := by
  simp [alter, position, labels, search, insertAt]

/-- In a sound tree a child is found by looking at one label after the other. -/
theorem find?_cons (sound : (cons label value below rest).Sound) (wanted : Label) :
    (cons label value below rest).find? wanted =
      match label.order wanted with
      | .lt => rest.find? wanted
      | .eq => some ⟨value, below⟩
      | .gt => none := by
  unfold find?
  rw [position_cons sound]
  cases label.order wanted with
  | lt => cases rest.position wanted <;> rfl
  | eq => rfl
  | gt => rfl

theorem alter_cons (sound : (cons label value below rest).Sound) (wanted : Label)
    (change : Node α → Node α) :
    (cons label value below rest).alter wanted change =
      match label.order wanted with
      | .lt => cons label value below (rest.alter wanted change)
      | .eq => cons label (change ⟨value, below⟩).value (change ⟨value, below⟩).below rest
      | .gt =>
        cons wanted (change .empty).value (change .empty).below (cons label value below rest) := by
  unfold alter
  rw [position_cons sound]
  cases label.order wanted with
  | lt => cases rest.position wanted <;> rfl
  | eq => rfl
  | gt => rfl

theorem find?_congr (edges : Edges α) (same : wanted.folded = other.folded) :
    edges.find? wanted = edges.find? other := by
  have equal : (fun label : Label => label.order wanted) = fun label => label.order other := by
    funext label
    exact Std.TransCmp.congr_right (Label.order_eq_iff.mpr same)
  simp only [find?, position, equal]

theorem find?_self (sound : (cons label value below rest).Sound) :
    (cons label value below rest).find? label = some ⟨value, below⟩ := by
  rw [find?_cons sound, Label.order_eq_iff.mpr rfl]

/-- In a sound tree the child that stands for any segment is the one under the wildcard. -/
theorem wildcard?_eq (sound : edges.Sound) : edges.wildcard? = edges.find? .wildcard := by
  induction edges with
  | nil => exact (find?_nil _).symm
  | cons label value below rest _ ih =>
    rw [find?_cons sound]
    cases rest with
    | nil => cases label <;> simp [wildcard?, Label.order, find?_nil]
    | cons next nextValue nextBelow later =>
      have less := sound.order_lt (.head _)
      cases label with
      | literal text => exact ih sound.later
      | wildcard => cases next <;> simp [Label.order] at less

theorem mem_labels_alter (sound : edges.Sound) (change : Node α → Node α)
    (member : label ∈ (edges.alter wanted change).labels) :
    label = wanted ∨ label ∈ edges.labels := by
  induction edges with
  | nil => simpa [alter_nil, labels] using member
  | cons first value below rest _ ih =>
    rw [alter_cons sound] at member
    split at member
    · rcases List.mem_cons.mp member with same | later
      · exact .inr (same ▸ .head _)
      · rcases ih sound.later later with new | old
        · exact .inl new
        · exact .inr (.tail _ old)
    · exact .inr member
    · simpa [labels] using member

/-- A change that leaves something in the child it is made to keeps the tree sound. -/
theorem Sound.alter (sound : edges.Sound) {change : Node α → Node α}
    (bears : ∀ node, node.below.Sound → (change node).Bears)
    (keeps : ∀ node, node.below.Sound → (change node).below.Sound) (wanted : Label) :
    (edges.alter wanted change).Sound := by
  have fresh : (Node.empty : Node α).below.Sound := trivial
  induction edges with
  | nil =>
    rw [alter_nil]
    exact ⟨by simp [labels], bears _ fresh, keeps _ fresh, trivial⟩
  | cons label value below rest _ ih =>
    rw [alter_cons sound]
    obtain ⟨first, bearing, inner, later⟩ := sound
    cases here : label.order wanted with
    | lt =>
      refine ⟨?_, bearing, inner, ih later⟩
      intro next member
      rcases mem_labels_alter later change member with same | old
      · rw [same, here]
      · exact first next old
    | eq => exact ⟨first, bears _ inner, keeps _ inner, later⟩
    | gt =>
      have less := Std.OrientedCmp.gt_iff_lt.mp here
      refine ⟨?_, bears _ fresh, keeps _ fresh, first, bearing, inner, later⟩
      intro next member
      rcases List.mem_cons.mp member with same | old
      · rw [same, less]
      · exact Std.TransCmp.lt_trans less (first next old)

/-- Changing the child under a label changes what is found under that label, whatever its
spelling, and nothing else. -/
theorem find?_alter (sound : edges.Sound) {change : Node α → Node α}
    (bears : ∀ node, node.below.Sound → (change node).Bears)
    (keeps : ∀ node, node.below.Sound → (change node).below.Sound) (wanted other : Label) :
    (edges.alter wanted change).find? other =
      if wanted.folded = other.folded then some (change ((edges.find? wanted).getD .empty))
      else edges.find? other := by
  have changed := sound.alter bears keeps wanted
  simp only [← Label.order_eq_iff]
  induction edges with
  | nil =>
    rw [alter_nil] at changed ⊢
    rw [find?_cons changed, find?_nil, find?_nil]
    cases wanted.order other <;> simp
  | cons label value below rest _ ih =>
    rw [alter_cons sound] at changed ⊢
    rw [find?_cons sound, find?_cons sound]
    -- Where the change was made against this label, and then where the other label stands.
    cases here : label.order wanted with
    | lt =>
      simp only [here] at changed ⊢
      rw [find?_cons changed, ih sound.later changed.later]
      by_cases same : wanted.order other = .eq
      · have before := Std.TransCmp.lt_of_lt_of_eq here same
        simp [same, before]
      · simp [same]
    | eq =>
      simp only [here] at changed ⊢
      rw [find?_cons changed, Std.TransCmp.congr_left here]
      cases wanted.order other <;> simp
    | gt =>
      simp only [here] at changed ⊢
      rw [find?_cons changed]
      cases there : wanted.order other with
      | lt => simp [find?_cons sound]
      | eq => simp
      | gt =>
        have less := Std.OrientedCmp.gt_iff_lt.mp here
        have behind : label.order other = .gt :=
          Label.order_gt_of_lt less (by simp [there])
        simp [behind]

theorem Sound.of_find? (sound : edges.Sound) {child : Node α}
    (found : edges.find? wanted = some child) : child.Bears ∧ child.below.Sound := by
  induction edges with
  | nil => simp [find?_nil] at found
  | cons label value below rest _ ih =>
    rw [find?_cons sound] at found
    split at found
    · exact ih sound.later found
    · cases found
      exact ⟨sound.bears, sound.inner⟩
    · cases found

/-- Some value can be reached through every child. -/
theorem Sound.exists_value (sound : edges.Sound) (nonempty : edges ≠ nil) :
    ∃ label path, ((edges.find? label).bind (·.valueAt path)).isSome := by
  induction edges with
  | nil => exact absurd rfl nonempty
  | cons label value below rest below_ih _ =>
    have found := find?_self sound
    rcases sound.bears with held | branches
    · exact ⟨label, [], by simpa [found, Node.valueAt, Node.at?] using held⟩
    · -- The child holds nothing itself, but something lies below it.
      obtain ⟨next, path, reached⟩ := below_ih sound.inner branches
      refine ⟨label, next :: path, ?_⟩
      simpa [found, Node.valueAt, Node.at?, Option.bind_assoc] using reached

end Edges

namespace Node

variable {node child : Node α} {label : Label} {path other : List Label}

/-- A tree whose children are sound. -/
def Sound (node : Node α) : Prop := node.below.Sound

theorem sound_empty : (empty : Node α).Sound := trivial

theorem valueAt_nil (node : Node α) : node.valueAt [] = node.value := rfl

theorem valueAt_cons (node : Node α) (label : Label) (path : List Label) :
    node.valueAt (label :: path) = (node.below.find? label).bind (·.valueAt path) := by
  simp [valueAt, at?, Option.bind_assoc]

theorem valueAt_empty (path : List Label) : (empty : Node α).valueAt path = none := by
  cases path with
  | nil => rfl
  | cons label path => rw [valueAt_cons, empty, Edges.find?_nil, Option.bind_none]

theorem at?_append (node : Node α) (path other : List Label) :
    node.at? (path ++ other) = (node.at? path).bind (at? other) := by
  induction path generalizing node with
  | nil => rfl
  | cons label path ih =>
    rw [List.cons_append, at?, at?, Option.bind_assoc]
    exact congrArg _ (funext ih)

theorem valueAt_append (node : Node α) (path other : List Label) :
    node.valueAt (path ++ other) = (node.at? path).bind (·.valueAt other) := by
  simp [valueAt, at?_append, Option.bind_assoc]

/-- The letter case of labels does not matter for where they lead. -/
theorem at?_congr (node : Node α) (same : path.map Label.folded = other.map Label.folded) :
    node.at? path = node.at? other := by
  induction path generalizing node other with
  | nil => rw [List.map_nil, List.nil_eq, List.map_eq_nil_iff] at same; rw [same]
  | cons label path ih =>
    cases other with
    | nil => simp at same
    | cons next other =>
      simp only [List.map_cons, List.cons.injEq] at same
      rw [at?, at?, Edges.find?_congr _ same.1]
      exact congrArg _ (funext fun child => ih child same.2)

theorem valueAt_congr (node : Node α) (same : path.map Label.folded = other.map Label.folded) :
    node.valueAt path = node.valueAt other := by
  rw [valueAt, valueAt, at?_congr node same]

theorem Sound.of_at? (sound : node.Sound) (found : node.at? path = some child) :
    child.Sound ∧ (path ≠ [] → child.Bears) := by
  induction path generalizing node with
  | nil =>
    cases found
    exact ⟨sound, fun absurd => absurd.elim rfl⟩
  | cons label path ih =>
    obtain ⟨next, reached, later⟩ := Option.bind_eq_some_iff.mp found
    obtain ⟨bears, inner⟩ := Edges.Sound.of_find? sound reached
    refine ⟨(ih inner later).1, ?_⟩
    intro _
    cases path with
    | nil =>
      cases later
      exact bears
    | cons second path => exact (ih inner later).2 (List.cons_ne_nil _ _)

/-- In a sound tree a place other than the root is there exactly when some value lies at or
below it. -/
theorem isSome_at?_iff (sound : node.Sound) (proper : path ≠ []) :
    (node.at? path).isSome ↔ ∃ rest, (node.valueAt (path ++ rest)).isSome := by
  constructor
  · intro there
    obtain ⟨child, found⟩ := Option.isSome_iff_exists.mp there
    obtain ⟨inner, bears⟩ := sound.of_at? found
    rcases bears proper with held | branches
    · exact ⟨[], by rwa [valueAt_append, found]⟩
    · obtain ⟨label, rest, reached⟩ := Edges.Sound.exists_value inner branches
      exact ⟨label :: rest, by simpa [valueAt_append, found, valueAt_cons] using reached⟩
  · rintro ⟨rest, held⟩
    rw [valueAt_append] at held
    cases found : node.at? path with
    | none => simp [found] at held
    | some child => rfl

/-- Setting a value leaves a sound tree, with something to be found from its root on. -/
theorem Sound.update (sound : node.Sound) (change : Option α → α) (path : List Label) :
    (node.update change path).Sound ∧ (node.update change path).Bears := by
  induction path generalizing node with
  | nil => exact ⟨sound, .inl rfl⟩
  | cons label path ih =>
    refine ⟨Edges.Sound.alter sound (fun _ inner => (ih inner).2) (fun _ inner => (ih inner).1) _,
      .inr fun nothing => ?_⟩
    have bears {child : Node α} (inner : child.Sound) : (child.update change path).Bears :=
      (ih inner).2
    have changed := Edges.find?_alter sound (fun _ inner => bears inner)
      (fun _ inner => (ih inner).1) label label
    rw [show node.below.alter label (Node.update change path) = .nil from nothing,
      Edges.find?_nil] at changed
    simp at changed

/-- Setting the value at a sequence of labels sets it there, under every spelling, and nowhere
else. -/
theorem valueAt_update (sound : node.Sound) (change : Option α → α) (path other : List Label) :
    (node.update change path).valueAt other =
      if path.map Label.folded = other.map Label.folded then some (change (node.valueAt path))
      else node.valueAt other := by
  induction path generalizing node other with
  | nil => cases other <;> simp [Node.update, valueAt_nil, valueAt_cons]
  | cons label path ih =>
    cases other with
    | nil => simp [Node.update, valueAt_nil]
    | cons next other =>
      rw [valueAt_cons, valueAt_cons, valueAt_cons, Node.update,
        Edges.find?_alter sound (fun _ inner => (Sound.update inner change path).2)
          (fun _ inner => (Sound.update inner change path).1)]
      by_cases same : label.folded = next.folded
      · rw [if_pos same, Option.bind_some, ← Edges.find?_congr _ same]
        cases found : node.below.find? label with
        | none => simp [ih sound_empty, same, valueAt_empty]
        | some child => simp [ih (Edges.Sound.of_find? sound found).2, same]
      · simp [same]

end Node

end HttpDispatch.Routing
