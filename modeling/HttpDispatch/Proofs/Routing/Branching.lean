import HttpDispatch.Proofs.Routing.Greedy
import HttpDispatch.Proofs.Routing.Places

/-!
How a table goes on from a pattern. The patterns listed one segment further on are the given one
with each label that follows it in a stored pattern, and they agree with the listing of the whole
table: what is listed there goes on from exactly one of them.
-/

namespace HttpDispatch

namespace Routing

variable {α : Type u} {mode : Mode}

/-! ### Patterns as texts -/

/-- Segments mean the same exactly if they are one text but for letter case. -/
theorem alike_iff {left right : String} :
    Alike mode left right ↔ Text.fold left = Text.fold right := by
  cases mode with
  | literal => rfl
  | wildcards =>
    by_cases marked : left ∈ ["*", "\\*"] ∨ right ∈ ["*", "\\*"]
    · rw [Alike, if_pos marked]
      refine ⟨congrArg Text.fold, fun same => ?_⟩
      simp only [List.mem_cons, List.not_mem_nil, or_false] at marked
      rcases marked with (rfl | rfl) | rfl | rfl
      · exact (Text.fold_eq_star.mp same.symm).symm
      · exact (Text.fold_eq_escaped.mp same.symm).symm
      · exact Text.fold_eq_star.mp same
      · exact Text.fold_eq_escaped.mp same
    · rw [Alike, if_neg marked]

theorem Label.Spelled.fold_render_eq_iff {left right : Label} (spelled : left.Spelled mode)
    (spelled' : right.Spelled mode) :
    Text.fold (left.render mode) = Text.fold (right.render mode) ↔ left.folded = right.folded := by
  have alike : Alike mode (left.render mode) (right.render mode) ↔ _ := alike_iff
  rw [← alike, ← folded_ofSegment_eq_iff, spelled.of_render.2, spelled'.of_render.2]

/-- The segments that labels are written as, without regard to letter case. -/
def foldedSegments (mode : Mode) (path : List Label) : List (List Char) :=
  path.map fun label => Text.fold (label.render mode)

theorem foldedSegments_eq_iff {path other : List Label}
    (spelled : ∀ label ∈ path, label.Spelled mode)
    (spelled' : ∀ label ∈ other, label.Spelled mode) :
    foldedSegments mode path = foldedSegments mode other ↔
      path.map Label.folded = other.map Label.folded := by
  unfold foldedSegments
  induction path generalizing other with
  | nil => cases other <;> simp
  | cons label path ih =>
    cases other with
    | nil => simp
    | cons next other =>
      rw [List.forall_mem_cons] at spelled spelled'
      simp only [List.map_cons, List.cons.injEq, spelled.1.fold_render_eq_iff spelled'.1,
        ih spelled.2 spelled'.2]

theorem fold_renderPattern (mode : Mode) (path : List Label) :
    Text.fold (renderPattern mode path) =
      if path.isEmpty then ['/'] else (foldedSegments mode path).flatMap ('/' :: ·) := by
  cases path with
  | nil => cases mode <;> rfl
  | cons first path =>
    rw [renderPattern, List.isEmpty_cons, if_neg Bool.false_ne_true, if_neg Bool.false_ne_true,
      Text.fold, toList_renderPath, foldedSegments, List.flatMap_map, List.flatMap_map,
      List.flatMap_assoc]
    rfl

theorem nonemptyPieces_fold_renderPattern {path : List Label}
    (spelled : ∀ label ∈ path, label.Spelled mode) :
    Text.nonemptyPieces '/' (Text.fold (renderPattern mode path)) = foldedSegments mode path := by
  rw [fold_renderPattern]
  split
  · rename_i none
    rw [List.isEmpty_iff.mp none]
    rfl
  · rw [nonemptyPieces_flatMap]
    intro piece member
    obtain ⟨label, listed, rfl⟩ := List.mem_map.mp member
    obtain ⟨nonempty, apart⟩ := (spelled label listed).of_render.1
    constructor
    · exact fun none => nonempty (Text.eq_of_fold (by simp [Text.fold]) none)
    · exact fun slash => apart (Text.mem_of_mem_fold (by decide) slash)

/-- Patterns as they are listed are one text but for letter case exactly if their labels are the
same but for letter case. -/
theorem fold_renderPattern_eq_iff {path other : List Label}
    (spelled : ∀ label ∈ path, label.Spelled mode)
    (spelled' : ∀ label ∈ other, label.Spelled mode) :
    Text.fold (renderPattern mode path) = Text.fold (renderPattern mode other) ↔
      path.map Label.folded = other.map Label.folded := by
  rw [← foldedSegments_eq_iff spelled spelled']
  constructor
  · intro same
    rw [← nonemptyPieces_fold_renderPattern spelled, same,
      nonemptyPieces_fold_renderPattern spelled']
  · intro same
    have empty : path.isEmpty = other.isEmpty := by
      simpa [foldedSegments] using congrArg List.isEmpty same
    rw [fold_renderPattern, fold_renderPattern, same, empty]

/-- A pattern written as patterns are listed. -/
def IsWritten (mode : Mode) (pattern : String) : Prop :=
  renderPattern mode (labels mode pattern) = pattern

theorem isWritten_renderPattern {path : List Label} (spelled : ∀ label ∈ path, label.Spelled mode) :
    IsWritten mode (renderPattern mode path) := by
  rw [IsWritten, labels_renderPattern spelled]

theorem IsWritten.fold_eq_iff {pattern other : String} (written : IsWritten mode pattern)
    (written' : IsWritten mode other) :
    Text.fold pattern = Text.fold other ↔ key mode pattern = key mode other := by
  conv_lhs => rw [← written, ← written']
  exact fold_renderPattern_eq_iff (fun _ => spelled_of_mem_labels) fun _ => spelled_of_mem_labels

/-! ### What follows a pattern -/

namespace Edges

variable {edges : Edges α} {wanted : Label} {child : Node α}

theorem Spelled.of_mem_labels (spelled : edges.Spelled mode) :
    ∀ label ∈ edges.labels, label.Spelled mode := by
  induction edges with
  | nil => exact fun _ member => absurd member List.not_mem_nil
  | cons label value below rest _ ih => exact List.forall_mem_cons.mpr ⟨spelled.1, ih spelled.2.2⟩

theorem Spelled.of_find? (spelled : edges.Spelled mode) (sound : edges.Sound)
    (found : edges.find? wanted = some child) : child.below.Spelled mode := by
  induction edges with
  | nil => simp [find?_nil] at found
  | cons label value below rest _ ih =>
    obtain ⟨-, inner, later⟩ := spelled
    rw [find?_cons sound] at found
    split at found
    · exact ih later sound.later found
    · cases found
      exact inner
    · cases found

theorem Sound.isSome_find?_iff (sound : edges.Sound) (wanted : Label) :
    (edges.find? wanted).isSome ↔ ∃ label ∈ edges.labels, label.folded = wanted.folded := by
  rw [sound.find?_eq, Option.isSome_map, List.find?_isSome, ← labels_children]
  simp

end Edges

theorem Node.spelled_of_at? {node last : Node α} {path : List Label} (sound : node.Sound)
    (spelled : node.below.Spelled mode) (found : node.at? path = some last) :
    last.below.Spelled mode := by
  induction path generalizing node with
  | nil =>
    cases found
    exact spelled
  | cons label path ih =>
    obtain ⟨child, reached, later⟩ := Option.bind_eq_some_iff.mp found
    exact ih (Edges.Sound.of_find? sound reached).2 (spelled.of_find? sound reached) later

/-- A pattern goes on from another one with this label, and then as it likes. -/
def Follows (mode : Mode) (pattern : String) (label : Label) (other : String) : Prop :=
  key mode pattern ++ [label.folded] <+: key mode other

/-- A pattern goes on from another one. -/
def Extends (mode : Mode) (pattern other : String) : Prop :=
  key mode pattern <+: key mode other ∧ key mode pattern ≠ key mode other

theorem extends_iff {pattern other : String} :
    Extends mode pattern other ↔ ∃ label, Follows mode pattern label other := by
  constructor
  · rintro ⟨⟨rest, same⟩, longer⟩
    cases rest with
    | nil => exact absurd (by simpa using same) longer
    | cons next rest =>
      obtain ⟨first, last, -, -, spelled⟩ := List.map_eq_append_iff.mp same.symm
      obtain ⟨label, more, -, rfl, -⟩ := List.map_eq_cons_iff.mp spelled
      exact ⟨label, rest, by simpa using same⟩
  · rintro ⟨label, rest, same⟩
    refine ⟨⟨label.folded :: rest, by simpa using same⟩, fun equal => ?_⟩
    have length := congrArg List.length same
    rw [← equal] at length
    simp at length

namespace Trie

variable {table : Trie α} {map : PatternMap α}

/-- The labels of the children of a pattern. -/
def nextLabels (table : Trie α) (pattern : String) : List Label :=
  match table.node? pattern with
  | none => []
  | some node => node.below.labels

theorem childKeys_eq (table : Trie α) (pattern : String) :
    table.childKeys pattern = (table.nextLabels pattern).map fun label =>
      renderPattern table.mode (labels table.mode pattern ++ [label]) := by
  unfold childKeys nextLabels
  have shown (label : Label) : renderPath table.mode (labels table.mode pattern ++ [label]) =
      renderPattern table.mode (labels table.mode pattern ++ [label]) := by
    simp [renderPattern]
  cases table.node? pattern with
  | none => rfl
  | some node => simp only [shown]

/-- The labels that follow a pattern in stored ones, each of them once and in order. -/
structure FollowedBy (mode : Mode) (table : Trie α) (pattern : String) (next : List Label) :
    Prop where
  ordered : next.Pairwise fun earlier later => earlier.order later = .lt
  wildcardLast : ∀ index : Nat, next[index]? = some .wildcard → index + 1 = next.length
  follow : ∀ label : Label, (∃ here ∈ next, here.folded = label.folded) ↔
    ∃ other, (table.get? other).isSome ∧ Follows mode pattern label other

/-- A listing one segment further on that agrees with the listing of the whole table. -/
structure Branches (mode : Mode) (table : Trie α) (pattern : String) : Prop where
  /-- The listed patterns are the given one with each label that follows it. -/
  lists : ∃ next, table.FollowedBy mode pattern next ∧
    (table.childKeys pattern).map (labels mode) = next.map (labels mode pattern ++ [·])
  ends : table.childKeys pattern = [] ↔
    ¬∃ other, (table.get? other).isSome ∧ Extends mode pattern other
  /-- No two are one text but for letter case. -/
  apart : (table.childKeys pattern).Pairwise fun earlier later =>
    Text.fold earlier ≠ Text.fold later
  leads : ∀ entry ∈ table.visited, Extends mode pattern entry.1 →
    ∃! child, child ∈ table.childKeys pattern ∧ key mode child <+: key mode entry.1
  held : ∀ child ∈ table.childKeys pattern,
    (table.get? child).isSome ↔ ∃ entry ∈ table.visited, Text.fold entry.1 = Text.fold child

theorem keys_visited (spelled : table.root.below.Spelled table.mode) :
    table.root.keys = table.visited.map fun entry => key table.mode entry.1 := by
  rw [Node.keys, ← map_labels_visited spelled, List.map_map]
  rfl

namespace Holds

variable (holds : table.Holds map) (spelled : table.root.below.Spelled table.mode)
include holds

/-- The children of a pattern are under the labels with which some key goes on. -/
theorem mem_nextLabels_iff (pattern : String) (label : Label) :
    (∃ here ∈ table.nextLabels pattern, here.folded = label.folded) ↔
      map.LeadsTo (key table.mode pattern ++ [label.folded]) := by
  unfold nextLabels
  cases found : table.node? pattern with
  | some node =>
    rw [key, ← holds.isSome_find?_iff found,
      Edges.Sound.isSome_find?_iff (holds.sound.of_at? found).1]
  | none =>
    have place := holds.isSome_at?_iff (show labels table.mode pattern ++ [label] ≠ [] by simp)
    have nowhere : table.root.at? (labels table.mode pattern) = none := found
    rw [Node.at?_append, nowhere, List.map_append] at place
    simpa [key] using place

include spelled

theorem isSome_get?_iff (pattern : String) : (table.get? pattern).isSome ↔
    ∃ entry ∈ table.visited, key table.mode entry.1 = key table.mode pattern := by
  rw [holds.get?_eq, AList.lookup_isSome, AList.mem_keys, ← holds.keys_perm.mem_iff,
    keys_visited spelled, List.mem_map]

/-- What is stored is what is listed. -/
theorem exists_stored_iff (property : List Label.Folded → Prop) :
    (∃ other, (table.get? other).isSome ∧ property (key table.mode other)) ↔
      ∃ entry ∈ table.visited, property (key table.mode entry.1) := by
  constructor
  · rintro ⟨other, stored, here⟩
    obtain ⟨entry, listed, same⟩ := (holds.isSome_get?_iff spelled other).mp stored
    exact ⟨entry, listed, same ▸ here⟩
  · rintro ⟨entry, listed, here⟩
    exact ⟨entry.1, (holds.isSome_get?_iff spelled entry.1).mpr ⟨entry, listed, rfl⟩, here⟩

theorem leadsTo_iff (stem : List Label.Folded) :
    map.LeadsTo stem ↔ ∃ entry ∈ table.visited, stem <+: key table.mode entry.1 := by
  unfold PatternMap.LeadsTo
  simp only [← holds.keys_perm.mem_iff, keys_visited spelled, List.mem_map]
  constructor
  · rintro ⟨_, ⟨entry, listed, rfl⟩, leads⟩
    exact ⟨entry, listed, leads⟩
  · rintro ⟨entry, listed, leads⟩
    exact ⟨_, ⟨entry, listed, rfl⟩, leads⟩

theorem followedBy (pattern : String) :
    table.FollowedBy table.mode pattern (table.nextLabels pattern) := by
  have follow (label : Label) : (∃ here ∈ table.nextLabels pattern, here.folded = label.folded) ↔
      ∃ other, (table.get? other).isSome ∧ Follows table.mode pattern label other := by
    rw [holds.mem_nextLabels_iff, holds.leadsTo_iff spelled]
    exact (holds.exists_stored_iff spelled _).symm
  unfold nextLabels at follow ⊢
  cases found : table.node? pattern with
  | none =>
    rw [found] at follow
    exact ⟨.nil, by simp, follow⟩
  | some node =>
    rw [found] at follow
    have inner := Node.spelled_of_at? holds.sound spelled found
    have orderly := (holds.sound.of_at? found).1.orderly inner
    exact ⟨orderly.ordered, orderly.wildcardLast, follow⟩

end Holds

theorem isWritten_of_mem_visited (spelled : table.root.below.Spelled table.mode)
    {entry : String × α} (listed : entry ∈ table.visited) : IsWritten table.mode entry.1 := by
  rw [visited_eq] at listed
  obtain ⟨⟨path, held⟩, member, rfl⟩ := List.mem_map.mp listed
  exact isWritten_renderPattern (Node.spelled_of_mem_entries spelled member)

/-! ### Children -/

section Children

variable {pattern child : String} {label : Label}

theorem mem_childKeys : child ∈ table.childKeys pattern ↔ ∃ label ∈ table.nextLabels pattern,
    renderPattern table.mode (labels table.mode pattern ++ [label]) = child := by
  rw [childKeys_eq, List.mem_map]

variable (sound : table.root.Sound) (spelled : table.root.below.Spelled table.mode)
include sound spelled

/-- The labels of a listed pattern, each of them one that patterns have. -/
theorem spelled_concat (next : label ∈ table.nextLabels pattern) :
    ∀ here ∈ labels table.mode pattern ++ [label], here.Spelled table.mode := by
  rw [List.forall_mem_append, List.forall_mem_singleton]
  refine ⟨fun _ => spelled_of_mem_labels, ?_⟩
  unfold nextLabels at next
  cases found : table.node? pattern with
  | none => simp [found] at next
  | some node =>
    rw [found] at next
    exact (Node.spelled_of_at? sound spelled found).of_mem_labels label next

theorem labels_child (next : label ∈ table.nextLabels pattern) :
    labels table.mode (renderPattern table.mode (labels table.mode pattern ++ [label])) =
      labels table.mode pattern ++ [label] :=
  labels_renderPattern (spelled_concat sound spelled next)

theorem key_child (next : label ∈ table.nextLabels pattern) :
    key table.mode (renderPattern table.mode (labels table.mode pattern ++ [label])) =
      key table.mode pattern ++ [label.folded] := by
  rw [key, labels_child sound spelled next, List.map_append]
  rfl

theorem exists_child (next : label ∈ table.nextLabels pattern) :
    ∃ child ∈ table.childKeys pattern,
      key table.mode child = key table.mode pattern ++ [label.folded] :=
  ⟨_, mem_childKeys.mpr ⟨label, next, rfl⟩, key_child sound spelled next⟩

theorem length_key_child (listed : child ∈ table.childKeys pattern) :
    (key table.mode child).length = (key table.mode pattern).length + 1 := by
  obtain ⟨label, next, rfl⟩ := mem_childKeys.mp listed
  rw [key_child sound spelled next, List.length_append, List.length_singleton]

theorem isWritten_of_mem_childKeys (listed : child ∈ table.childKeys pattern) :
    IsWritten table.mode child := by
  obtain ⟨label, next, rfl⟩ := mem_childKeys.mp listed
  exact isWritten_renderPattern (spelled_concat sound spelled next)

end Children

namespace Holds

variable (holds : table.Holds map) (spelled : table.root.below.Spelled table.mode)
variable {pattern child : String}
include holds spelled

theorem childKeys_eq_nil_iff : table.childKeys pattern = [] ↔
    ¬∃ other, (table.get? other).isSome ∧ Extends table.mode pattern other := by
  have followed := holds.followedBy spelled pattern
  rw [childKeys_eq, List.map_eq_nil_iff, List.eq_nil_iff_forall_not_mem]
  constructor
  · rintro none ⟨other, stored, further⟩
    obtain ⟨label, follows⟩ := extends_iff.mp further
    obtain ⟨here, next, -⟩ := (followed.follow label).mpr ⟨other, stored, follows⟩
    exact none here next
  · intro none label next
    obtain ⟨other, stored, follows⟩ := (followed.follow label).mp ⟨label, next, rfl⟩
    exact none ⟨other, stored, extends_iff.mpr ⟨label, follows⟩⟩

/-- No two children have the same labels. -/
theorem nodup_key_childKeys (pattern : String) :
    ((table.childKeys pattern).map (key table.mode)).Nodup := by
  have distinct := (holds.followedBy spelled pattern).ordered.imp Label.folded_ne_of_lt
  rw [childKeys_eq, List.map_map, List.nodup_iff_pairwise_ne, List.pairwise_map]
  refine distinct.imp_of_mem ?_
  intro earlier later next next' different same
  rw [Function.comp_apply, Function.comp_apply, key_child holds.sound spelled next,
    key_child holds.sound spelled next'] at same
  exact different (List.singleton_inj.mp (List.append_cancel_left same))

theorem existsUnique_child {entry : String × α} (listed : entry ∈ table.visited)
    (further : Extends table.mode pattern entry.1) : ∃! child,
      child ∈ table.childKeys pattern ∧ key table.mode child <+: key table.mode entry.1 := by
  obtain ⟨label, follows⟩ := extends_iff.mp further
  have stored := (holds.isSome_get?_iff spelled entry.1).mpr ⟨entry, listed, rfl⟩
  obtain ⟨here, next, same⟩ :=
    ((holds.followedBy spelled pattern).follow label).mpr ⟨entry.1, stored, follows⟩
  obtain ⟨child, member, goes⟩ := exists_child holds.sound spelled next
  rw [Follows, ← same, ← goes] at follows
  refine ⟨child, ⟨member, follows⟩, ?_⟩
  rintro other ⟨member', follows'⟩
  -- The keys of two children are as long, and both start the key of the entry.
  have length : (key table.mode other).length = (key table.mode child).length := by
    rw [length_key_child holds.sound spelled member, length_key_child holds.sound spelled member']
  have begins := List.prefix_of_prefix_length_le follows' follows (Nat.le_of_eq length)
  have equal := begins.eq_of_length length
  exact List.inj_on_of_nodup_map (holds.nodup_key_childKeys spelled pattern) member' member equal

theorem isSome_get?_child_iff (member : child ∈ table.childKeys pattern) :
    (table.get? child).isSome ↔
      ∃ entry ∈ table.visited, Text.fold entry.1 = Text.fold child := by
  have written := isWritten_of_mem_childKeys holds.sound spelled member
  rw [holds.isSome_get?_iff spelled]
  constructor
  · rintro ⟨entry, listed, same⟩
    exact ⟨entry, listed, ((isWritten_of_mem_visited spelled listed).fold_eq_iff written).mpr same⟩
  · rintro ⟨entry, listed, same⟩
    exact ⟨entry, listed, ((isWritten_of_mem_visited spelled listed).fold_eq_iff written).mp same⟩

theorem branches (pattern : String) : table.Branches table.mode pattern where
  lists := by
    refine ⟨table.nextLabels pattern, holds.followedBy spelled pattern, ?_⟩
    rw [childKeys_eq, List.map_map]
    apply List.map_congr_left
    intro label next
    rw [Function.comp_apply, labels_child holds.sound spelled next]
  ends := holds.childKeys_eq_nil_iff spelled
  apart := by
    refine (List.pairwise_map.mp (holds.nodup_key_childKeys spelled pattern)).imp_of_mem ?_
    intro earlier later member member' different same
    have written := isWritten_of_mem_childKeys holds.sound spelled member
    have written' := isWritten_of_mem_childKeys holds.sound spelled member'
    exact different ((written.fold_eq_iff written').mp same)
  leads _ listed further := holds.existsUnique_child spelled listed further
  held _ member := holds.isSome_get?_child_iff spelled member

end Holds

/-- After any calls a table goes on from every pattern as its whole listing does. -/
theorem branches_run (mode : Mode) (calls : List (Call α)) (pattern : String) :
    (Trie.run mode calls).Branches mode pattern := by
  have spelled : (Trie.after mode calls).root.below.Spelled (Trie.after mode calls).mode := by
    rw [mode_after]
    exact spelled_after mode calls
  have branches := (holds_after mode calls).branches spelled pattern
  rwa [mode_after, ← run_eq_after] at branches

/-- The given pattern keeps the spelling that it is given in; `deep` is not listed. -/
example :
    let trie : Trie Nat := .run .wildcards
      [.insert "/docs/A/deep" 1, .insert "/docs/*" 2, .insert "/Docs/\\*" 3, .insert "/docs/a" 4]
    trie.childKeys "/DOCS" = ["/DOCS/\\*", "/DOCS/A", "/DOCS/*"] ∧
      trie.childKeys "/docs/*" = [] := by
  decide +kernel

end Trie

end Routing

end HttpDispatch
