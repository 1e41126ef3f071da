import HttpDispatch.Proofs.Routing.PatternMap
import Mathlib.Data.List.Forall2

/-!
How patterns are spelled. Patterns of one key are those whose segments are alike, one by one. The
labels of patterns are written so that reading them gives the same labels again, spelling included.
-/

namespace HttpDispatch

namespace Text

theorem lowercase_ne_nil (character : Char) : lowercase character ≠ [] := by
  unfold lowercase
  repeat' split
  all_goals simp

/-- The table lowers characters to letters and to characters beyond ASCII. -/
theorem target_caseRanges : ∀ range ∈ caseRanges, 'a'.toNat ≤ range.target ∧
    (range.target + (range.last - range.first) < 0xD800 ∨
      0xDFFF < range.target ∧ range.target + (range.last - range.first) < 0x110000) := by
  decide +kernel

theorem letter_of_lower? {range : CaseRange} {code lowered : Nat} (listed : range ∈ caseRanges)
    (found : range.lower? code = some lowered) : 'a'.toNat ≤ (Char.ofNat lowered).toNat := by
  obtain ⟨letters, bounds⟩ := target_caseRanges range listed
  unfold CaseRange.lower? at found
  split at found
  · cases found
    have valid : (range.target + (code - range.first)).isValidChar := by
      unfold Nat.isValidChar
      omega
    rw [show Char.ofNat _ = Char.ofNatAux _ valid from dif_pos valid]
    exact Nat.le_add_right_of_le letters
  · cases found

theorem toLower_eq_self : ∀ code < 0x80, (Char.ofNat code).toLower.toNat < 'a'.toNat →
    (Char.ofNat code).toLower = Char.ofNat code := by
  decide +kernel

/-- What comes before the letters is lowered from itself alone. -/
theorem lowercase_of_mem {mark character : Char} (caseless : mark.toNat < 'a'.toNat)
    (member : mark ∈ lowercase character) : character = mark ∧ lowercase character = [mark] := by
  unfold lowercase at member ⊢
  split at member
  · rename_i ascii
    have same := toLower_eq_self character.toNat ascii
    rw [Char.ofNat_toNat] at same
    rw [List.mem_singleton] at member
    subst member
    rw [if_pos ascii, same caseless]
    exact ⟨rfl, rfl⟩
  · rename_i wide
    rw [if_neg wide]
    split at member
    · rcases List.mem_pair.mp member with rfl | rfl <;> exact absurd caseless (by decide)
    · rename_i dotted
      rw [if_neg dotted]
      split at member
      · rename_i code found
        obtain ⟨range, listed, lowered⟩ := List.exists_of_findSome?_eq_some found
        rw [List.mem_singleton] at member
        subst member
        exact absurd caseless (Nat.not_lt.mpr (letter_of_lower? listed lowered))
      · rw [List.mem_singleton] at member
        subst member
        exact ⟨rfl, rfl⟩

theorem mem_of_mem_fold {mark : Char} {text : String} (caseless : mark.toNat < 'a'.toNat)
    (member : mark ∈ fold text) : mark ∈ text.toList := by
  obtain ⟨character, listed, lowered⟩ := List.mem_flatMap.mp member
  exact (lowercase_of_mem caseless lowered).1 ▸ listed

/-- A text that folds to what comes before the letters is that already. -/
theorem toList_eq_fold {text : String} (caseless : ∀ mark ∈ fold text, mark.toNat < 'a'.toNat) :
    text.toList = fold text := by
  unfold fold at caseless ⊢
  generalize text.toList = characters at caseless ⊢
  induction characters with
  | nil => rfl
  | cons first rest ih =>
    rw [List.flatMap_cons] at caseless ⊢
    obtain ⟨mark, member⟩ := List.exists_mem_of_ne_nil _ (lowercase_ne_nil first)
    have early := caseless mark (List.mem_append_left _ member)
    obtain ⟨rfl, alone⟩ := lowercase_of_mem early member
    rw [alone, List.singleton_append, ← ih fun mark later =>
      caseless mark (List.mem_append_right _ later)]

theorem eq_of_fold {text caseless : String}
    (early : (fold caseless).all fun mark => mark.toNat < 'a'.toNat)
    (same : fold text = fold caseless) : text = caseless := by
  have before : ∀ mark ∈ fold caseless, mark.toNat < 'a'.toNat := fun mark found =>
    of_decide_eq_true (List.all_eq_true.mp early mark found)
  rw [← String.toList_inj, toList_eq_fold before, ← same]
  exact toList_eq_fold (same ▸ before)

/-- No other text is a star but for letter case. -/
theorem fold_eq_star {text : String} : fold text = fold "*" ↔ text = "*" :=
  ⟨eq_of_fold (by decide), fun same => same ▸ rfl⟩

/-- No other text is an escaped star but for letter case. -/
theorem fold_eq_escaped {text : String} : fold text = fold "\\*" ↔ text = "\\*" :=
  ⟨eq_of_fold (by decide), fun same => same ▸ rfl⟩

end Text

namespace Routing

/-! ### Patterns of one key -/

/-- Segments of patterns that mean the same. Where stars are wildcards only a star means one, and
only an escaped star means a star; any others mean the same if they are one text but for letter
case. -/
def Alike : Mode → String → String → Prop
  | .literal, left, right => Text.fold left = Text.fold right
  | .wildcards, left, right =>
    if left ∈ ["*", "\\*"] ∨ right ∈ ["*", "\\*"] then left = right
    else Text.fold left = Text.fold right

instance (mode : Mode) (left right : String) : Decidable (Alike mode left right) := by
  cases mode <;> unfold Alike <;> infer_instance

/-- Patterns with the same segments, one by one. -/
def SamePattern (mode : Mode) (left right : String) : Prop :=
  List.Forall₂ (Alike mode) (segments left) (segments right)

theorem folded_ofSegment_eq_iff {mode : Mode} {left right : String} :
    (Label.ofSegment mode left).folded = (Label.ofSegment mode right).folded ↔
      Alike mode left right := by
  cases mode with
  | literal => simp [Label.ofSegment, Label.folded, Alike]
  | wildcards =>
    have other (text : String) (different : text ≠ "*") : Text.fold text ≠ Text.fold "*" :=
      mt Text.fold_eq_star.mp different
    by_cases wildLeft : left = "*" <;> by_cases wildRight : right = "*" <;>
      by_cases starLeft : left = "\\*" <;> by_cases starRight : right = "\\*" <;>
        simp_all [Label.ofSegment, Label.folded, Alike, Ne.symm, eq_comm]

theorem key_eq_iff {mode : Mode} {left right : String} :
    key mode left = key mode right ↔ SamePattern mode left right := by
  unfold key labels SamePattern
  rw [List.map_map, List.map_map, ← List.forall₂_eq_eq_eq, List.forall₂_map_left_iff,
    List.forall₂_map_right_iff]
  simp only [Function.comp_apply, folded_ofSegment_eq_iff]

instance (mode : Mode) (left right : String) : Decidable (SamePattern mode left right) :=
  decidable_of_iff _ key_eq_iff

/-! ### Reading what was written -/

/-- A text that a segment of a path can be. -/
def IsSegment (text : String) : Prop := text ≠ "" ∧ '/' ∉ text.toList

/-- A label that patterns can have. -/
def Label.Spelled (mode : Mode) (label : Label) : Prop :=
  ∃ segment, IsSegment segment ∧ Label.ofSegment mode segment = label

theorem not_mem_of_mem_splitOn [DecidableEq α] {separator : α} {items piece : List α}
    (member : piece ∈ items.splitOn separator) : separator ∉ piece := by
  induction items generalizing piece with
  | nil => simp_all
  | cons item items ih =>
    rw [List.splitOn_cons_eq_if_modifyHead] at member
    split at member
    · rcases List.mem_cons.mp member with rfl | later
      · exact List.not_mem_nil
      · exact ih later
    · rename_i other
      cases pieces : items.splitOn separator with
      | nil => exact absurd pieces (List.splitOn_ne_nil _ _)
      | cons first rest =>
        rw [pieces] at member ih
        rcases List.mem_cons.mp member with rfl | later
        · simp only [beq_iff_eq] at other
          simp [ih (.head _), Ne.symm other]
        · exact ih (.tail _ later)

theorem nonemptyPieces_flatMap [DecidableEq α] {separator : α} {pieces : List (List α)}
    (proper : ∀ piece ∈ pieces, piece ≠ [] ∧ separator ∉ piece) :
    Text.nonemptyPieces separator (pieces.flatMap (separator :: ·)) = pieces := by
  have joined : pieces.flatMap (separator :: ·) = [separator].intercalate ([] :: pieces) := by
    induction pieces with
    | nil => rfl
    | cons piece pieces ih =>
      rw [List.forall_mem_cons] at proper
      rw [List.flatMap_cons, ih proper.2, List.intercalate_cons_cons]
      cases pieces with
      | nil => simp
      | cons next pieces => simp [List.intercalate_cons_cons]
  rw [Text.nonemptyPieces, joined, List.splitOn_intercalate]
  · rw [List.filter_cons_of_neg (by simp), List.filter_eq_self]
    intro piece member
    simpa using (proper piece member).1
  · intro piece member
    rcases List.mem_cons.mp member with rfl | later
    · exact List.not_mem_nil
    · exact (proper piece later).2
  · exact List.cons_ne_nil _ _

theorem isSegment_of_mem {path segment : String} (member : segment ∈ segments path) :
    IsSegment segment := by
  obtain ⟨piece, kept, rfl⟩ := List.mem_map.mp member
  obtain ⟨listed, proper⟩ := List.mem_filter.mp kept
  constructor
  · intro none
    have : piece = [] := by simpa using congrArg String.toList none
    simp [this] at proper
  · rw [String.toList_ofList]
    exact not_mem_of_mem_splitOn listed

theorem spelled_of_mem_labels {mode : Mode} {pattern : String} {label : Label}
    (member : label ∈ labels mode pattern) : label.Spelled mode := by
  obtain ⟨segment, listed, same⟩ := List.mem_map.mp member
  exact ⟨segment, isSegment_of_mem listed, same⟩

namespace Label

variable {mode : Mode} {label : Label}

/-- A label is written as a segment that stands for it. -/
theorem Spelled.of_render (spelled : label.Spelled mode) :
    IsSegment (label.render mode) ∧ Label.ofSegment mode (label.render mode) = label := by
  obtain ⟨segment, proper, rfl⟩ := spelled
  cases mode with
  | literal => exact ⟨proper, rfl⟩
  | wildcards =>
    by_cases wild : segment = "*"
    · subst wild
      exact ⟨proper, rfl⟩
    · by_cases star : segment = "\\*"
      · subst star
        exact ⟨proper, rfl⟩
      · simpa [ofSegment, render, wild, star] using proper

end Label

theorem toList_renderPath (mode : Mode) (path : List Label) :
    (renderPath mode path).toList =
      (path.map fun label => (label.render mode).toList).flatMap ('/' :: ·) := by
  rw [renderPath, String.toList_join, List.flatMap_map, List.flatMap_map]
  simp only [String.toList_append]
  rfl

/-- Labels written as a pattern are read back. -/
theorem labels_renderPattern {mode : Mode} {path : List Label}
    (spelled : ∀ label ∈ path, label.Spelled mode) :
    labels mode (renderPattern mode path) = path := by
  cases path with
  | nil => cases mode <;> rfl
  | cons first path =>
    rw [renderPattern, List.isEmpty_cons, if_neg Bool.false_ne_true, labels, segments,
      toList_renderPath, nonemptyPieces_flatMap, List.map_map, List.map_map]
    · conv_rhs => rw [← List.map_id (first :: path)]
      apply List.map_congr_left
      intro label member
      rw [Function.comp_apply, Function.comp_apply, String.ofList_toList]
      exact (spelled label member).of_render.2
    · intro piece member
      obtain ⟨label, listed, rfl⟩ := List.mem_map.mp member
      obtain ⟨nonempty, apart⟩ := (spelled label listed).of_render.1
      exact ⟨fun none => nonempty (String.toList_eq_nil_iff.mp none), apart⟩

end Routing

end HttpDispatch
