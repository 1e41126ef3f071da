import HttpDispatch.Proofs.Routing.Greedy

/-!
What a path gives to the wildcards of a pattern. Put back in the place of the wildcards, the
captured segments make the pattern the path again, up to letter case where the pattern names the
segments itself.
-/

namespace HttpDispatch.Routing

/-- Whether a segment of a pattern stands for any one segment. -/
def isWildcard (mode : Mode) (segment : String) : Bool := mode = .wildcards ∧ segment = "*"

/-- The segment that a segment of a pattern names. -/
def unescaped (mode : Mode) (segment : String) : String :=
  if mode = .wildcards ∧ segment = "\\*" then "*" else segment

/-- The segments of a pattern with values put in the place of its wildcards, from left to right. -/
def substitute (mode : Mode) : List String → List String → List String
  | [], _ => []
  | segment :: pattern, values =>
    match isWildcard mode segment, values with
    | false, values => unescaped mode segment :: substitute mode pattern values
    | true, value :: values => value :: substitute mode pattern values
    | true, [] => []

/-- The segments captured from a path are those that its pattern has wildcards for: put back, they
make the pattern the path again. -/
structure Rebuilds (mode : Mode) (pattern path captured : List String) : Prop where
  length : pattern.length = path.length
  count : captured.length = pattern.countP (isWildcard mode)
  literal : mode = .literal → captured = []
  /-- Without regard to letter case the result is the path. -/
  same : (substitute mode pattern captured).map Text.fold = path.map Text.fold
  /-- Where the pattern has a wildcard it is the path as it was written. -/
  exact : ∀ (place : Nat) segment, pattern[place]? = some segment → isWildcard mode segment = true →
    (substitute mode pattern captured)[place]? = path[place]?

/-- The segments of a path fit the labels of a key, and those that fit wildcards are captured. -/
inductive Captures : List Label.Folded → List String → List String → Prop where
  | nil : Captures [] [] []
  | literal {fitted : List Label.Folded} (segment : String)
    (rest : Captures fitted path captured) :
    Captures (.literal (Text.fold segment) :: fitted) (segment :: path) captured
  | wildcard {fitted : List Label.Folded} (segment : String)
    (rest : Captures fitted path captured) :
    Captures (.wildcard :: fitted) (segment :: path) (segment :: captured)

variable {α : Type u} {mode : Mode}

theorem folded_ofSegment (mode : Mode) (segment : String) :
    (Label.ofSegment mode segment).folded =
      if isWildcard mode segment then .wildcard
      else .literal (Text.fold (unescaped mode segment)) := by
  cases mode with
  | literal => rfl
  | wildcards =>
    by_cases star : segment = "*"
    · subst star
      rfl
    · by_cases escaped : segment = "\\*"
      · subst escaped
        rfl
      · simp [Label.ofSegment, isWildcard, unescaped, star, escaped, Label.folded]

/-- Segments that fit the labels of a pattern rebuild the path from it. -/
theorem Captures.rebuilds {pattern path captured : List String}
    (captures : Captures (pattern.map fun segment => (Label.ofSegment mode segment).folded) path
      captured) :
    Rebuilds mode pattern path captured := by
  induction pattern generalizing path captured with
  | nil =>
    cases captures
    exact ⟨rfl, rfl, fun _ => rfl, rfl, by simp⟩
  | cons first pattern ih =>
    rw [List.map_cons, folded_ofSegment] at captures
    cases wild : isWildcard mode first with
    | true =>
      rw [wild] at captures
      cases captures with
      | wildcard segment rest =>
        obtain ⟨length, count, literal, same, exact⟩ := ih rest
        refine ⟨by simp [length], by simp [count, wild], ?_, ?_, ?_⟩
        · rintro rfl
          simp [isWildcard] at wild
        · simp [substitute, wild, same]
        · rintro (_ | place) other here anywhere
          · simp [substitute, wild]
          · simpa [substitute, wild] using exact place other here anywhere
    | false =>
      rw [wild] at captures
      generalize spelled : Label.Folded.literal (Text.fold (unescaped mode first)) = label at captures
      cases captures with
      | wildcard segment rest => cases spelled
      | literal segment rest =>
        obtain ⟨length, count, literal, same, exact⟩ := ih rest
        simp only [Label.Folded.literal.injEq] at spelled
        refine ⟨by simp [length], by simp [count, wild], literal, ?_, ?_⟩
        · simp [substitute, wild, same, spelled]
        · rintro (_ | place) other here anywhere
          · simp only [List.getElem?_cons_zero, Option.some.injEq] at here
            simp [← here, wild] at anywhere
          · simpa [substitute, wild] using exact place other here anywhere

namespace PatternMap

variable {map : PatternMap α}

/-- Taking segments one by one takes labels that they fit. -/
theorem captures_of_advance {path : List String} {stem taken : List Label.Folded}
    {before captured : List String}
    (advanced : path.foldlM map.advance (stem, before) = some (taken, captured)) :
    ∃ fitted later, taken = stem ++ fitted ∧ captured = before ++ later ∧
      Captures fitted path later := by
  induction path generalizing stem before with
  | nil =>
    cases advanced
    exact ⟨[], [], by simp, by simp, .nil⟩
  | cons segment path ih =>
    rw [List.foldlM_cons] at advanced
    obtain ⟨⟨stem, between⟩, first, rest⟩ := Option.bind_eq_some_iff.mp advanced
    obtain ⟨fitted, later, rfl, rfl, captures⟩ := ih rest
    unfold advance at first
    simp only at first
    split at first
    · cases first
      exact ⟨_, later, List.append_assoc .., rfl, .literal segment captures⟩
    · split at first
      · cases first
        exact ⟨_, _, List.append_assoc .., List.append_assoc .., .wildcard segment captures⟩
      · cases first

/-- A path resolves to the value of a key that it fits. -/
theorem captures_of_resolve {path : String} {found : Resolution α}
    (resolved : map.resolve path = some found) :
    ∃ fitted, map.lookup fitted = some found.value ∧
      Captures fitted (segments path) found.captured := by
  obtain ⟨⟨taken, captured⟩, advanced, held⟩ := Option.bind_eq_some_iff.mp resolved
  obtain ⟨value, here, rfl⟩ := Option.map_eq_some_iff.mp held
  obtain ⟨_, _, rfl, rfl, captures⟩ := captures_of_advance advanced
  exact ⟨_, here, captures⟩

end PatternMap

end HttpDispatch.Routing
