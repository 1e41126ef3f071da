import HttpDispatch.Message.Response

/-!
The headers of a normalised response, name by name.
-/

namespace HttpDispatch

namespace Headers

theorem valuesOf_assign (headers : Headers) (name wanted : HeaderName) (value : Option String) :
    (headers.assign name value).valuesOf wanted =
      if name = wanted then value.toList else headers.valuesOf wanted := by
  cases value with
  | none => exact valuesOf_remove headers name wanted
  | some value => exact valuesOf_insert headers name wanted value

theorem contains_eq_isEmpty (headers : Headers) (name : HeaderName) :
    headers.contains name = !(headers.valuesOf name).isEmpty := by
  unfold contains valuesOf
  induction headers.entries with
  | nil => rfl
  | cons entry rest ih =>
    rw [List.any_cons, List.filter_cons, ih]
    cases entry.1 == name <;> simp

end Headers

namespace Response

/-- Whether a response of this status announces the type and length of its body. -/
def hasContent (status : Status) : Prop := ¬(status.isInformational ∨ status = .noContent)

theorem hasContent_iff {status : Status} :
    hasContent status ↔ 200 ≤ status.code ∧ status.code ≠ 204 := by
  have empty : status = .noContent ↔ status.code = 204 := by
    obtain ⟨code, inRange⟩ := status
    constructor
    · exact congrArg Status.code
    · rintro rfl
      rfl
  rw [hasContent, not_or, empty, Status.isInformational, decide_eq_true_eq, Nat.not_lt]

theorem hasContent_of_isError {status : Status} (isError : status.isError = true) :
    hasContent status := by
  rw [Status.isError_iff] at isError
  rintro (informational | rfl)
  · simp only [Status.isInformational, decide_eq_true_eq] at informational
    omega
  · exact absurd isError.1 (by decide)

/-- A normalised response with content announces its body; its other headers are kept. -/
theorem valuesOf_normalize {response : Response} (content : hasContent response.status)
    (name : HeaderName) :
    response.normalize.headers.valuesOf name =
      if name = .contentType then [response.body.mime.text]
      else if name = .contentLength then (response.body.size.map toString).toList
      else response.headers.valuesOf name := by
  rw [normalize, if_neg content, Headers.valuesOf_assign, Headers.valuesOf_insert]
  by_cases type : name = .contentType
  · subst type
    simp [HeaderName.contentType, HeaderName.contentLength]
  · by_cases length : name = .contentLength
    · simp [length, HeaderName.contentType, HeaderName.contentLength]
    · simp [type, length, Ne.symm type, Ne.symm length]

theorem status_normalize (response : Response) : response.normalize.status = response.status := by
  unfold normalize
  split <;> rfl

theorem body_normalize (response : Response) : response.normalize.body = response.body := by
  unfold normalize
  split <;> rfl

/-- The headers of a response that is made from a body describe it, if there is room for one. -/
theorem valuesOf_withBody {status : Status} (room : hasContent status) (content : Body)
    (name : HeaderName) :
    (withBody status content).headers.valuesOf name =
      if name = .contentType then [content.mime.text]
      else if name = .contentLength then (content.size.map toString).toList
      else [] := by
  rw [withBody, valuesOf_normalize room]
  rfl

theorem valuesOf_withBody_of_bare {status : Status} (bare : ¬hasContent status) (content : Body)
    (name : HeaderName) : (withBody status content).headers.valuesOf name = [] := by
  rw [withBody, normalize, if_pos (Decidable.not_not.mp bare)]
  exact (Headers.valuesOf_remove _ _ _).trans (ite_self _)

end Response

end HttpDispatch
