import HttpDispatch.Proofs.Serving.Lifecycle

/-!
What responses announce. Headers are set by replies, hooks, error pages and descriptions of routes.
Whatever they set, a response that is sent announces the length and the media type of its own body
and what its endpoint accepts, and has every other header as it was set.
-/

namespace HttpDispatch

variable {κ σ : Type} [DecidableEq κ] [ContextCatalog κ]

namespace Response

instance (status : Status) : Decidable (hasContent status) := inferInstanceAs (Decidable (¬_))

/-- What a response says of its length: what its body declares, if its status leaves room for a
body and the size is known. -/
def announcedLength (response : Response) : List String :=
  if hasContent response.status then (response.body.size.map toString).toList else []

theorem valuesOf_contentLength_normalize (response : Response) :
    response.normalize.headers.valuesOf .contentLength = response.announcedLength := by
  unfold announcedLength
  by_cases content : hasContent response.status
  · rw [valuesOf_normalize content, if_pos content]
    rfl
  · have bare := Decidable.not_not.mp content
    rw [normalize, if_pos bare, if_neg content]
    exact Headers.valuesOf_remove _ _ _

/-- Only the length and, of a response with content, the media type are written anew. -/
theorem valuesOf_normalize_of_ne {response : Response} {name : HeaderName}
    (length : name ≠ .contentLength)
    (type : name = .contentType → ¬hasContent response.status) :
    response.normalize.headers.valuesOf name = response.headers.valuesOf name := by
  by_cases content : hasContent response.status
  · rw [valuesOf_normalize content, if_neg fun same => type same content, if_neg length]
  · have bare := Decidable.not_not.mp content
    rw [normalize, if_pos bare]
    exact (Headers.valuesOf_remove _ _ _).trans (if_neg (Ne.symm length))

end Response

/-- To be held to a media type does not change the headers of a response. -/
theorem Endpoint.headers_of_enforceOutput {endpoint : Endpoint} {given sent : Response}
    (held : endpoint.enforceOutput given = .ok sent) : sent.headers = given.headers := by
  unfold enforceOutput at held
  split at held
  · cases held
    rfl
  · simp only at held
    split at held
    · cases held
    · cases held
      rfl

/-- The headers that the application gives to the response to a request, if nothing stops it. An
error page is given none. -/
def Registration.givenHeaders (registration : Registration κ σ) (request : Request)
    (world : World σ) : Headers :=
  match (registration.run (.seeded request registration.endpoint) world).1 with
  | .error _ => .empty
  | .ok given =>
    match registration.endpoint.enforceOutput given with
    | .error _ => .empty
    | .ok _ => given.headers

namespace Registry

/-- What a response says that its endpoint accepts: what it was given or else, except after a
request to get something, what the endpoint consumes. -/
def announcedAccept (registry : Registry κ σ) :
    Option (Registration κ σ) → List String → List String
  | none, given => given
  | some registration, given =>
    if registration.endpoint.verb = .get ∨ given ≠ [] then given
    else [(registration.endpoint.consumes.getD registry.config.defaultIn).text]

/-- A response that was given headers and agrees with its body and with its endpoint. -/
structure Announces (registry : Registry κ σ) (registration : Option (Registration κ σ))
    (given : Headers) (response : Response) : Prop where
  length : response.headers.valuesOf .contentLength = response.announcedLength
  type : Response.hasContent response.status →
    response.headers.valuesOf .contentType = [response.body.mime.text]
  accept : response.headers.valuesOf .accept =
    registry.announcedAccept registration (given.valuesOf .accept)
  /-- The other headers are as they were given, and so is the media type where there is no
  content. -/
  kept : ∀ name, name ≠ .contentLength → name ≠ .accept →
    (name = .contentType → ¬Response.hasContent response.status) →
    response.headers.valuesOf name = given.valuesOf name

theorem valuesOf_finish (registry : Registry κ σ) (registration : Option (Registration κ σ))
    (response : Response) (name : HeaderName) :
    (registry.finish registration response).headers.valuesOf name =
      if name = .accept then
        registry.announcedAccept registration (response.normalize.headers.valuesOf .accept)
      else response.normalize.headers.valuesOf name := by
  cases registration with
  | none =>
    by_cases accept : name = .accept
    · rw [if_pos accept, accept]
      rfl
    · rw [if_neg accept]
      rfl
  | some registration =>
    have contained : response.normalize.headers.contains .accept = true ↔
        response.normalize.headers.valuesOf .accept ≠ [] := by
      simp [Headers.contains_eq_isEmpty]
    simp only [finish, announcedAccept, contained]
    by_cases keeps : registration.endpoint.verb = .get ∨
        response.normalize.headers.valuesOf .accept ≠ []
    · rw [if_pos keeps, if_pos keeps]
      by_cases accept : name = .accept
      · rw [if_pos accept, accept]
      · rw [if_neg accept]
    · have type : registration.endpoint.inType registry.config.defaultIn =
          registration.endpoint.consumes.getD registry.config.defaultIn :=
        if_neg (not_or.mp keeps).1
      rw [if_neg keeps, if_neg keeps, Headers.valuesOf_insert, type]
      simp only [eq_comm]

/-- The last touch makes a response agree with its body and its endpoint. -/
theorem announces_finish (registry : Registry κ σ) (registration : Option (Registration κ σ))
    (response : Response) :
    registry.Announces registration response.headers (registry.finish registration response) where
  length := by
    rw [valuesOf_finish, if_neg (by decide), Response.valuesOf_contentLength_normalize,
      Response.announcedLength, Response.announcedLength, status_finish, body_finish]
  type content := by
    rw [status_finish] at content
    rw [valuesOf_finish, if_neg (by decide), Response.valuesOf_normalize content, body_finish]
    rfl
  accept := by
    have type : HeaderName.accept ≠ .contentType := by decide
    rw [valuesOf_finish, if_pos rfl, Response.valuesOf_normalize_of_ne (by decide) (absurd · type)]
  kept name length accept type := by
    rw [status_finish] at type
    rw [valuesOf_finish, if_neg accept, Response.valuesOf_normalize_of_ne length type]

/-- An error page is given no headers: those that it has are the ones that agree with it. -/
theorem announces_errorResponse (registry : Registry κ σ)
    (registration : Option (Registration κ σ)) {status : Status} (isError : status.isError = true) :
    registry.Announces registration .empty
      (registry.finish registration (registry.errorResponse status)) := by
  have content : Response.hasContent (registry.errorResponse status).status := by
    rw [errorResponse, Response.withBody, Response.status_normalize]
    exact Response.hasContent_of_isError isError
  have bare (name : HeaderName) (length : name ≠ .contentLength) (type : name ≠ .contentType) :
      (registry.errorResponse status).headers.valuesOf name = [] :=
    Response.valuesOf_normalize_of_ne length fun same => absurd same type
  obtain ⟨length, type, accept, kept⟩ :=
    registry.announces_finish registration (registry.errorResponse status)
  refine ⟨length, type, ?_, ?_⟩
  · rw [accept, bare _ (by decide) (by decide)]
    rfl
  · intro name other notAccept isType
    rw [kept name other notAccept isType, bare name other]
    · rfl
    · rintro same
      exact isType same (by rwa [status_finish])

/-- A description of a route has no body, and says so where its status leaves room for one. -/
theorem length_describe (registry : Registry κ σ) (table : VerbTable κ σ) (asked : Bool) :
    (registry.describe table asked).headers.valuesOf .contentLength =
      (registry.describe table asked).announcedLength := by
  cases asked <;> rfl

/-- A dispatch fails only if making the request panics. -/
theorem dispatch_panicked {registry : Registry κ σ} {token : MethodToken} {path : String}
    {registration : Registration κ σ} {params : List String} {factory : RequestFactory σ}
    {payload : PanicPayload} {world left : World σ}
    (reached : registry.reached? token path = some (registration, params))
    (panicked : factory params world = (.error payload, left)) :
    registry.dispatch token path factory world = (.error payload, left) := by
  unfold dispatch
  rw [select_of_reached reached]
  simp only [bind, ExceptT.bind, ExceptT.mk, StateT.bind, panicked]
  rfl

/-- The answer to a request was given the headers that the application set. -/
theorem announces_answer (registry : Registry κ σ) (registration : Registration κ σ)
    (request : Request) (world : World σ) :
    registry.Announces (some registration) (registration.givenHeaders request world)
      (registry.answer registration (serve registration request world).1) := by
  unfold Registration.givenHeaders serve
  rcases ran : registration.run (.seeded request registration.endpoint) world with
    ⟨stop | given, left⟩
  · rw [Service.bind_error ran]
    exact registry.announces_errorResponse _ (registry.classifier.isError_classify _)
  · rw [Service.bind_ok ran]
    dsimp only
    cases held : registration.endpoint.enforceOutput given with
    | error fault =>
      exact registry.announces_errorResponse _ (registry.classifier.isError_classify fault)
    | ok sent =>
      dsimp only
      rw [← Endpoint.headers_of_enforceOutput held]
      exact registry.announces_finish (some registration) sent

/-- Every response of a dispatch agrees with its body. A description of a route names no media type
of a body; an error page and the answer of an endpoint do, and announce what the endpoint accepts.
A dispatch gives no response only if making the request panics. -/
theorem dispatch_announces (registry : Registry κ σ) (token : MethodToken) (path : String)
    (factory : RequestFactory σ) (world : World σ) :
    match registry.reached? token path with
    | none => ∃ response left, registry.dispatch token path factory world = (.ok response, left) ∧
      match registry.routes.resolve path with
      | none => response.status = .notFound ∧ registry.Announces none .empty response
      | some found => response = registry.describe found.value token.isMeta ∧
        response.status = (if token.isMeta then .noContent else .methodNotAllowed) ∧
        response.headers.valuesOf .contentLength = response.announcedLength
    | some (registration, params) =>
      match factory params world with
      | (.error payload, left) =>
        registry.dispatch token path factory world = (.error payload, left)
      | (.ok request, ready) => ∃ response left,
        registry.dispatch token path factory world = (.ok response, left) ∧
        registry.Announces (some registration) (registration.givenHeaders request ready)
          response := by
  split
  · rename_i missed
    obtain ⟨response, dispatched, notFound, described⟩ := dispatch_unreached missed factory world
    refine ⟨response, _, dispatched, ?_⟩
    split
    · rename_i nowhere
      obtain rfl := notFound nowhere
      have status := registry.status_finish none (registry.errorResponse .notFound)
      rw [errorResponse, Response.withBody, Response.status_normalize] at status
      exact ⟨status, registry.announces_errorResponse none rfl⟩
    · rename_i found resolved
      obtain rfl := described found resolved
      refine ⟨rfl, ?_, registry.length_describe found.value token.isMeta⟩
      cases token.isMeta <;> rfl
  · rename_i registration params reached
    split
    · rename_i panicked
      exact dispatch_panicked reached panicked
    · rename_i request ready made
      exact ⟨_, _, dispatch_made reached made rfl, registry.announces_answer registration request ready⟩

end Registry

end HttpDispatch
