import HttpDispatch.Proofs.Message.EntityHeaders
import HttpDispatch.Proofs.Serving.Observation

/-!
The life of a dispatch. Code of the application is run only for a request that reaches a
registration, stage by stage up to the first that stops; what stopped it decides the answer, and
every dispatch is reported once.
-/

namespace HttpDispatch

variable {κ σ : Type} [DecidableEq κ] [ContextCatalog κ]

/-- A factory of requests that does not panic. -/
def RequestFactory.returning (make : List String → StateM (World σ) Request) :
    RequestFactory σ := fun params world => (.ok (make params world).1, (make params world).2)

/-- The fault of a request that was stopped. -/
def faultOf : Except (Stop Fault) α → Option Fault
  | .ok _ => none
  | .error stop => some stop.toFault

/-- A world in which a dispatch was reported. -/
def World.reported (world : World σ) (log : Record → σ → σ) (record : Record) : World σ :=
  { world with app := log record world.app }

namespace Registry

/-- The registration that a request reaches, with the segments that its path captures. A request
about the route itself reaches none. -/
def reached? (registry : Registry κ σ) (token : MethodToken) (path : String) :
    Option (Registration κ σ × List String) := do
  let found ← registry.routes.resolve path
  if token.isMeta then none
  else
    let registration ← token.verb?.bind (VerbTable.find? found.value)
    return (registration, found.captured)

/-- The values of the headers of an error page: they describe the page, and the endpoint. -/
def errorHeaders (registry : Registry κ σ) (endpoint : Endpoint) (page : Body)
    (name : HeaderName) : List String :=
  if name = .contentType then [page.mime.text]
  else if name = .contentLength then (page.size.map toString).toList
  else if name = .accept ∧ endpoint.verb ≠ .get then
    [(endpoint.inType registry.config.defaultIn).text]
  else []

/-- The answer to a fault: the page for its status, and nothing else. -/
structure Answers (registry : Registry κ σ) (endpoint : Endpoint) (fault : Fault)
    (response : Response) : Prop where
  status : response.status = registry.classifier.classify fault
  isError : 400 ≤ response.status.code ∧ response.status.code ≤ 599
  page : response.body = registry.errorBody response.status
  headers : ∀ name,
    response.headers.valuesOf name = registry.errorHeaders endpoint response.body name

theorem select_of_reached {registry : Registry κ σ} {token : MethodToken} {path : String}
    {registration : Registration κ σ} {params : List String}
    (reached : registry.reached? token path = some (registration, params)) :
    registry.select token path = .matched registration params := by
  unfold reached? at reached
  unfold select
  cases resolved : registry.routes.resolve path with
  | none => simp [resolved] at reached
  | some found =>
    cases asked : token.isMeta with
    | true => simp [resolved, asked] at reached
    | false =>
      cases known : token.verb?.bind (VerbTable.find? found.value) with
      | none => simp [resolved, asked, known] at reached
      | some held => simp_all

theorem select_of_unreached {registry : Registry κ σ} {token : MethodToken} {path : String}
    (missed : registry.reached? token path = none) :
    registry.routes.resolve path = none ∧ registry.select token path = .notFound ∨
      ∃ found, registry.routes.resolve path = some found ∧
        registry.select token path = .answered (registry.describe found.value token.isMeta) := by
  unfold reached? at missed
  unfold select
  cases resolved : registry.routes.resolve path with
  | none => exact .inl ⟨rfl, rfl⟩
  | some found =>
    refine .inr ⟨found, rfl, ?_⟩
    cases asked : token.isMeta with
    | true => simp
    | false =>
      cases known : token.verb?.bind (VerbTable.find? found.value) with
      | none => simp [known]
      | some held => simp [resolved, asked, known] at missed

theorem status_finish (registry : Registry κ σ) (registration : Option (Registration κ σ))
    (response : Response) : (registry.finish registration response).status = response.status := by
  unfold finish
  cases registration with
  | none => exact response.status_normalize
  | some registration =>
    simp only
    split <;> exact response.status_normalize

theorem body_finish (registry : Registry κ σ) (registration : Option (Registration κ σ))
    (response : Response) : (registry.finish registration response).body = response.body := by
  unfold finish
  cases registration with
  | none => exact response.body_normalize
  | some registration =>
    simp only
    split <;> exact response.body_normalize

/-- The headers of an error page come from the page and the endpoint alone. -/
theorem valuesOf_finish_errorResponse (registry : Registry κ σ) (registration : Registration κ σ)
    {status : Status} (isError : status.isError = true) (name : HeaderName) :
    (registry.finish (some registration) (registry.errorResponse status)).headers.valuesOf name =
      registry.errorHeaders registration.endpoint (registry.errorBody status) name := by
  have content := Response.hasContent_of_isError isError
  have kept : Response.hasContent (registry.errorResponse status).status := by
    rwa [errorResponse, Response.withBody, Response.status_normalize]
  have page (name : HeaderName) : (registry.errorResponse status).normalize.headers.valuesOf name =
      if name = .contentType then [(registry.errorBody status).mime.text]
      else if name = .contentLength then ((registry.errorBody status).size.map toString).toList
      else [] := by
    rw [Response.valuesOf_normalize kept, errorResponse, Response.valuesOf_withBody content,
      Response.withBody, Response.body_normalize]
    by_cases type : name = .contentType
    · rw [if_pos type, if_pos type]
    · rw [if_neg type, if_neg type]
      split <;> rfl
  have bare : (registry.errorResponse status).normalize.headers.contains .accept = false := by
    rw [Headers.contains_eq_isEmpty, page]
    rfl
  unfold finish errorHeaders
  by_cases get : registration.endpoint.verb = .get
  · simp [get, page]
  · simp only [get, bare, false_or, Bool.false_eq_true, if_false, Headers.valuesOf_insert, page]
    by_cases accept : name = .accept
    · subst accept
      simp [get, HeaderName.accept, HeaderName.contentType, HeaderName.contentLength]
    · simp [accept, Ne.symm accept]

theorem answers_finish (registry : Registry κ σ) (registration : Registration κ σ)
    (fault : Fault) :
    registry.Answers registration.endpoint fault (registry.finish (some registration)
      (registry.errorResponse (registry.classifier.classify fault))) := by
  have isError := registry.classifier.isError_classify fault
  generalize chosen : registry.classifier.classify fault = status at isError
  have status_eq : (registry.finish (some registration) (registry.errorResponse status)).status =
      status := by
    rw [status_finish, errorResponse, Response.withBody, Response.status_normalize]
  have body_eq : (registry.finish (some registration) (registry.errorResponse status)).body =
      registry.errorBody status := by
    rw [body_finish, errorResponse, Response.withBody, Response.body_normalize]
  refine ⟨status_eq.trans chosen.symm, ?_, ?_, ?_⟩
  · rw [status_eq]
    exact Status.isError_iff.mp isError
  · rw [body_eq, status_eq]
  · intro name
    rw [body_eq]
    exact registry.valuesOf_finish_errorResponse registration isError name

/-- A dispatch that reaches no registration runs nothing of the application but the report. -/
theorem dispatch_unreached {registry : Registry κ σ} {token : MethodToken} {path : String}
    (missed : registry.reached? token path = none) (factory : RequestFactory σ)
    (world : World σ) :
    ∃ response,
      registry.dispatch token path factory world =
        (.ok response,
          world.reported registry.log (.ofFault response.status token.text path none)) ∧
      (registry.routes.resolve path = none →
        response = registry.finish none (registry.errorResponse .notFound)) ∧
      ∀ found, registry.routes.resolve path = some found →
        response = registry.describe found.value token.isMeta := by
  unfold dispatch
  rcases registry.select_of_unreached missed with ⟨resolved, selected⟩ | ⟨found, resolved, selected⟩
  · rw [selected]
    refine ⟨_, rfl, fun _ => rfl, ?_⟩
    intro other here
    rw [resolved] at here
    cases here
  · rw [selected]
    refine ⟨_, rfl, ?_, ?_⟩
    · intro none
      rw [resolved] at none
      cases none
    · intro other here
      rw [resolved] at here
      cases here
      rfl

/-- The answer to what serving a request came to. -/
def answer (registry : Registry κ σ) (registration : Registration κ σ) :
    Except (Stop Fault) Response → Response
  | .ok sent => registry.finish (some registration) sent
  | .error stop => registry.finish (some registration)
    (registry.errorResponse (registry.classifier.classify stop.toFault))

/-- A dispatch that reaches a registration serves the request once it is made, and reports what it
came to. -/
theorem dispatch_made {registry : Registry κ σ} {token : MethodToken} {path : String}
    {registration : Registration κ σ} {params : List String} {factory : RequestFactory σ}
    {request : Request} {world ready left : World σ} {ending : Except (Stop Fault) Response}
    (reached : registry.reached? token path = some (registration, params))
    (made : factory params world = (.ok request, ready))
    (served : serve registration request ready = (ending, left)) :
    registry.dispatch token path factory world =
      (.ok (registry.answer registration ending),
        left.reported registry.log (.ofFault (registry.answer registration ending).status
          token.text path (faultOf ending))) := by
  have contained : (ExceptT.lift (serve registration request).contain :
      Dispatching σ (Except Fault Response)) ready = (.ok (ending.mapError Stop.toFault), left) := by
    simp only [ExceptT.lift, ExceptT.mk, Functor.map, StateT.map, Service.contain, served]
    rfl
  unfold dispatch
  rw [registry.select_of_reached reached]
  simp only [bind, ExceptT.bind, ExceptT.mk, StateT.bind, made]
  simp only [ExceptT.bindCont, StateT.bind, contained]
  cases ending <;> rfl

/-- A dispatch that reaches a plan makes the request, serves it, and reports what it came to. -/
theorem dispatch_of_comes {registry : Registry κ σ} {token : MethodToken} {path : String}
    {make : List String → StateM (World σ) Request} {world left : World σ} {plan : Plan κ σ}
    {params : List String} {ran : List Stage} {ending : Except (Stop Fault) Response}
    (reached : registry.reached? token path = some (plan.registration, params))
    (comes : plan.Comes (make params world).1 (make params world).2 ran ending left) :
    registry.dispatch token path (.returning make) world =
      (.ok (registry.answer plan.registration ending),
        left.reported registry.log (.ofFault (registry.answer plan.registration ending).status
          token.text path (faultOf ending))) :=
  dispatch_made reached rfl comes.serve_eq

/-- A dispatch always answers and reports once. Nothing else is run for a request that reaches no
registration. For one that reaches a registration the request is made, the stages of serving it
are run up to the first that stops, and this one decides the answer; where every stage is noted
when it is run, the notes are these stages. -/
theorem dispatch_lifecycle (registry : Registry κ σ) (token : MethodToken) (path : String)
    (make : List String → StateM (World σ) Request) (world : World σ) :
    (registry.reached? token path = none → ∀ factory : RequestFactory σ, ∃ response,
      registry.dispatch token path factory world =
        (.ok response,
          world.reported registry.log (.ofFault response.status token.text path none)) ∧
      (registry.routes.resolve path = none →
        response = registry.finish none (registry.errorResponse .notFound)) ∧
      ∀ found, registry.routes.resolve path = some found →
        response = registry.describe found.value token.isMeta) ∧
    ∀ (plan : Plan κ σ) (params : List String),
      registry.reached? token path = some (plan.registration, params) →
      ∃ response ran ending left,
        plan.Comes (make params world).1 (make params world).2 ran ending left ∧
        ran <+: plan.schedule ∧
        registry.dispatch token path (.returning make) world =
          (.ok response, left.reported registry.log
            (.ofFault response.status token.text path (faultOf ending))) ∧
        (match ending with
        | .error stop => registry.Answers plan.endpoint stop.toFault response
        | .ok sent =>
          ran = plan.schedule ∧ response = registry.finish (some plan.registration) sent) ∧
        ∀ (watching : Registry κ (Observed σ)) (log : Record → σ → σ),
          watching.reached? token path = some (plan.noting.registration, params) →
          ∃ seen,
            { watching with log := Observed.log log }.dispatch token path
                (.returning (Stage.notingRequest make)) (world.noted []) =
              (.ok seen,
                (left.reported log (.ofFault seen.status token.text path (faultOf ending))).noted
                  (.makeRequest params :: ran ++
                    [.log (.ofFault seen.status token.text path (faultOf ending))])) := by
  constructor
  · intro missed factory
    exact dispatch_unreached missed factory world
  · intro plan params reached
    obtain ⟨ran, ending, left, comes⟩ :=
      plan.exists_comes (make params world).1 (make params world).2
    refine ⟨_, ran, ending, left, comes, comes.within.1, dispatch_of_comes reached comes, ?_, ?_⟩
    · cases ending with
      | error stop => exact registry.answers_finish plan.registration stop.toFault
      | ok sent => exact ⟨comes.within.2 sent rfl, rfl⟩
    · intro watching log watched
      -- The same plan, its stages noted, comes to the same in the same way.
      have noted : plan.noting.Comes (Stage.notingRequest make params (world.noted [])).1
        (Stage.notingRequest make params (world.noted [])).2 ran ending
        (left.noted (.makeRequest params :: ran)) := comes.noting [.makeRequest params]
      have same : ({ watching with log := Observed.log log } : Registry κ (Observed σ)).reached?
        token path = some (plan.noting.registration, params) := watched
      exact ⟨_, dispatch_of_comes same noted⟩

end Registry

end HttpDispatch
