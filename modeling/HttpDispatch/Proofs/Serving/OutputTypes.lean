import Mathlib.Data.List.TakeWhile
import HttpDispatch.Proofs.Serving.Announcing
import HttpDispatch.Proofs.Serving.Streaming

/-!
What endpoints declare to produce. A successful response with a body has to be of the type and
subtype that its endpoint declares; a response that is sent is of the very media type. What the
context holds as the endpoint has no part in it.
-/

namespace HttpDispatch

/-! ### Type and subtype -/

namespace Mime

/-- The type and subtype of a media type: its text up to its parameters. -/
def HasEssence (mime : Mime) (essence : List Char) : Prop :=
  ';' ∉ essence ∧ (mime.text.toList = essence ∨
    ∃ parameters, mime.text.toList = essence ++ ';' :: parameters)

/-- Two media types have the same type and subtype, in whatever letter case. -/
def Agrees (left right : Mime) : Prop :=
  ∃ first second, left.HasEssence first ∧ right.HasEssence second ∧
    first.map Char.toLower = second.map Char.toLower

theorem hasEssence_essence (mime : Mime) : mime.HasEssence mime.essence.toList := by
  have split := mime.text.toList.takeWhile_append_dropWhile (p := (· ≠ ';'))
  rw [essence, String.toList_ofList]
  constructor
  · intro member
    exact absurd (List.mem_takeWhile_imp member) (by simp)
  · cases rest : mime.text.toList.dropWhile (· ≠ ';') with
    | nil =>
      rw [rest, List.append_nil] at split
      exact .inl split.symm
    | cons first parameters =>
      have stops : first = ';' := by
        have stopped := List.head?_dropWhile_not (· ≠ ';') mime.text.toList
        rw [rest] at stopped
        simpa using stopped
      rw [rest, stops] at split
      exact .inr ⟨parameters, split.symm⟩

theorem HasEssence.eq {mime : Mime} {essence : List Char} (has : mime.HasEssence essence) :
    mime.essence.toList = essence := by
  obtain ⟨bare, whole⟩ := has
  have kept : ∀ letter ∈ essence, decide (letter ≠ ';') = true := by
    intro letter member
    exact decide_eq_true fun same => bare (same ▸ member)
  rw [Mime.essence, String.toList_ofList]
  obtain whole | ⟨parameters, whole⟩ := whole
  · rw [whole]
    exact List.takeWhile_eq_self_iff.mpr kept
  · rw [whole, List.takeWhile_append_of_pos kept]
    exact List.append_nil essence

theorem sameEssence_iff {left right : Mime} : left.sameEssence right = true ↔ left.Agrees right := by
  rw [sameEssence, beq_iff_eq]
  constructor
  · intro same
    exact ⟨_, _, left.hasEssence_essence, right.hasEssence_essence, same⟩
  · rintro ⟨first, second, hasFirst, hasSecond, same⟩
    rw [hasFirst.eq, hasSecond.eq, same]

end Mime

/-! ### Holding a response to a type -/

/-- A successful response whose body may have bytes, but of another type than was declared. -/
structure Response.Mislabelled (given : Response) (declared : Mime) : Prop where
  success : 200 ≤ given.status.code ∧ given.status.code ≤ 299
  nonempty : given.body.size ≠ some 0
  differs : ¬declared.Agrees given.body.mime

theorem Response.mislabelled_iff {given : Response} {declared : Mime} :
    given.Mislabelled declared ↔
      (given.status.isSuccess && !given.body.isEmpty &&
        !declared.sameEssence given.body.mime) = true := by
  have success : given.status.isSuccess = true ↔
      200 ≤ given.status.code ∧ given.status.code ≤ 299 := by
    simp only [Status.isSuccess, Bool.and_eq_true, decide_eq_true_eq]
    omega
  have empty : given.body.isEmpty = true ↔ given.body.size = some 0 := beq_iff_eq
  rw [Bool.and_eq_true, Bool.and_eq_true, success, Bool.not_eq_true', Bool.not_eq_true',
    ← Bool.not_eq_true, ← Bool.not_eq_true, empty, Mime.sameEssence_iff]
  exact ⟨fun wrong => ⟨⟨wrong.success, wrong.nonempty⟩, wrong.differs⟩,
    fun wrong => ⟨wrong.1.1, wrong.1.2, wrong.2⟩⟩

/-- The same response, with its body declared to be of a media type. -/
def Response.labelled (given : Response) (mime : Mime) : Response :=
  { given with body := given.body.withMime mime }

namespace Endpoint

variable {endpoint : Endpoint} {given : Response}

theorem enforceOutput_of_mislabelled {declared : Mime} (produces : endpoint.produces = some declared)
    (wrong : given.Mislabelled declared) :
    endpoint.enforceOutput given =
      .error (.ofLayer (.outputType endpoint.display declared given.body.mime)) := by
  simp only [enforceOutput, produces]
  exact if_pos (Response.mislabelled_iff.mp wrong)

theorem enforceOutput_of_fits
    (fits : ∀ declared, endpoint.produces = some declared → ¬given.Mislabelled declared) :
    endpoint.enforceOutput given =
      .ok (given.labelled (endpoint.produces.getD given.body.mime)) := by
  cases produces : endpoint.produces with
  | none => simp only [enforceOutput, produces]; rfl
  | some declared =>
    simp only [enforceOutput, produces]
    exact if_neg fun wrong => fits declared produces (Response.mislabelled_iff.mpr wrong)

end Endpoint

variable {κ σ : Type} [DecidableEq κ] [ContextCatalog κ]

/-- The hooks and the handler of a registration succeed, and this response is left in the context,
or none. -/
inductive Registration.Leaves (registration : Registration κ σ) (request : Request)
    (world : World σ) (given : Option Response) (left : World σ) : Prop where
  | leaves {context last : Context κ} {ready served : World σ} {response : Response}
    (began : registration.before (.seeded request registration.endpoint) world =
      (.ok ((), context), ready))
    (replied : registration.handler.serve context ready = (.ok response, served))
    (ended : registration.after (context.setResponse
        (if registration.endpoint.isVoid then .withBody .ok .empty else response)) served =
      (.ok ((), last), left))
    (held : last.response = given)

/-- A registration that leaves a response has this one held to what its own endpoint declares. -/
theorem Registration.Leaves.serve_eq {registration : Registration κ σ} {request : Request}
    {world left : World σ} {given : Option Response}
    (leaves : registration.Leaves request world given left) :
    Registry.serve registration request world =
      ((registration.endpoint.enforceOutput (given.getD (.ofBody .empty))).mapError .failed,
        left) := by
  obtain ⟨began, replied, ended, rfl⟩ := leaves
  have ran : registration.run (.seeded request registration.endpoint) world = _ :=
    (Service.bind_ok began).trans ((Service.bind_ok replied).trans (Service.bind_ok ended))
  refine (Service.bind_ok ran).trans ?_
  cases registration.endpoint.enforceOutput _ <;> rfl

namespace Registry

/-- The answer to a response that the application left, by what the endpoint declares. -/
inductive Enforces (registry : Registry κ σ) (endpoint : Endpoint) (given : Response) :
    Option Fault → Response → Prop where
  | fails {declared : Mime} {response : Response} (produces : endpoint.produces = some declared)
    (wrong : given.Mislabelled declared)
    (answers : registry.Answers endpoint
      (.ofLayer (.outputType endpoint.display declared given.body.mime)) response) :
    Enforces registry endpoint given
      (some (.ofLayer (.outputType endpoint.display declared given.body.mime))) response
  | passes {response : Response}
    (fits : ∀ declared, endpoint.produces = some declared → ¬given.Mislabelled declared)
    (status : response.status = given.status)
    (mime : response.body.mime = endpoint.produces.getD given.body.mime)
    (size : response.body.size = given.body.size)
    (source : response.body.source = given.body.source)
    (type : 200 ≤ given.status.code → given.status.code ≠ 204 →
      response.headers.valuesOf .contentType = [response.body.mime.text]) :
    Enforces registry endpoint given none response

/-- A response that fits is sent as of the media type that is declared. -/
theorem enforces_labelled (registry : Registry κ σ) (registration : Registration κ σ)
    {given : Response} (fits : ∀ declared, registration.endpoint.produces = some declared →
      ¬given.Mislabelled declared) :
    registry.Enforces registration.endpoint given none (registry.finish (some registration)
      (given.labelled (registration.endpoint.produces.getD given.body.mime))) := by
  refine .passes fits ?_ ?_ ?_ ?_ ?_
  · exact registry.status_finish _ _
  · exact congrArg Body.mime (registry.body_finish _ _)
  · rw [body_finish]
    rfl
  · rw [body_finish]
    rfl
  · intro known content
    refine (registry.announces_finish _ _).type ?_
    rw [status_finish]
    exact Response.hasContent_iff.mpr ⟨known, content⟩

theorem enforces_answer (registry : Registry κ σ) (registration : Registration κ σ)
    (given : Response) :
    registry.Enforces registration.endpoint given
      (faultOf (α := Response) ((registration.endpoint.enforceOutput given).mapError .failed))
      (registry.answer registration
        ((registration.endpoint.enforceOutput given).mapError .failed)) := by
  by_cases fits : ∀ declared, registration.endpoint.produces = some declared →
      ¬given.Mislabelled declared
  · rw [Endpoint.enforceOutput_of_fits fits]
    exact registry.enforces_labelled registration fits
  · obtain ⟨declared, wrong⟩ := not_forall.mp fits
    obtain ⟨produces, wrong⟩ := Classical.not_imp.mp wrong
    rw [Endpoint.enforceOutput_of_mislabelled produces (not_not.mp wrong)]
    exact .fails produces (not_not.mp wrong) (registry.answers_finish registration _)

/-- A dispatch whose hooks and handler succeed answers what its endpoint declares to produce. -/
theorem dispatch_enforces {registry : Registry κ σ} {token : MethodToken} {path : String}
    {registration : Registration κ σ} {params : List String} {factory : RequestFactory σ}
    {request : Request} {world ready left : World σ} {given : Option Response}
    (reached : registry.reached? token path = some (registration, params))
    (made : factory params world = (.ok request, ready))
    (leaves : registration.Leaves request ready given left) :
    ∃ fault response,
      registry.dispatch token path factory world =
        (.ok response, left.reported registry.log
          (.ofFault response.status token.text path fault)) ∧
      registry.Enforces registration.endpoint (given.getD (.ofBody .empty)) fault response :=
  ⟨_, _, dispatch_made reached made leaves.serve_eq, registry.enforces_answer registration _⟩

end Registry

/-- A set whose endpoint declares to produce a page and answers with text. What is done before it
makes the endpoint in the context one that produces text. -/
def EndpointSet.mislabelling : EndpointSet Empty Unit where
  owner := "Pages"
  declarations := [Declaration.producing (.ofHandler .get "/"
    ⟨fun _ => pure (.ofBody ((Body.ofBytes [104, 105]).withMime .textPlain)), false⟩) .textHtml]
  before context := pure ((), context.modify .endpoint fun endpoint =>
    { endpoint with produces := some .textPlain })
  after context := pure ((), context)

def Registry.mislabelling : Registry Empty Unit :=
  (Registry.empty {} .standard .errorPage (fun _ app => app) .empty).after
    [.register .mislabelling]

/-- The text is not sent, although it is what the endpoint in the context produces. -/
theorem mislabelling_enforced :
    ∃ endpoint fault response left,
      Registry.mislabelling.dispatch (.verb .get) "/" (.bare "/") ⟨.empty, ()⟩ =
        (.ok response, left) ∧
      fault = .ofLayer (.outputType "GET /" .textHtml .textPlain) ∧
      Registry.mislabelling.Answers endpoint fault response ∧ response.status.code = 500 := by
  have served : ∃ registration params request ready given left,
      Registry.mislabelling.reached? (.verb .get) "/" = some (registration, params) ∧
      RequestFactory.bare "/" params ⟨.empty, ()⟩ = (.ok request, ready) ∧
      registration.Leaves request ready (some given) left ∧
      registration.endpoint.produces = some .textHtml ∧
      registration.endpoint.display = "GET /" ∧
      given.status = .ok ∧ given.body.size = some 2 ∧ given.body.mime = .textPlain := by
    refine ⟨_, _, _, _, _, _, rfl, rfl, .leaves rfl rfl rfl rfl, ?_⟩
    exact ⟨rfl, rfl, rfl, rfl, rfl⟩
  obtain ⟨registration, params, request, ready, given, left, reached, made, leaves, produces,
    display, status, size, mime⟩ := served
  have wrong : given.Mislabelled .textHtml := by
    rw [Response.mislabelled_iff, status, Body.isEmpty, size, mime]
    decide
  obtain ⟨fault, response, dispatched, enforces⟩ :=
    Registry.dispatch_enforces reached made leaves
  cases enforces with
  | passes fits => exact absurd wrong (fits _ produces)
  | fails declares _ answers =>
    cases produces.symm.trans declares
    refine ⟨registration.endpoint, _, response, _, dispatched, ?_, answers, ?_⟩
    · rw [display, Option.getD_some, mime]
    · rw [answers.status]
      rfl

end HttpDispatch
