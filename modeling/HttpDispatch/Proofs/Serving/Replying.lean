import HttpDispatch.Proofs.Serving.OutputTypes

/-!
What replies stand for. A reply is looked through from the outside in, up to an error, to nothing or
to a value; what is found there gives the body and the headers, and the outermost status on the way
counts more than its own.
-/

namespace HttpDispatch

/-! ### Looking through a reply -/

/-- What a reply that is no failure comes down to. -/
inductive Innermost where
  | nothing
  | unit
  | text (words : String)
  | body (content : Body)
  | response (given : Response)

namespace Innermost

def content : Innermost → Body
  | nothing | unit => .empty
  | text words => .ofText words
  | body content => content
  | response given => given.body

/-- The status where none stands around it. -/
def status : Innermost → Status
  | nothing => .noContent
  | unit => .ok
  | text words => if (Body.ofText words).size = some 0 then .noContent else .ok
  | body content => if content.size = some 0 then .noContent else .ok
  | response given => given.status

/-- The values of its headers: those of a response, and else those that describe the content, if
there is any. -/
def valuesOf (innermost : Innermost) (name : HeaderName) : List String :=
  match innermost with
  | response given => given.headers.valuesOf name
  | nothing | unit | text _ | body _ =>
    if innermost.status = .noContent then []
    else if name = .contentType then [innermost.content.mime.text]
    else if name = .contentLength then (innermost.content.size.map toString).toList
    else []

end Innermost

/-- The way through a reply from the outside in: the statuses on it, and the first error or what it
comes down to. -/
def ReplyShape.way : (shape : ReplyShape) → shape.Value → List Status × Except Fault Innermost
  | unit, () => ([], .ok .unit)
  | text, words => ([], .ok (.text words))
  | body, content => ([], .ok (.body content))
  | response, given => ([], .ok (.response given))
  | result _, .error fault => ([], .error fault)
  | result inner, .ok reply => inner.way reply
  | option _, none => ([], .ok .nothing)
  | option inner, some reply => inner.way reply
  | withStatus inner, (status, reply) =>
    (status :: (inner.way reply).1, (inner.way reply).2)

/-- The unit inside so many results. -/
def ReplyShape.results : (layers : Nat) → ReplyShape
  | 0 => .unit
  | layers + 1 => .result (results layers)

/-! ### What it stands for -/

namespace Response

theorem status_ofBody (content : Body) :
    (ofBody content).status = if content.size = some 0 then .noContent else .ok := by
  simp only [ofBody, withBody, status_normalize, Body.isEmpty, beq_iff_eq]

end Response

namespace Innermost

/-- The response that is made of it. -/
def own : Innermost → Response
  | nothing => .ofBody .empty
  | unit => .withBody .ok .empty
  | text words => .ofBody (.ofText words)
  | body content => .ofBody content
  | response given => given

theorem status_own (innermost : Innermost) : innermost.own.status = innermost.status := by
  cases innermost with
  | nothing => rfl
  | unit => rfl
  | text words => exact Response.status_ofBody _
  | body content => exact Response.status_ofBody content
  | response given => rfl

theorem body_own (innermost : Innermost) : innermost.own.body = innermost.content := by
  cases innermost with
  | nothing => rfl
  | unit => rfl
  | text words => exact Response.body_normalize _
  | body content => exact Response.body_normalize _
  | response given => rfl

theorem valuesOf_own (innermost : Innermost) (name : HeaderName) :
    innermost.own.headers.valuesOf name = innermost.valuesOf name := by
  have ofBody (content : Body) : (Response.ofBody content).headers.valuesOf name =
      if (if content.size = some 0 then Status.noContent else .ok) = .noContent then []
      else if name = .contentType then [content.mime.text]
      else if name = .contentLength then (content.size.map toString).toList
      else [] := by
    rw [Response.ofBody, Body.isEmpty]
    by_cases none : content.size = some 0
    · rw [if_pos (beq_iff_eq.mpr none), if_pos none, if_pos rfl]
      exact Response.valuesOf_withBody_of_bare (by decide) content name
    · rw [if_neg (mt beq_iff_eq.mp none), if_neg none, if_neg (by decide)]
      exact Response.valuesOf_withBody (by decide) content name
  cases innermost with
  | nothing => exact ofBody .empty
  | unit => exact Response.valuesOf_withBody (by decide) .empty name
  | text words => exact ofBody _
  | body content => exact ofBody content
  | response given => rfl

/-- The response with these statuses around it, of which the outermost counts. -/
def within (innermost : Innermost) (statuses : List Status) : Response :=
  { innermost.own with status := statuses.head?.getD innermost.own.status }

theorem status_within (innermost : Innermost) (statuses : List Status) :
    (innermost.within statuses).status = statuses.head?.getD innermost.status := by
  rw [← status_own]
  rfl

theorem body_within (innermost : Innermost) (statuses : List Status) :
    (innermost.within statuses).body = innermost.content :=
  innermost.body_own

theorem valuesOf_within (innermost : Innermost) (statuses : List Status) (name : HeaderName) :
    (innermost.within statuses).headers.valuesOf name = innermost.valuesOf name :=
  innermost.valuesOf_own name

end Innermost

namespace ReplyShape

/-- A reply fails as the way through it does, or is the response of what it comes down to. -/
theorem respond_eq (shape : ReplyShape) (reply : shape.Value) :
    shape.respond reply =
      (shape.way reply).2.map fun innermost => innermost.within (shape.way reply).1 := by
  induction shape with
  | unit => rfl
  | text => rfl
  | body => rfl
  | response => rfl
  | result inner ih =>
    cases reply with
    | error fault => rfl
    | ok reply => exact ih reply
  | option inner ih =>
    cases reply with
    | none => rfl
    | some reply => exact ih reply
  | withStatus inner ih =>
    obtain ⟨status, reply⟩ := reply
    simp only [respond, way, ih]
    cases (inner.way reply).2 <;> rfl

/-- Void is the unit in results, and nothing else. -/
theorem isVoid_iff (shape : ReplyShape) :
    shape.isVoid = true ↔ ∃ layers, shape = results layers := by
  constructor
  · intro isVoid
    induction shape with
    | unit => exact ⟨0, rfl⟩
    | result inner ih =>
      obtain ⟨layers, rfl⟩ := ih isVoid
      exact ⟨layers + 1, rfl⟩
    | text | body | response | option | withStatus => cases isVoid
  · rintro ⟨layers, rfl⟩
    induction layers with
    | zero => rfl
    | succ layers ih => exact ih

end ReplyShape

/-! ### Sending it -/

variable {κ σ : Type} [DecidableEq κ] [ContextCatalog κ]

/-- What does nothing. -/
def Hook.idle : Hook κ σ := pure ()

/-- A declaration of a handler, with what it then declares to consume and to produce. -/
inductive Declaration.IsBuilt : Declaration κ σ → Prop where
  | ofHandler (verb : Verb) (path : String) (handler : Handler κ σ) :
    IsBuilt (.ofHandler verb path handler)
  | consuming {declaration : Declaration κ σ} (built : IsBuilt declaration) (mime : Mime) :
    IsBuilt (declaration.consuming mime)
  | producing {declaration : Declaration κ σ} (built : IsBuilt declaration) (mime : Mime) :
    IsBuilt (declaration.producing mime)

theorem Declaration.IsBuilt.isVoid_eq {declaration : Declaration κ σ}
    (built : declaration.IsBuilt) : declaration.endpoint.isVoid = declaration.handler.isVoid := by
  induction built with
  | ofHandler verb path handler => rfl
  | consuming built mime ih =>
    refine Eq.trans ?_ ih
    rw [Declaration.consuming, Endpoint.consuming]
    split <;> rfl
  | producing built mime ih => exact ih

theorem EndpointSet.of_mem_registrations (endpoints : EndpointSet κ σ)
    {registration : Registration κ σ} (member : registration ∈ endpoints.registrations) :
    registration.before = endpoints.before ∧ registration.after = endpoints.after ∧
      ∃ declaration ∈ endpoints.declarations,
        registration.endpoint.isVoid = declaration.endpoint.isVoid ∧
        registration.handler = declaration.handler := by
  obtain ⟨declaration, declared, rfl⟩ := List.mem_map.mp member
  exact ⟨rfl, rfl, declaration, declared, rfl, rfl⟩

/-- A function of a set that does nothing before and after gets its arguments and gives a reply. -/
structure Registration.RepliesWith (registration : Registration κ σ) (request : Request)
    (world : World σ) (shape : ReplyShape) (reply : shape.Value) (left : World σ) : Prop where
  /-- The set declares the function, and nothing is done around it. -/
  declared : ∃ endpoints : EndpointSet κ σ, registration ∈ endpoints.registrations ∧
    (∀ declaration ∈ endpoints.declarations, declaration.IsBuilt) ∧
    endpoints.before = Hook.idle ∧ endpoints.after = Hook.idle
  replied : ∃ (types : List Type) (arguments : Arguments κ σ types)
      (call : Tuple types → Service σ shape.Value) (values : Tuple types) (ready : World σ),
    registration.handler = .ofFunction arguments shape call ∧
    arguments.take (.seeded request registration.endpoint) world = (.ok values, ready) ∧
    call values ready = (.ok reply, left)

namespace Registration.RepliesWith

variable {registration : Registration κ σ} {request : Request} {world left : World σ}
variable {shape : ReplyShape} {reply : shape.Value}
variable (replies : registration.RepliesWith request world shape reply left)

include replies

theorem isVoid_eq : registration.endpoint.isVoid = shape.isVoid := by
  obtain ⟨⟨endpoints, member, built, -, -⟩, types, arguments, call, -, -, handler, -, -⟩ := replies
  obtain ⟨-, -, declaration, declared, endpoint, same⟩ := endpoints.of_mem_registrations member
  rw [endpoint, (built declaration declared).isVoid_eq, ← same, handler]
  rfl

theorem idle : registration.before = Hook.idle ∧ registration.after = Hook.idle := by
  obtain ⟨⟨endpoints, member, -, before, after⟩, -⟩ := replies
  obtain ⟨sameBefore, sameAfter, -⟩ := endpoints.of_mem_registrations member
  exact ⟨sameBefore.trans before, sameAfter.trans after⟩

theorem before_seeded : registration.before (.seeded request registration.endpoint) world =
    (.ok ((), .seeded request registration.endpoint), world) := by
  rw [replies.idle.1]
  rfl

theorem handler_eq : registration.handler.serve (.seeded request registration.endpoint) world =
    ((shape.respond reply).mapError .failed, left) := by
  obtain ⟨-, types, arguments, call, values, ready, handler, taken, called⟩ := replies
  rw [handler]
  refine (Service.bind_ok taken).trans ((Service.bind_ok called).trans ?_)
  cases shape.respond reply <;> rfl

/-- What a function replies is left in the context, or an empty success if it is void. -/
theorem leaves {response : Response} (responded : shape.respond reply = .ok response) :
    registration.Leaves request world
      (some (if shape.isVoid then .withBody .ok .empty else response)) left := by
  have handled := replies.handler_eq
  have began := replies.before_seeded
  have ended : registration.after ((Context.seeded request registration.endpoint).setResponse
      (if registration.endpoint.isVoid then .withBody .ok .empty else response)) left =
      (.ok ((), (Context.seeded request registration.endpoint).setResponse
        (if registration.endpoint.isVoid then .withBody .ok .empty else response)), left) := by
    rw [replies.idle.2]
    rfl
  rw [responded] at handled
  refine .leaves began handled ended ?_
  rw [replies.isVoid_eq]
  rfl

theorem serve_of_error {fault : Fault} (failed : shape.respond reply = .error fault) :
    Registry.serve registration request world = (.error (.failed fault), left) := by
  have handled := replies.handler_eq
  rw [failed] at handled
  exact Service.bind_error
    ((Service.bind_ok replies.before_seeded).trans (Service.bind_error handled))

end Registration.RepliesWith

namespace Registry

/-- What is left in the context of a reply: an empty success if the function is void. -/
def replied (shape : ReplyShape) (statuses : List Status) (innermost : Innermost) : Response :=
  if shape.isVoid then .withBody .ok .empty else innermost.within statuses

/-- The answer to a reply that was sent. A void function is answered an empty success; another one
is answered what its reply stands for, unless its endpoint declares to produce something else. -/
structure Sends (registry : Registry κ σ) (endpoint : Endpoint) (shape : ReplyShape)
    (statuses : List Status) (innermost : Innermost) (fault : Option Fault)
    (response : Response) : Prop where
  void : shape.isVoid = true → fault = none ∧ response.status = .ok ∧
    response.body.source = .empty ∧ response.body.size = some 0 ∧
    response.headers.valuesOf .contentLength = ["0"]
  keeps : shape.isVoid = false → fault = none →
    response.status = statuses.head?.getD innermost.status ∧
    response.body.source = innermost.content.source ∧
    response.body.size = innermost.content.size
  /-- An empty body is of no other type than declared. -/
  empty : innermost.content.size = some 0 → fault = none
  fails : ∀ other, fault = some other → registry.Answers endpoint other response

theorem Enforces.sends {registry : Registry κ σ} {endpoint : Endpoint} {shape : ReplyShape}
    {statuses : List Status} {innermost : Innermost} {fault : Option Fault} {response : Response}
    (enforces : registry.Enforces endpoint (replied shape statuses innermost) fault response)
    (length : response.headers.valuesOf .contentLength = response.announcedLength) :
    registry.Sends endpoint shape statuses innermost fault response := by
  have void (isVoid : shape.isVoid = true) :
      replied shape statuses innermost = .withBody .ok .empty := if_pos isVoid
  have kept (speaks : shape.isVoid = false) :
      replied shape statuses innermost = innermost.within statuses :=
    if_neg (Bool.not_eq_true _ ▸ speaks)
  cases enforces with
  | fails produces wrong answers =>
    -- A response that is mislabelled has a body, which a void function is not answered.
    have speaks : shape.isVoid = false := by
      refine Bool.eq_false_iff.mpr fun isVoid => wrong.nonempty ?_
      rw [void isVoid]
      rfl
    refine ⟨fun isVoid => ?_, nofun, fun empty => ?_, ?_⟩
    · rw [speaks] at isVoid
      cases isVoid
    · refine absurd ?_ wrong.nonempty
      rw [kept speaks, innermost.body_within, empty]
    · intro other same
      cases same
      exact answers
  | passes fits status mime size source type =>
    refine ⟨fun isVoid => ?_, fun speaks _ => ?_, fun _ => rfl, nofun⟩
    · rw [void isVoid] at status size source
      refine ⟨rfl, status, source, size, ?_⟩
      rw [length, Response.announcedLength, status, size]
      rfl
    · rw [kept speaks, innermost.body_within] at size source
      rw [kept speaks, innermost.status_within] at status
      exact ⟨status, source, size⟩

/-- What a function replies is looked through, and what it comes down to is answered. -/
theorem dispatch_replied {registry : Registry κ σ} {token : MethodToken} {path : String}
    {registration : Registration κ σ} {params : List String} {factory : RequestFactory σ}
    {request : Request} {world ready left : World σ} {shape : ReplyShape} {reply : shape.Value}
    (reached : registry.reached? token path = some (registration, params))
    (made : factory params world = (.ok request, ready))
    (replies : registration.RepliesWith request ready shape reply left) :
    ∃ fault response,
      registry.dispatch token path factory world =
        (.ok response, left.reported registry.log
          (.ofFault response.status token.text path fault)) ∧
      match (shape.way reply).2 with
      | .error failure => fault = some failure ∧
        registry.Answers registration.endpoint failure response
      | .ok innermost =>
        registry.Sends registration.endpoint shape (shape.way reply).1 innermost fault response := by
  have responded := shape.respond_eq reply
  cases found : (shape.way reply).2 with
  | error failure =>
    rw [found] at responded
    refine ⟨_, _, dispatch_made reached made (replies.serve_of_error responded), rfl, ?_⟩
    exact registry.answers_finish registration failure
  | ok innermost =>
    rw [found] at responded
    have served := (replies.leaves responded).serve_eq
    refine ⟨_, _, dispatch_made reached made served, ?_⟩
    refine Enforces.sends (registry.enforces_answer registration _) ?_
    have announces := registry.announces_answer registration request ready
    rw [served] at announces
    exact announces.length

end Registry

/-- Replies compose. Looked through from the outside in, a reply fails with the first error, or else
stands for what it comes down to, with the outermost status on the way. It is void if it is the unit
in any number of results, and only then is answered an empty success whatever it stands for. -/
theorem ReplyShape.composes (shape : ReplyShape) :
    (∀ (reply : shape.Value) (fault : Fault),
      shape.respond reply = .error fault ↔ (shape.way reply).2 = .error fault) ∧
    (∀ (reply : shape.Value) (innermost : Innermost), (shape.way reply).2 = .ok innermost →
      ∃ response, shape.respond reply = .ok response ∧
        response.status = (shape.way reply).1.head?.getD innermost.status ∧
        response.body = innermost.content ∧
        ∀ name, response.headers.valuesOf name = innermost.valuesOf name) ∧
    (shape.isVoid = true ↔ ∃ layers, shape = results layers) ∧
    ∀ (registry : Registry κ σ) (token : MethodToken) (path : String)
      (registration : Registration κ σ) (params : List String) (factory : RequestFactory σ)
      (request : Request) (world ready left : World σ) (reply : shape.Value),
      registry.reached? token path = some (registration, params) →
      factory params world = (.ok request, ready) →
      registration.RepliesWith request ready shape reply left →
      ∃ fault response,
        registry.dispatch token path factory world =
          (.ok response, left.reported registry.log
            (.ofFault response.status token.text path fault)) ∧
        match (shape.way reply).2 with
        | .error failure => fault = some failure ∧
          registry.Answers registration.endpoint failure response
        | .ok innermost =>
          registry.Sends registration.endpoint shape (shape.way reply).1 innermost fault
            response := by
  refine ⟨?_, ?_, shape.isVoid_iff, ?_⟩
  · intro reply fault
    rw [respond_eq]
    cases (shape.way reply).2 <;> simp [Except.map]
  · intro reply innermost found
    have responded := shape.respond_eq reply
    rw [found] at responded
    exact ⟨_, responded, innermost.status_within _, innermost.body_within _,
      innermost.valuesOf_within _⟩
  · intro registry token path registration params factory request world ready left reply
      reached made replies
    exact Registry.dispatch_replied reached made replies

example : ((ReplyShape.withStatus (.result (.withStatus .unit))).respond
    (.notFound, .ok (.ok, ()))).map (·.status) = .ok .notFound := rfl

example : ((ReplyShape.result (.option .text)).respond (.ok none)).map (·.status) =
    .ok .noContent := rfl

/-- A set with a function that may give nothing, which is not void. -/
def EndpointSet.terse : EndpointSet Empty Unit where
  owner := "Terse"
  declarations := [.ofHandler .get "/" (.ofFunction .nil (.option .unit) fun () => pure none)]
  before := Hook.idle
  after := Hook.idle

def Registry.terse : Registry Empty Unit :=
  (Registry.empty {} .standard .errorPage (fun _ app => app) .empty).after [.register .terse]

theorem terse_answered :
    ∃ response left,
      Registry.terse.dispatch (.verb .get) "/" (.bare "/") ⟨.empty, ()⟩ = (.ok response, left) ∧
      response.status = .noContent := by
  obtain ⟨-, -, -, dispatches⟩ := ReplyShape.composes (κ := Empty) (σ := Unit) (.option .unit)
  have served : ∃ registration params request ready,
      Registry.terse.reached? (.verb .get) "/" = some (registration, params) ∧
      RequestFactory.bare "/" params ⟨.empty, ()⟩ = (.ok request, ready) ∧
      registration ∈ EndpointSet.terse.registrations ∧
      registration.handler = .ofFunction .nil (.option .unit) fun () => pure none := by
    refine ⟨_, _, _, _, rfl, rfl, List.mem_singleton.mpr rfl, ?_⟩
    rfl
  obtain ⟨registration, params, request, ready, reached, made, member, handler⟩ := served
  have built : ∀ declaration ∈ EndpointSet.terse.declarations, declaration.IsBuilt := by
    intro declaration declared
    rw [List.mem_singleton.mp declared]
    exact .ofHandler _ _ _
  obtain ⟨fault, response, dispatched, sends⟩ := dispatches Registry.terse (.verb .get) "/"
    registration params (.bare "/") request ⟨.empty, ()⟩ ready ready none reached made
    ⟨⟨EndpointSet.terse, member, built, rfl, rfl⟩,
      [], .nil, fun () => pure none, (), ready, handler, rfl, rfl⟩
  exact ⟨response, _, dispatched, (sends.keeps rfl (sends.empty rfl)).1⟩

end HttpDispatch
