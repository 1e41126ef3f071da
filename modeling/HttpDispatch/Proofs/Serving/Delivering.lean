import HttpDispatch.Proofs.Serving.Conducts
import HttpDispatch.Proofs.Serving.Observation

/-!
Who gets the body of a request. Hooks, arguments and handlers may all ask for it, through any copy
of the request; the first one that does gets it. The arguments after one that cannot be had are not
taken, so what only they would have asked for is left.
-/

namespace HttpDispatch

variable {κ σ : Type} [DecidableEq κ] [ContextCatalog κ]

/-! ### Arguments -/

/-- The arguments of a handler, in order, each with what is done to take it. -/
inductive Wants (κ σ : Type) [DecidableEq κ] [ContextCatalog κ] : List Type → Type 1 where
  | nil : Wants κ σ []
  | cons {α : Type} {types : List Type} (first : Context κ → Conduct σ α)
    (rest : Wants κ σ types) : Wants κ σ (α :: types)

namespace Wants

variable {types : List Type}

def arguments : {types : List Type} → Wants κ σ types → Arguments κ σ types
  | _, .nil => .nil
  | _, .cons first rest => .cons (fun context => (first context).service) rest.arguments

/-- What is done to take the arguments from left to right. -/
def conduct : {types : List Type} → Wants κ σ types → Context κ → Conduct σ (Tuple types)
  | _, .nil, _ => .done (.ok ())
  | _, .cons first rest, context => (first context).bind fun value =>
    (rest.conduct context).bind fun values => .done (.ok (value, values))

/-- The first of the arguments, those to the right of them left out. -/
def upTo : {types : List Type} → (count : Nat) → Wants κ σ types → Wants κ σ (types.take count)
  | _, 0, _ => .nil
  | _, _ + 1, .nil => .nil
  | _, count + 1, .cons first rest => .cons first (rest.upTo count)

theorem service_conduct (wants : Wants κ σ types) (context : Context κ) :
    (wants.conduct context).service = wants.arguments.take context := by
  induction wants with
  | nil => rfl
  | cons first rest ih =>
    rw [conduct, Conduct.service_bind, arguments, Arguments.take]
    simp only [Conduct.service_bind, ih]
    rfl

/-- The accesses of the later arguments come after those of the first, if it can be had. -/
theorem attempts_cons {α : Type} (first : Context κ → Conduct σ α) (rest : Wants κ σ types)
    (context : Context κ) (world : World σ) :
    ((cons first rest).conduct context).attempts world = (first context).attempts world ++
      match (first context).service world with
      | (.ok _, middle) => (rest.conduct context).attempts middle
      | (.error _, _) => [] := by
  rw [conduct, Conduct.attempts_bind]
  rcases (first context).service world with ⟨_ | value, middle⟩
  · rfl
  · simp only [Conduct.attempts_bind]
    rcases (rest.conduct context).service middle with ⟨_ | values, ready⟩ <;>
      simp [Conduct.attempts]

/-- Taking the arguments makes the accesses of those that are tried. -/
theorem attempts_conduct {wants : Wants κ σ types} {context : Context κ} {world ready : World σ}
    {tried : Nat} {taking : Except (Stop Fault) (Tuple types)}
    (taken : wants.arguments.Takes context world tried taking ready) :
    (wants.conduct context).attempts world =
      ((wants.upTo tried).conduct context).attempts world := by
  induction wants generalizing world tried with
  | nil =>
    cases taken
    rfl
  | cons first rest ih =>
    have split (count : Nat) := attempts_cons first (rest.upTo count) context world
    rw [attempts_cons]
    cases taken with
    | stops stopped =>
      have stopped : (first context).service world = (.error _, ready) := stopped
      refine Eq.trans ?_ (split 0).symm
      rw [stopped]
    | next had later =>
      have had : (first context).service world = (.ok _, _) := had
      refine Eq.trans ?_ (split _).symm
      rw [had]
      exact congrArg _ (ih later)

end Wants

/-! ### What the library takes -/

namespace Service

variable {α β : Type}

theorem ofAccess_eq (access : BodyAccess α) (world : World σ) :
    ofAccess access world =
      ((access world.shelf).1.mapError (Stop.map BodyFault.toFault),
        { world with shelf := (access world.shelf).2 }) := by
  simp only [ofAccess, bind, ExceptT.bind, ExceptT.mk, StateT.bind, attempt]
  rcases access world.shelf with ⟨(_ | _) | _, shelf⟩ <;> rfl

theorem ofAccess_bind (first : BodyAccess α) (next : α → BodyAccess β) :
    (ofAccess (first >>= next) : Service σ β) =
      ofAccess first >>= fun value => ofAccess (next value) := by
  funext world
  rw [ofAccess_eq]
  simp only [bind, ExceptT.bind, ExceptT.mk, StateT.bind, ofAccess_eq]
  rcases first world.shelf with ⟨_ | value, shelf⟩
  · rfl
  · exact (ofAccess_eq (next value) { world with shelf }).symm

end Service

namespace Conduct

/-- An access to the body of the request in a context, if there is one. -/
def ofRequest {α : Type} (context : Context κ) (access : Access α)
    (missing : Except (Stop Fault) α) : Conduct σ α :=
  match context.request? with
  | some request => .accesses request access fun outcome =>
    .ofExcept (outcome.mapError BodyFault.toFault)
  | none => .done missing

theorem service_accesses {α : Type} (request : Request) (access : Access α) :
    (accesses request access fun outcome => .ofExcept (outcome.mapError BodyFault.toFault) :
      Conduct σ α).service = Service.ofAccess (access.perform request) := by
  rw [service, Service.ofAccess]
  congr 1
  funext outcome
  cases outcome <;> rfl

/-- The extraction of a form is one access to the body. -/
theorem service_form {α : Type} (decode : Form.Pairs → Except FormDefect α) (context : Context κ) :
    (ofRequest context (.form decode)
        (.error (.failed (context.miss (ContextCatalog.requestName κ)))) : Conduct σ α).service =
      Extractor.form decode context := by
  unfold ofRequest Extractor.form Extractor.request Extractor.required
  cases context.request? with
  | none => rfl
  | some request =>
    have decoding (bytes : Bytes) : Service.ofAccess (ExceptT.mk (pure ((decode
        (Form.decode bytes)).mapError fun defect => Stop.failed (.malformed defect)))) =
        Extractor.decoded (σ := σ) decode (Form.decode bytes) := by
      unfold Extractor.decoded
      cases decode (Form.decode bytes) <;> rfl
    simp only [service_accesses, pure_bind, Access.perform, Service.ofAccess_bind, decoding]

/-- What may be missing is the same access, to which a failure is nothing. -/
theorem service_optional {α : Type} (access : Access α) (context : Context κ)
    (missing : Except (Stop Fault) α) (extractor : Extractor κ σ α)
    (same : extractor context = (ofRequest context access missing).service) :
    (ofRequest context (.optional access) (orNone missing) : Conduct σ (Option α)).service =
      Extractor.optional extractor context := by
  funext world
  rw [Extractor.optional, same]
  unfold ofRequest
  cases context.request? with
  | none => rcases missing with (_ | _) | _ <;> rfl
  | some request =>
    simp only [service_accesses, Service.ofAccess_eq, Access.perform]
    rcases access.perform request world.shelf with ⟨(_ | _) | _, shelf⟩ <;> rfl

end Conduct

/-! ### Serving -/

/-- What an application does for one endpoint. -/
structure Behaviour (κ σ : Type) [DecidableEq κ] [ContextCatalog κ] where
  endpoint : Endpoint
  before : Context κ → Conduct σ (Unit × Context κ)
  types : List Type
  wants : Wants κ σ types
  shape : ReplyShape
  call : Tuple types → Conduct σ shape.Value
  after : Context κ → Conduct σ (Unit × Context κ)

namespace Behaviour

variable (behaviour : Behaviour κ σ)

def plan : Plan κ σ where
  endpoint := behaviour.endpoint
  before context := (behaviour.before context).service
  types := behaviour.types
  arguments := behaviour.wants.arguments
  shape := behaviour.shape
  call values := (behaviour.call values).service
  after context := (behaviour.after context).service

/-- Calls the function and makes a response of its reply. -/
def respond (values : Tuple behaviour.types) : Conduct σ Response :=
  (behaviour.call values).bind fun reply => .ofExcept (behaviour.shape.respond reply)

/-- Takes the arguments and calls the function. -/
def handle (context : Context κ) : Conduct σ Response :=
  (behaviour.wants.conduct context).bind behaviour.respond

def conduct (request : Request) : Conduct σ Response :=
  (behaviour.before (.seeded request behaviour.endpoint)).bind fun began =>
    (behaviour.handle began.2).bind fun response =>
      (behaviour.after (behaviour.plan.contextAfter began.2 response)).bind fun ended =>
        .ofExcept (behaviour.endpoint.enforceOutput (ended.2.response.getD (.ofBody .empty)))

theorem service_respond (values : Tuple behaviour.types) :
    (behaviour.respond values).service = behaviour.plan.call values >>= fun reply =>
      Service.ofExcept (behaviour.shape.respond reply) := by
  rw [respond, Conduct.service_bind]
  simp only [Conduct.service_ofExcept]
  rfl

theorem service_handle (context : Context κ) :
    (behaviour.handle context).service = behaviour.plan.registration.handler.serve context := by
  rw [handle, Conduct.service_bind, Wants.service_conduct]
  simp only [service_respond]
  rfl

/-- What is done for a request is what serving it does. -/
theorem service_conduct (request : Request) :
    (behaviour.conduct request).service =
      Registry.serve behaviour.plan.registration request := by
  unfold conduct Registry.serve Registration.run
  simp only [Conduct.service_bind, Conduct.service_ofExcept, service_handle, bind_assoc, pure_bind]
  rfl

end Behaviour

/-! ### Calling a handler -/

/-- The stage of calling the function, which comes after all arguments were had. -/
def Stage.ofTaking {α : Type} : Except (Stop Fault) α → List Stage
  | .ok _ => [.call]
  | .error _ => []

theorem Plan.exists_replies_of_takes (plan : Plan κ σ) {context : Context κ}
    {world ready : World σ} {tried : Nat} {taking : Except (Stop Fault) (Tuple plan.types)}
    (taken : plan.arguments.Takes context world tried taking ready) :
    ∃ ending left,
      plan.Replies context world (argumentStages tried ++ Stage.ofTaking taking) ending left := by
  cases taking with
  | error stop =>
    rw [Stage.ofTaking, List.append_nil]
    exact ⟨_, _, .argumentStops taken⟩
  | ok values =>
    obtain rfl := taken.tried_le.2 values rfl
    rcases called : plan.call values ready with ⟨_ | reply, left⟩
    · exact ⟨_, _, .callStops taken called⟩
    · cases responded : plan.shape.respond reply with
      | error fault => exact ⟨_, _, .refuses taken called responded⟩
      | ok response => exact ⟨_, _, .replies taken called responded⟩

/-- What a handler comes to that tries so many of its arguments: it calls its function if all of
them can be had, and else fails as the last one it tried. -/
structure Behaviour.Handles (behaviour : Behaviour κ σ) (context : Context κ) (world : World σ)
    (tried : Nat) (taking : Except (Stop Fault) (Tuple behaviour.types)) (ready : World σ) :
    Prop where
  taken : behaviour.wants.arguments.Takes context world tried taking ready
  calls : ∀ values, taking = .ok values → tried = behaviour.types.length ∧
    behaviour.plan.registration.handler.serve context world =
      (behaviour.respond values).service ready
  fails : ∀ stop, taking = .error stop →
    behaviour.plan.registration.handler.serve context world = (.error stop, ready)
  /-- What is run, where every stage is noted: the arguments that were tried, and the function. -/
  noted : ∀ trail,
    behaviour.plan.noting.registration.handler.serve context (world.noted trail) =
      ((behaviour.plan.registration.handler.serve context world).1,
        (behaviour.plan.registration.handler.serve context world).2.noted
          (trail ++ (Plan.argumentStages tried ++ Stage.ofTaking taking)))
  /-- A body that none of the tried arguments asks for is still there. -/
  spares : ∀ ticket : Ticket, ticket.place < world.shelf.bodies.length →
    accessesOf ticket (((behaviour.wants.upTo tried).conduct context).attempts world) = [] →
    ready.shelf.body? ticket = world.shelf.body? ticket

theorem Behaviour.exists_handles (behaviour : Behaviour κ σ) (context : Context κ)
    (world : World σ) :
    ∃ tried taking ready, behaviour.Handles context world tried taking ready := by
  obtain ⟨tried, taking, ready, taken⟩ := behaviour.wants.arguments.exists_takes context world
  refine ⟨tried, taking, ready, taken, ?_, ?_, ?_, ?_⟩
  · rintro values rfl
    refine ⟨taken.tried_le.2 values rfl, ?_⟩
    rw [service_respond]
    exact Service.bind_ok taken.take_eq
  · rintro stop rfl
    exact Service.bind_error taken.take_eq
  · intro trail
    obtain ⟨ending, left, replies⟩ := behaviour.plan.exists_replies_of_takes taken
    rw [replies.serve_eq, (replies.noting trail).serve_eq]
    rfl
  · intro ticket known unasked
    have delivers := (behaviour.wants.conduct context).delivers world known
    rw [Wants.attempts_conduct taken, unasked, Wants.service_conduct, taken.take_eq] at delivers
    exact delivers.of_nil

/-- The body of a request is given once to all that an application does for the request, and the
first argument that cannot be had ends the taking. -/
structure Behaviour.GivesOnce (behaviour : Behaviour κ σ) (body : Body) (request : Request)
    (start : World σ) : Prop where
  /-- What is done for the request is what serving it does. -/
  served : (behaviour.conduct request).service =
    Registry.serve behaviour.plan.registration request
  /-- The first access through any copy of the request gets the body, also if it then cannot read
  it; every later one is refused. -/
  delivered : Delivers (some body)
    (accessesOf request.ticket ((behaviour.conduct request).attempts start))
    ((Registry.serve behaviour.plan.registration request start).2.shelf.body? request.ticket)
  /-- A refused access changes nothing. -/
  refuses : ∀ {α : Type} (access : Access α) (copy : Request) (shelf : Shelf),
    shelf.body? copy.ticket = none → access.perform copy shelf = (access.refusal, shelf)
  /-- The extraction of a form is an access. -/
  forms : ∀ {α : Type} (decode : Form.Pairs → Except FormDefect α) (context : Context κ),
    (Conduct.ofRequest context (.form decode)
        (.error (.failed (context.miss (ContextCatalog.requestName κ)))) : Conduct σ α).service =
      Extractor.form decode context
  /-- Inside an option a refused access gives nothing. -/
  options : ∀ {α : Type} (access : Access α) (context : Context κ)
    (missing : Except (Stop Fault) α) (extractor : Extractor κ σ α),
    extractor context = (Conduct.ofRequest context access missing).service →
      (Conduct.ofRequest context (.optional access) (orNone missing) :
          Conduct σ (Option α)).service = Extractor.optional extractor context
  /-- The function is called exactly when all arguments can be had, from left to right. -/
  handles : ∀ context ready, ∃ tried taking left,
    behaviour.Handles context ready tried taking left

/-- Whatever an application does for a request that is put together so, its body is given once. -/
theorem body_given_once (behaviour : Behaviour κ σ) (draft : RequestDraft) (world : World σ) :
    behaviour.GivesOnce (draft.body.getD .empty) (draft.build world.shelf).1
      { world with shelf := (draft.build world.shelf).2 } where
  served := behaviour.service_conduct _
  delivered := by
    have known : (draft.build world.shelf).1.ticket.place <
        (draft.build world.shelf).2.bodies.length := by
      rw [RequestDraft.build, Shelf.length_put]
      exact Nat.lt_succ_self _
    have held : (draft.build world.shelf).2.body? (draft.build world.shelf).1.ticket =
        some (draft.body.getD .empty) := Shelf.body?_put _ _
    have delivers := (behaviour.conduct (draft.build world.shelf).1).delivers
      { world with shelf := (draft.build world.shelf).2 } known
    rwa [held, behaviour.service_conduct] at delivers
  refuses access copy shelf gone := by rw [access.perform_eq, gone]
  forms := Conduct.service_form
  options := Conduct.service_optional
  handles := behaviour.exists_handles

end HttpDispatch
