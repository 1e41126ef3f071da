import HttpDispatch.Proofs.Serving.Accesses
import HttpDispatch.Proofs.Serving.Stages

/-!
What the code of an application does with the bodies of requests, step by step. However the steps
go on after each other's outcomes, each body is given to the first access to it and to no other.
-/

namespace HttpDispatch

/-- The conduct of a piece of an application: accesses to the bodies of requests, requests that it
builds and changes of the application's own state, each deciding what is done next, up to a value,
a failure or a panic. -/
inductive Conduct (σ ρ : Type) : Type 1 where
  | done (ending : Except (Stop Fault) ρ)
  | accesses {α : Type} (request : Request) (access : Access α)
    (next : Except BodyFault α → Conduct σ ρ)
  | builds (draft : RequestDraft) (next : Request → Conduct σ ρ)
  | changes (update : σ → σ) (next : σ → Conduct σ ρ)

/-- An access that was made, with what came of it. -/
structure Attempt : Type 1 where
  {Value : Type}
  request : Request
  access : Access Value
  outcome : Except (Stop BodyFault) Value

namespace Conduct

variable {σ ρ τ : Type}

def ofExcept (outcome : Except Fault ρ) : Conduct σ ρ := .done (outcome.mapError .failed)

def service : Conduct σ ρ → Service σ ρ
  | done ending => fun world => (ending, world)
  | accesses request access next =>
    Service.attempt (access.perform request) >>= fun outcome => (next outcome).service
  | builds draft next => fun world =>
    let made := draft.build world.shelf
    (next made.1).service { world with shelf := made.2 }
  | changes update next => fun world =>
    (next world.app).service { world with app := update world.app }

/-- The accesses that are made, in order. A panic ends them. -/
def attempts : Conduct σ ρ → World σ → List Attempt
  | done _, _ => []
  | accesses request access next, world =>
    ⟨request, access, (access.perform request world.shelf).1⟩ ::
      match Service.attempt (access.perform request) world with
      | (.ok outcome, world) => (next outcome).attempts world
      | (.error _, _) => []
  | builds draft next, world =>
    let made := draft.build world.shelf
    (next made.1).attempts { world with shelf := made.2 }
  | changes update next, world =>
    (next world.app).attempts { world with app := update world.app }

/-- One conduct after another, which is not come to where the first one fails. -/
def bind : Conduct σ ρ → (ρ → Conduct σ τ) → Conduct σ τ
  | done (.ok value), later => later value
  | done (.error stop), _ => done (.error stop)
  | accesses request access next, later => .accesses request access fun outcome =>
    (next outcome).bind later
  | builds draft next, later => .builds draft fun request => (next request).bind later
  | changes update next, later => .changes update fun state => (next state).bind later

theorem service_ofExcept (outcome : Except Fault ρ) :
    (ofExcept outcome : Conduct σ ρ).service = Service.ofExcept outcome := by
  cases outcome <;> rfl

theorem service_bind (first : Conduct σ ρ) (later : ρ → Conduct σ τ) :
    (first.bind later).service = first.service >>= fun value => (later value).service := by
  induction first with
  | done ending => cases ending <;> rfl
  | accesses request access next ih =>
    simp only [bind, service, bind_assoc, ih]
  | builds draft next ih =>
    funext world
    exact congrFun (ih _) _
  | changes update next ih =>
    funext world
    exact congrFun (ih _) _

/-- The accesses of the second conduct come after those of the first one. -/
theorem attempts_bind (first : Conduct σ ρ) (later : ρ → Conduct σ τ) (world : World σ) :
    (first.bind later).attempts world = first.attempts world ++
      match first.service world with
      | (.ok value, middle) => (later value).attempts middle
      | (.error _, _) => [] := by
  induction first generalizing world with
  | done ending => cases ending <;> rfl
  | accesses request access next ih =>
    simp only [bind, attempts, service, List.cons_append]
    rcases tried : Service.attempt (σ := σ) (access.perform request) world with
      ⟨_ | outcome, middle⟩
    · rw [Service.bind_error tried]
      rfl
    · rw [Service.bind_ok tried]
      exact congrArg _ (ih outcome middle)
  | builds draft next ih => exact ih _ _
  | changes update next ih => exact ih _ _

end Conduct

/-! ### Each body once -/

/-- The attempt is that of an access that got this body. -/
def Attempt.Reads (attempt : Attempt) (body : Body) : Prop :=
  attempt.outcome = attempt.access.reading attempt.request body

/-- The attempt is that of an access to a body that was gone. -/
def Attempt.IsRefused (attempt : Attempt) : Prop := attempt.outcome = attempt.access.refusal

/-- `Delivers held attempts left`: of the accesses to a body that was there or not, the first one
got it and all others were refused, which leaves the body or none. -/
inductive Delivers : Option Body → List Attempt → Option Body → Prop where
  | untouched (held : Option Body) : Delivers held [] held
  | gets {body : Body} {first : Attempt} {later : List Attempt} (read : first.Reads body)
    (refused : ∀ attempt ∈ later, attempt.IsRefused) : Delivers (some body) (first :: later) none
  | gone {attempts : List Attempt} (refused : ∀ attempt ∈ attempts, attempt.IsRefused) :
    Delivers none attempts none

theorem Delivers.of_none {attempts : List Attempt} {left : Option Body}
    (delivers : Delivers none attempts left) :
    (∀ attempt ∈ attempts, attempt.IsRefused) ∧ left = none := by
  cases delivers with
  | untouched => exact ⟨by simp, rfl⟩
  | gone refused => exact ⟨refused, rfl⟩

theorem Delivers.of_nil {held left : Option Body} (delivers : Delivers held [] left) :
    left = held := by
  cases delivers <;> rfl

/-- The accesses through any copy of a request. -/
def accessesOf (ticket : Ticket) (attempts : List Attempt) : List Attempt :=
  attempts.filter (·.request.ticket = ticket)

/-- An access gets the body that is there for it or is refused, and changes nothing else. -/
theorem Delivers.access {α : Type} (access : Access α) (request : Request) (shelf : Shelf)
    {ticket : Ticket} {rest : List Attempt} {left : Option Body}
    (later : Delivers ((access.perform request shelf).2.body? ticket) (accessesOf ticket rest)
      left) :
    Delivers (shelf.body? ticket)
      (accessesOf ticket (⟨request, access, (access.perform request shelf).1⟩ :: rest)) left := by
  rw [access.perform_eq] at later ⊢
  unfold accessesOf at *
  by_cases same : request.ticket = ticket
  · subst same
    rw [List.filter_cons_of_pos (by simp)]
    cases held : shelf.body? request.ticket with
    | none =>
      rw [held, held] at later
      obtain ⟨refused, rfl⟩ := later.of_none
      exact .gone (List.forall_mem_cons.mpr ⟨rfl, refused⟩)
    | some body =>
      rw [held, Shelf.body?_clear, if_pos rfl] at later
      obtain ⟨refused, rfl⟩ := later.of_none
      exact .gets rfl refused
  · rw [List.filter_cons_of_neg (by simpa using same)]
    split at later
    · rwa [Shelf.body?_clear, if_neg same] at later
    · exact later

theorem Service.shelf_attempt {σ α : Type} (access : BodyAccess α) (world : World σ) :
    (Service.attempt access world).2.shelf = (access world.shelf).2 := by
  unfold Service.attempt
  rcases access world.shelf with ⟨(_ | _) | _, shelf⟩ <;> rfl

/-- Whatever an application does, it gets each body once. -/
theorem Conduct.delivers {σ ρ : Type} (conduct : Conduct σ ρ) (world : World σ) {ticket : Ticket}
    (known : ticket.place < world.shelf.bodies.length) :
    Delivers (world.shelf.body? ticket) (accessesOf ticket (conduct.attempts world))
      ((conduct.service world).2.shelf.body? ticket) := by
  induction conduct generalizing world with
  | done ending => exact .untouched _
  | builds draft next ih =>
    have later := ih (draft.build world.shelf).1 { world with shelf := (draft.build world.shelf).2 }
      (by rw [RequestDraft.build, Shelf.length_put]; omega)
    rwa [RequestDraft.build, Shelf.body?_put_of_lt _ _ known] at later
  | changes update next ih => exact ih world.app { world with app := update world.app } known
  | accesses request access next ih =>
    have shelf := Service.shelf_attempt (access.perform request) world
    have still : ticket.place < (access.perform request world.shelf).2.bodies.length := by
      rwa [access.length_perform]
    rw [attempts, service]
    apply Delivers.access
    rw [← shelf] at still ⊢
    rcases tried : Service.attempt (access.perform request) world with ⟨_ | outcome, middle⟩
    · rw [Service.bind_error tried]
      exact .untouched _
    · rw [Service.bind_ok tried]
      rw [tried] at still
      exact ih outcome middle still

end HttpDispatch
