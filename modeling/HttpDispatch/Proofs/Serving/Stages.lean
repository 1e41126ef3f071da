import HttpDispatch.Serving.Dispatch

/-!
The code of an application that serving a request runs, stage by stage. `Plan.Comes` says what the
stages come to: which are run, in what order and on what, and how the first that stops decides.
-/

namespace HttpDispatch

variable {κ σ : Type} [DecidableEq κ] [ContextCatalog κ]

/-- A piece of the application that a dispatch runs. -/
inductive Stage where
  | makeRequest (params : List String)
  | before
  | argument (place : Nat)
  | call
  | after
  | log (record : Record)
  deriving DecidableEq

/-- What is done for one endpoint, with the handler as a function and its arguments. -/
structure Plan (κ σ : Type) [DecidableEq κ] [ContextCatalog κ] where
  endpoint : Endpoint
  before : Hook κ σ
  types : List Type
  arguments : Arguments κ σ types
  shape : ReplyShape
  call : Tuple types → Service σ shape.Value
  after : Hook κ σ

/-- `arguments.Takes context world tried ending left`: taking the arguments tries as many of them
as `tried`, up to the first that cannot be had. -/
inductive Arguments.Takes (context : Context κ) : {types : List Type} → Arguments κ σ types →
    World σ → Nat → Except (Stop Fault) (Tuple types) → World σ → Prop where
  | nil : Takes context .nil world 0 (.ok ()) world
  | stops {first : Extractor κ σ α} (stopped : first context world = (.error stop, left)) :
    Takes context (.cons first rest) world 1 (.error stop) left
  | next {first : Extractor κ σ α} (had : first context world = (.ok value, middle))
    (later : Takes context rest middle tried ending left) :
    Takes context (.cons first rest) world (tried + 1) (ending.map (value, ·)) left

namespace Plan

def registration (plan : Plan κ σ) : Registration κ σ where
  endpoint := plan.endpoint
  before := plan.before
  after := plan.after
  handler := .ofFunction plan.arguments plan.shape plan.call

/-- The stages of the first arguments. -/
def argumentStages (count : Nat) : List Stage := (List.range' 0 count).map .argument

/-- All stages from the first hook to the last. -/
def schedule (plan : Plan κ σ) : List Stage :=
  .before :: argumentStages plan.types.length ++ [.call, .after]

/-- What the arguments and the function of a handler come to: the stages run, and the response or
what stopped it. -/
inductive Replies (plan : Plan κ σ) (context : Context κ) (world : World σ) :
    List Stage → Except (Stop Fault) Response → World σ → Prop where
  | argumentStops (taken : plan.arguments.Takes context world tried (.error stop) left) :
    Replies plan context world (argumentStages tried) (.error stop) left
  | callStops (taken : plan.arguments.Takes context world plan.types.length (.ok values) ready)
    (stopped : plan.call values ready = (.error stop, left)) :
    Replies plan context world (argumentStages plan.types.length ++ [.call]) (.error stop) left
  | refuses (taken : plan.arguments.Takes context world plan.types.length (.ok values) ready)
    (called : plan.call values ready = (.ok reply, left))
    (refused : plan.shape.respond reply = .error fault) :
    Replies plan context world (argumentStages plan.types.length ++ [.call])
      (.error (.failed fault)) left
  | replies (taken : plan.arguments.Takes context world plan.types.length (.ok values) ready)
    (called : plan.call values ready = (.ok reply, left))
    (responded : plan.shape.respond reply = .ok response) :
    Replies plan context world (argumentStages plan.types.length ++ [.call]) (.ok response) left

/-- The context that the hook after a handler is run in. -/
def contextAfter (plan : Plan κ σ) (context : Context κ) (response : Response) : Context κ :=
  context.setResponse (if plan.endpoint.isVoid then .withBody .ok .empty else response)

/-- What serving a request comes to: the stages run up to the first that stops, and the response
or what stopped it. The response of the last context is held to what the endpoint declares. -/
inductive Comes (plan : Plan κ σ) (request : Request) (world : World σ) :
    List Stage → Except (Stop Fault) Response → World σ → Prop where
  | beforeStops
    (stopped : plan.before (.seeded request plan.endpoint) world = (.error stop, left)) :
    Comes plan request world [.before] (.error stop) left
  | handlerStops
    (began : plan.before (.seeded request plan.endpoint) world = (.ok ((), context), ready))
    (stopped : plan.Replies context ready ran (.error stop) left) :
    Comes plan request world (.before :: ran) (.error stop) left
  | afterStops
    (began : plan.before (.seeded request plan.endpoint) world = (.ok ((), context), ready))
    (replied : plan.Replies context ready ran (.ok response) served)
    (stopped : plan.after (plan.contextAfter context response) served = (.error stop, left)) :
    Comes plan request world (.before :: ran ++ [.after]) (.error stop) left
  | outputFails
    (began : plan.before (.seeded request plan.endpoint) world = (.ok ((), context), ready))
    (replied : plan.Replies context ready ran (.ok response) served)
    (ended : plan.after (plan.contextAfter context response) served = (.ok ((), last), left))
    (failed : plan.endpoint.enforceOutput (last.response.getD (.ofBody .empty)) = .error fault) :
    Comes plan request world (.before :: ran ++ [.after]) (.error (.failed fault)) left
  | succeeds
    (began : plan.before (.seeded request plan.endpoint) world = (.ok ((), context), ready))
    (replied : plan.Replies context ready ran (.ok response) served)
    (ended : plan.after (plan.contextAfter context response) served = (.ok ((), last), left))
    (kept : plan.endpoint.enforceOutput (last.response.getD (.ofBody .empty)) = .ok sent) :
    Comes plan request world (.before :: ran ++ [.after]) (.ok sent) left

end Plan

/-! ### Every request comes to something -/

theorem Arguments.exists_takes {types : List Type} (arguments : Arguments κ σ types)
    (context : Context κ) (world : World σ) :
    ∃ tried ending left, arguments.Takes context world tried ending left := by
  induction arguments generalizing world with
  | nil => exact ⟨0, .ok (), world, .nil⟩
  | cons first rest ih =>
    rcases had : first context world with ⟨_ | value, middle⟩
    · exact ⟨1, _, middle, .stops had⟩
    · obtain ⟨tried, ending, left, takes⟩ := ih middle
      exact ⟨tried + 1, _, left, .next had takes⟩

/-- All arguments are tried, or those up to the one that stopped the taking. -/
theorem Arguments.Takes.tried_le {types : List Type} {arguments : Arguments κ σ types}
    {context : Context κ} {world left : World σ} {tried : Nat}
    {ending : Except (Stop Fault) (Tuple types)}
    (takes : arguments.Takes context world tried ending left) :
    tried ≤ types.length ∧ ∀ values, ending = .ok values → tried = types.length := by
  induction takes with
  | nil => exact ⟨Nat.le_refl _, fun _ _ => rfl⟩
  | stops stopped => exact ⟨by simp, nofun⟩
  | @next _ _ _ _ _ _ _ ending _ _ had later ih =>
    constructor
    · simpa using ih.1
    · intro values same
      cases ending with
      | error stop => cases same
      | ok values => rw [ih.2 values rfl, List.length_cons]

namespace Plan

variable (plan : Plan κ σ)

theorem exists_replies (context : Context κ) (world : World σ) :
    ∃ ran ending left, plan.Replies context world ran ending left := by
  obtain ⟨tried, taking, ready, takes⟩ := plan.arguments.exists_takes context world
  cases taking with
  | error stop => exact ⟨_, _, _, .argumentStops takes⟩
  | ok values =>
    -- All arguments were had, so the function is called.
    obtain rfl := takes.tried_le.2 values rfl
    rcases called : plan.call values ready with ⟨_ | reply, left⟩
    · exact ⟨_, _, _, .callStops takes called⟩
    · cases responded : plan.shape.respond reply with
      | error fault => exact ⟨_, _, _, .refuses takes called responded⟩
      | ok response => exact ⟨_, _, _, .replies takes called responded⟩

theorem exists_comes (request : Request) (world : World σ) :
    ∃ ran ending left, plan.Comes request world ran ending left := by
  rcases began : plan.before (.seeded request plan.endpoint) world with ⟨_ | ⟨⟨⟩, context⟩, ready⟩
  · exact ⟨_, _, _, .beforeStops began⟩
  · obtain ⟨ran, reply, served, replied⟩ := plan.exists_replies context ready
    cases reply with
    | error stop => exact ⟨_, _, _, .handlerStops began replied⟩
    | ok response =>
      rcases ended : plan.after (plan.contextAfter context response) served with
        ⟨_ | ⟨⟨⟩, last⟩, left⟩
      · exact ⟨_, _, _, .afterStops began replied ended⟩
      · cases held : plan.endpoint.enforceOutput (last.response.getD (.ofBody .empty)) with
        | error fault => exact ⟨_, _, _, .outputFails began replied ended held⟩
        | ok sent => exact ⟨_, _, _, .succeeds began replied ended held⟩

end Plan

/-! ### What it comes to is what serving it does -/

namespace Service

theorem bind_ok {first : Service σ α} {next : α → Service σ β} {world middle : World σ}
    (had : first world = (.ok value, middle)) :
    (first >>= next) world = next value middle := by
  simp only [bind, ExceptT.bind, ExceptT.mk, StateT.bind, had]
  rfl

theorem bind_error {first : Service σ α} {next : α → Service σ β} {world left : World σ}
    (stopped : first world = (.error halt, left)) :
    (first >>= next) world = (.error halt, left) := by
  simp only [bind, ExceptT.bind, ExceptT.mk, StateT.bind, stopped]
  rfl

end Service

theorem Arguments.Takes.take_eq {types : List Type} {arguments : Arguments κ σ types}
    {context : Context κ} {world left : World σ} {tried : Nat}
    {ending : Except (Stop Fault) (Tuple types)}
    (takes : arguments.Takes context world tried ending left) :
    arguments.take context world = (ending, left) := by
  induction takes with
  | nil => rfl
  | stops stopped => exact Service.bind_error stopped
  | @next _ _ _ _ _ _ _ ending _ _ had later ih =>
    rw [Arguments.take, Service.bind_ok had]
    cases ending with
    | error stop => exact Service.bind_error ih
    | ok values => exact Service.bind_ok ih

namespace Plan

variable {plan : Plan κ σ} {context : Context κ} {request : Request} {world left : World σ}
variable {ran : List Stage} {ending : Except (Stop Fault) Response}

theorem Replies.serve_eq (replies : plan.Replies context world ran ending left) :
    plan.registration.handler.serve context world = (ending, left) := by
  cases replies with
  | argumentStops taken => exact Service.bind_error taken.take_eq
  | callStops taken stopped =>
    exact (Service.bind_ok taken.take_eq).trans (Service.bind_error stopped)
  | refuses taken called refused =>
    refine (Service.bind_ok taken.take_eq).trans ((Service.bind_ok called).trans ?_)
    rw [refused]
    rfl
  | replies taken called responded =>
    refine (Service.bind_ok taken.take_eq).trans ((Service.bind_ok called).trans ?_)
    rw [responded]
    rfl

theorem run_eq {response : Response} {last : Context κ} {ready served : World σ}
    (began : plan.before (.seeded request plan.endpoint) world = (.ok ((), context), ready))
    (replied : plan.Replies context ready ran (.ok response) served)
    (ended : plan.after (plan.contextAfter context response) served = (.ok ((), last), left)) :
    plan.registration.run (.seeded request plan.endpoint) world =
      (.ok (last.response.getD (.ofBody .empty)), left) :=
  (Service.bind_ok began).trans ((Service.bind_ok replied.serve_eq).trans (Service.bind_ok ended))

theorem Comes.serve_eq (comes : plan.Comes request world ran ending left) :
    Registry.serve plan.registration request world = (ending, left) := by
  unfold Registry.serve
  cases comes with
  | beforeStops stopped => exact Service.bind_error (Service.bind_error stopped)
  | handlerStops began stopped =>
    exact Service.bind_error ((Service.bind_ok began).trans (Service.bind_error stopped.serve_eq))
  | afterStops began replied stopped =>
    exact Service.bind_error ((Service.bind_ok began).trans
      ((Service.bind_ok replied.serve_eq).trans (Service.bind_error stopped)))
  | outputFails began replied ended failed =>
    refine (Service.bind_ok (run_eq began replied ended)).trans ?_
    show Service.ofExcept (plan.endpoint.enforceOutput _) left = _
    rw [failed]
    rfl
  | succeeds began replied ended kept =>
    refine (Service.bind_ok (run_eq began replied ended)).trans ?_
    show Service.ofExcept (plan.endpoint.enforceOutput _) left = _
    rw [kept]
    rfl

/-- The stages are run in their order up to some point, and all of them before a success. -/
theorem Replies.within (replies : plan.Replies context world ran ending left) :
    ran <+: argumentStages plan.types.length ++ [.call] ∧
      ∀ response, ending = .ok response →
        ran = argumentStages plan.types.length ++ [.call] := by
  cases replies with
  | argumentStops taken =>
    refine ⟨List.IsPrefix.trans ?_ (List.prefix_append _ _), nofun⟩
    unfold argumentStages
    rw [← List.take_range'_of_length_ge taken.tried_le.1]
    exact (List.take_prefix _ _).map _
  | callStops taken stopped => exact ⟨List.prefix_rfl, nofun⟩
  | refuses taken called refused => exact ⟨List.prefix_rfl, nofun⟩
  | replies taken called responded => exact ⟨List.prefix_rfl, fun _ _ => rfl⟩

theorem Comes.within (comes : plan.Comes request world ran ending left) :
    ran <+: plan.schedule ∧ ∀ sent, ending = .ok sent → ran = plan.schedule := by
  have whole (handled : List Stage) (same : handled = argumentStages plan.types.length ++ [.call]) :
      .before :: handled ++ [.after] = plan.schedule := by
    simp [same, schedule]
  cases comes with
  | beforeStops stopped => exact ⟨List.prefix_append _ _, nofun⟩
  | handlerStops began stopped =>
    refine ⟨?_, nofun⟩
    rw [← whole _ rfl]
    exact List.cons_prefix_cons.mpr ⟨rfl, stopped.within.1.trans (List.prefix_append _ _)⟩
  | afterStops began replied stopped =>
    rw [whole _ (replied.within.2 _ rfl)]
    exact ⟨List.prefix_rfl, nofun⟩
  | outputFails began replied ended failed =>
    rw [whole _ (replied.within.2 _ rfl)]
    exact ⟨List.prefix_rfl, nofun⟩
  | succeeds began replied ended kept =>
    rw [whole _ (replied.within.2 _ rfl)]
    exact ⟨List.prefix_rfl, fun _ _ => rfl⟩

end Plan

end HttpDispatch
