import HttpDispatch.Proofs.Serving.Stages

/-!
Observed applications. Every stage is noted when it is run and nothing else is changed; the notes
are then the stages that serving a request comes to.
-/

namespace HttpDispatch

variable {κ σ : Type} [DecidableEq κ] [ContextCatalog κ]

/-- The state of an application with the stages that were run, in order. -/
structure Observed (σ : Type) where
  app : σ
  trail : List Stage

def Observed.log (log : Record → σ → σ) (record : Record) (observed : Observed σ) : Observed σ :=
  ⟨log record observed.app, observed.trail ++ [.log record]⟩

/-- A world in which some stages were run. -/
def World.noted (world : World σ) (trail : List Stage) : World (Observed σ) :=
  ⟨world.shelf, ⟨world.app, trail⟩⟩

def Service.noting (stage : Stage) (service : Service σ α) : Service (Observed σ) α := fun world =>
  let done := service ⟨world.shelf, world.app.app⟩
  (done.1, done.2.noted (world.app.trail ++ [stage]))

def Arguments.noting {types : List Type} (place : Nat) :
    Arguments κ σ types → Arguments κ (Observed σ) types
  | .nil => .nil
  | .cons first rest =>
    .cons (fun context => (first context).noting (.argument place)) (rest.noting (place + 1))

def Plan.noting (plan : Plan κ σ) : Plan κ (Observed σ) where
  endpoint := plan.endpoint
  before context := Service.noting .before (plan.before context)
  types := plan.types
  arguments := plan.arguments.noting 0
  shape := plan.shape
  call values := (plan.call values).noting .call
  after context := Service.noting .after (plan.after context)

def Stage.notingRequest (make : List String → StateM (World σ) Request) :
    List String → StateM (World (Observed σ)) Request := fun params world =>
  let made := make params ⟨world.shelf, world.app.app⟩
  (made.1, made.2.noted (world.app.trail ++ [.makeRequest params]))

theorem Service.noting_eq {service : Service σ α} {world left : World σ}
    (done : service world = (ending, left)) (stage : Stage) (trail : List Stage) :
    service.noting stage (world.noted trail) = (ending, left.noted (trail ++ [stage])) := by
  show ((service world).1, (service world).2.noted (trail ++ [stage])) = _
  rw [done]

theorem Arguments.Takes.noting {types : List Type} {arguments : Arguments κ σ types}
    {context : Context κ} {world left : World σ} {tried : Nat}
    {ending : Except (Stop Fault) (Tuple types)}
    (takes : arguments.Takes context world tried ending left) (place : Nat) (trail : List Stage) :
    (arguments.noting place).Takes context (world.noted trail) tried ending
      (left.noted (trail ++ (List.range' place tried).map .argument)) := by
  induction takes generalizing place trail with
  | nil => simpa using .nil
  | stops stopped => exact .stops (Service.noting_eq stopped _ trail)
  | next had later ih =>
    have rest := ih (place + 1) (trail ++ [.argument place])
    rw [List.append_assoc] at rest
    rw [List.range'_succ]
    exact .next (Service.noting_eq had _ trail) rest

namespace Plan

variable {plan : Plan κ σ} {context : Context κ} {request : Request} {world left : World σ}
variable {ran : List Stage} {ending : Except (Stop Fault) Response}

theorem Replies.noting (replies : plan.Replies context world ran ending left)
    (trail : List Stage) :
    plan.noting.Replies context (world.noted trail) ran ending (left.noted (trail ++ ran)) := by
  cases replies with
  | argumentStops taken => exact .argumentStops (taken.noting 0 trail)
  | callStops taken stopped =>
    rw [← List.append_assoc]
    exact .callStops (taken.noting 0 trail) (Service.noting_eq stopped _ _)
  | refuses taken called refused =>
    rw [← List.append_assoc]
    exact .refuses (taken.noting 0 trail) (Service.noting_eq called _ _) refused
  | replies taken called responded =>
    rw [← List.append_assoc]
    exact .replies (taken.noting 0 trail) (Service.noting_eq called _ _) responded

/-- The stages noted are those that serving the request comes to. -/
theorem Comes.noting (comes : plan.Comes request world ran ending left) (trail : List Stage) :
    plan.noting.Comes request (world.noted trail) ran ending (left.noted (trail ++ ran)) := by
  have split (handled : List Stage) : trail ++ (.before :: handled ++ [.after]) =
      trail ++ [.before] ++ handled ++ [.after] := by simp
  cases comes with
  | beforeStops stopped => exact .beforeStops (Service.noting_eq stopped _ trail)
  | handlerStops began stopped =>
    rw [List.append_cons]
    exact .handlerStops (Service.noting_eq began _ trail) (stopped.noting _)
  | afterStops began replied stopped =>
    rw [split]
    exact .afterStops (Service.noting_eq began _ trail) (replied.noting _)
      (Service.noting_eq stopped _ _)
  | outputFails began replied ended failed =>
    rw [split]
    exact .outputFails (Service.noting_eq began _ trail) (replied.noting _)
      (Service.noting_eq ended _ _) failed
  | succeeds began replied ended kept =>
    rw [split]
    exact .succeeds (Service.noting_eq began _ trail) (replied.noting _)
      (Service.noting_eq ended _ _) kept

end Plan

end HttpDispatch
