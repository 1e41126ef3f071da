import HttpDispatch.Serving.Context

/-!
What serving a request can do: take the bodies of requests, change the state of the application,
fail, and panic.
-/

namespace HttpDispatch

/-- What serving a request works on: the bodies of requests and the application's own state. -/
structure World (σ : Type) where
  shelf : Shelf
  app : σ

/-- A step of serving a request. What it did to the world stays done when it fails. -/
abbrev Service (σ α : Type) := ExceptT (Stop Fault) (StateM (World σ)) α

namespace Service

variable {σ α : Type}

def fail (fault : Fault) : Service σ α := throw (.failed fault)

def panic (payload : PanicPayload) : Service σ α := throw (.panicked payload)

/-- Gives a value, or fails. -/
def ofExcept : Except Fault α → Service σ α
  | .ok value => pure value
  | .error fault => fail fault

/-- Changes the state of the application. -/
def modifyApp (change : σ → σ) : Service σ Unit := fun world =>
  (.ok (), { world with app := change world.app })

/-- Does something with the bodies of requests, keeping the fault as it is. -/
def attempt (access : BodyAccess α) : Service σ (Except BodyFault α) := fun world =>
  let (outcome, shelf) := access world.shelf
  let world := { world with shelf }
  match outcome with
  | .ok value => (.ok (.ok value), world)
  | .error (.failed fault) => (.ok (.error fault), world)
  | .error (.panicked payload) => (.error (.panicked payload), world)

/-- Does something with the bodies of requests. -/
def ofAccess (access : BodyAccess α) : Service σ α := do
  match ← attempt access with
  | .ok value => return value
  | .error fault => fail fault.toFault

/-- Runs a step to its end, a panic being a failure like any other. -/
def contain (service : Service σ α) : StateM (World σ) (Except Fault α) := fun world =>
  let (outcome, world) := service world
  (outcome.mapError Stop.toFault, world)

end Service

/-- What is done before or after a handler, which may change the context. -/
abbrev Hook (κ σ : Type) [DecidableEq κ] [ContextCatalog κ] := StateT (Context κ) (Service σ) Unit

end HttpDispatch
