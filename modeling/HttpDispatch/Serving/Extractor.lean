import HttpDispatch.Serving.Service

/-!
Arguments of handlers, taken from the context. The arguments of one handler are taken from left to
right, and the first that cannot be had ends the taking.
-/

namespace HttpDispatch

/-- A way to take a value from a context. -/
abbrev Extractor (κ σ : Type) [DecidableEq κ] [ContextCatalog κ] (α : Type) :=
  Context κ → Service σ α

namespace Extractor

variable {κ σ α : Type} [DecidableEq κ] [ContextCatalog κ]

/-- A value that may be missing from the context. -/
def required (type : String) (find : Context κ → Option α) : Extractor κ σ α := fun context =>
  match find context with
  | some value => pure value
  | none => Service.fail (context.miss type)

theorem required_of_some {type : String} {find : Context κ → Option α} {context : Context κ}
    {value : α} (found : find context = some value) (world : World σ) :
    required type find context world = (.ok value, world) := by
  rw [required, found]
  rfl

theorem required_of_none {type : String} {find : Context κ → Option α} {context : Context κ}
    (missing : find context = none) (world : World σ) :
    required type find context world = (.error (.failed (context.miss type)), world) := by
  rw [required, missing]
  rfl

def request : Extractor κ σ Request := required (ContextCatalog.requestName κ) Context.request?

def endpoint : Extractor κ σ Endpoint := required (ContextCatalog.endpointName κ) Context.endpoint?

def verb : Extractor κ σ Verb :=
  required (ContextCatalog.verbName κ) fun context => context.endpoint?.map Endpoint.verb

/-- The segments of the path that met a wildcard. -/
def params : Extractor κ σ (List String) :=
  required (ContextCatalog.requestName κ) fun context => context.request?.map Request.params

/-- A value of the context, or a view of one. -/
def data (key : ContextKey κ) : Extractor κ σ (Carrier key) :=
  required (Catalog.name key) fun context => context.values.get? key

/-- Nothing, which can always be had. -/
def nothing : Extractor κ σ Unit := fun _ => pure ()

/-- The same value, or none where it cannot be had. A panic is not caught. -/
def optional (extractor : Extractor κ σ α) : Extractor κ σ (Option α) := fun context world =>
  match extractor context world with
  | (.ok value, world) => (.ok (some value), world)
  | (.error (.failed _), world) => (.ok none, world)
  | (.error (.panicked payload), world) => (.error (.panicked payload), world)

/-- Decodes pairs, a defect being a fault of malformed data. -/
def decoded (decode : Form.Pairs → Except FormDefect α) (pairs : Form.Pairs) : Service σ α :=
  Service.ofExcept ((decode pairs).mapError fun defect => (BodyFault.malformed defect).toFault)

/-- The decoded query; a request without one has an empty one. -/
def query (decode : Form.Pairs → Except FormDefect α) : Extractor κ σ α := fun context => do
  let request ← request context
  decoded decode request.queryPairs

/-- The decoded body, which is taken even if it then cannot be read or decoded. -/
def form (decode : Form.Pairs → Except FormDefect α) : Extractor κ σ α := fun context => do
  let request ← request context
  let body ← Service.ofAccess request.takeBody
  let bytes ← Service.ofAccess (ExceptT.mk (pure body.collectBody))
  decoded decode (Form.decode bytes)

end Extractor

/-- Values of a list of types. -/
@[reducible] def Tuple : List Type → Type
  | [] => Unit
  | type :: types => type × Tuple types

/-- The arguments of a handler, in order. -/
inductive Arguments (κ σ : Type) [DecidableEq κ] [ContextCatalog κ] : List Type → Type 1 where
  | nil : Arguments κ σ []
  | cons {α : Type} {types : List Type} (first : Extractor κ σ α) (rest : Arguments κ σ types) :
    Arguments κ σ (α :: types)

/-- Takes the arguments from left to right. -/
def Arguments.take {κ σ : Type} [DecidableEq κ] [ContextCatalog κ] {types : List Type} :
    Arguments κ σ types → Extractor κ σ (Tuple types)
  | .nil, _ => pure ()
  | .cons first rest, context => do
    let value ← first context
    let values ← rest.take context
    return (value, values)

end HttpDispatch
