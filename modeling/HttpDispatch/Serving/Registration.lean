import HttpDispatch.Serving.Extractor
import HttpDispatch.Serving.Reply

/-!
Endpoints with what they do, and the sets in which they are declared.
-/

namespace HttpDispatch

variable {κ σ : Type} [DecidableEq κ] [ContextCatalog κ]

structure Handler (κ σ : Type) [DecidableEq κ] [ContextCatalog κ] where
  serve : Context κ → Service σ Response
  isVoid : Bool

/-- The handler that takes its arguments, calls a function and sends its reply. -/
def Handler.ofFunction {types : List Type} (arguments : Arguments κ σ types) (shape : ReplyShape)
    (call : Tuple types → Service σ shape.Value) : Handler κ σ where
  serve context := do
    let values ← arguments.take context
    let reply ← call values
    Service.ofExcept (shape.respond reply)
  isVoid := shape.isVoid

structure Declaration (κ σ : Type) [DecidableEq κ] [ContextCatalog κ] where
  endpoint : Endpoint
  handler : Handler κ σ

namespace Declaration

/-- Declares a handler for a verb and a pattern. -/
def ofHandler (verb : Verb) (path : String) (handler : Handler κ σ) : Declaration κ σ :=
  ⟨{ verb, path, isVoid := handler.isVoid }, handler⟩

def consuming (declaration : Declaration κ σ) (mime : Mime) : Declaration κ σ :=
  { declaration with endpoint := declaration.endpoint.consuming mime }

def producing (declaration : Declaration κ σ) (mime : Mime) : Declaration κ σ :=
  { declaration with endpoint := declaration.endpoint.producing mime }

end Declaration

/-- An endpoint with everything that is done when it is called. -/
structure Registration (κ σ : Type) [DecidableEq κ] [ContextCatalog κ] where
  endpoint : Endpoint
  before : Hook κ σ
  after : Hook κ σ
  handler : Handler κ σ

/-- Endpoints that are registered together and share what is done before and after each. -/
structure EndpointSet (κ σ : Type) [DecidableEq κ] [ContextCatalog κ] where
  owner : String
  declarations : List (Declaration κ σ)
  before : Hook κ σ
  after : Hook κ σ

/-- The registrations of a set, in the order of declaration. -/
def EndpointSet.registrations (endpoints : EndpointSet κ σ) : List (Registration κ σ) :=
  endpoints.declarations.map fun declaration =>
    { endpoint := { declaration.endpoint with owner := endpoints.owner }
      before := endpoints.before
      after := endpoints.after
      handler := declaration.handler }

/-- Runs what is done before, the handler, and what is done after, and gives the response that is
then in the context. A handler without anything to say sends an empty success, and a response that
was taken away leaves no content. -/
def Registration.run (registration : Registration κ σ) (context : Context κ) :
    Service σ Response := do
  let ((), context) ← registration.before context
  let response ← registration.handler.serve context
  let response := if registration.endpoint.isVoid then .withBody .ok .empty else response
  let ((), context) ← registration.after (context.setResponse response)
  return context.response.getD (.ofBody .empty)

/-- Holds a response to what its endpoint declares to produce: a successful response with a body
has to be of that type, and any response is then sent as of that very type. -/
def Endpoint.enforceOutput (endpoint : Endpoint) (response : Response) : Except Fault Response :=
  match endpoint.produces with
  | none => .ok response
  | some declared =>
    let actual := response.body.mime
    if response.status.isSuccess && !response.body.isEmpty && !declared.sameEssence actual then
      .error (.ofLayer (.outputType endpoint.display declared actual))
    else .ok { response with body := response.body.withMime declared }

end HttpDispatch
