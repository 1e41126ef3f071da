import HttpDispatch.Message.Request
import HttpDispatch.Message.Response
import HttpDispatch.Serving.Endpoint
import HttpDispatch.Values.TypeMap

/-!
The context of a dispatch: a map of typed values, seeded with the request and the endpoint, and
the response, once there is one.
-/

namespace HttpDispatch

/-- The types of values in a context: requests, endpoints, and those of the application. -/
inductive ContextKey (κ : Type) where
  | request
  | endpoint
  | value (key : κ)
  deriving DecidableEq

/-- The types of an application, with the names by which the library's own types are shown. -/
class ContextCatalog (κ : Type) extends Catalog κ where
  requestName : String
  endpointName : String
  verbName : String

variable {κ : Type}

/-- The values of a type in a context. -/
@[reducible] def ContextKey.Value [Catalog κ] : ContextKey κ → Type
  | request => Request
  | endpoint => Endpoint
  | value key => Carrier key

instance [ContextCatalog κ] : Catalog (ContextKey κ) where
  Carrier := ContextKey.Value
  name
    | .request => ContextCatalog.requestName κ
    | .endpoint => ContextCatalog.endpointName κ
    | .value key => Catalog.name key

/-- A provider of the application, as a context takes it. -/
def Provider.ofApplication [ContextCatalog κ] (provider : Provider κ) :
    Provider (ContextKey κ) where
  key := .value provider.key
  value := provider.value
  views := provider.views.map fun view => ⟨.value view.target, view.apply⟩

structure Context (κ : Type) [DecidableEq κ] [ContextCatalog κ] where
  values : TypeMap (ContextKey κ)
  response : Option Response

namespace Context

variable [DecidableEq κ] [ContextCatalog κ]

/-- The context in which a request to an endpoint is served. -/
def seeded (request : Request) (endpoint : Endpoint) : Context κ where
  values := (TypeMap.empty.insert .request request).insert .endpoint endpoint
  response := none

def request? (context : Context κ) : Option Request := context.values.stored? .request

def endpoint? (context : Context κ) : Option Endpoint := context.values.stored? .endpoint

def provide (context : Context κ) (provider : Provider (ContextKey κ)) : Context κ :=
  { context with values := context.values.provide provider }

def insert (context : Context κ) (key : ContextKey κ) (value : Carrier key) : Context κ :=
  context.provide (.ofValue key value)

def modify (context : Context κ) (key : ContextKey κ) (change : Carrier key → Carrier key) :
    Context κ :=
  { context with values := context.values.modify key change }

def setResponse (context : Context κ) (response : Response) : Context κ :=
  { context with response := some response }

def takeResponse (context : Context κ) : Context κ := { context with response := none }

def modifyResponse (context : Context κ) (change : Response → Response) : Context κ :=
  { context with response := context.response.map change }

/-- The fault of asking for a type that nothing in the context provides. -/
def miss (context : Context κ) (type : String) : Fault :=
  .ofLayer (.contextMiss type
    (match context.endpoint? with
      | some endpoint => endpoint.display
      | none => "<unknown endpoint>"))

/-- A one-line summary: the types of the values and the status of the response. -/
def summary (context : Context κ) : String :=
  let names := String.intercalate ", " (context.values.typeNames.map Text.quoted)
  let response := match context.response with
    | some response => "Some(" ++ toString response.status.code ++ ")"
    | none => "None"
  "DispatchContext \x7b values: [" ++ names ++ "], response: " ++ response ++ " \x7d"

end Context

end HttpDispatch
