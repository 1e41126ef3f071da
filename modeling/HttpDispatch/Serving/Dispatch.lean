import HttpDispatch.Serving.Registry

/-!
Dispatching requests. A request that matches a registration runs it, and whatever goes wrong on the
way becomes an error page; any other request is answered from the routes alone.
-/

namespace HttpDispatch

variable {κ σ : Type} [DecidableEq κ] [ContextCatalog κ]

/-- The method of a request: a verb, or the token as it was received. -/
inductive MethodToken where
  | verb (known : Verb)
  | raw (token : String)

namespace MethodToken

def text : MethodToken → String
  | .verb known => known.token
  | .raw token => token

/-- Whether the method asks about the route instead of running an endpoint. -/
def isMeta : MethodToken → Bool
  | .verb _ => false
  | .raw token => isMetaToken token

def verb? : MethodToken → Option Verb
  | .verb known => some known
  | .raw token => Verb.ofToken? token

end MethodToken

inductive Selection (κ σ : Type) [DecidableEq κ] [ContextCatalog κ] where
  | notFound
  | answered (response : Response)
  | matched (registration : Registration κ σ) (params : List String)

/-- Makes the request for the captured segments of its path. It may panic. -/
abbrev RequestFactory (σ : Type) := List String → ExceptT PanicPayload (StateM (World σ)) Request

/-- A dispatch. It ends without a response only if making the request panics. -/
abbrev Dispatching (σ α : Type) := ExceptT PanicPayload (StateM (World σ)) α

namespace Registry

def allowed (table : VerbTable κ σ) : String :=
  String.intercalate ", "
    ("HEAD" :: "OPTIONS" :: table.map fun registration => registration.endpoint.verb.token)

/-- The media type that a route takes: the last one declared, in the order of the table. -/
def accepted (registry : Registry κ σ) (table : VerbTable κ σ) : Mime :=
  (table.filter (·.endpoint.verb ≠ .get)).foldl
    (fun accepted registration => registration.endpoint.inType accepted) registry.config.defaultIn

def offered (registry : Registry κ σ) (table : VerbTable κ σ) : Mime :=
  match VerbTable.find? table .get with
  | some registration => registration.endpoint.outType registry.config.defaultOut
  | none => registry.config.defaultOut

/-- The description of a route: what it allows and accepts and, where the description is asked
for, what it gives. -/
def describe (registry : Registry κ σ) (table : VerbTable κ σ) (asked : Bool) : Response :=
  let response : Response :=
    .withBody (if asked then .noContent else .methodNotAllowed) .empty
  let headers :=
    if asked then response.headers.insert .contentType (registry.offered table).text
    else response.headers.remove .contentType
  { response with
    headers := (headers.insert .allow (allowed table)).insert .accept
      (registry.accepted table).text }

def select (registry : Registry κ σ) (token : MethodToken) (path : String) : Selection κ σ :=
  match registry.routes.resolve path with
  | none => .notFound
  | some found =>
    if token.isMeta then .answered (registry.describe found.value true)
    else match token.verb?.bind (VerbTable.find? found.value) with
    | some registration => .matched registration found.captured
    | none => .answered (registry.describe found.value false)

def errorResponse (registry : Registry κ σ) (status : Status) : Response :=
  .withBody status (registry.errorBody status)

def serve (registration : Registration κ σ) (request : Request) : Service σ Response := do
  let response ← registration.run (Context.seeded request registration.endpoint)
  Service.ofExcept (registration.endpoint.enforceOutput response)

/-- The last touch to a response: headers that agree with it and, except after a request to get
something, the media type that the endpoint accepts. -/
def finish (registry : Registry κ σ) (registration : Option (Registration κ σ))
    (response : Response) : Response :=
  let response := response.normalize
  match registration with
  | none => response
  | some registration =>
    if registration.endpoint.verb = .get ∨ response.headers.contains .accept then response
    else
      { response with
        headers := response.headers.insert .accept
          (registration.endpoint.inType registry.config.defaultIn).text }

def report (registry : Registry κ σ) (record : Record) : Dispatching σ Unit := fun world =>
  (.ok (), { world with app := registry.log record world.app })

def dispatch (registry : Registry κ σ) (token : MethodToken) (path : String)
    (makeRequest : RequestFactory σ) : Dispatching σ Response := do
  match registry.select token path with
  | .answered response =>
    registry.report (.ofFault response.status token.text path none)
    return response
  | .notFound =>
    let response := registry.finish none (registry.errorResponse .notFound)
    registry.report (.ofFault response.status token.text path none)
    return response
  | .matched registration params =>
    let request ← makeRequest params
    let outcome ← ExceptT.lift (serve registration request).contain
    let (response, fault) := match outcome with
      | .ok response => (response, none)
      | .error fault => (registry.errorResponse (registry.classifier.classify fault), some fault)
    let response := registry.finish (some registration) response
    registry.report (.ofFault response.status token.text path fault)
    return response

/-- Dispatches a request and streams the body of the response. A dispatch that panicked is
answered with an error page and not reported. -/
def dispatchStreamed (registry : Registry κ σ) (verb : Verb) (path : String)
    (makeRequest : RequestFactory σ) : StateM (World σ) StreamedResponse := do
  match ← (registry.dispatch (.verb verb) path makeRequest).run with
  | .ok response => return response.streamed
  | .error _ => return (Response.withBody .internal (.errorPage .internal)).streamed

end Registry

end HttpDispatch
