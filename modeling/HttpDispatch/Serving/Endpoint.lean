import HttpDispatch.Message.Mime
import HttpDispatch.Message.Verb

/-!
Descriptions of endpoints: what is known of a registration apart from what it does.
-/

namespace HttpDispatch

/-- An endpoint, with the pattern it is registered for as it was spelled. -/
structure Endpoint where
  verb : Verb
  path : String
  /-- The name of the set of endpoints that declares it. -/
  owner : String := ""
  consumes : Option Mime := none
  produces : Option Mime := none
  /-- Whether its handler has nothing to say. -/
  isVoid : Bool := false
  deriving DecidableEq

namespace Endpoint

def display (endpoint : Endpoint) : String := endpoint.verb.token ++ " " ++ endpoint.path

/-- The media type of the requests it takes. A request to get something has no body to speak of,
so its type is the one of a form. -/
def inType (endpoint : Endpoint) (default : Mime) : Mime :=
  if endpoint.verb = .get then .formUrlencoded else endpoint.consumes.getD default

def outType (endpoint : Endpoint) (default : Mime) : Mime := endpoint.produces.getD default

/-- Declares what it consumes, which means nothing for a request to get something. -/
def consuming (endpoint : Endpoint) (mime : Mime) : Endpoint :=
  if endpoint.verb = .get then endpoint else { endpoint with consumes := some mime }

/-- Declares what it produces, to which its responses are then held. -/
def producing (endpoint : Endpoint) (mime : Mime) : Endpoint :=
  { endpoint with produces := some mime }

end Endpoint

end HttpDispatch
