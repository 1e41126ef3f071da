import HttpDispatch.Fault.Classifier
import HttpDispatch.Log.Record
import HttpDispatch.Routing.Trie
import HttpDispatch.Serving.Registration
import HttpDispatch.Settings.Config
import HttpDispatch.Values.Injector

/-!
Registries: the endpoints of an application by route and verb. A route has at most one endpoint
for each verb, the one registered last, and a sealed registry takes no more endpoints.
-/

namespace HttpDispatch

variable {κ σ : Type} [DecidableEq κ] [ContextCatalog κ]

/-- The endpoints of one route, in the order in which their verbs were first registered. -/
abbrev VerbTable (κ σ : Type) [DecidableEq κ] [ContextCatalog κ] := List (Registration κ σ)

namespace VerbTable

def find? (table : VerbTable κ σ) (verb : Verb) : Option (Registration κ σ) :=
  List.find? (·.endpoint.verb == verb) table

/-- Adds a registration, in the place of the one for its verb if there is one. -/
def set (registration : Registration κ σ) : VerbTable κ σ → VerbTable κ σ
  | [] => [registration]
  | held :: rest =>
    if held.endpoint.verb = registration.endpoint.verb then registration :: rest
    else held :: set registration rest

end VerbTable

/-- A registry with its settings: how patterns are read, which status a fault has, what an error
page shows, how a dispatch is reported to the application, and what endpoints are made of. -/
structure Registry (κ σ : Type) [DecidableEq κ] [ContextCatalog κ] where
  routes : Routing.Trie (VerbTable κ σ)
  isSealed : Bool
  config : Config
  classifier : Classifier
  errorBody : Status → Body
  log : Record → σ → σ
  injector : Injector κ

namespace Registry

def empty (config : Config) (classifier : Classifier) (errorBody : Status → Body)
    (log : Record → σ → σ) (injector : Injector κ) : Registry κ σ where
  routes := .empty (if config.wildcards then .wildcards else .literal)
  isSealed := false
  config := config
  classifier := classifier
  errorBody := errorBody
  log := log
  injector := injector

/-- Adds one registration to its route. -/
def add (registry : Registry κ σ) (registration : Registration κ σ) : Registry κ σ :=
  { registry with
    routes := registry.routes.update registration.endpoint.path fun table =>
      VerbTable.set registration (table.getD []) }

/-- Registers a set of endpoints and gives the number of its declarations. -/
def register (registry : Registry κ σ) (endpoints : EndpointSet κ σ) :
    Except RegistryDefect Nat × Registry κ σ :=
  if registry.isSealed then (.error .isSealed, registry)
  else
    (.ok endpoints.declarations.length, endpoints.registrations.foldl add registry)

/-- Registers the set that a function constructs from the injected values. What it could not get
is the defect, also of a sealed registry. -/
def registerInjected (registry : Registry κ σ)
    (construct : Injector κ → Except String (EndpointSet κ σ)) :
    Except RegistryDefect Nat × Registry κ σ :=
  match construct registry.injector with
  | .error type => (.error (.notInjectable type), registry)
  | .ok endpoints => registry.register endpoints

/-- Refuses all further registrations. -/
def toSealed (registry : Registry κ σ) : Registry κ σ := { registry with isSealed := true }

/-- Every verb of every route, with the pattern as last spelled for that verb. -/
def listing (registry : Registry κ σ) : List (Verb × String) :=
  registry.routes.entries.flatMap fun (_, table) =>
    table.map fun registration => (registration.endpoint.verb, registration.endpoint.path)

def size (registry : Registry κ σ) : Nat :=
  registry.routes.entries.foldl (fun total (_, table) => total + table.length) 0

def isEmpty (registry : Registry κ σ) : Bool := registry.routes.isEmpty

end Registry

end HttpDispatch
