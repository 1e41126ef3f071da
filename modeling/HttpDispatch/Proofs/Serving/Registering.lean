import HttpDispatch.Proofs.Serving.RouteTables

/-!
Histories of a registry. Whatever sets of endpoints are registered, with whatever success, and
whenever the registry is sealed, it holds under every verb and route the last registration declared
before it was sealed; its listing, its size and its tables say the same.
-/

namespace HttpDispatch

variable {κ σ : Type} [DecidableEq κ] [ContextCatalog κ]

/-- What a set stands for with one of its declarations: the declared endpoint and handler, with the
set as its owner, between what the set has done before and after. -/
def EndpointSet.owning (endpoints : EndpointSet κ σ) (declaration : Declaration κ σ) :
    Registration κ σ where
  endpoint :=
    { verb := declaration.endpoint.verb
      path := declaration.endpoint.path
      owner := endpoints.owner
      consumes := declaration.endpoint.consumes
      produces := declaration.endpoint.produces
      isVoid := declaration.endpoint.isVoid }
  before := endpoints.before
  after := endpoints.after
  handler := declaration.handler

/-- Each declaration of a set is registered, with all that it stands for, and in its place. -/
theorem EndpointSet.registrations_eq (endpoints : EndpointSet κ σ) :
    endpoints.registrations = endpoints.declarations.map endpoints.owning := rfl

namespace Registry

/-- What is done to a registry apart from dispatching. -/
inductive Call (κ σ : Type) [DecidableEq κ] [ContextCatalog κ] where
  | register (endpoints : EndpointSet κ σ)
  | registerInjected (construct : Injector κ → Except String (EndpointSet κ σ))
  | toSealed

namespace Call

/-- Makes a call. The answer is the number of endpoints it registered, or why it was refused. -/
def perform (registry : Registry κ σ) : Call κ σ → Except RegistryDefect Nat × Registry κ σ
  | register endpoints => registry.register endpoints
  | registerInjected construct => registry.registerInjected construct
  | toSealed => (.ok 0, registry.toSealed)

def seals : Call κ σ → Bool
  | toSealed => true
  | register _ | registerInjected _ => false

/-- The registrations that a call declares, in order. -/
def declares (injector : Injector κ) : Call κ σ → List (Registration κ σ)
  | register endpoints => endpoints.declarations.map endpoints.owning
  | registerInjected construct =>
    match construct injector with
    | .ok endpoints => endpoints.declarations.map endpoints.owning
    | .error _ => []
  | toSealed => []

end Call

/-- A registry after calls, whatever they were answered. -/
def after (registry : Registry κ σ) (calls : List (Call κ σ)) : Registry κ σ :=
  calls.foldl (fun registry call => (call.perform registry).2) registry

/-- What was declared before the registry was sealed, in order. -/
def declared (injector : Injector κ) (calls : List (Call κ σ)) : List (Registration κ σ) :=
  (calls.takeWhile (!·.seals)).flatMap (Call.declares injector)

/-- What can be seen of a registry for which registrations were declared, in their order. -/
structure Reflects (registry : Registry κ σ) (declared : List (Registration κ σ)) : Prop where
  /-- Under a verb and a route stands the last one declared for them. -/
  stored : ∀ verb pattern, registry.registered? verb pattern =
    (declared.filter (·.place registry.routes.mode =
      (verb, Routing.key registry.routes.mode pattern))).getLast?
  /-- The table of a route has each verb once, in the order in which they were first declared. -/
  ordered : ∀ pattern, VerbTable.verbs ((registry.routes.get? pattern).getD []) =
    ((onRoute registry.routes.mode (Routing.key registry.routes.mode pattern) declared).map
      (·.endpoint.verb)).eraseDups
  /-- Every verb of every route is listed once. -/
  listed : (registry.listing.map fun (verb, pattern) =>
      (verb, Routing.key registry.routes.mode pattern)).Perm
    (declared.map (·.place registry.routes.mode)).eraseDups
  /-- It is listed as the registration that stands there spells its pattern. -/
  spelled : ∀ entry ∈ registry.listing,
    (registry.registered? entry.1 entry.2).map (·.endpoint.path) = some entry.2
  counted : registry.size = registry.listing.length ∧
    registry.size = (declared.map (·.place registry.routes.mode)).eraseDups.length
  isEmpty_iff : registry.isEmpty = true ↔ registry.size = 0

theorem Declares.reflects {registry : Registry κ σ} {declared : List (Registration κ σ)}
    (declares : registry.Declares declared) : registry.Reflects declared where
  stored := declares.registered?_eq
  ordered pattern := by
    rw [declares.get?_eq, ← VerbTable.verbs_ofDeclared]
    simp only
    split
    · rename_i none
      rw [none]
      rfl
    · rfl
  listed := declares.places_perm
  spelled entry listed := by
    obtain ⟨registration, found, path⟩ := declares.registered?_of_listed listed
    rw [found, Option.map_some, path]
  counted := ⟨registry.size_eq, by
    rw [registry.size_eq, ← declares.places_perm.length_eq, List.length_map]⟩
  isEmpty_iff := declares.isEmpty_iff

/-- The mode in which a registry with these settings reads patterns. -/
def modeOf (config : Config) : Routing.Mode := if config.wildcards then .wildcards else .literal

/-- A registry with a history of calls. It holds what was declared before it was sealed. Until then
sets of endpoints are registered, and counted, as a whole, and from then on they are refused. -/
structure AnswersFor (registry : Registry κ σ) (config : Config) (injector : Injector κ)
    (calls : List (Call κ σ)) : Prop where
  reflects : registry.Reflects (declared injector calls)
  mode : registry.routes.mode = modeOf config
  isSealed : registry.isSealed = calls.any Call.seals
  registers : ∀ endpoints, (registry.register endpoints).1 =
    if registry.isSealed then .error .isSealed else .ok endpoints.declarations.length
  injects : ∀ construct, (registry.registerInjected construct).1 =
    match construct injector with
    | .error type => .error (.notInjectable type)
    | .ok endpoints => (registry.register endpoints).1
  /-- A call that is refused leaves the registry, and so every answer that it gives, as it was. -/
  refuses : ∀ (call : Call κ σ) defect, (call.perform registry).1 = .error defect →
    (call.perform registry).2 = registry

/-! ### What a call does -/

theorem foldl_add (registry : Registry κ σ) (declared : List (Registration κ σ)) :
    declared.foldl add registry =
      { registry with
        routes := (declared.map Registration.call).foldl Routing.Call.apply registry.routes } := by
  induction declared generalizing registry with
  | nil => rfl
  | cons registration rest ih =>
    rw [List.foldl_cons, ih, List.map_cons, List.foldl_cons]
    rfl

theorem register_open {registry : Registry κ σ} (isOpen : registry.isSealed = false)
    (endpoints : EndpointSet κ σ) :
    registry.register endpoints =
      (.ok endpoints.declarations.length,
        (endpoints.declarations.map endpoints.owning).foldl add registry) := by
  rw [register, if_neg (by simp [isOpen]), endpoints.registrations_eq]

theorem register_sealed {registry : Registry κ σ} (isSealed : registry.isSealed = true)
    (endpoints : EndpointSet κ σ) :
    registry.register endpoints = (.error .isSealed, registry) := by
  rw [register, if_pos isSealed]

/-- A call to a registry that is not sealed adds what it declares, or seals it. -/
theorem perform_open {registry : Registry κ σ} (isOpen : registry.isSealed = false)
    (call : Call κ σ) :
    (call.perform registry).2 =
      { registry with
        routes := ((call.declares registry.injector).map Registration.call).foldl
          Routing.Call.apply registry.routes
        isSealed := call.seals } := by
  cases call with
  | register endpoints =>
    rw [Call.perform, register_open isOpen, foldl_add]
    simp only [isOpen, Call.declares, Call.seals]
  | registerInjected construct =>
    rw [Call.perform, registerInjected, Call.declares, Call.seals]
    cases construct registry.injector with
    | error type => simp only [List.map_nil, List.foldl_nil, ← isOpen]
    | ok endpoints => simp only [register_open isOpen, foldl_add, isOpen]
  | toSealed => rfl

/-- No call changes a sealed registry. -/
theorem perform_sealed {registry : Registry κ σ} (isSealed : registry.isSealed = true)
    (call : Call κ σ) : (call.perform registry).2 = registry := by
  cases call with
  | register endpoints => rw [Call.perform, register_sealed isSealed]
  | registerInjected construct =>
    rw [Call.perform, registerInjected]
    split
    · rfl
    · rw [register_sealed isSealed]
  | toSealed =>
    rw [Call.perform, toSealed, ← isSealed]

/-- A call that is refused changes nothing. -/
theorem perform_refused {registry : Registry κ σ} {call : Call κ σ} {defect : RegistryDefect}
    (refused : (call.perform registry).1 = .error defect) :
    (call.perform registry).2 = registry := by
  cases isSealed : registry.isSealed with
  | true => exact perform_sealed isSealed call
  | false =>
    cases call with
    | register endpoints => simp [Call.perform, register_open isSealed] at refused
    | registerInjected construct =>
      rw [Call.perform, registerInjected] at refused ⊢
      split at refused
      · rfl
      · simp [register_open isSealed] at refused
    | toSealed => cases refused

/-! ### What a history leaves -/

theorem after_sealed {registry : Registry κ σ} (isSealed : registry.isSealed = true)
    (calls : List (Call κ σ)) : registry.after calls = registry := by
  induction calls with
  | nil => rfl
  | cons call rest ih =>
    rw [after, List.foldl_cons, perform_sealed isSealed]
    exact ih

/-- Calls add what was declared before the first of them that seals. -/
theorem after_open {registry : Registry κ σ} (isOpen : registry.isSealed = false)
    (calls : List (Call κ σ)) :
    registry.after calls =
      { registry with
        routes := ((declared registry.injector calls).map Registration.call).foldl
          Routing.Call.apply registry.routes
        isSealed := calls.any Call.seals } := by
  induction calls generalizing registry with
  | nil =>
    show registry = { registry with isSealed := false }
    rw [← isOpen]
  | cons call rest ih =>
    have first := perform_open isOpen call
    show (call.perform registry).2.after rest = _
    cases seals : call.seals with
    | true =>
      have last : call = .toSealed := by
        cases call with
        | toSealed => rfl
        | register endpoints | registerInjected construct => cases seals
      subst last
      exact after_sealed rfl rest
    | false =>
      rw [seals] at first
      rw [first, ih rfl]
      simp [declared, seals]

section History

variable (config : Config) (classifier : Classifier) (errorBody : Status → Body)
variable (log : Record → σ → σ) (injector : Injector κ) (calls : List (Call κ σ))

/-- All that a history can change are the routes and whether more can be added to them. -/
theorem after_empty :
    (empty config classifier errorBody log injector).after calls =
      { empty config classifier errorBody log injector with
        routes := .after (modeOf config) ((declared injector calls).map Registration.call)
        isSealed := calls.any Call.seals } :=
  after_open rfl calls

theorem mode_after :
    ((empty config classifier errorBody log injector).after calls).routes.mode =
      modeOf config := by
  rw [after_empty]
  exact Routing.Trie.mode_after _ _

theorem declares_after :
    ((empty config classifier errorBody log injector).after calls).Declares
      (declared injector calls) := by
  rw [Declares, mode_after, after_empty]

/-- Whatever calls were made to a registry, and with whatever success, it answers for them. -/
theorem answersFor_after :
    ((empty config classifier errorBody log injector).after calls).AnswersFor config injector
      calls where
  reflects := (declares_after ..).reflects
  mode := mode_after ..
  isSealed := by rw [after_empty]
  registers endpoints := by
    rw [register]
    split <;> rfl
  injects construct := by
    have kept : ((empty config classifier errorBody log injector).after calls).injector =
      injector := by rw [after_empty]; rfl
    rw [registerInjected, kept]
    cases construct injector <;> rfl
  refuses call defect refused := perform_refused refused

end History

end Registry

/-- An application without types of its own. -/
instance : ContextCatalog Empty where
  Carrier := Empty.elim
  name := Empty.elim
  requestName := "Request"
  endpointName := "Endpoint"
  verbName := "Verb"

/-- A set with one endpoint, which answers without content. -/
def EndpointSet.silent (verb : Verb) (pattern : String) : EndpointSet Empty Unit where
  owner := "Silent"
  declarations := [.ofHandler verb pattern ⟨fun _ => pure (.ofBody .empty), false⟩]
  before context := pure ((), context)
  after context := pure ((), context)

/-- A set that declares one route for two verbs, and for one of them once more, spelled
otherwise. -/
def EndpointSet.items : EndpointSet Empty Unit where
  owner := "Items"
  declarations :=
    [.ofHandler .get "/items/*" ⟨fun _ => pure (.ofBody .empty), false⟩,
      .ofHandler .post "/items/*" ⟨fun _ => pure (.ofBody .empty), true⟩,
      (Declaration.ofHandler .get "/Items/*"
        ⟨fun _ => pure (.ofBody (.ofText "item")), false⟩).producing .textPlain]
  before context := pure ((), context)
  after context := pure ((), context)

/-- Two sets, of which one takes the place of what the other declares, and one that comes too
late. -/
def Registry.itemCalls : List (Registry.Call Empty Unit) :=
  [.register .items, .register (.silent .post "/ITEMS/*"), .toSealed,
    .register (.silent .put "/items/*")]

def Registry.items : Registry Empty Unit :=
  (Registry.empty {} .standard .errorPage (fun _ app => app) .empty).after itemCalls

/-- The last declaration counts, in its spelling and with the types and the set it is declared
with. -/
theorem items_registered :
    (Registry.items.registered? .get "/items/*").map (·.endpoint) =
        some { verb := .get, path := "/Items/*", owner := "Items", produces := some .textPlain } ∧
      (Registry.items.registered? .post "/items/*").map (·.endpoint) =
        some { verb := .post, path := "/ITEMS/*", owner := "Silent" } ∧
      (Registry.items.registered? .put "/items/*").map (·.endpoint) = none ∧
      VerbTable.verbs ((Registry.items.routes.get? "/items/*").getD []) = [.get, .post] ∧
      Registry.items.size = 2 ∧
      (Registry.items.register .items).1 = .error .isSealed := by
  have answers : Registry.items.AnswersFor {} .empty Registry.itemCalls :=
    Registry.answersFor_after {} .standard .errorPage (fun _ app => app) .empty Registry.itemCalls
  obtain ⟨stored, ordered, -, -, counted, -⟩ := answers.reflects
  simp only [stored, ordered, counted.2, answers.mode, answers.registers, answers.isSealed]
  decide +kernel

end HttpDispatch
