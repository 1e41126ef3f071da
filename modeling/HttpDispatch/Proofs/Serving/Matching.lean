import HttpDispatch.Serving.Dispatch
import HttpDispatch.Proofs.Routing.Capturing
import HttpDispatch.Proofs.Serving.Registering

/-!
Requests and the endpoints that they match. The pattern of an endpoint is not looked at when a path
is resolved, and may have been spelled in many ways by then; still it is the pattern that the path
fits, and the captured segments are what the path has for its wildcards.
-/

namespace HttpDispatch

variable {κ σ : Type} [DecidableEq κ] [ContextCatalog κ]

theorem MethodToken.text_of_verb? {token : MethodToken} {verb : Verb}
    (known : token.verb? = some verb) : token.text = verb.token := by
  cases token with
  | verb same =>
    cases known
    rfl
  | raw text => exact (Verb.token_of_ofToken? known).symm

namespace Registry

variable {registry : Registry κ σ} {token : MethodToken} {path : String}
variable {registration : Registration κ σ} {params : List String}

/-- What a request matches is in the table that its path resolves to, under the verb asked for. -/
theorem of_select (selected : registry.select token path = .matched registration params) :
    ∃ found, registry.routes.resolve path = some found ∧ found.captured = params ∧
      token.verb? = some registration.endpoint.verb ∧ registration ∈ found.value := by
  unfold select at selected
  cases resolved : registry.routes.resolve path with
  | none => simp [resolved] at selected
  | some found =>
    simp only [resolved] at selected
    split at selected
    · cases selected
    · split at selected
      · rename_i held known
        cases selected
        obtain ⟨verb, asked, inTable⟩ := Option.bind_eq_some_iff.mp known
        have same := List.find?_some inTable
        rw [beq_iff_eq] at same
        exact ⟨found, rfl, rfl, by rw [asked, same], List.mem_of_find?_eq_some inTable⟩
      · cases selected

/-- A request matches a registration that was declared for its verb and with whose pattern the
captured segments rebuild the path. -/
theorem Declares.of_select {declared : List (Registration κ σ)}
    (declares : registry.Declares declared)
    (selected : registry.select token path = .matched registration params) :
    registration ∈ declared ∧ token.verb? = some registration.endpoint.verb ∧
      Routing.Rebuilds registry.routes.mode (Routing.segments registration.endpoint.path)
        (Routing.segments path) params := by
  obtain ⟨found, resolved, rfl, asked, inTable⟩ := Registry.of_select selected
  rw [declares.holds.resolve_eq] at resolved
  obtain ⟨fitted, held, captures⟩ := Routing.PatternMap.captures_of_resolve resolved
  rw [lookup_declared] at held
  split at held
  · cases held
  · -- The table is the one of the route that the path fits.
    rw [← Option.some.inj held] at inTable
    obtain ⟨member, rfl⟩ := mem_onRoute.mp (VerbTable.mem_of_mem_ofDeclared inTable)
    rw [Registration.route, Routing.key, Routing.labels, List.map_map] at captures
    exact ⟨member, asked, captures.rebuilds⟩

/-- Whatever was registered, a request that matches a registration asks for its verb, and the
captured segments, put in the place of the wildcards of its pattern, make the pattern the path. -/
theorem rebuilds_selected (config : Config) (classifier : Classifier) (errorBody : Status → Body)
    (log : Record → σ → σ) (injector : Injector κ) (calls : List (Call κ σ))
    {token : MethodToken} {path : String} {registration : Registration κ σ}
    {params : List String}
    (selected : ((empty config classifier errorBody log injector).after calls).select token path =
      .matched registration params) :
    registration ∈ declared injector calls ∧
      token.verb? = some registration.endpoint.verb ∧
      token.text = registration.endpoint.verb.token ∧
      Routing.Rebuilds (modeOf config) (Routing.segments registration.endpoint.path)
        (Routing.segments path) params := by
  rw [← mode_after config classifier errorBody log injector calls]
  obtain ⟨member, asked, rebuilds⟩ := (declares_after ..).of_select selected
  exact ⟨member, asked, MethodToken.text_of_verb? asked, rebuilds⟩

end Registry

/-- A registry with one endpoint, the pattern of which was respelled. -/
def Registry.respelled : Registry Empty Unit :=
  (Registry.empty {} .standard .errorPage (fun _ app => app) .empty).after
    [.register (.silent .get "/files/*/\\*"), .register (.silent .get "//Files/*/\\*")]

/-- A star that is escaped is a segment like any other, in whichever spelling the pattern was last
declared. -/
theorem rebuilds_respelled :
    ∃ registration, Registry.respelled.select (.raw "GET") "/FILES/ReadMe/*" =
        .matched registration ["ReadMe"] ∧
      registration.endpoint.path = "//Files/*/\\*" ∧
      Routing.Rebuilds .wildcards (Routing.segments registration.endpoint.path)
        (Routing.segments "/FILES/ReadMe/*") ["ReadMe"] := by
  have shown : (match Registry.respelled.select (.raw "GET") "/FILES/ReadMe/*" with
      | .matched registration params => some (registration.endpoint.path, params)
      | _ => none) = some ("//Files/*/\\*", ["ReadMe"]) := by
    decide +kernel
  split at shown
  · rename_i registration params selected
    obtain ⟨path, rfl⟩ := Prod.mk.inj (Option.some.inj shown)
    exact ⟨registration, selected, path, (Registry.rebuilds_selected _ _ _ _ _ _ selected).2.2.2⟩
  · cases shown

end HttpDispatch
