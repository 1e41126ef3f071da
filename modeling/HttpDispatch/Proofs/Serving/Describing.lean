import HttpDispatch.Proofs.Serving.Announcing
import HttpDispatch.Proofs.Serving.Matching

/-!
Descriptions of routes. A request that asks about a route, or for a verb that the route does not
have, is answered from the table of the route. What it says agrees with what was declared and with
the requests that are matched, in whatever order and however often verbs were declared.
-/

namespace HttpDispatch

variable {κ σ : Type} [DecidableEq κ] [ContextCatalog κ]

section Declared

variable (here : List (Registration κ σ))

/-- The verbs declared for a route, in the order in which they were first declared. -/
def declaredVerbs : List Verb := (here.map (·.endpoint.verb)).eraseDups

/-- What was declared last for a verb of a route. -/
def lastDeclared? (verb : Verb) : Option (Registration κ σ) :=
  (here.filter (·.endpoint.verb = verb)).getLast?

/-- The media types that are consumed on a route, in the order of its verbs. -/
def consumed : List Mime :=
  ((declaredVerbs here).filter (· ≠ .get)).filterMap fun verb =>
    (lastDeclared? here verb).bind (·.endpoint.consumes)

/-- The media type that is produced for a request to get something. -/
def produced? : Option Mime := (lastDeclared? here .get).bind (·.endpoint.produces)

end Declared

/-- What the description of a route says, if these registrations were declared for it. -/
structure Response.Describes (response : Response) (config : Config)
    (here : List (Registration κ σ)) : Prop where
  body : response.body = .empty
  allow : response.headers.valuesOf .allow =
    [String.intercalate ", " ("HEAD" :: "OPTIONS" :: (declaredVerbs here).map Verb.token)]
  accept : response.headers.valuesOf .accept =
    [((consumed here).getLast?.getD config.defaultIn).text]

/-- How requests for a path are answered, if these registrations were declared for its route. -/
structure Registry.AnswersOn (registry : Registry κ σ) (config : Config) (path : String)
    (here : List (Registration κ σ)) (captured : List String) : Prop where
  matched : ∀ verb registration params,
    registry.select (.verb verb) path = .matched registration params ↔
      lastDeclared? here verb = some registration ∧ params = captured
  /-- The verbs that the description allows are those that are matched. -/
  allowed : ∀ verb, verb ∈ declaredVerbs here ↔
    ∃ registration params, registry.select (.verb verb) path = .matched registration params
  asked : ∃ response, response.Describes config here ∧ response.status = .noContent ∧
    response.headers.valuesOf .contentType = [((produced? here).getD config.defaultOut).text] ∧
    ∀ token : MethodToken, token.text = "HEAD" ∨ token.text = "OPTIONS" → ∀ factory world,
      registry.dispatch token path factory world = (.ok response,
        world.reported registry.log (.ofFault response.status token.text path none))
  refused : ∃ response, response.Describes config here ∧ response.status = .methodNotAllowed ∧
    response.headers.valuesOf .contentType = [] ∧
    ∀ token : MethodToken, token.text ≠ "HEAD" → token.text ≠ "OPTIONS" →
      (∀ verb ∈ declaredVerbs here, token.text ≠ verb.token) → ∀ factory world,
      registry.dispatch token path factory world = (.ok response,
        world.reported registry.log (.ofFault response.status token.text path none))

namespace MethodToken

theorem isMeta_iff {token : MethodToken} :
    token.isMeta = true ↔ token.text = "HEAD" ∨ token.text = "OPTIONS" := by
  cases token with
  | verb verb => cases verb <;> simp [isMeta, text, Verb.token]
  | raw token => simp [isMeta, text, isMetaToken]

/-- A verb and its token ask for the same. -/
theorem verb?_raw_token (verb : Verb) : (raw verb.token).verb? = some verb :=
  Verb.ofToken?_token verb

theorem isMeta_raw_token (verb : Verb) : (raw verb.token).isMeta = false := by
  cases verb <;> rfl

end MethodToken

namespace VerbTable

variable {table : VerbTable κ σ} {here : List (Registration κ σ)}

theorem filterMap_eq (distinct : (verbs table).Nodup) (asked : Verb → Bool)
    (read : Registration κ σ → Option α) :
    (table.filter (asked ·.endpoint.verb)).filterMap read =
      ((verbs table).filter asked).filterMap fun verb => (find? table verb).bind read := by
  rw [verbs, List.filter_map, List.filterMap_map]
  apply List.filterMap_congr
  intro registration member
  have found := find?_of_mem distinct (List.mem_of_mem_filter member)
  rw [Function.comp_apply, found, Option.bind_some]

/-- Of endpoints that take something, the last one that says what it consumes counts. -/
theorem foldl_inType (taking : ∀ held ∈ table, held.endpoint.verb ≠ .get)
    (default : Mime) :
    table.foldl (fun accepted registration => registration.endpoint.inType accepted) default =
      (table.filterMap (·.endpoint.consumes)).getLast?.getD default := by
  induction table using List.reverseRecOn with
  | nil => rfl
  | append_singleton table registration ih =>
    have before := ih fun held member => taking held (List.mem_append_left _ member)
    have last := taking registration (List.mem_append_right _ (List.mem_singleton_self _))
    rw [List.foldl_concat, before, Endpoint.inType, if_neg last, List.filterMap_append]
    cases consumes : registration.endpoint.consumes <;> simp [consumes]

end VerbTable

namespace Registry

variable {registry : Registry κ σ} {here : List (Registration κ σ)}

theorem allowed_ofDeclared (here : List (Registration κ σ)) :
    allowed (.ofDeclared here) =
      String.intercalate ", " ("HEAD" :: "OPTIONS" :: (declaredVerbs here).map Verb.token) := by
  rw [declaredVerbs, ← VerbTable.verbs_ofDeclared, VerbTable.verbs, List.map_map, allowed]
  rfl

theorem accepted_ofDeclared (registry : Registry κ σ) (here : List (Registration κ σ)) :
    registry.accepted (.ofDeclared here) =
      (consumed here).getLast?.getD registry.config.defaultIn := by
  have taking : ∀ held ∈ (VerbTable.ofDeclared here).filter (·.endpoint.verb ≠ .get),
      held.endpoint.verb ≠ .get := by
    intro held member
    simpa using (List.mem_filter.mp member).2
  rw [accepted, VerbTable.foldl_inType taking,
    VerbTable.filterMap_eq (VerbTable.nodup_verbs here) (· ≠ .get), VerbTable.verbs_ofDeclared]
  simp only [VerbTable.find?_ofDeclared]
  rfl

theorem offered_ofDeclared (registry : Registry κ σ) (here : List (Registration κ σ)) :
    registry.offered (.ofDeclared here) = (produced? here).getD registry.config.defaultOut := by
  rw [offered, VerbTable.find?_ofDeclared, produced?, lastDeclared?]
  cases (here.filter (·.endpoint.verb = .get)).getLast? <;> rfl

theorem describes_ofDeclared (registry : Registry κ σ) (here : List (Registration κ σ))
    (asked : Bool) :
    (registry.describe (.ofDeclared here) asked).Describes registry.config here where
  body := by cases asked <;> rfl
  allow := by
    rw [describe, Headers.valuesOf_insert, if_neg (by decide), Headers.valuesOf_insert,
      if_pos rfl, allowed_ofDeclared]
  accept := by
    rw [describe, Headers.valuesOf_insert, if_pos rfl, accepted_ofDeclared]

theorem valuesOf_contentType_describe (registry : Registry κ σ) (table : VerbTable κ σ)
    (asked : Bool) :
    (registry.describe table asked).headers.valuesOf .contentType =
      if asked then [(registry.offered table).text] else [] := by
  rw [describe, Headers.valuesOf_insert, if_neg (by decide), Headers.valuesOf_insert,
    if_neg (by decide)]
  cases asked
  · exact (Headers.valuesOf_remove _ _ _).trans (if_pos rfl)
  · exact (Headers.valuesOf_insert _ _ _ _).trans (if_pos rfl)

/-- A request for a verb is dispatched alike by verb and by token. -/
theorem dispatch_raw_token (registry : Registry κ σ) (verb : Verb) (path : String)
    (factory : RequestFactory σ) :
    registry.dispatch (.raw verb.token) path factory =
      registry.dispatch (.verb verb) path factory := by
  have same : registry.select (.raw verb.token) path = registry.select (.verb verb) path := by
    unfold select
    rw [MethodToken.isMeta_raw_token, MethodToken.verb?_raw_token]
    rfl
  unfold dispatch
  rw [same]
  rfl

variable {path : String} {found : Routing.Resolution (VerbTable κ σ)}

theorem select_verb_iff (resolved : registry.routes.resolve path = some found)
    (table : found.value = .ofDeclared here) {verb : Verb} {registration : Registration κ σ}
    {params : List String} :
    registry.select (.verb verb) path = .matched registration params ↔
      lastDeclared? here verb = some registration ∧ params = found.captured := by
  have known := VerbTable.find?_ofDeclared here verb
  rw [← table] at known
  rw [lastDeclared?, ← known]
  simp only [select, resolved, MethodToken.isMeta, MethodToken.verb?, Bool.false_eq_true, if_false,
    Option.bind_some]
  cases VerbTable.find? found.value verb with
  | none => simp
  | some held => simp [eq_comm]

theorem mem_declaredVerbs_iff {verb : Verb} :
    verb ∈ declaredVerbs here ↔ ∃ registration, lastDeclared? here verb = some registration := by
  rw [declaredVerbs, List.mem_eraseDups, List.mem_map, ← Option.isSome_iff_exists, lastDeclared?,
    List.getLast?_isSome, ne_eq, List.filter_eq_nil_iff]
  simp

/-- A request that is not matched is answered by a description of the route. -/
theorem dispatch_described (resolved : registry.routes.resolve path = some found)
    (table : found.value = .ofDeclared here) {token : MethodToken}
    (unmatched : token.isMeta = true ∨ ∀ verb ∈ declaredVerbs here, token.text ≠ verb.token)
    (factory : RequestFactory σ) (world : World σ) :
    let response := registry.describe (.ofDeclared here) token.isMeta
    registry.dispatch token path factory world = (.ok response,
      world.reported registry.log (.ofFault response.status token.text path none)) := by
  have missed : registry.reached? token path = none := by
    rw [reached?, resolved]
    rcases unmatched with asked | other
    · simp [asked]
    · have unknown : token.verb?.bind (VerbTable.find? found.value) = none := by
        rw [Option.bind_eq_none_iff]
        intro verb known
        rw [table, VerbTable.find?_ofDeclared, ← lastDeclared?, Option.eq_none_iff_forall_ne_some]
        intro registration last
        have declared := mem_declaredVerbs_iff.mpr ⟨registration, last⟩
        exact other verb declared (MethodToken.text_of_verb? known)
      simp [unknown]
  obtain ⟨response, dispatched, -, described⟩ := dispatch_unreached missed factory world
  obtain rfl := described found resolved
  rwa [table] at dispatched

theorem answersOn (resolved : registry.routes.resolve path = some found)
    (table : found.value = .ofDeclared here) :
    registry.AnswersOn registry.config path here found.captured where
  matched verb registration params := select_verb_iff resolved table
  allowed verb := by
    rw [mem_declaredVerbs_iff]
    simp only [select_verb_iff resolved table]
    constructor
    · rintro ⟨registration, last⟩
      exact ⟨registration, found.captured, last, rfl⟩
    · rintro ⟨registration, -, last, -⟩
      exact ⟨registration, last⟩
  asked := by
    refine ⟨registry.describe (.ofDeclared here) true, registry.describes_ofDeclared here true, rfl,
      ?_, ?_⟩
    · rw [valuesOf_contentType_describe, if_pos rfl, offered_ofDeclared]
    · intro token asks factory world
      have asked := MethodToken.isMeta_iff.mpr asks
      have dispatched := dispatch_described resolved table (.inl asked) factory world
      rwa [asked] at dispatched
  refused := by
    refine ⟨registry.describe (.ofDeclared here) false, registry.describes_ofDeclared here false,
      rfl, ?_, ?_⟩
    · rw [valuesOf_contentType_describe]
      rfl
    · intro token notHead notOptions other factory world
      have asked : token.isMeta = false := by
        rw [← Bool.not_eq_true, MethodToken.isMeta_iff]
        exact fun asks => asks.elim notHead notOptions
      have dispatched := dispatch_described resolved table (.inr other) factory world
      rwa [asked] at dispatched

/-- A path is taken along a route, and finds the table of what was declared for it. -/
theorem Declares.of_resolve {declared : List (Registration κ σ)}
    (declares : registry.Declares declared) (resolved : registry.routes.resolve path = some found) :
    ∃ route,
      (Routing.segments path).foldlM
        (Routing.PatternMap.after registry.routes.mode (declared.map Registration.call)).advance
        ([], []) = some (route, found.captured) ∧
      found.value = .ofDeclared (onRoute registry.routes.mode route declared) := by
  rw [declares.holds.resolve_eq, Routing.PatternMap.resolve] at resolved
  obtain ⟨⟨route, captured⟩, taken, held⟩ := Option.bind_eq_some_iff.mp resolved
  obtain ⟨table, stored, rfl⟩ := Option.map_eq_some_iff.mp held
  refine ⟨route, taken, ?_⟩
  rw [lookup_declared] at stored
  split at stored
  · cases stored
  · exact (Option.some.inj stored).symm

/-- Whatever was registered, the description of a route agrees with the requests that are matched on
it, and with what was declared for it. A path without a route is described to nobody, and a verb is
dispatched like its token. -/
theorem descriptions_agree (config : Config) (classifier : Classifier)
    (errorBody : Status → Body) (log : Record → σ → σ) (injector : Injector κ)
    (calls : List (Call κ σ)) (path : String) :
    let registry := (empty config classifier errorBody log injector).after calls
    let map := Routing.PatternMap.after (modeOf config)
      ((declared injector calls).map Registration.call)
    (∀ verb factory, registry.dispatch (.raw verb.token) path factory =
      registry.dispatch (.verb verb) path factory) ∧
    match registry.routes.resolve path with
    | none => ∀ token factory world, ∃ response,
      registry.dispatch token path factory world = (.ok response,
        world.reported log (.ofFault response.status token.text path none)) ∧
      response.status = .notFound ∧ response.headers.valuesOf .allow = []
    | some found => ∃ route,
      (Routing.segments path).foldlM map.advance ([], []) = some (route, found.captured) ∧
      registry.AnswersOn config path (onRoute (modeOf config) route (declared injector calls))
        found.captured := by
  intro registry map
  have mode : registry.routes.mode = modeOf config := mode_after ..
  have declares : registry.Declares (declared injector calls) := declares_after ..
  have settings : registry.config = config ∧ registry.log = log := by
    simp only [registry, after_empty]
    exact ⟨rfl, rfl⟩
  refine ⟨fun verb factory => registry.dispatch_raw_token verb path factory, ?_⟩
  split
  · rename_i nowhere
    intro token factory world
    have missed : registry.reached? token path = none := by
      rw [reached?, nowhere]
      rfl
    obtain ⟨response, dispatched, notFound, -⟩ := dispatch_unreached missed factory world
    obtain rfl := notFound nowhere
    have isError : Status.isError .notFound = true := rfl
    have page := registry.announces_errorResponse none isError
    refine ⟨_, settings.2 ▸ dispatched, ?_, page.kept .allow (by decide) (by decide) nofun⟩
    rw [status_finish, errorResponse, Response.withBody, Response.status_normalize]
  · rename_i found resolved
    obtain ⟨route, taken, table⟩ := declares.of_resolve resolved
    rw [mode] at taken table
    refine ⟨route, taken, ?_⟩
    have answers := answersOn resolved table
    rwa [settings.1] at answers

end Registry

end HttpDispatch
