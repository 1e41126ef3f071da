import HttpDispatch.Serving.Registry
import HttpDispatch.Proofs.Routing.Enumeration
import Mathlib.Data.List.Induction

/-!
The tables behind a registry. The table of a route, made by declaring registrations one after the
other, holds for each verb the last one declared, and has the verbs in the order in which they were
first declared. A registry has under each route the table of what was declared for this route.
-/

namespace HttpDispatch

variable {κ σ : Type} [DecidableEq κ] [ContextCatalog κ]

theorem eraseDups_concat {α : Type u} [BEq α] [LawfulBEq α] (items : List α) (item : α) :
    (items ++ [item]).eraseDups =
      if item ∈ items then items.eraseDups else items.eraseDups ++ [item] := by
  rw [List.eraseDups_append]
  by_cases known : item ∈ items <;> simp [List.removeAll, known, List.eraseDups_cons]

theorem nodup_eraseDups {α : Type u} [BEq α] [LawfulBEq α] (items : List α) :
    items.eraseDups.Nodup := by
  induction items using List.reverseRecOn with
  | nil => simp
  | append_singleton items item ih =>
    rw [eraseDups_concat]
    split
    · exact ih
    · rename_i fresh
      rw [← List.concat_eq_append]
      exact ih.concat (by rwa [List.mem_eraseDups])

namespace VerbTable

variable {table : VerbTable κ σ} {registration : Registration κ σ} {verb : Verb}

def verbs (table : VerbTable κ σ) : List Verb := table.map (·.endpoint.verb)

theorem find?_cons (held : Registration κ σ) (rest : VerbTable κ σ) (verb : Verb) :
    find? (held :: rest) verb = if held.endpoint.verb = verb then some held else find? rest verb := by
  by_cases same : held.endpoint.verb = verb <;> simp [find?, same]

theorem find?_set (registration : Registration κ σ) (table : VerbTable κ σ) (verb : Verb) :
    find? (set registration table) verb =
      if registration.endpoint.verb = verb then some registration else find? table verb := by
  induction table with
  | nil => exact find?_cons registration [] verb
  | cons held rest ih =>
    rw [set, find?_cons]
    split
    · rename_i same
      rw [find?_cons, same]
      split <;> rfl
    · rename_i other
      rw [find?_cons, ih]
      by_cases here : held.endpoint.verb = verb
      · rw [if_pos here, if_pos here, if_neg fun same => other (here.trans same.symm)]
      · rw [if_neg here, if_neg here]

/-- A registration takes the place of the one for its verb, or the last place. -/
theorem verbs_set (registration : Registration κ σ) (table : VerbTable κ σ) :
    verbs (set registration table) =
      if registration.endpoint.verb ∈ verbs table then verbs table
      else verbs table ++ [registration.endpoint.verb] := by
  induction table with
  | nil => rfl
  | cons held rest ih =>
    rw [set]
    split
    · rename_i same
      simp [verbs, same]
    · rename_i other
      unfold verbs at ih ⊢
      rw [List.map_cons, ih, List.map_cons]
      by_cases known : registration.endpoint.verb ∈ rest.map (·.endpoint.verb)
      · simp [known]
      · simp [known, Ne.symm other]

/-- The table of a route for which registrations were declared. -/
def ofDeclared (declared : List (Registration κ σ)) : VerbTable κ σ :=
  declared.foldl (fun table registration => set registration table) []

theorem ofDeclared_concat (declared : List (Registration κ σ)) (registration : Registration κ σ) :
    ofDeclared (declared ++ [registration]) = set registration (ofDeclared declared) := by
  rw [ofDeclared, List.foldl_concat]
  rfl

/-- The registration for a verb is the last one declared. -/
theorem find?_ofDeclared (declared : List (Registration κ σ)) (verb : Verb) :
    find? (ofDeclared declared) verb =
      (declared.filter (·.endpoint.verb = verb)).getLast? := by
  induction declared using List.reverseRecOn with
  | nil => rfl
  | append_singleton declared registration ih =>
    rw [ofDeclared_concat, find?_set, ih, List.filter_append, List.filter_singleton]
    by_cases same : registration.endpoint.verb = verb <;> simp [same]

/-- The verbs stand in the order in which they were first declared, each once. -/
theorem verbs_ofDeclared (declared : List (Registration κ σ)) :
    verbs (ofDeclared declared) = (declared.map (·.endpoint.verb)).eraseDups := by
  induction declared using List.reverseRecOn with
  | nil => rfl
  | append_singleton declared registration ih =>
    rw [ofDeclared_concat, verbs_set, ih, List.map_append, List.map_singleton, eraseDups_concat]
    simp only [List.mem_eraseDups]

/-- In a table without repeated verbs every registration is the one for its verb. -/
theorem find?_of_mem (distinct : (verbs table).Nodup) (member : registration ∈ table) :
    find? table registration.endpoint.verb = some registration := by
  induction table with
  | nil => cases member
  | cons held rest ih =>
    rw [verbs, List.map_cons, List.nodup_cons] at distinct
    rw [find?_cons]
    rcases List.mem_cons.mp member with rfl | later
    · rw [if_pos rfl]
    · have other : held.endpoint.verb ≠ registration.endpoint.verb := by
        intro same
        exact distinct.1 (same ▸ List.mem_map_of_mem later)
      rw [if_neg other, ih distinct.2 later]

theorem nodup_verbs (declared : List (Registration κ σ)) : (verbs (ofDeclared declared)).Nodup := by
  rw [verbs_ofDeclared]
  exact nodup_eraseDups _

theorem mem_of_mem_ofDeclared {declared : List (Registration κ σ)}
    (member : registration ∈ ofDeclared declared) : registration ∈ declared := by
  have found := find?_of_mem (nodup_verbs declared) member
  rw [find?_ofDeclared] at found
  exact List.mem_of_mem_filter (List.mem_of_getLast? found)

end VerbTable

namespace Registration

/-- The route of a registration: its pattern without regard to letter case. -/
def route (mode : Routing.Mode) (registration : Registration κ σ) : List Routing.Label.Folded :=
  Routing.key mode registration.endpoint.path

/-- The verb and the route of a registration. -/
def place (mode : Routing.Mode) (registration : Registration κ σ) :
    Verb × List Routing.Label.Folded :=
  (registration.endpoint.verb, registration.route mode)

/-- What is done to the routes of a registry to add a registration. -/
def call (registration : Registration κ σ) : Routing.Call (VerbTable κ σ) :=
  .getOrInsert registration.endpoint.path [] (VerbTable.set registration)

end Registration

/-- The registrations for one route, of those declared. -/
def onRoute (mode : Routing.Mode) (route : List Routing.Label.Folded)
    (declared : List (Registration κ σ)) : List (Registration κ σ) :=
  declared.filter (·.route mode = route)

theorem mem_onRoute {mode : Routing.Mode} {route : List Routing.Label.Folded}
    {declared : List (Registration κ σ)} {registration : Registration κ σ} :
    registration ∈ onRoute mode route declared ↔
      registration ∈ declared ∧ registration.route mode = route := by
  rw [onRoute, List.mem_filter, decide_eq_true_eq]

theorem onRoute_concat (mode : Routing.Mode) (route : List Routing.Label.Folded)
    (declared : List (Registration κ σ)) (registration : Registration κ σ) :
    onRoute mode route (declared ++ [registration]) =
      if registration.route mode = route then onRoute mode route declared ++ [registration]
      else onRoute mode route declared := by
  unfold onRoute
  rw [List.filter_append, List.filter_singleton]
  by_cases here : registration.route mode = route <;> simp [here]

/-- Under a route is the table of what was declared for it, if anything was. -/
theorem lookup_declared (mode : Routing.Mode) (declared : List (Registration κ σ))
    (route : List Routing.Label.Folded) :
    (Routing.PatternMap.after mode (declared.map Registration.call)).lookup route =
      if onRoute mode route declared = [] then none
      else some (.ofDeclared (onRoute mode route declared)) := by
  induction declared using List.reverseRecOn with
  | nil => rfl
  | append_singleton declared registration ih =>
    rw [List.map_append, List.map_singleton, Routing.PatternMap.after, List.foldl_concat,
      ← Routing.PatternMap.after, Routing.Call.lookup_record, ih, onRoute_concat]
    by_cases here : registration.route mode = route
    · have key : registration.call.key mode = route := here
      have some_declared : onRoute mode route declared ++ [registration] ≠ [] := by simp
      rw [if_pos key, if_pos here, if_neg some_declared, VerbTable.ofDeclared_concat]
      split
      · rename_i none
        rw [none]
        rfl
      · rfl
    · have key : registration.call.key mode ≠ route := here
      rw [if_neg key, if_neg here]

namespace Registry

variable {registry : Registry κ σ} {declared : List (Registration κ σ)}

/-- The registration for a verb and the route of a pattern. -/
def registered? (registry : Registry κ σ) (verb : Verb) (pattern : String) :
    Option (Registration κ σ) :=
  (registry.routes.get? pattern).bind (VerbTable.find? · verb)

theorem size_eq (registry : Registry κ σ) : registry.size = registry.listing.length := by
  have step (entries : List (String × VerbTable κ σ)) (total : Nat) :
      entries.foldl (fun total entry => total + entry.2.length) total =
        total + (entries.flatMap fun entry => entry.2.map fun registration =>
          (registration.endpoint.verb, registration.endpoint.path)).length := by
    induction entries generalizing total with
    | nil => rfl
    | cons entry rest ih =>
      rw [List.foldl_cons, ih, List.flatMap_cons, List.length_append, List.length_map,
        Nat.add_assoc]
  exact (step registry.routes.entries 0).trans (Nat.zero_add _)

/-- The routes of a registry are those of registrations declared one after the other. -/
def Declares (registry : Registry κ σ) (declared : List (Registration κ σ)) : Prop :=
  registry.routes = .after registry.routes.mode (declared.map Registration.call)

namespace Declares

variable (declares : registry.Declares declared)

include declares

theorem holds : registry.routes.Holds
    (.after registry.routes.mode (declared.map Registration.call)) := by
  have holds := Routing.Trie.holds_after registry.routes.mode (declared.map Registration.call)
  rwa [← declares] at holds

theorem get?_eq (pattern : String) :
    registry.routes.get? pattern =
      let here := onRoute registry.routes.mode (Routing.key registry.routes.mode pattern) declared
      if here = [] then none else some (.ofDeclared here) := by
  rw [declares.holds.get?_eq, lookup_declared]

/-- Under a verb and a route stands the last registration declared for them. -/
theorem registered?_eq (verb : Verb) (pattern : String) :
    registry.registered? verb pattern =
      (declared.filter (·.place registry.routes.mode =
        (verb, Routing.key registry.routes.mode pattern))).getLast? := by
  have both : declared.filter (·.place registry.routes.mode =
        (verb, Routing.key registry.routes.mode pattern)) =
      (onRoute registry.routes.mode (Routing.key registry.routes.mode pattern) declared).filter
        (·.endpoint.verb = verb) := by
    rw [onRoute, List.filter_filter]
    simp [Registration.place]
  rw [registered?, declares.get?_eq, both]
  simp only
  split
  · rename_i none
    rw [none]
    rfl
  · exact VerbTable.find?_ofDeclared _ verb

/-- A listed table is the one of its route, for which something was declared. -/
theorem of_mem_entries {path : List Routing.Label} {table : VerbTable κ σ}
    (listed : (path, table) ∈ registry.routes.root.entries) :
    onRoute registry.routes.mode (path.map Routing.Label.folded) declared ≠ [] ∧
      table = .ofDeclared
        (onRoute registry.routes.mode (path.map Routing.Label.folded) declared) := by
  have found := declares.holds.lookup_of_mem_entries listed
  rw [lookup_declared] at found
  split at found
  · cases found
  · rename_i some_declared
    exact ⟨some_declared, (Option.some.inj found).symm⟩

/-- The verbs and routes listed are, route by route, the verbs of the route's table. -/
theorem places_eq : registry.listing.map (fun (verb, pattern) =>
      (verb, Routing.key registry.routes.mode pattern)) =
    registry.routes.root.keys.flatMap fun route =>
      (VerbTable.verbs (.ofDeclared (onRoute registry.routes.mode route declared))).map
        (·, route) := by
  rw [listing, Routing.Trie.entries, List.flatMap_map, List.map_flatMap, Routing.Node.keys,
    List.flatMap_map]
  apply List.flatMap_congr
  rintro ⟨path, table⟩ listed
  obtain ⟨-, rfl⟩ := declares.of_mem_entries listed
  simp only [VerbTable.verbs, List.map_map]
  apply List.map_congr_left
  intro registration member
  exact Prod.ext rfl (mem_onRoute.mp (VerbTable.mem_of_mem_ofDeclared member)).2

/-- Every verb and route for which something was declared is listed, and none twice. -/
theorem places_perm : (registry.listing.map fun (verb, pattern) =>
      (verb, Routing.key registry.routes.mode pattern)).Perm
    (declared.map (·.place registry.routes.mode)).eraseDups := by
  rw [declares.places_eq]
  have distinct := declares.holds.sound.nodup_keys
  rw [List.perm_ext_iff_of_nodup _ (nodup_eraseDups _)]
  · rintro ⟨verb, route⟩
    simp only [List.mem_flatMap, List.mem_map, VerbTable.verbs_ofDeclared, List.mem_eraseDups]
    constructor
    · rintro ⟨_, -, _, ⟨registration, member, rfl⟩, same⟩
      cases same
      obtain ⟨here, route⟩ := mem_onRoute.mp member
      exact ⟨registration, here, Prod.ext rfl route⟩
    · rintro ⟨registration, member, same⟩
      cases same
      have here : registration ∈ onRoute registry.routes.mode
          (registration.route registry.routes.mode) declared :=
        mem_onRoute.mpr ⟨member, rfl⟩
      refine ⟨_, ?_, _, ⟨registration, here, rfl⟩, rfl⟩
      rw [declares.holds.keys_perm.mem_iff, ← AList.mem_keys, ← AList.lookup_isSome,
        lookup_declared, if_neg (List.ne_nil_of_mem here)]
      rfl
  · rw [List.nodup_flatMap]
    constructor
    · intro route _
      exact (VerbTable.nodup_verbs _).map fun _ _ same => (Prod.mk.inj same).1
    · refine distinct.imp fun {one other} apart => ?_
      intro place first second
      obtain ⟨_, -, rfl⟩ := List.mem_map.mp first
      obtain ⟨_, -, same⟩ := List.mem_map.mp second
      exact apart (Prod.mk.inj same).2.symm

/-- A pattern is listed for a verb as the registration that stands there spells it. -/
theorem registered?_of_listed {verb : Verb} {pattern : String}
    (listed : (verb, pattern) ∈ registry.listing) :
    ∃ registration, registry.registered? verb pattern = some registration ∧
      registration.endpoint.path = pattern := by
  rw [listing, Routing.Trie.entries, List.flatMap_map] at listed
  obtain ⟨⟨path, table⟩, entry, member⟩ := List.mem_flatMap.mp listed
  obtain ⟨registration, inTable, same⟩ := List.mem_map.mp member
  cases same
  obtain ⟨some_declared, rfl⟩ := declares.of_mem_entries entry
  have route := (mem_onRoute.mp (VerbTable.mem_of_mem_ofDeclared inTable)).2
  refine ⟨registration, ?_, rfl⟩
  rw [registered?, declares.get?_eq, show Routing.key _ registration.endpoint.path = _ from route]
  simp only [if_neg some_declared, Option.bind_some]
  exact VerbTable.find?_of_mem (VerbTable.nodup_verbs _) inTable

/-- A registry counts no route exactly if it counts no registration. -/
theorem isEmpty_iff : registry.isEmpty = true ↔ registry.size = 0 := by
  have counted : registry.routes.size = registry.routes.root.keys.length := by
    have size := Routing.Trie.size_after registry.routes.mode (declared.map Registration.call)
    rw [← declares] at size
    rw [size, declares.holds.keys_perm.length_eq]
  rw [isEmpty, Routing.Trie.isEmpty, beq_iff_eq, counted, size_eq, List.length_eq_zero_iff,
    List.length_eq_zero_iff]
  constructor
  · intro none
    have places := declares.places_eq
    rwa [none, List.flatMap_nil, List.map_eq_nil_iff] at places
  · intro none
    apply List.eq_nil_iff_forall_not_mem.mpr
    intro route member
    obtain ⟨⟨path, table⟩, listed, rfl⟩ := List.mem_map.mp member
    -- Something was declared for the route, so something is listed.
    obtain ⟨registration, here⟩ := List.exists_mem_of_ne_nil _ (declares.of_mem_entries listed).1
    have place := List.mem_map_of_mem (f := (·.place registry.routes.mode)) (mem_onRoute.mp here).1
    rw [← List.mem_eraseDups, ← declares.places_perm.mem_iff, none] at place
    cases place

end Declares

end Registry

end HttpDispatch
