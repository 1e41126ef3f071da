import HttpDispatch.Form.TextMap
import Mathlib.Data.List.AList
import Mathlib.Data.List.Induction

/-!
Pairs as maps. Names that are given values in turn have the last of them, and one name never takes
two places; so it does not matter in what order the pairs of a map are given.
-/

namespace HttpDispatch

/-! ### Last values -/

namespace Form

/-- The value that a name is given last. -/
def lastValue? (pairs : Pairs) (name : String) : Option String :=
  (pairs.filter (·.1 = name)).getLast?.map (·.2)

theorem lastValue?_concat (pairs : Pairs) (pair : String × String) (name : String) :
    lastValue? (pairs ++ [pair]) name =
      if pair.1 = name then some pair.2 else lastValue? pairs name := by
  unfold lastValue?
  by_cases same : pair.1 = name <;> simp [same]

/-- Where no name is given twice, the last value of a name is its only one. -/
theorem lastValue?_eq_some_iff {pairs : Pairs} (once : (pairs.map Prod.fst).Nodup)
    (name value : String) : lastValue? pairs name = some value ↔ (name, value) ∈ pairs := by
  induction pairs using List.reverseRecOn with
  | nil => simp [lastValue?]
  | append_singleton pairs pair ih =>
    rw [List.map_append, List.nodup_append] at once
    obtain ⟨before, -, apart⟩ := once
    rw [lastValue?_concat, List.mem_append, List.mem_singleton]
    obtain ⟨given, held⟩ := pair
    by_cases same : given = name
    · subst same
      have earlier : (given, value) ∉ pairs := fun member =>
        apart given (List.mem_map_of_mem member) given (by simp) rfl
      simp [earlier, eq_comm]
    · simp [same, ih before, Ne.symm same]

end Form

/-! ### Maps -/

/-- The map has these values, and each name once. -/
structure TextMap.Gives (map : TextMap) (value? : String → Option String) : Prop where
  values : ∀ name, map.get? name = value? name
  once : (map.entries.map Prod.fst).Nodup

namespace TextMap

variable {map : TextMap} {value? : String → Option String}

theorem names_insertEntry (name value : String) (entries : Form.Pairs) :
    (insertEntry name value entries).map Prod.fst =
      if name ∈ entries.map Prod.fst then entries.map Prod.fst
      else entries.map Prod.fst ++ [name] := by
  induction entries with
  | nil => rfl
  | cons entry rest ih =>
    obtain ⟨held, old⟩ := entry
    rw [insertEntry]
    by_cases same : held = name
    · simp [same]
    · rw [if_neg same, List.map_cons, ih]
      by_cases later : name ∈ rest.map Prod.fst
      · simp only [if_pos later, List.map_cons, List.mem_cons_of_mem _ later, if_true]
      · have absent : name ∉ ((held, old) :: rest).map Prod.fst := by
          rw [List.map_cons, List.mem_cons, not_or]
          exact ⟨Ne.symm same, later⟩
        rw [if_neg later, if_neg absent]
        rfl

theorem gives_empty : empty.Gives fun _ => none := ⟨fun _ => rfl, .nil⟩

theorem Gives.insert (gives : map.Gives value?) (name value : String) :
    (map.insert name value).Gives fun wanted =>
      if wanted = name then some value else value? wanted where
  values wanted := by rw [get?_insert, gives.values]
  once := by
    have once := gives.once
    rw [TextMap.insert, names_insertEntry]
    split
    · exact once
    · rename_i absent
      refine List.nodup_append.mpr ⟨once, List.nodup_singleton name, ?_⟩
      intro held there other last same
      rw [List.mem_singleton] at last
      exact absent (last ▸ same ▸ there)

/-- Names that are given values have the last of these, and others what they had. -/
theorem Gives.extend (gives : map.Gives value?) (pairs : Form.Pairs) :
    (map.extend pairs).Gives fun name => (Form.lastValue? pairs name).or (value? name) := by
  induction pairs using List.reverseRecOn with
  | nil => exact gives
  | append_singleton pairs pair ih =>
    have both : map.extend (pairs ++ [pair]) = (map.extend pairs).insert pair.1 pair.2 :=
      List.foldl_concat _ _ _ _
    have after := ih.insert pair.1 pair.2
    refine ⟨fun name => ?_, both ▸ after.once⟩
    rw [both, after.values, Form.lastValue?_concat]
    by_cases same : pair.1 = name
    · simp [same]
    · simp [same, Ne.symm same]

theorem gives_ofPairs (pairs : Form.Pairs) : (ofPairs pairs).Gives (Form.lastValue? pairs) := by
  have gives := gives_empty.extend pairs
  exact ⟨fun name => (gives.values name).trans Option.or_none, gives.once⟩

theorem get?_eq_some_iff (once : (map.entries.map Prod.fst).Nodup) (name value : String) :
    map.get? name = some value ↔ (name, value) ∈ map.entries := by
  rw [get?, List.lookup_eq_some_iff]
  constructor
  · rintro ⟨before, after, whole, -⟩
    simp [whole]
  · intro member
    obtain ⟨before, after, whole⟩ := List.append_of_mem member
    rw [whole, List.map_append, List.nodup_append] at once
    refine ⟨before, after, whole, fun pair earlier => ?_⟩
    rw [bne_iff_ne]
    exact (once.2.2 pair.1 (List.mem_map_of_mem earlier) name (by simp)).symm

/-- Read as pairs again, a map gives the same values. -/
theorem Gives.lastValue?_entries (gives : map.Gives value?) (name : String) :
    Form.lastValue? map.entries name = value? name := by
  ext value
  rw [Form.lastValue?_eq_some_iff gives.once, ← get?_eq_some_iff gives.once, gives.values]

end TextMap

/-! ### Maps of names, in any order -/

/-- Values by name. -/
abbrev NameMap := AList fun _ : String => String

namespace Form

/-- The pairs of a map, each once, in some order. -/
def Lists (order : Pairs) (map : NameMap) : Prop :=
  order.Perm (map.entries.map fun entry => (entry.1, entry.2))

instance (order : Pairs) (map : NameMap) : Decidable (Lists order map) := by
  unfold Lists
  infer_instance

variable {order : Pairs} {map : NameMap}

theorem Lists.once (lists : Lists order map) : (order.map Prod.fst).Nodup := by
  have names := lists.map Prod.fst
  rw [List.map_map] at names
  exact names.nodup_iff.mpr map.nodupKeys

theorem Lists.mem_iff (lists : Lists order map) (name value : String) :
    (name, value) ∈ order ↔ map.lookup name = some value := by
  rw [← Option.mem_def, AList.mem_lookup_iff, List.Perm.mem_iff lists, List.mem_map]
  constructor
  · rintro ⟨entry, member, same⟩
    cases same
    exact member
  · intro member
    exact ⟨_, member, rfl⟩

/-- Whatever order its pairs are in, a map gives its values. -/
theorem Lists.lastValue?_eq (lists : Lists order map) (name : String) :
    lastValue? order name = map.lookup name := by
  ext value
  rw [lastValue?_eq_some_iff lists.once, lists.mem_iff]

end Form

end HttpDispatch
