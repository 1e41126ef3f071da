import HttpDispatch.Proofs.Routing.PatternMap

/-!
The values of a table, one by one. A sound tree lists every value that can be found in it, under
one spelling of the labels that lead there, and no value twice; a table counts the patterns that
it lists.
-/

namespace HttpDispatch.Routing

variable {α : Type u}

namespace Edges

variable {edges : Edges α} {label : Label} {stem path : List Label} {held : α}

/-- What is listed below a place is found from that place on. -/
theorem Sound.of_mem_entries (sound : edges.Sound) (member : (path, held) ∈ edges.entries stem) :
    ∃ label ∈ edges.labels, ∃ rest, path = stem ++ label :: rest ∧
      (edges.find? label).bind (·.valueAt rest) = some held := by
  induction edges generalizing stem with
  | nil => simp [entries] at member
  | cons label value below rest below_ih rest_ih =>
    rw [entries, List.mem_append, List.mem_append] at member
    rcases member with (here | inner) | later
    · obtain ⟨_, is_held, same⟩ := List.mem_map.mp here
      cases same
      refine ⟨label, .head _, [], rfl, ?_⟩
      rw [find?_self sound, Option.bind_some, Node.valueAt_nil]
      exact Option.mem_toList.mp is_held
    · obtain ⟨next, -, more, rfl, found⟩ := below_ih sound.inner inner
      refine ⟨label, .head _, next :: more, by simp, ?_⟩
      rw [find?_self sound, Option.bind_some, Node.valueAt_cons, found]
    · obtain ⟨next, listed, more, rfl, found⟩ := rest_ih sound.later later
      refine ⟨next, .tail _ listed, more, rfl, ?_⟩
      rw [find?_cons sound, sound.order_lt listed]
      exact found

/-- What can be found is listed, under some spelling of its labels. -/
theorem Sound.exists_mem_entries (sound : edges.Sound)
    (found : (edges.find? label).bind (·.valueAt path) = some held) (stem : List Label) :
    ∃ spelled, spelled.map Label.folded = (label :: path).map Label.folded ∧
      (stem ++ spelled, held) ∈ edges.entries stem := by
  induction edges generalizing label path stem with
  | nil => simp [find?_nil] at found
  | cons first value below rest below_ih rest_ih =>
    rw [find?_cons sound] at found
    simp only [entries, List.mem_append]
    cases here : first.order label with
    | lt =>
      simp only [here] at found
      obtain ⟨spelled, same, listed⟩ := rest_ih sound.later found stem
      exact ⟨spelled, same, .inr listed⟩
    | gt => simp [here] at found
    | eq =>
      have spelling := Label.order_eq_iff.mp here
      simp only [here, Option.bind_some] at found
      cases path with
      | nil =>
        rw [Node.valueAt_nil] at found
        refine ⟨[first], by simp [spelling], .inl (.inl ?_)⟩
        simp [show value = some held from found]
      | cons next path =>
        rw [Node.valueAt_cons] at found
        obtain ⟨spelled, same, listed⟩ := below_ih sound.inner found (stem ++ [first])
        refine ⟨first :: spelled, by simp [spelling, same], .inl (.inr ?_)⟩
        rwa [List.append_assoc, List.singleton_append] at listed

/-- No two listed values have the same labels. -/
theorem Sound.pairwise_entries (sound : edges.Sound) (stem : List Label) :
    (edges.entries stem).Pairwise fun earlier later =>
      earlier.1.map Label.folded ≠ later.1.map Label.folded := by
  induction edges generalizing stem with
  | nil => exact .nil
  | cons label value below rest below_ih rest_ih =>
    rw [entries, List.pairwise_append, List.pairwise_append]
    refine ⟨⟨?_, below_ih sound.inner _, ?_⟩, rest_ih sound.later _, ?_⟩
    · cases value <;> simp
    · -- The labels of the place itself are fewer than those of anything below it.
      rintro ⟨path, _⟩ here ⟨deep, _⟩ inner same
      obtain ⟨_, _, whole⟩ := List.mem_map.mp here
      cases whole
      obtain ⟨next, -, more, rfl, -⟩ := sound.inner.of_mem_entries inner
      simpa using congrArg List.length same
    · rintro ⟨path, _⟩ early ⟨other, _⟩ late same
      obtain ⟨next, listed, more, rfl, -⟩ := sound.later.of_mem_entries late
      have starts : ∃ tail, path = stem ++ label :: tail := by
        rcases List.mem_append.mp early with here | inner
        · obtain ⟨_, _, whole⟩ := List.mem_map.mp here
          cases whole
          exact ⟨[], rfl⟩
        · obtain ⟨deeper, -, tail, rfl, -⟩ := sound.inner.of_mem_entries inner
          exact ⟨deeper :: tail, by simp⟩
      obtain ⟨tail, rfl⟩ := starts
      simp only [List.map_append, List.map_cons, List.append_cancel_left_eq,
        List.cons.injEq] at same
      have less := sound.order_lt listed
      rw [Label.order_eq_iff.mpr same.1] at less
      cases less

end Edges

namespace Node

variable {node : Node α} {path : List Label} {held : α}

theorem Sound.valueAt_of_mem_entries (sound : node.Sound) (member : (path, held) ∈ node.entries) :
    node.valueAt path = some held := by
  rcases List.mem_append.mp member with here | below
  · obtain ⟨_, is_held, same⟩ := List.mem_map.mp here
    cases same
    exact Option.mem_toList.mp is_held
  · obtain ⟨label, -, rest, rfl, found⟩ := Edges.Sound.of_mem_entries sound below
    rwa [List.nil_append, valueAt_cons]

theorem Sound.exists_mem_entries (sound : node.Sound) (found : node.valueAt path = some held) :
    ∃ spelled, spelled.map Label.folded = path.map Label.folded ∧ (spelled, held) ∈ node.entries := by
  cases path with
  | nil =>
    rw [valueAt_nil] at found
    exact ⟨[], rfl, List.mem_append_left _ (by simp [found])⟩
  | cons label path =>
    rw [valueAt_cons] at found
    obtain ⟨spelled, same, listed⟩ := Edges.Sound.exists_mem_entries sound found []
    exact ⟨spelled, same, List.mem_append_right _ listed⟩

/-- The keys under which the values of a tree are listed. -/
def keys (node : Node α) : List (List Label.Folded) :=
  node.entries.map (·.1.map Label.folded)

theorem Sound.nodup_keys (sound : node.Sound) : node.keys.Nodup := by
  rw [keys, List.nodup_iff_pairwise_ne, List.pairwise_map, entries, List.pairwise_append]
  refine ⟨?_, Edges.Sound.pairwise_entries sound [], ?_⟩
  · cases node.value <;> simp
  · rintro ⟨path, _⟩ here ⟨deep, _⟩ below same
    obtain ⟨_, _, whole⟩ := List.mem_map.mp here
    cases whole
    obtain ⟨label, -, rest, rfl, -⟩ := Edges.Sound.of_mem_entries sound below
    simp at same

end Node

/-- A value under a new key is one more. -/
theorem length_keys_insert {κ : Type v} [DecidableEq κ] (map : AList fun _ : κ => α) (key : κ)
    (value : α) :
    (map.insert key value).keys.length =
      if (map.lookup key).isNone then map.keys.length + 1 else map.keys.length := by
  rw [AList.keys_insert, List.length_cons]
  cases held : map.lookup key with
  | none =>
    have fresh := AList.lookup_eq_none.mp held
    rw [List.erase_of_not_mem (mt AList.mem_keys.mpr fresh)]
    rfl
  | some value =>
    have known : key ∈ map := by
      rw [← AList.lookup_isSome, held]
      rfl
    have member := AList.mem_keys.mp known
    have := List.length_pos_of_mem member
    rw [List.length_erase_of_mem member]
    simp only [Option.isNone_some, Bool.false_eq_true, if_false]
    omega

namespace Trie

variable {trie : Trie α} {map : PatternMap α}

/-- A table lists each key of its map once. -/
theorem Holds.keys_perm (holds : trie.Holds map) : trie.root.keys.Perm map.keys := by
  rw [List.perm_ext_iff_of_nodup holds.sound.nodup_keys map.keys_nodup]
  intro key
  rw [← AList.mem_keys, Node.keys, List.mem_map]
  constructor
  · rintro ⟨⟨path, held⟩, listed, rfl⟩
    have found := holds.sound.valueAt_of_mem_entries listed
    rw [← AList.lookup_isSome, ← holds.values, found]
    rfl
  · intro member
    obtain ⟨path, rfl⟩ := holds.reached key member
    obtain ⟨held, found⟩ := Option.isSome_iff_exists.mp (AList.lookup_isSome.mpr member)
    rw [← holds.values] at found
    obtain ⟨spelled, same, listed⟩ := holds.sound.exists_mem_entries found
    exact ⟨_, listed, same⟩

theorem Holds.lookup_of_mem_entries (holds : trie.Holds map) {path : List Label} {held : α}
    (listed : (path, held) ∈ trie.root.entries) :
    map.lookup (path.map Label.folded) = some held := by
  rw [← holds.values]
  exact holds.sound.valueAt_of_mem_entries listed

theorem Holds.get?_eq (holds : trie.Holds map) (pattern : String) :
    trie.get? pattern = map.lookup (key trie.mode pattern) :=
  holds.values (labels trie.mode pattern)

/-- A call counts the pattern that it is about unless this had a value. -/
theorem Holds.size_apply (holds : trie.Holds map) (counted : trie.size = map.keys.length)
    (call : Call α) :
    (call.apply trie).size = (call.record trie.mode map).keys.length := by
  have update (pattern : String) (change : Option α → α) (value : α) :
      (trie.update pattern change).size =
        (map.insert (key trie.mode pattern) value).keys.length := by
    rw [length_keys_insert, ← counted, ← holds.get?_eq]
    rfl
  cases call with
  | insert pattern value => exact update pattern _ value
  | getOrInsert pattern value write => exact update pattern _ _
  | modify pattern write =>
    simp only [Call.apply, Trie.modify, Call.record, Call.effect, Call.key, Call.pattern,
      holds.get?_eq]
    cases map.lookup (key trie.mode pattern) with
    | none => exact counted
    | some held => exact update pattern _ _

/-- A table counts the keys of its map. -/
theorem size_after (mode : Mode) (calls : List (Call α)) :
    (Trie.after mode calls).size = (PatternMap.after mode calls).keys.length := by
  have step (trie : Trie α) (map : PatternMap α) (holds : trie.Holds map)
      (counted : trie.size = map.keys.length) :
      (calls.foldl Call.apply trie).size =
        (calls.foldl (Call.record trie.mode) map).keys.length := by
    induction calls generalizing trie map with
    | nil => exact counted
    | cons call calls ih =>
      rw [List.foldl_cons, List.foldl_cons, ← mode_apply trie call]
      exact ih _ _ (mode_apply trie call ▸ holds.apply call)
        (mode_apply trie call ▸ holds.size_apply counted call)
  exact step _ _ (holds_empty mode) rfl

end Trie

end HttpDispatch.Routing
