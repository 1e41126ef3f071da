import HttpDispatch.Proofs.Routing.PatternMap

/-!
Resolution read off the map of patterns. One segment after the other is taken as a literal if some
key goes on with it, else by a wildcard if some key goes on with that; nothing is ever taken back.
A table resolves every path as this reading of its map does, so all that counts of its history is
what was done to each key.
-/

namespace HttpDispatch.Routing

variable {α : Type u}

namespace PatternMap

/-- Some key starts with these labels. -/
def LeadsTo (map : PatternMap α) (stem : List Label.Folded) : Prop := ∃ key ∈ map.keys, stem <+: key

instance (map : PatternMap α) (stem : List Label.Folded) : Decidable (map.LeadsTo stem) :=
  inferInstanceAs (Decidable (∃ key ∈ map.keys, stem <+: key))

/-- Takes one segment of a path: the labels taken so far with one more, and the segments captured
so far, with this one if it took a wildcard. -/
def advance (map : PatternMap α) (state : List Label.Folded × List String) (segment : String) :
    Option (List Label.Folded × List String) :=
  let literal := state.1 ++ [.literal (Text.fold segment)]
  let wildcard := state.1 ++ [.wildcard]
  if map.LeadsTo literal then some (literal, state.2)
  else if map.LeadsTo wildcard then some (wildcard, state.2 ++ [segment])
  else none

/-- Takes all segments of a path and looks up the labels taken. -/
def resolve (map : PatternMap α) (path : String) : Option (Resolution α) :=
  ((segments path).foldlM map.advance ([], [])).bind fun (taken, captured) =>
    (map.lookup taken).map (⟨·, captured⟩)

theorem leadsTo_congr {first second : PatternMap α}
    (same : ∀ key, first.lookup key = second.lookup key) (stem : List Label.Folded) :
    first.LeadsTo stem ↔ second.LeadsTo stem := by
  have member (key : List Label.Folded) : key ∈ first.keys ↔ key ∈ second.keys := by
    rw [← AList.mem_keys, ← AList.mem_keys, ← AList.lookup_isSome, ← AList.lookup_isSome, same]
  simp only [LeadsTo, member]

/-- Maps with the same values resolve every path alike. -/
theorem resolve_congr {first second : PatternMap α}
    (same : ∀ key, first.lookup key = second.lookup key) (path : String) :
    first.resolve path = second.resolve path := by
  have steps : first.advance = second.advance := by
    funext state segment
    simp only [advance, leadsTo_congr same]
  simp only [resolve, steps, same]

end PatternMap

namespace Trie.Holds

variable {trie : Trie α} {map : PatternMap α} {path : List Label} {node : Node α}

/-- A place other than the root is there exactly when some key leads to or past it. -/
theorem isSome_at?_iff (holds : trie.Holds map) (proper : path ≠ []) :
    (trie.root.at? path).isSome ↔ map.LeadsTo (path.map Label.folded) := by
  rw [Node.isSome_at?_iff holds.sound proper]
  constructor
  · rintro ⟨rest, held⟩
    rw [holds.values, List.map_append, AList.lookup_isSome] at held
    exact ⟨_, AList.mem_keys.mp held, List.prefix_append _ _⟩
  · rintro ⟨wanted, member, rest, rfl⟩
    obtain ⟨full, spelled⟩ := holds.reached _ (AList.mem_keys.mpr member)
    obtain ⟨first, last, rfl, same, rfl⟩ := List.map_eq_append_iff.mp spelled
    refine ⟨last, ?_⟩
    rw [holds.values, List.map_append, AList.lookup_isSome]
    exact AList.mem_keys.mpr member

/-- The child under a label is there exactly when some key goes on with the label. -/
theorem isSome_find?_iff (holds : trie.Holds map) (here : trie.root.at? path = some node)
    (label : Label) :
    (node.below.find? label).isSome ↔ map.LeadsTo (path.map Label.folded ++ [label.folded]) := by
  have place := holds.isSome_at?_iff (show path ++ [label] ≠ [] by simp)
  rw [Node.at?_append, here, List.map_append] at place
  rw [← List.map_singleton, ← place]
  cases found : node.below.find? label <;> simp [Node.at?, found]

/-- From any place on, following the children of the tree and reading off the map come to the same
end. -/
theorem walk_eq_greedy (holds : trie.Holds map) (rest : List String)
    (here : trie.root.at? path = some node) (captured : List String) :
    ((node.walk rest).bind fun (last, later) =>
        last.value.map (Resolution.mk · (captured ++ later))) =
      (rest.foldlM map.advance (path.map Label.folded, captured)).bind fun (taken, all) =>
        (map.lookup taken).map (Resolution.mk · all) := by
  -- Along the segments; the place in the tree and the labels taken go on together.
  induction rest generalizing path node captured with
  | nil =>
    have value : node.value = map.lookup (path.map Label.folded) := by
      rw [← holds.values, Node.valueAt, here, Option.bind_some]
    simp [Node.walk, value]
  | cons segment rest ih =>
    have literal := holds.isSome_find?_iff here (.literal segment)
    have wildcard := holds.isSome_find?_iff here .wildcard
    have sound : node.below.Sound := (holds.sound.of_at? here).1
    have next {label : Label} {child : Node α} (found : node.below.find? label = some child) :
        trie.root.at? (path ++ [label]) = some child := by
      simp [Node.at?_append, here, Node.at?, found]
    rw [Node.walk, Edges.literal?, List.foldlM_cons, PatternMap.advance]
    cases named : node.below.find? (.literal segment) with
    | some child =>
      rw [named] at literal
      have goes := literal.mp rfl
      have same := ih (next named) captured
      rw [List.map_append] at same
      simp only [Label.folded, List.map_cons, List.map_nil] at goes same
      simp [goes, ← same]
    | none =>
      rw [named] at literal
      have stops : ¬ map.LeadsTo (path.map Label.folded ++ [Label.folded (.literal segment)]) :=
        fun leads => by simpa using literal.mpr leads
      rw [Edges.wildcard?_eq sound]
      cases any : node.below.find? .wildcard with
      | some child =>
        rw [any] at wildcard
        have goes := wildcard.mp rfl
        have same := ih (next any) (captured ++ [segment])
        rw [List.map_append] at same
        simp only [Label.folded, List.map_cons, List.map_nil] at stops goes same
        simp only [if_neg stops, if_pos goes, Option.bind_eq_bind, Option.bind_some, ← same,
          Option.bind_map, Function.comp_def, List.append_assoc, List.singleton_append]
      | none =>
        rw [any] at wildcard
        have ends : ¬ map.LeadsTo (path.map Label.folded ++ [Label.folded .wildcard]) :=
          fun leads => by simpa using wildcard.mpr leads
        simp only [Label.folded] at stops ends
        simp [stops, ends]

theorem resolve_eq (holds : trie.Holds map) (path : String) :
    trie.resolve path = map.resolve path := by
  have root : trie.root.at? [] = some trie.root := rfl
  have same := holds.walk_eq_greedy (segments path) root []
  simp only [List.nil_append, List.map_nil] at same
  unfold Trie.resolve PatternMap.resolve
  cases walked : trie.root.walk (segments path) <;> simp_all

end Trie.Holds

/-- Whatever calls were made, a table resolves a path greedily on the map that the calls made, and
calls that do the same to each key in the same order, be they spelled or interleaved otherwise,
make a table that resolves it alike. -/
theorem resolve_eq_greedy (mode : Mode) (calls : List (Call α)) (path : String) :
    (Trie.after mode calls).resolve path = (PatternMap.after mode calls).resolve path ∧
      ∀ others : List (Call α),
        (∀ key, (others.filter (·.key mode = key)).map Call.effect =
          (calls.filter (·.key mode = key)).map Call.effect) →
        (Trie.after mode others).resolve path = (Trie.after mode calls).resolve path := by
  constructor
  · exact (Trie.holds_after mode calls).resolve_eq path
  · intro others same
    rw [(Trie.holds_after mode others).resolve_eq, (Trie.holds_after mode calls).resolve_eq]
    apply PatternMap.resolve_congr
    intro key
    rw [PatternMap.lookup_after, PatternMap.lookup_after, same]

/-- The literal taken for `b` is not undone where it leads nowhere, and another segment takes the
wildcard. -/
example :
    let trie : Trie Nat := .after .wildcards [.insert "/a/b/c" 1, .insert "/a/*/d" 2]
    (trie.resolve "/A/b/d").isNone ∧ trie.resolve "/A/x/d" = some ⟨2, ["x"]⟩ := by
  cbv

end HttpDispatch.Routing
