import HttpDispatch.Routing.Search

/-!
Halving finds what a scan finds. The scan looks at every item up to the first that does not stand
before the wanted one; on items in order the two searches end at the same place.
-/

namespace HttpDispatch.Routing

/-- The same place counted from one item earlier. -/
def Place.after : Place → Place
  | found index => found (index + 1)
  | missing index => missing (index + 1)

variable {α : Type u} {side : α → Ordering} {items : List α}

/-- The search from the first item on. -/
def scan (side : α → Ordering) : List α → Place
  | [] => .missing 0
  | first :: rest =>
    match side first with
    | .lt => (scan side rest).after
    | .eq => .found 0
    | .gt => .missing 0

/-- Items stand in order around the wanted one when everything that follows an item at or behind
it is behind it. -/
def Around (side : α → Ordering) (items : List α) : Prop :=
  items.Pairwise fun earlier later => side earlier ≠ .lt → side later = .gt

theorem Around.behind (around : Around side items) {low high : Nat} {earlier later : α}
    (less : low < high) (first : items[low]? = some earlier) (second : items[high]? = some later)
    (reached : side earlier ≠ .lt) : side later = .gt := by
  obtain ⟨inLow, rfl⟩ := List.getElem?_eq_some_iff.mp first
  obtain ⟨inHigh, rfl⟩ := List.getElem?_eq_some_iff.mp second
  exact List.pairwise_iff_getElem.mp around low high inLow inHigh less reached

/-- Halving stays on a stretch that starts at or before the wanted item and behind which every
item is too large. -/
theorem bisect_bounds (around : Around side items) (base size : Nat)
    (inside : base + size ≤ items.length) (nonempty : 0 < size)
    (low : base = 0 ∨ items[base]?.map side ≠ some .gt)
    (high : ∀ index item, base + size ≤ index → items[index]? = some item → side item = .gt) :
    let last := bisect side items base size
    last < items.length ∧ (last = 0 ∨ items[last]?.map side ≠ some .gt) ∧
      ∀ index item, last < index → items[index]? = some item → side item = .gt := by
  fun_induction bisect side items base size with
  | case1 base size single =>
    exact ⟨by omega, low, fun index item less => high index item (by omega)⟩
  | case2 base size several behind ih =>
    have inMiddle : base + size / 2 < items.length := by omega
    rw [List.getElem?_eq_getElem inMiddle, Option.map_some, Option.some.injEq] at behind
    apply ih (by omega) (by omega) low
    intro index item reached found
    rcases Nat.eq_or_lt_of_le (show base + size / 2 ≤ index by omega) with same | later
    · subst same
      rw [List.getElem?_eq_getElem inMiddle, Option.some.injEq] at found
      rw [← found, behind]
    · exact around.behind later (List.getElem?_eq_getElem inMiddle) found (by simp [behind])
  | case3 base size several reached ih =>
    exact ih (by omega) (by omega) (.inr reached) fun index item past => high index item (by omega)

theorem scan_found (around : Around side items) {index : Nat} {item : α}
    (found : items[index]? = some item) (same : side item = .eq) :
    scan side items = .found index := by
  induction items generalizing index with
  | nil => simp at found
  | cons first rest ih =>
    cases index with
    | zero =>
      simp only [List.getElem?_cons_zero, Option.some.injEq] at found
      simp [scan, found, same]
    | succ index =>
      have before : side first = .lt := by
        apply Decidable.byContradiction
        intro reached
        have behind := around.behind (Nat.succ_pos index) (by simp) found reached
        simp [behind] at same
      rw [List.getElem?_cons_succ] at found
      simp [scan, before, ih around.of_cons found, Place.after]

theorem scan_missing {index : Nat} (inside : index ≤ items.length)
    (low : ∀ place item, place < index → items[place]? = some item → side item = .lt)
    (high : ∀ place item, index ≤ place → items[place]? = some item → side item = .gt) :
    scan side items = .missing index := by
  induction items generalizing index with
  | nil => simp_all [scan]
  | cons first rest ih =>
    cases index with
    | zero => simp [scan, high 0 first (Nat.le_refl 0) rfl]
    | succ index =>
      have rest := ih (show index ≤ rest.length by simpa using inside)
        (fun place item less found => low (place + 1) item (by omega) (by simpa using found))
        (fun place item past found => high (place + 1) item (by omega) (by simpa using found))
      simp [scan, low 0 first (Nat.succ_pos index) rfl, rest, Place.after]

/-- On items in order, halving ends where the scan ends. -/
theorem search_eq_scan (around : Around side items) : search side items = scan side items := by
  cases items with
  | nil => simp [search, scan, bisect]
  | cons first rest =>
    obtain ⟨inside, low, high⟩ := bisect_bounds around 0 (first :: rest).length
      (by simp) (by simp) (.inl rfl)
      (fun index item past found => by
        rw [List.getElem?_eq_none (by simpa using past)] at found
        cases found)
    -- Everything behind the last item looked at is too large, so only its own side is open.
    generalize last : bisect side (first :: rest) 0 (first :: rest).length = place at inside low high
    have found := List.getElem?_eq_getElem inside
    have behind {other : Nat} {item : α} (less : other < place)
        (earlier : (first :: rest)[other]? = some item)
        (reached : side (first :: rest)[place] ≠ .gt) : side item = .lt := by
      apply Decidable.byContradiction
      intro notBefore
      exact reached (around.behind less earlier found notBefore)
    simp only [search, last, found, Option.map_some]
    cases here : side (first :: rest)[place] with
    | eq => exact (scan_found around found here).symm
    | lt =>
      refine (scan_missing (by omega) ?_ high).symm
      intro other item less earlier
      rcases Nat.lt_succ_iff_lt_or_eq.mp less with before | same
      · exact behind before earlier (by simp [here])
      · rw [same, found, Option.some.injEq] at earlier
        rw [← earlier, here]
    | gt =>
      have start : place = 0 := by simpa [found, here] using low
      subst start
      refine (scan_missing (Nat.zero_le _) (by simp) ?_).symm
      intro other item _ later
      rcases Nat.eq_zero_or_pos other with same | past
      · subst same
        rw [found, Option.some.injEq] at later
        rw [← later, here]
      · exact high other item past later

theorem scan_front (first : α → Bool) (items : List α) :
    scan (fun item => if first item then .lt else .gt) items =
      .missing (items.takeWhile first).length := by
  induction items with
  | nil => rfl
  | cons item rest ih =>
    by_cases front : first item <;> simp [scan, front, ih, Place.after]

/-- Where the items that come first stand at the front, halving finds where they end. -/
theorem partitionPoint_splits {first : α → Bool}
    (front : items.Pairwise fun earlier later => first later → first earlier) :
    ∃ before after, items = before ++ after ∧ partitionPoint first items = before.length ∧
      (∀ item ∈ before, first item) ∧ ∀ item ∈ after, ¬first item := by
  have around : Around (fun item => if first item then .lt else .gt) items := by
    apply front.imp
    intro earlier later together
    by_cases reached : first earlier
    · simp [reached]
    · simp [mt together reached]
  refine ⟨items.takeWhile first, items.dropWhile first, List.takeWhile_append_dropWhile.symm, ?_,
    List.all_eq_true.mp List.all_takeWhile, ?_⟩
  · rw [partitionPoint, search_eq_scan around, scan_front]
  · have together := front.sublist (List.dropWhile_sublist first)
    cases rest : items.dropWhile first with
    | nil => simp
    | cons head tail =>
      have behind : ¬first head := by
        have nonempty : items.dropWhile first ≠ [] := by simp [rest]
        simpa [rest] using List.head_dropWhile_not first nonempty
      rw [rest] at together
      intro item member reached
      rcases List.mem_cons.mp member with rfl | later
      · exact behind reached
      · exact behind (List.rel_of_pairwise_cons together later reached)

end HttpDispatch.Routing
