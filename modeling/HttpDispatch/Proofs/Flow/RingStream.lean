import HttpDispatch.Proofs.Flow.RingSlots

/-!
The stream that a ring carries. The part of it that waits to be taken is in the slots of the ring;
writing goes on with the stream, and reading goes on in it.
-/

namespace HttpDispatch.Flow

namespace Ring

variable {capacity : Nat} {ring : Ring capacity} {stream : Bytes}

/-- The ring was given `stream` and has the part of it that was not taken in its slots. -/
structure Carries (ring : Ring capacity) (stream : Bytes) : Prop where
  written : ring.written = stream.length
  taken_le : ring.taken ≤ ring.written
  held_le : ring.available ≤ capacity
  slot : ∀ place, ring.taken ≤ place → place < ring.written →
    ring.slots[place % capacity]? = stream[place]?

namespace Carries

theorem empty : (Ring.empty : Ring capacity).Carries [] where
  written := rfl
  taken_le := Nat.le_refl _
  held_le := Nat.zero_le _
  slot _ _ less := absurd less (Nat.not_lt_zero _)

/-- The oldest bytes are the next ones of the stream. -/
theorem front_eq (room : 0 < capacity) (carries : ring.Carries stream) {count : Nat}
    (enough : count ≤ ring.available) :
    ring.front count = (stream.drop ring.taken).take count := by
  have fits := Nat.le_trans enough carries.held_le
  have written := carries.written
  unfold available at enough
  apply List.ext_getElem?
  intro place
  rw [List.getElem?_take, List.getElem?_drop]
  by_cases here : place < count
  · rw [if_pos here, getElem?_front room ring fits here]
    exact carries.slot _ (by omega) (by omega)
  · rw [if_neg here, List.getElem?_eq_none]
    rw [length_front room ring fits]
    omega

theorem contents_eq (room : 0 < capacity) (carries : ring.Carries stream) :
    ring.contents = stream.drop ring.taken := by
  have written := carries.written
  rw [contents, carries.front_eq room (Nat.le_refl _)]
  apply List.take_of_length_le
  rw [List.length_drop, available]
  omega

theorem length_contents (room : 0 < capacity) (carries : ring.Carries stream) :
    ring.contents.length = ring.available := length_front room ring carries.held_le

/-- The oldest bytes, as many as asked for or as there are, are the front of what waits. -/
theorem front_min (room : 0 < capacity) (carries : ring.Carries stream) (most : Nat) :
    ring.front (min ring.available most) = ring.contents.take most := by
  rw [carries.front_eq room (Nat.min_le_left _ _), ← carries.contents_eq room, Nat.min_comm,
    ← carries.length_contents room, ← List.take_eq_take_min]

theorem push (room : 0 < capacity) (carries : ring.Carries stream) {bytes : Bytes}
    (fits : bytes.length ≤ ring.free) : (ring.push bytes).Carries (stream ++ bytes) := by
  have written := carries.written
  have taken_le := carries.taken_le
  have held_le := carries.held_le
  unfold free available at *
  refine ⟨?_, ?_, ?_, ?_⟩
  · simp [Ring.push, written]
  · simp only [Ring.push]
    omega
  · simp only [Ring.push, available]
    omega
  · intro place waiting before
    simp only [Ring.push] at waiting before
    -- A place below the old counter kept its byte; the others got theirs now.
    by_cases old : place < ring.written
    · rw [List.getElem?_append_left (by omega), ← carries.slot place waiting old]
      exact getElem?_push_old room ring bytes old (by omega)
    · rw [List.getElem?_append_right (by omega), ← written]
      have new := getElem?_push_new room ring bytes
        (show bytes.length ≤ capacity by omega) (show place - ring.written < bytes.length by omega)
      rwa [show ring.written + (place - ring.written) = place by omega] at new

theorem take (carries : ring.Carries stream) {count : Nat} (enough : count ≤ ring.available) :
    ({ ring with taken := ring.taken + count } : Ring capacity).Carries stream := by
  have taken_le := carries.taken_le
  have held_le := carries.held_le
  unfold available at *
  exact ⟨carries.written, by simp only; omega, by simp only [available]; omega,
    fun place waiting => carries.slot place (by simp only at waiting; omega)⟩

theorem close (carries : ring.Carries stream) : ring.close.Carries stream := ⟨carries.written,
  carries.taken_le, carries.held_le, carries.slot⟩

end Carries

/-- A write that is accepted puts into the ring as much of the chunk as there is room for. -/
theorem write_accepted {chunk : Bytes} {count : Nat} {after : Ring capacity}
    (answered : ring.write chunk = (.accepted count, after)) :
    count = min ring.free chunk.length ∧ after = ring.push (chunk.take count) ∧
      (chunk ≠ [] → 0 < count ∧ ring.isOpen = true) := by
  unfold write at answered
  by_cases nothing : chunk = []
  · subst nothing
    cases answered
    exact ⟨by simp, rfl, fun proper => absurd rfl proper⟩
  · have proper := List.length_pos_iff.mpr nothing
    rw [if_neg (by simpa using nothing)] at answered
    repeat' split at answered
    · cases answered
    · cases answered
    · rename_i still roomy
      cases answered
      exact ⟨rfl, rfl, fun _ => ⟨by omega, by simpa using still⟩⟩

theorem write_refused {chunk : Bytes} {after : Ring capacity}
    (answered : ring.write chunk = (.refused, after)) : after = ring ∧ ring.isOpen = false := by
  unfold write at answered
  repeat' split at answered
  all_goals cases answered
  exact ⟨rfl, by simp_all⟩

/-- A write waits only while the ring is open and full. -/
theorem write_waits {chunk : Bytes} {after : Ring capacity}
    (answered : ring.write chunk = (.waits, after)) :
    after = ring ∧ ring.isOpen = true ∧ ring.free = 0 := by
  unfold write at answered
  repeat' split at answered
  all_goals cases answered
  exact ⟨rfl, by simp_all, by assumption⟩

/-- A read that is answered gives the oldest bytes, as many as asked for or as there are. -/
theorem read_got {most : Nat} {bytes : Bytes} {after : Ring capacity}
    (answered : ring.read most = (.got bytes, after)) :
    bytes = ring.front (min ring.available most) ∧
      after = { ring with taken := ring.taken + min ring.available most } ∧
      (0 < most → ring.available = 0 → ring.isOpen = false) := by
  unfold read at answered
  by_cases nothing : most = 0
  · rw [if_pos nothing] at answered
    cases answered
    subst nothing
    exact ⟨by simp [front_zero], by simp, by omega⟩
  · rw [if_neg nothing] at answered
    by_cases exhausted : ring.available = 0
    · rw [if_pos exhausted] at answered
      by_cases still : ring.isOpen = true
      · simp [still] at answered
      · rw [if_neg still] at answered
        cases answered
        exact ⟨by simp [exhausted, front_zero], by simp [exhausted],
          fun _ _ => by simpa using still⟩
    · rw [if_neg exhausted] at answered
      cases answered
      exact ⟨rfl, rfl, fun _ none => absurd none exhausted⟩

theorem write_closed {chunk : Bytes} (isClosed : ring.isOpen = false) (nonempty : chunk ≠ []) :
    ring.write chunk = (.refused, ring) := by
  simp [write, isClosed, nonempty]

/-- A read waits only while nothing is in the ring and more may come. -/
theorem read_waits {most : Nat} {after : Ring capacity}
    (answered : ring.read most = (.waits, after)) :
    after = ring ∧ 0 < most ∧ ring.available = 0 ∧ ring.isOpen = true := by
  unfold read at answered
  by_cases nothing : most = 0
  · simp [nothing] at answered
  · by_cases exhausted : ring.available = 0
    · cases still : ring.isOpen with
      | true =>
        simp only [nothing, exhausted, still, if_true, if_false, Prod.mk.injEq] at answered
        exact ⟨answered.2.symm, by omega, exhausted, rfl⟩
      | false => simp [nothing, exhausted, still] at answered
    · simp [nothing, exhausted] at answered

/-- A closed ring answers every read with what is left. -/
theorem Carries.read_closed (room : 0 < capacity) (carries : ring.Carries stream)
    (isClosed : ring.isOpen = false) (most : Nat) :
    (ring.read most).1 = .got (ring.contents.take most) := by
  rcases answered : ring.read most with ⟨reply, after⟩
  cases reply with
  | got bytes => rw [(read_got answered).1, carries.front_min room]
  | waits =>
    obtain ⟨-, -, -, still⟩ := read_waits answered
    simp [isClosed] at still

end Ring

end HttpDispatch.Flow
