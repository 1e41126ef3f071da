import HttpDispatch.Flow.Ring

/-!
The slots of a ring. A byte is found in the slot that its place in the whole stream comes to,
counted around the ring, as long as it has not been taken; this carries over every write and every
read, also where they come to the end of the ring and go on at its start.
-/

namespace HttpDispatch.Flow

namespace Span

/-- The stretch ends before the end of the ring. -/
def Within (span : Span) (capacity : Nat) : Prop := span.start + span.length ≤ capacity

end Span

namespace Ring

variable {capacity : Nat}

/-- Going on by less than a round stays in this round or comes to the next one. -/
theorem mod_add (room : 0 < capacity) (counter offset : Nat) (less : offset < capacity) :
    (counter + offset) % capacity =
      if counter % capacity + offset < capacity then counter % capacity + offset
      else counter % capacity + offset - capacity := by
  have start := Nat.mod_lt counter room
  rw [Nat.add_mod, Nat.mod_eq_of_lt less]
  split
  · exact Nat.mod_eq_of_lt ‹_›
  · rw [Nat.mod_eq_sub_mod (by omega), Nat.mod_eq_of_lt (by omega)]

/-- Two places of a stream less than a round apart come to different slots. -/
theorem mod_ne (room : 0 < capacity) {earlier later : Nat} (less : earlier < later)
    (near : later < earlier + capacity) : later % capacity ≠ earlier % capacity := by
  have := Nat.mod_lt earlier room
  obtain ⟨offset, rfl⟩ := Nat.exists_eq_add_of_lt less
  rw [show earlier + offset + 1 = earlier + (offset + 1) by omega,
    mod_add room earlier (offset + 1) (by omega)]
  split <;> omega

/-- The stretches of as many bytes as the ring has slots stay in the ring and are that long
together. -/
theorem spans_within (room : 0 < capacity) (counter count : Nat) (fits : count ≤ capacity) :
    (spans capacity counter count).1.Within capacity ∧
      (spans capacity counter count).2.Within capacity ∧
      (spans capacity counter count).1.length + (spans capacity counter count).2.length = count := by
  have := Nat.mod_lt counter room
  simp only [spans, Span.Within]
  omega

theorem getElem?_slice (slots : Vector UInt8 capacity) (span : Span) (place : Nat) :
    (slice slots span)[place]? =
      if place < span.length then slots[span.start + place]? else none := by
  unfold slice
  rw [Array.getElem?_toList, Array.getElem?_extract]
  by_cases near : place < span.length
  · rw [if_pos near]
    split
    · simp
    · rw [Vector.getElem?_eq_none]
      simp only [Vector.size_toArray] at *
      omega
  · rw [if_neg near, if_neg (by omega)]

theorem length_slice (slots : Vector UInt8 capacity) (span : Span) (within : span.Within capacity) :
    (slice slots span).length = span.length := by
  unfold Span.Within at within
  simp only [slice, Array.length_toList, Array.size_extract, Vector.size_toArray]
  omega

/-- The bytes from a counter on are those in the slots counted around the ring. -/
theorem getElem?_front (room : 0 < capacity) (ring : Ring capacity) {count place : Nat}
    (fits : count ≤ capacity) (here : place < count) :
    (ring.front count)[place]? = ring.slots[(ring.taken + place) % capacity]? := by
  have := Nat.mod_lt ring.taken room
  obtain ⟨within, -, -⟩ := spans_within room ring.taken count fits
  rw [front, List.getElem?_append, length_slice _ _ within, getElem?_slice, getElem?_slice,
    mod_add room _ _ (by omega)]
  have first : (spans capacity ring.taken count).1 =
    ⟨ring.taken % capacity, min count (capacity - ring.taken % capacity)⟩ := rfl
  have second : (spans capacity ring.taken count).2 =
    ⟨0, count - min count (capacity - ring.taken % capacity)⟩ := rfl
  rw [first, second]
  -- The byte is in the first stretch, or in the second one after a turn around the ring.
  by_cases round : ring.taken % capacity + place < capacity
  · rw [if_pos round, if_pos (by simp only; omega), if_pos (by simp only; omega)]
  · rw [if_neg round, if_neg (by simp only; omega), if_pos (by simp only; omega)]
    congr 1
    simp only
    omega

theorem front_zero (ring : Ring capacity) : ring.front 0 = [] := by
  simp [front, spans, slice]

/-- The front of a ring is empty only where no bytes are asked for. -/
theorem eq_zero_of_front (room : 0 < capacity) (ring : Ring capacity) {count : Nat}
    (nothing : ring.front count = []) : count = 0 := by
  have start := Nat.mod_lt ring.taken room
  have first := congrArg List.length (List.append_eq_nil_iff.mp nothing).1
  rw [length_slice] at first
  · simp only [spans, List.length_nil] at first
    omega
  · simp only [Span.Within, spans]
    omega

theorem push_nil (ring : Ring capacity) : ring.push [] = ring := by
  simp [push, spans, fill]

theorem length_front (room : 0 < capacity) (ring : Ring capacity) {count : Nat}
    (fits : count ≤ capacity) : (ring.front count).length = count := by
  obtain ⟨first, second, total⟩ := spans_within room ring.taken count fits
  rw [front, List.length_append, length_slice _ _ first, length_slice _ _ second, total]

theorem getElem?_fill (slots : Vector UInt8 capacity) (start : Nat) (bytes : Bytes)
    (fits : start + bytes.length ≤ capacity) (slot : Nat) :
    (fill slots start bytes)[slot]? =
      if start ≤ slot ∧ slot < start + bytes.length then bytes[slot - start]? else slots[slot]? := by
  induction bytes generalizing slots start with
  | nil => rw [fill, if_neg (by simp)]
  | cons byte rest ih =>
    rw [List.length_cons] at fits ⊢
    rw [fill, ih _ _ (by omega), Vector.getElem?_setIfInBounds]
    by_cases here : start = slot
    · subst here
      rw [if_neg (by omega), if_pos rfl, if_pos (by omega), if_pos (by omega), Nat.sub_self]
      rfl
    · rw [if_neg here]
      by_cases later : start + 1 ≤ slot ∧ slot < start + 1 + rest.length
      · rw [if_pos later, if_pos (by omega), show slot - start = slot - (start + 1) + 1 by omega,
          List.getElem?_cons_succ]
      · rw [if_neg later, if_neg (by omega)]

/-- A slot of a ring that was written to holds the new byte that came to be there, or its old one. -/
theorem getElem?_push (room : 0 < capacity) (ring : Ring capacity) (bytes : Bytes)
    (fits : bytes.length ≤ capacity) {slot : Nat} (within : slot < capacity) :
    (ring.push bytes).slots[slot]? =
      if ring.written % capacity ≤ slot ∧ slot < ring.written % capacity + bytes.length then
        bytes[slot - ring.written % capacity]?
      else if slot + capacity < ring.written % capacity + bytes.length then
        bytes[slot + capacity - ring.written % capacity]?
      else ring.slots[slot]? := by
  have := Nat.mod_lt ring.written room
  simp only [push, spans]
  rw [getElem?_fill _ _ _ (by simp; omega), getElem?_fill _ _ _ (by simp; omega)]
  simp only [List.length_take, List.length_drop, List.getElem?_take, List.getElem?_drop]
  grind

/-- The new bytes are in the slots that come after those written before. -/
theorem getElem?_push_new (room : 0 < capacity) (ring : Ring capacity) (bytes : Bytes)
    {offset : Nat} (fits : bytes.length ≤ capacity) (here : offset < bytes.length) :
    (ring.push bytes).slots[(ring.written + offset) % capacity]? = bytes[offset]? := by
  have start := Nat.mod_lt ring.written room
  rw [getElem?_push room ring bytes fits (Nat.mod_lt _ room), mod_add room _ _ (by omega)]
  by_cases round : ring.written % capacity + offset < capacity
  · rw [if_pos round, if_pos (by omega), Nat.add_sub_cancel_left]
  · rw [if_neg round, if_neg (by omega), if_pos (by omega)]
    congr 1
    omega

/-- A byte that the new ones do not come around to stays where it is. -/
theorem getElem?_push_old (room : 0 < capacity) (ring : Ring capacity) (bytes : Bytes)
    {place : Nat} (old : place < ring.written)
    (apart : ring.written + bytes.length ≤ place + capacity) :
    (ring.push bytes).slots[place % capacity]? = ring.slots[place % capacity]? := by
  have slot := Nat.mod_lt place room
  have start := Nat.mod_lt ring.written room
  have missed (offset : Nat) (here : offset < bytes.length) :
      (ring.written + offset) % capacity ≠ place % capacity :=
    mod_ne room (by omega) (by omega)
  rw [getElem?_push room ring bytes (by omega) slot]
  by_cases first : ring.written % capacity ≤ place % capacity ∧
      place % capacity < ring.written % capacity + bytes.length
  · have away := missed (place % capacity - ring.written % capacity) (by omega)
    rw [mod_add room _ _ (by omega), if_pos (by omega)] at away
    omega
  · rw [if_neg first]
    by_cases second : place % capacity + capacity < ring.written % capacity + bytes.length
    · have away := missed (place % capacity + capacity - ring.written % capacity) (by omega)
      rw [mod_add room _ _ (by omega), if_neg (by omega)] at away
      omega
    · rw [if_neg second]

end Ring

end HttpDispatch.Flow
