import HttpDispatch.Flow.Pipe
import HttpDispatch.Proofs.Flow.Pushing
import HttpDispatch.Proofs.Flow.RingStream

/-!
Reading from a pipe. What waits in the ring of a pipe and what its producer is still to push stay,
together, what the reader has not been given yet.
-/

namespace HttpDispatch.Flow

namespace Ring

variable {capacity : Nat} {ring : Ring capacity} {stream : Bytes}

theorem Carries.contents_push (room : 0 < capacity) (carries : ring.Carries stream)
    {bytes : Bytes} (fits : bytes.length ≤ ring.free) :
    (ring.push bytes).contents = ring.contents ++ bytes := by
  have reached : ring.taken ≤ stream.length := carries.written ▸ carries.taken_le
  rw [(carries.push room fits).contents_eq room, carries.contents_eq room]
  exact List.drop_append_of_le_length reached

theorem Carries.free_push (carries : ring.Carries stream) (bytes : Bytes) :
    (ring.push bytes).free = ring.free - bytes.length := by
  have := carries.taken_le
  simp only [free, available, Ring.push]
  omega

theorem Carries.contents_take (room : 0 < capacity) (carries : ring.Carries stream) {count : Nat}
    (enough : count ≤ ring.available) :
    ({ ring with taken := ring.taken + count } : Ring capacity).contents =
      ring.contents.drop count := by
  rw [(carries.take enough).contents_eq room, carries.contents_eq room, List.drop_drop]

end Ring

namespace Pipe

theorem blockSize_pos : 0 < blockSize := by decide

/-- What a producer's side is still to push. It has not ended as long as the ring is open. -/
def Owes (isOpen : Bool) (pending : Bytes) (ending : Ending) : Worker → Prop
  | .running script => isOpen = true ∧ script.Pushes pending ending
  | .ended reached => isOpen = false ∧ pending = [] ∧ reached = ending

theorem Owes.of_closed {isOpen : Bool} {pending : Bytes} {ending : Ending} {worker : Worker}
    (owes : Owes isOpen pending ending worker) (isClosed : isOpen = false) :
    pending = [] ∧ worker = .ended ending := by
  subst isClosed
  cases worker with
  | running script => cases owes.1
  | ended reached => exact ⟨owes.2.1, by rw [owes.2.2]⟩

/-- Reading the pipe to the end gives `payload`, and its producer ends so. -/
def Gives (pipe : Pipe) (payload : Bytes) (ending : Ending) : Prop :=
  ∃ stream pending, pipe.ring.Carries stream ∧
    Owes pipe.ring.isOpen pending ending pipe.worker ∧ pipe.ring.contents ++ pending = payload

variable {ring : Ring blockSize} {stream pending payload : Bytes} {ending : Ending}

theorem gives_ofProducer {script : Producer} (pushes : script.Pushes payload ending) :
    (ofProducer script).Gives payload ending := by
  have carries : (Ring.empty : Ring blockSize).Carries [] := .empty
  refine ⟨[], payload, carries, ⟨rfl, pushes⟩, ?_⟩
  rw [ofProducer, carries.contents_eq blockSize_pos]
  rfl

/-- A write to an open ring waits if the ring is full; else it takes what there is room for. -/
theorem tryWrite_open (isOpen : ring.isOpen = true) (chunk : Bytes) :
    tryWrite ring chunk = none ∧ ring.free = 0 ∨
      ∃ count, tryWrite ring chunk = some (.ok count, ring.push (chunk.take count)) ∧
        count = min ring.free chunk.length ∧ (chunk ≠ [] → 0 < count) := by
  rcases answered : ring.write chunk with ⟨reply, after⟩
  unfold tryWrite
  rw [answered]
  cases reply with
  | refused =>
    have isClosed := (Ring.write_refused answered).2
    rw [isOpen] at isClosed
    cases isClosed
  | waits => exact .inl ⟨rfl, (Ring.write_waits answered).2.2⟩
  | accepted count =>
    obtain ⟨count_eq, rfl, proper⟩ := Ring.write_accepted answered
    exact .inr ⟨count, rfl, count_eq, fun nonempty => (proper nonempty).1⟩

/-- What a producer's side that worked until it had to wait leaves for the reader: something in
the ring, or the end. -/
structure Offers (pipe : Pipe) (payload : Bytes) (ending : Ending) : Prop where
  gives : pipe.Gives payload ending
  ended : pipe.ring.available = 0 → pipe.ring.isOpen = false

theorem offers_of_full {script : Producer} (carries : ring.Carries stream)
    (isOpen : ring.isOpen = true) (full : ring.free = 0) (pushes : script.Pushes pending ending) :
    Offers ⟨ring, .running script⟩ (ring.contents ++ pending) ending := by
  refine ⟨⟨stream, pending, carries, ⟨isOpen, pushes⟩, rfl⟩, ?_⟩
  intro none
  have := blockSize_pos
  unfold Ring.free at full
  simp only at none
  omega

/-- A producer at work pushes what it owes. -/
theorem offers_advance {script : Producer} (pushes : script.Pushes pending ending)
    (carries : ring.Carries stream) (isOpen : ring.isOpen = true) :
    (advance ring script).Offers (ring.contents ++ pending) ending := by
  have room := blockSize_pos
  -- Along what is pushed; the ring changes with every write.
  induction pushes generalizing ring stream with
  | finish result | panic cause =>
    exact ⟨⟨stream, [], carries.close, ⟨rfl, rfl, rfl⟩, rfl⟩, fun _ => rfl⟩
  | flush later ih =>
    rw [advance]
    exact ih carries isOpen
  | @write _ _ _ chunk first later ih =>
    unfold advance
    rcases tryWrite_open isOpen chunk with ⟨waits, full⟩ | ⟨count, taken, count_eq, proper⟩
    · rw [waits]
      exact offers_of_full carries isOpen full (.write first later)
    · have fits : (chunk.take count).length ≤ ring.free := by
        rw [List.length_take]
        omega
      have offered := ih count (by omega) proper (carries.push room fits) isOpen
      obtain ⟨rest, rfl⟩ := first
      rw [carries.contents_push room fits, List.append_assoc,
        List.drop_append_of_le_length (by omega), ← List.append_assoc (chunk.take count),
        List.take_append_drop] at offered
      rwa [taken]
  | @writeAll payload _ _ chunk later ih =>
    unfold advance
    by_cases nothing : chunk = []
    · subst nothing
      exact ih carries isOpen
    · rw [if_neg nothing]
      rcases tryWrite_open isOpen chunk with ⟨waits, full⟩ | ⟨count, taken, count_eq, proper⟩
      · rw [waits]
        exact offers_of_full carries isOpen full (.writeAll chunk later)
      · have fits : (chunk.take count).length ≤ ring.free := by
          rw [List.length_take]
          omega
        have contents := carries.contents_push room fits
        rw [taken]
        by_cases part : count < chunk.length
        · have full : (ring.push (chunk.take count)).free = 0 := by
            rw [carries.free_push, List.length_take]
            omega
          have offered := offers_of_full (carries.push room fits) isOpen full
            (.writeAll (chunk.drop count) later)
          rw [contents, List.append_assoc, ← List.append_assoc (chunk.take count),
            List.take_append_drop] at offered
          simpa [part] using offered
        · have offered := ih (carries.push room fits) isOpen
          rw [contents, List.take_of_length_le (by omega), List.append_assoc] at offered
          simpa [part, List.take_of_length_le (show chunk.length ≤ count by omega)] using offered

/-- The producer is let to work as long as the reader would have to wait for it. -/
theorem Gives.ready {pipe : Pipe} (gives : pipe.Gives payload ending) :
    pipe.ready.Offers payload ending := by
  obtain ⟨ring, worker⟩ := pipe
  obtain ⟨stream, pending, carries, owes, rfl⟩ := gives
  unfold Pipe.ready
  cases worker with
  | ended ending => exact ⟨⟨stream, pending, carries, owes, rfl⟩, fun _ => owes.1⟩
  | running script =>
    simp only
    split
    · exact offers_advance owes.2 carries owes.1
    · exact ⟨⟨stream, pending, carries, owes, rfl⟩, fun none => absurd none ‹_›⟩

/-- A read that is answered gives the next bytes. Asked for some, it gives nothing only at the
end. -/
theorem Gives.of_got {pipe : Pipe} (gives : pipe.Gives payload ending) {most : Nat}
    {bytes : Bytes} {after : Ring blockSize}
    (answered : pipe.ring.read most = (.got bytes, after)) :
    ∃ rest, payload = bytes ++ rest ∧ Gives { pipe with ring := after } rest ending ∧
      (0 < most → bytes = [] → rest = [] ∧ pipe.worker = .ended ending) := by
  obtain ⟨stream, pending, carries, owes, whole⟩ := gives
  have room := blockSize_pos
  obtain ⟨rfl, rfl, closing⟩ := Ring.read_got answered
  have enough := Nat.min_le_left pipe.ring.available most
  have length := carries.length_contents room
  have contents := carries.contents_take room enough
  rw [carries.front_eq room enough, ← carries.contents_eq room]
  refine ⟨pipe.ring.contents.drop (min pipe.ring.available most) ++ pending, ?_,
    ⟨stream, pending, carries.take enough, owes, by rw [contents]⟩, ?_⟩
  · rw [← whole, ← List.append_assoc, List.take_append_drop]
  · intro asked nothing
    have none : pipe.ring.available = 0 := by
      have taken := congrArg List.length nothing
      rw [List.length_take, List.length_nil] at taken
      omega
    obtain ⟨rfl, done⟩ := owes.of_closed (closing asked none)
    exact ⟨by simp [List.eq_nil_of_length_eq_zero (length.trans none)], done⟩

/-- A read gives the next bytes; it gives nothing only at the end. -/
theorem Gives.read {pipe : Pipe} (gives : pipe.Gives payload ending) {most : Nat}
    (asked : 0 < most) :
    ∃ rest, payload = (pipe.read most).1 ++ rest ∧ (pipe.read most).2.Gives rest ending ∧
      ((pipe.read most).1 = [] → rest = [] ∧ (pipe.read most).2.worker = .ended ending) := by
  obtain ⟨ready, ended⟩ := gives.ready
  unfold Pipe.read
  rw [if_neg (by omega)]
  rcases answered : pipe.ready.ring.read most with ⟨reply, after⟩
  cases reply with
  | waits =>
    obtain ⟨-, -, none, isOpen⟩ := Ring.read_waits answered
    simp [ended none] at isOpen
  | got bytes =>
    obtain ⟨rest, whole, left, ended⟩ := ready.of_got answered
    exact ⟨rest, whole, left, ended asked⟩

theorem drain_of_nil {pipe rest : Pipe} (got : pipe.read blockSize = ([], rest)) :
    pipe.drain = ([], rest) := by
  rw [Pipe.drain]
  split <;> simp_all

theorem drain_of_cons {pipe rest : Pipe} {byte : UInt8} {bytes : Bytes}
    (got : pipe.read blockSize = (byte :: bytes, rest)) :
    pipe.drain = ((byte :: bytes) :: rest.drain.1, rest.drain.2) := by
  rw [Pipe.drain]
  split
  · simp_all
  · rename_i same
    obtain ⟨taken, rfl⟩ := Prod.mk.inj (same.symm.trans got)
    cases taken
    rfl

/-- No block that is drained is empty. -/
theorem ne_nil_of_mem_drain (pipe : Pipe) : ∀ block ∈ pipe.drain.1, block ≠ [] := by
  induction pipe using Pipe.drain.induct with
  | case1 pipe rest got =>
    rw [drain_of_nil got]
    simp
  | case2 pipe byte bytes rest got ih =>
    rw [drain_of_cons got]
    simpa using ih

/-- Draining a pipe gives everything, and ends its producer. -/
theorem Gives.drain {pipe : Pipe} (gives : pipe.Gives payload ending) :
    pipe.drain.1.flatten = payload ∧ pipe.drain.2.worker = .ended ending := by
  induction pipe using Pipe.drain.induct generalizing payload with
  | case1 pipe rest got =>
    obtain ⟨pending, rfl, -, ended⟩ := gives.read blockSize_pos
    rw [got] at ended
    obtain ⟨rfl, done⟩ := ended rfl
    rw [drain_of_nil got, got]
    exact ⟨rfl, done⟩
  | case2 pipe byte bytes rest got ih =>
    obtain ⟨pending, rfl, left, -⟩ := gives.read blockSize_pos
    rw [got] at left
    obtain ⟨blocks, done⟩ := ih left
    rw [drain_of_cons got, got]
    exact ⟨by simp [blocks], done⟩

/-- Closing a pipe reports how its producer ended, whatever was read before. -/
theorem Gives.close {pipe : Pipe} (gives : pipe.Gives payload ending) :
    pipe.close = failureOf ending := by
  rw [Pipe.close, gives.drain.2]

end Pipe

end HttpDispatch.Flow
