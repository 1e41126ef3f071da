import HttpDispatch.Proofs.Flow.PipeReading

/-!
Reads of a pipe and what they leave. Its producer works only on an empty ring, so what it does
depends on no size of a read: whatever the first read takes, reading on gives the rest, and the pipe
comes to the same end. This holds for every producer, also for one that looks at how much of a chunk
was taken.
-/

namespace HttpDispatch.Flow.Pipe

variable {ring : Ring blockSize} {stream : Bytes} {pipe : Pipe} {most : Nat}

/-- The ring of a pipe carries a stream, and is open as long as the producer is at work. -/
structure Sound (pipe : Pipe) : Prop where
  carries : ∃ stream, pipe.ring.Carries stream
  isOpen : ∀ script, pipe.worker = .running script → pipe.ring.isOpen = true
  isClosed : ∀ ending, pipe.worker = .ended ending → pipe.ring.isOpen = false

/-- The producer of a pipe has to wait or is done. -/
structure Settled (pipe : Pipe) : Prop extends pipe.Sound where
  ended : pipe.ring.available = 0 → pipe.ring.isOpen = false

theorem sound_running {script : Producer} (carries : ring.Carries stream)
    (isOpen : ring.isOpen = true) : Sound ⟨ring, .running script⟩ :=
  ⟨⟨stream, carries⟩, fun _ _ => isOpen, nofun⟩

theorem sound_ofProducer (script : Producer) : (ofProducer script).Sound :=
  sound_running .empty rfl

theorem Gives.sound {payload : Bytes} {ending : Ending} (gives : pipe.Gives payload ending) :
    pipe.Sound := by
  obtain ⟨stream, pending, carries, owes, -⟩ := gives
  refine ⟨⟨stream, carries⟩, ?_, ?_⟩
  · intro script running
    rw [running] at owes
    exact owes.1
  · intro reached ended
    rw [ended] at owes
    exact owes.1

theorem settled_of_full {script : Producer} (carries : ring.Carries stream)
    (isOpen : ring.isOpen = true) (full : ring.free = 0) : Settled ⟨ring, .running script⟩ := by
  refine ⟨sound_running carries isOpen, ?_⟩
  intro none
  have := blockSize_pos
  unfold Ring.free at full
  simp only at none
  omega

/-- A producer works until it has to wait or is done. -/
theorem settled_advance (script : Producer) (carries : ring.Carries stream)
    (isOpen : ring.isOpen = true) : (advance ring script).Settled := by
  have room := blockSize_pos
  -- Along what the producer does; the ring changes with every write and stays open.
  induction script generalizing ring stream with
  | finish result | panic payload =>
    exact ⟨⟨⟨stream, carries.close⟩, nofun, fun _ _ => rfl⟩, fun _ => rfl⟩
  | flush next ih =>
    rw [advance]
    exact ih _ carries isOpen
  | write chunk next ih =>
    unfold advance
    rcases tryWrite_open isOpen chunk with ⟨waits, full⟩ | ⟨count, taken, count_eq, -⟩
    · rw [waits]
      exact settled_of_full carries isOpen full
    · have fits : (chunk.take count).length ≤ ring.free := by
        rw [List.length_take]
        omega
      rw [taken]
      exact ih _ (carries.push room fits) isOpen
  | writeAll chunk next ih =>
    unfold advance
    by_cases nothing : chunk = []
    · rw [if_pos nothing]
      exact ih _ carries isOpen
    · rw [if_neg nothing]
      rcases tryWrite_open isOpen chunk with ⟨waits, full⟩ | ⟨count, taken, count_eq, -⟩
      · rw [waits]
        exact settled_of_full carries isOpen full
      · have fits : (chunk.take count).length ≤ ring.free := by
          rw [List.length_take]
          omega
        simp only [taken]
        by_cases part : count < chunk.length
        · have full : (ring.push (chunk.take count)).free = 0 := by
            rw [carries.free_push, List.length_take]
            omega
          rw [if_pos part]
          exact settled_of_full (carries.push room fits) isOpen full
        · rw [if_neg part]
          exact ih _ (carries.push room fits) isOpen

theorem Sound.ready (sound : pipe.Sound) : pipe.ready.Settled := by
  obtain ⟨ring, worker⟩ := pipe
  obtain ⟨⟨stream, carries⟩, isOpen, isClosed⟩ := sound
  unfold Pipe.ready
  cases worker with
  | ended ending => exact ⟨⟨⟨stream, carries⟩, isOpen, isClosed⟩, fun _ => isClosed ending rfl⟩
  | running script =>
    simp only
    split
    · exact settled_advance script carries (isOpen script rfl)
    · exact ⟨⟨⟨stream, carries⟩, isOpen, isClosed⟩, fun none => absurd none ‹_›⟩

theorem Settled.ready_eq (settled : pipe.Settled) : pipe.ready = pipe := by
  unfold Pipe.ready
  split
  · rename_i script running
    split
    · rename_i none
      have isOpen := settled.isOpen script running
      rw [settled.ended none] at isOpen
      cases isOpen
    · rfl
  · rfl

/-- The pipe after so many of the bytes in its ring were taken. -/
def skip (pipe : Pipe) (count : Nat) : Pipe :=
  { pipe with ring := { pipe.ring with taken := pipe.ring.taken + count } }

theorem skip_skip (pipe : Pipe) (count later : Nat) :
    (pipe.skip count).skip later = pipe.skip (count + later) := by
  simp only [skip, Nat.add_assoc]

/-- A read from a pipe whose producer need not work takes what is asked for from the ring. -/
theorem Settled.read_eq (settled : pipe.Settled) (asked : 0 < most) :
    pipe.read most = (pipe.ring.contents.take most, pipe.skip (min pipe.ring.available most)) := by
  obtain ⟨stream, carries⟩ := settled.carries
  rw [Pipe.read, if_neg (by omega), settled.ready_eq]
  rcases answered : pipe.ring.read most with ⟨reply, after⟩
  cases reply with
  | waits =>
    obtain ⟨-, -, none, isOpen⟩ := Ring.read_waits answered
    rw [settled.ended none] at isOpen
    cases isOpen
  | got bytes =>
    obtain ⟨rfl, rfl, -⟩ := Ring.read_got answered
    rw [carries.front_min blockSize_pos]
    rfl

theorem Sound.read_ready (sound : pipe.Sound) (asked : 0 < most) :
    pipe.ready.read most = pipe.read most := by
  have waits : most ≠ 0 := by omega
  rw [Pipe.read, Pipe.read, sound.ready.ready_eq, if_neg waits, if_neg waits]

/-- What is drained depends on the next read alone. -/
theorem drain_congr {other : Pipe} (same : pipe.read blockSize = other.read blockSize) :
    pipe.drain = other.drain := by
  rcases got : other.read blockSize with ⟨_ | ⟨byte, bytes⟩, rest⟩
  · rw [drain_of_nil got, drain_of_nil (same.trans got)]
  · rw [drain_of_cons got, drain_of_cons (same.trans got)]

theorem Sound.skip (sound : pipe.Sound) {count : Nat} (enough : count ≤ pipe.ring.available) :
    (pipe.skip count).Sound := by
  obtain ⟨⟨stream, carries⟩, isOpen, isClosed⟩ := sound
  exact ⟨⟨stream, carries.take enough⟩, isOpen, isClosed⟩

theorem Sound.contents_skip (sound : pipe.Sound) {count : Nat}
    (enough : count ≤ pipe.ring.available) :
    (pipe.skip count).ring.contents = pipe.ring.contents.drop count := by
  obtain ⟨stream, carries⟩ := sound.carries
  exact carries.contents_take blockSize_pos enough

theorem Sound.length_contents (sound : pipe.Sound) :
    pipe.ring.contents.length = pipe.ring.available := by
  obtain ⟨stream, carries⟩ := sound.carries
  exact carries.length_contents blockSize_pos

theorem available_skip (pipe : Pipe) (count : Nat) :
    (pipe.skip count).ring.available = pipe.ring.available - count := by
  simp only [skip, Ring.available]
  omega

/-- Draining takes everything from the ring first, since a block has room for all of it. -/
theorem Settled.drain_skip (settled : pipe.Settled) :
    pipe.drain.1.flatten =
        pipe.ring.contents ++ (pipe.skip pipe.ring.available).drain.1.flatten ∧
      (pipe.skip pipe.ring.available).drain.2 = pipe.drain.2 := by
  have length := settled.length_contents
  have got := settled.read_eq blockSize_pos
  obtain ⟨stream, carries⟩ := settled.carries
  rw [List.take_of_length_le (length ▸ carries.held_le), Nat.min_eq_left carries.held_le] at got
  cases waiting : pipe.ring.contents with
  | nil =>
    have none : pipe.ring.available = 0 := by rw [← length, waiting, List.length_nil]
    rw [none]
    exact ⟨rfl, rfl⟩
  | cons byte bytes =>
    rw [waiting] at got
    rw [drain_of_cons got]
    exact ⟨rfl, rfl⟩

theorem Settled.drain_read (settled : pipe.Settled) {count : Nat}
    (enough : count ≤ pipe.ring.available) :
    pipe.drain.1.flatten = pipe.ring.contents.take count ++ (pipe.skip count).drain.1.flatten ∧
      (pipe.skip count).drain.2 = pipe.drain.2 := by
  obtain ⟨whole, ends⟩ := settled.drain_skip
  rcases Nat.eq_or_lt_of_le enough with rfl | part
  · rw [List.take_of_length_le (Nat.le_of_eq settled.length_contents)]
    exact ⟨whole, ends⟩
  · -- The ring is not empty yet, so the producer still has to wait.
    have left : (pipe.skip count).Settled := by
      refine ⟨settled.skip enough, ?_⟩
      intro none
      rw [available_skip] at none
      omega
    obtain ⟨later, same⟩ := left.drain_skip
    have all : (pipe.skip count).skip (pipe.skip count).ring.available =
        pipe.skip pipe.ring.available := by
      rw [skip_skip, available_skip, Nat.add_sub_cancel' enough]
    rw [all, settled.contents_skip enough] at later
    rw [all] at same
    exact ⟨by rw [whole, later, ← List.append_assoc, List.take_append_drop], same.symm.trans ends⟩

/-- A read gives the front of what draining would give, whatever its size, and leaves the rest; it
gives nothing only at the end. -/
theorem Sound.read (sound : pipe.Sound) (asked : 0 < most) :
    (pipe.read most).2.Sound ∧
      pipe.drain.1.flatten = (pipe.read most).1 ++ (pipe.read most).2.drain.1.flatten ∧
      (pipe.read most).2.drain.2 = pipe.drain.2 ∧
      ((pipe.read most).1 = [] → (pipe.read most).2.drain.1 = []) := by
  have settled := sound.ready
  have enough := Nat.min_le_left pipe.ready.ring.available most
  have same : pipe.ready.drain = pipe.drain := drain_congr (sound.read_ready blockSize_pos)
  have front : pipe.ready.ring.contents.take most =
      pipe.ready.ring.contents.take (min pipe.ready.ring.available most) := by
    rw [← settled.length_contents, Nat.min_comm, ← List.take_eq_take_min]
  rw [← sound.read_ready asked, settled.read_eq asked, front, ← same]
  obtain ⟨whole, ends⟩ := settled.drain_read enough
  refine ⟨settled.skip enough, whole, ends, ?_⟩
  intro nothing
  have none : pipe.ready.ring.available = 0 := by
    have taken := congrArg List.length nothing
    rw [List.length_take, settled.length_contents, List.length_nil] at taken
    omega
  have waiting : pipe.ready.ring.contents = [] := by
    rw [← List.length_eq_zero_iff, settled.length_contents, none]
  have got := settled.read_eq blockSize_pos
  rw [waiting, List.take_nil] at got
  rw [none, Nat.zero_min]
  show pipe.ready.drain.1 = []
  rw [drain_of_nil got]

theorem close_congr {other : Pipe} (same : pipe.drain.2 = other.drain.2) :
    pipe.close = other.close := by
  rw [close, close, same]

/-- What draining leaves comes to the same end. -/
theorem Sound.drain_drain (sound : pipe.Sound) : pipe.drain.2.drain.2 = pipe.drain.2 := by
  induction pipe using Pipe.drain.induct with
  | case1 pipe rest got =>
    obtain ⟨-, -, ends, -⟩ := sound.read blockSize_pos
    rw [got] at ends
    rw [drain_of_nil got] at ends ⊢
    exact ends
  | case2 pipe byte bytes rest got ih =>
    obtain ⟨left, -, -, -⟩ := sound.read blockSize_pos
    rw [got] at left
    rw [drain_of_cons got]
    exact ih left

end HttpDispatch.Flow.Pipe
