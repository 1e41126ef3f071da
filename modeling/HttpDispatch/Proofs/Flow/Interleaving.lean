import HttpDispatch.Flow.Threads
import HttpDispatch.Proofs.Flow.PipeReading

/-!
Reading from a pipe while its producer writes. However the steps of the two threads interleave,
what was read, what is in the ring and what the producer is still to push make up the payload.
-/

namespace HttpDispatch.Flow

def WriterThread.worker : WriterThread → Worker
  | working script | parked script => .running script
  | ended ending => .ended ending

namespace Threads

variable {payload pending left : Bytes} {ending : Ending} {state after : Threads}
variable {script : Producer} {demands : List Demand}

/-- The pipe between the threads. Whether a thread is parked does not matter for it. -/
def pipe (state : Threads) : Pipe := ⟨state.ring, state.writer.worker⟩

/-- What the reading thread has, wants and does, parked or not. -/
structure Reading where
  reads : List Bytes
  drained : Bytes
  demands : List Demand
  finishes : List (Option IoFault)
  isAttached : Bool
  task : ReaderTask

def reading (state : Threads) : Reading where
  reads := state.reads
  drained := state.drained
  demands := state.demands
  finishes := state.finishes
  isAttached := state.isAttached
  task := state.reader.task

theorem pipe_wakeAll (state : Threads) : state.wakeAll.pipe = state.pipe := by
  cases running : state.writer <;> simp [pipe, wakeAll, running, WriterThread.wake,
    WriterThread.worker]

theorem reading_wakeAll (state : Threads) : state.wakeAll.reading = state.reading := rfl

theorem pipe_endWriter (state : Threads) (ending : Ending) :
    (state.endWriter ending).pipe = ⟨state.ring.close, .ended ending⟩ := rfl

theorem ending_eq {reached : Ending} (gives : state.pipe.Gives left ending)
    (ended : state.writer.ending? = some reached) : reached = ending := by
  obtain ⟨_, _, -, owes, -⟩ := gives
  cases running : state.writer with
  | working script | parked script => simp [running, WriterThread.ending?] at ended
  | ended last =>
    simp only [running, WriterThread.ending?, Option.some.injEq] at ended
    simp only [pipe, running] at owes
    exact ended.symm.trans owes.2.2

/-! ### The writing thread -/

/-- One write leaves the producer with the rest of what it pushes. -/
theorem gives_writeOnce {chunk stream : Bytes} {next : Except IoFault Nat → Producer}
    (carries : state.ring.Carries stream) (isOpen : state.ring.isOpen = true)
    (pushes : script.Pushes pending ending)
    (parts : ∀ count ≤ chunk.length, (chunk ≠ [] → 0 < count) →
      ∃ later, pending = chunk.take count ++ later ∧ (next (.ok count)).Pushes later ending) :
    (state.writeOnce script chunk next).pipe.Gives (state.ring.contents ++ pending) ending ∧
      (state.writeOnce script chunk next).reading = state.reading := by
  have room := Pipe.blockSize_pos
  rcases answered : state.ring.write chunk with ⟨reply, ring⟩
  unfold writeOnce
  rw [answered]
  cases reply with
  | waits =>
    -- The thread is parked where it was and still owes the same.
    exact ⟨⟨stream, pending, carries, ⟨isOpen, pushes⟩, rfl⟩, rfl⟩
  | refused =>
    have isClosed := (Ring.write_refused answered).2
    rw [isOpen] at isClosed
    cases isClosed
  | accepted count =>
    obtain ⟨count_eq, rfl, proper⟩ := Ring.write_accepted answered
    obtain ⟨later, rfl, goes⟩ := parts count (by omega) fun nonempty => (proper nonempty).1
    have fits : (chunk.take count).length ≤ state.ring.free := by
      rw [List.length_take]
      omega
    have gives : Pipe.Gives ⟨state.ring.push (chunk.take count), .running (next (.ok count))⟩
        (state.ring.contents ++ (chunk.take count ++ later)) ending := by
      refine ⟨_, later, carries.push room fits, ⟨isOpen, goes⟩, ?_⟩
      rw [carries.contents_push room fits, List.append_assoc]
    simp only
    split
    · exact ⟨gives, rfl⟩
    · rw [pipe_wakeAll, reading_wakeAll]
      exact ⟨gives, rfl⟩

/-- A step of the writing thread changes nothing of what reading gives. -/
theorem gives_writerStep (gives : state.pipe.Gives payload ending)
    (made : state.writerStep? = some after) :
    after.pipe.Gives payload ending ∧ after.reading = state.reading := by
  obtain ⟨stream, pending, carries, owes, rfl⟩ := gives
  unfold writerStep? at made
  cases running : state.writer with
  | parked script => simp [running] at made
  | ended reached => simp [running] at made
  | working script =>
    rw [running] at made
    simp only [pipe, running] at owes
    obtain ⟨isOpen, pushes⟩ := owes
    cases pushes with
    | finish result | panic cause =>
      cases made
      constructor
      · rw [pipe_endWriter]
        exact ⟨stream, [], carries.close, ⟨rfl, rfl, rfl⟩, rfl⟩
      · rfl
    | flush later =>
      cases made
      exact ⟨⟨stream, pending, carries, ⟨isOpen, later⟩, rfl⟩, rfl⟩
    | @writeAll payload _ _ chunk later =>
      by_cases nothing : chunk = []
      · subst nothing
        cases made
        exact ⟨⟨stream, payload, carries, ⟨isOpen, later⟩, rfl⟩, rfl⟩
      · simp only [if_neg nothing, Option.some.injEq] at made
        subst made
        apply gives_writeOnce carries isOpen (.writeAll chunk later)
        intro count most proper
        -- What a part leaves of the chunk is written next, by the same producer.
        by_cases part : count < chunk.length
        · refine ⟨chunk.drop count ++ payload, ?_, ?_⟩
          · rw [← List.append_assoc, List.take_append_drop]
          · simpa [afterPart, part] using .writeAll (chunk.drop count) later
        · refine ⟨payload, ?_, ?_⟩
          · rw [List.take_of_length_le (by omega)]
          · simpa [afterPart, part] using later
    | @write _ _ _ chunk first later =>
      cases made
      apply gives_writeOnce carries isOpen (.write first later)
      intro count most proper
      refine ⟨pending.drop count, ?_, later count most proper⟩
      obtain ⟨rest, rfl⟩ := first
      rw [← List.take_append_of_le_length most, List.take_append_drop]

/-! ### The reading thread -/

/-- A read by the reading thread has it wait, or gives it the next bytes and lets it go on. -/
theorem readOnce_cases (gives : state.pipe.Gives left ending) (most : Nat)
    (take : Threads → Bytes → Threads) :
    (state.readOnce most take).pipe = state.pipe ∧
        (state.readOnce most take).reading = state.reading ∨
      ∃ ring bytes rest, left = bytes ++ rest ∧
        Pipe.Gives { state.pipe with ring } rest ending ∧
        (0 < most → bytes = [] → rest = []) ∧
        (state.readOnce most take).pipe = (take { state with ring } bytes).pipe ∧
        (state.readOnce most take).reading = (take { state with ring } bytes).reading := by
  rcases answered : state.ring.read most with ⟨reply, ring⟩
  unfold readOnce
  rw [answered]
  cases reply with
  | waits => exact .inl ⟨rfl, rfl⟩
  | got bytes =>
    obtain ⟨rest, whole, later, ended⟩ := gives.of_got answered
    refine .inr ⟨ring, bytes, rest, whole, later, fun asked nothing => (ended asked nothing).1, ?_⟩
    simp only
    split
    · exact ⟨rfl, rfl⟩
    · exact ⟨pipe_wakeAll _, rfl⟩

/-- What a step of the reading thread can be. -/
inductive ReaderMove (state : Threads) : Threads → Prop where
  | read {most : Nat} {rest : List Demand} (task : state.reader.task = .meeting)
      (asked : state.demands = .read most :: rest) :
      ReaderMove state (state.readOnce most fun after bytes =>
        { after with reads := after.reads ++ [bytes], demands := rest })
  | finish {rest : List Demand} (task : state.reader.task = .meeting)
      (asked : state.demands = .finish :: rest) (isAttached : state.isAttached = true) :
      ReaderMove state { state with isAttached := false, reader := ⟨.draining, false⟩ }
  | again {rest : List Demand} (task : state.reader.task = .meeting)
      (asked : state.demands = .finish :: rest) (isAttached : state.isAttached = false) :
      ReaderMove state { state with finishes := state.finishes ++ [none], demands := rest }
  | drain (task : state.reader.task = .draining) :
      ReaderMove state (state.readOnce drainSize Threads.drain)
  | join {demand : Demand} {rest : List Demand} {reached : Ending}
      (task : state.reader.task = .joining) (asked : state.demands = demand :: rest)
      (ended : state.writer.ending? = some reached) :
      ReaderMove state { state with
        finishes := state.finishes ++ [Pipe.failureOf reached]
        joins := state.joins + 1
        reader := ⟨.meeting, false⟩
        demands := rest }

theorem readerMove_of_step (made : state.readerStep? = some after) : ReaderMove state after := by
  unfold readerStep? at made
  split at made
  · cases made
  · -- One case for each task, and one for having no demand.
    split at made
    · cases made
    · rename_i task asked
      cases made
      exact .read task asked
    · rename_i task asked
      split at made
      · rename_i isAttached
        cases made
        exact .finish task asked isAttached
      · rename_i apart
        cases made
        exact .again task asked (Bool.not_eq_true _ ▸ apart)
    · rename_i task _
      cases made
      exact .drain task
    · rename_i task asked
      obtain ⟨reached, ended, rfl⟩ := Option.map_eq_some_iff.mp made
      exact .join task asked ended

/-! ### Nothing is lost -/

/-- How far the reading thread is with the first demand to finish. -/
def Reading.Phase (reading : Reading) (left : Bytes) (ending : Ending) : Prop :=
  match reading.isAttached, reading.task with
  | true, .meeting => reading.drained = [] ∧ reading.finishes = []
  | true, _ => False
  | false, .draining => reading.finishes = [] ∧ .finish ∈ reading.demands.head?
  | false, .joining => reading.finishes = [] ∧ .finish ∈ reading.demands.head? ∧ left = []
  | false, .meeting =>
    left = [] ∧ ∃ again, reading.finishes = Pipe.failureOf ending :: .replicate again none

/-- What was read, and what the pipe has left to give, make up the payload. -/
structure Accounts (state : Threads) (payload left : Bytes) (ending : Ending) : Prop where
  gives : state.pipe.Gives left ending
  whole : state.reading.reads.flatten ++ state.reading.drained ++ left = payload
  phase : state.reading.Phase left ending

namespace Accounts

theorem of_same (accounts : state.Accounts payload left ending)
    (gives : after.pipe.Gives left ending) (same : after.reading = state.reading) :
    after.Accounts payload left ending := by
  refine ⟨gives, ?_, ?_⟩
  · rw [same, accounts.whole]
  · rw [same]
    exact accounts.phase

theorem readOnce (accounts : state.Accounts payload left ending) (most : Nat)
    {take : Threads → Bytes → Threads}
    (taking : ∀ ring bytes rest, left = bytes ++ rest →
      Pipe.Gives { state.pipe with ring } rest ending → (0 < most → bytes = [] → rest = []) →
      (take { state with ring } bytes).Accounts payload rest ending) :
    ∃ rest, (state.readOnce most take).Accounts payload rest ending := by
  rcases readOnce_cases accounts.gives most take with
    ⟨pipe, same⟩ | ⟨ring, bytes, rest, whole, gives, ended, pipe, same⟩
  · exact ⟨left, accounts.of_same (pipe ▸ accounts.gives) same⟩
  · have taken := taking ring bytes rest whole gives ended
    exact ⟨rest, taken.of_same (pipe ▸ taken.gives) same⟩

theorem readerStep (accounts : state.Accounts payload left ending)
    (made : ReaderMove state after) : ∃ rest, after.Accounts payload rest ending := by
  obtain ⟨-, whole, phase⟩ := id accounts
  simp only [Reading.Phase, reading] at whole phase
  cases made with
  | @read most _ task asked =>
    apply accounts.readOnce most
    intro ring bytes rest split gives ended
    cases isAttached : state.isAttached with
    | true =>
      simp only [isAttached, task] at phase
      refine ⟨gives, ?_, ?_⟩
      · simpa [reading, split, phase.1] using whole
      · simpa [Reading.Phase, reading, isAttached, task] using phase
    | false =>
      -- Once finished there is nothing left, so a later read gives nothing.
      simp only [isAttached, task] at phase
      obtain ⟨exhausted, finishes⟩ := phase
      obtain ⟨rfl, rfl⟩ := List.append_eq_nil_iff.mp (split.symm.trans exhausted)
      refine ⟨gives, ?_, ?_⟩
      · simpa [reading, exhausted] using whole
      · simpa [Reading.Phase, reading, isAttached, task] using finishes
  | finish task asked isAttached =>
    simp only [isAttached, task] at phase
    exact ⟨left, accounts.gives, whole, phase.2, by simp [reading, asked]⟩
  | again task asked isAttached =>
    simp only [isAttached, task] at phase
    obtain ⟨exhausted, count, finishes⟩ := phase
    refine ⟨left, accounts.gives, whole, ?_⟩
    simp only [Reading.Phase, reading, isAttached, task]
    refine ⟨exhausted, count + 1, ?_⟩
    rw [finishes, List.replicate_succ', List.cons_append]
  | drain task =>
    apply accounts.readOnce drainSize
    intro ring bytes rest split gives ended
    cases isAttached : state.isAttached with
    | true => simp [isAttached, task] at phase
    | false =>
      simp only [isAttached, task] at phase
      unfold Threads.drain
      by_cases nothing : bytes = []
      · rw [if_pos nothing]
        refine ⟨gives, ?_, ?_⟩
        · simpa [reading, split, nothing] using whole
        · simpa [Reading.Phase, reading, isAttached, ended (by decide) nothing] using phase
      · rw [if_neg nothing]
        refine ⟨gives, ?_, ?_⟩
        · simpa [reading, split] using whole
        · simpa [Reading.Phase, reading, isAttached, task] using phase
  | join task asked ended =>
    cases isAttached : state.isAttached with
    | true => simp [isAttached, task] at phase
    | false =>
      simp only [isAttached, task] at phase
      obtain ⟨finishes, -, exhausted⟩ := phase
      obtain rfl := ending_eq accounts.gives ended
      refine ⟨left, accounts.gives, whole, ?_⟩
      simp only [Reading.Phase, reading]
      exact ⟨exhausted, 0, by simp [finishes]⟩

end Accounts

/-- However the two threads took their steps, what was read and what the pipe has left to give make
up the payload. -/
theorem Reachable.accounts (reachable : Reachable script demands state)
    (pushes : script.Pushes payload ending) :
    ∃ left, state.Accounts payload left ending := by
  induction reachable with
  | start => exact ⟨payload, Pipe.gives_ofProducer pushes, rfl, rfl, rfl⟩
  | step before made ih =>
    obtain ⟨left, accounts⟩ := ih
    cases made with
    | writer made =>
      obtain ⟨gives, same⟩ := gives_writerStep accounts.gives made
      exact ⟨left, accounts.of_same gives same⟩
    | reader made => exact accounts.readerStep (readerMove_of_step made)

/-! ### Reading first, then finishing -/

/-- Demands to read something, before the first demand to finish and not after it. -/
inductive ReadsFirst : List Demand → Prop where
  | finish {rest : List Demand} (only : ∀ demand ∈ rest, demand = .finish) :
      ReadsFirst (.finish :: rest)
  | read {most : Nat} {rest : List Demand} (asked : 0 < most) (later : ReadsFirst rest) :
      ReadsFirst (.read most :: rest)

theorem readsFirst_map {sizes : List Nat} (asked : ∀ most ∈ sizes, 0 < most) :
    ReadsFirst (sizes.map .read ++ [.finish]) := by
  induction sizes with
  | nil => exact .finish (by simp)
  | cons most rest ih =>
    rw [List.forall_mem_cons] at asked
    exact .read asked.1 (ih asked.2)

/-- The reading thread reads first and finishes then. A read that gave nothing came after the
whole payload. -/
structure Orderly (reading : Reading) (payload : Bytes) : Prop where
  ahead : reading.isAttached = true → ReadsFirst reading.demands
  behind : reading.isAttached = false → ∀ demand ∈ reading.demands, demand = .finish
  emptied : [] ∈ reading.reads → reading.reads.flatten = payload

namespace Orderly

theorem readOnce (orderly : Orderly state.reading payload) (gives : state.pipe.Gives left ending)
    {most : Nat} {take : Threads → Bytes → Threads}
    (taking : ∀ ring bytes rest, left = bytes ++ rest → (0 < most → bytes = [] → rest = []) →
      Orderly (take { state with ring } bytes).reading payload) :
    Orderly (state.readOnce most take).reading payload := by
  rcases readOnce_cases gives most take with
    ⟨-, same⟩ | ⟨ring, bytes, rest, whole, -, ended, -, same⟩
  · rw [same]
    exact orderly
  · rw [same]
    exact taking ring bytes rest whole ended

theorem read {most : Nat} {later : List Demand} (orderly : Orderly state.reading payload)
    (accounts : state.Accounts payload left ending) (task : state.reader.task = .meeting)
    (asked : state.demands = .read most :: later) :
    Orderly (state.readOnce most fun after bytes =>
      { after with reads := after.reads ++ [bytes], demands := later }).reading payload := by
  obtain ⟨ahead, behind, emptied⟩ := id orderly
  obtain ⟨gives, whole, phase⟩ := accounts
  simp only [reading, asked] at ahead behind emptied whole
  have isAttached : state.isAttached = true := by
    cases isAttached : state.isAttached with
    | true => rfl
    | false => cases behind isAttached _ List.mem_cons_self
  simp only [Reading.Phase, reading, isAttached, task] at phase
  rw [phase.1, List.append_nil] at whole
  cases ahead isAttached with
  | read proper first =>
    apply orderly.readOnce gives
    intro ring bytes rest split ended
    refine ⟨fun _ => first, ?_, ?_⟩
    · intro apart
      cases isAttached.symm.trans apart
    · intro nothing
      simp only [reading, List.flatten_append, List.flatten_singleton]
      rcases List.mem_append.mp nothing with before | now
      · -- Nothing was left already, so this read gave nothing either.
        have exhausted : left = [] := by simpa [emptied before] using whole
        obtain ⟨none, -⟩ := List.append_eq_nil_iff.mp (split.symm.trans exhausted)
        rw [emptied before, none, List.append_nil]
      · have none := List.mem_singleton.mp now
        rw [← whole, split, ended proper none.symm, List.append_nil]

theorem readerStep (orderly : Orderly state.reading payload)
    (accounts : state.Accounts payload left ending) (made : ReaderMove state after) :
    Orderly after.reading payload := by
  obtain ⟨ahead, behind, emptied⟩ := id orderly
  cases made with
  | read task asked => exact orderly.read accounts task asked
  | finish task asked isAttached =>
    simp only [reading, asked] at ahead
    cases ahead isAttached with
    | finish only =>
      refine ⟨nofun, ?_, emptied⟩
      intro _
      simpa [reading, asked] using only
  | again task asked isAttached =>
    simp only [reading, asked] at behind
    refine ⟨?_, ?_, emptied⟩
    · intro attached
      cases isAttached.symm.trans attached
    · intro _ demand wanted
      exact behind isAttached demand (List.mem_cons_of_mem _ wanted)
  | drain task =>
    apply orderly.readOnce accounts.gives
    intro ring bytes rest split ended
    unfold Threads.drain
    split <;> exact ⟨ahead, behind, emptied⟩
  | join task asked ended =>
    have isAttached : state.isAttached = false := by
      have phase := accounts.phase
      cases isAttached : state.isAttached with
      | true => simp [Reading.Phase, reading, isAttached, task] at phase
      | false => rfl
    simp only [reading, asked] at behind
    refine ⟨?_, ?_, emptied⟩
    · intro attached
      cases isAttached.symm.trans attached
    · intro _ demand wanted
      exact behind isAttached demand (List.mem_cons_of_mem _ wanted)

end Orderly

namespace Reachable

theorem orderly (reachable : Reachable script demands state)
    (pushes : script.Pushes payload ending) (first : ReadsFirst demands) :
    Orderly state.reading payload := by
  induction reachable with
  | start => exact ⟨fun _ => first, nofun, nofun⟩
  | step before made ih =>
    obtain ⟨left, accounts⟩ := before.accounts pushes
    cases made with
    | writer made =>
      rw [(gives_writerStep accounts.gives made).2]
      exact ih
    | reader made => exact ih.readerStep accounts (readerMove_of_step made)

/-- Once both threads are done, all was read, the producer's failure was reported once, and a read
that gave nothing had the whole payload before it. -/
theorem of_done (reachable : Reachable script demands state)
    (pushes : script.Pushes payload ending) (first : ReadsFirst demands) (done : state.IsDone) :
    state.reads.flatten ++ state.drained = payload ∧
      ([] ∈ state.reads → state.reads.flatten = payload) ∧
      state.finishes.filterMap id = (Pipe.failureOf ending).toList := by
  obtain ⟨left, -, whole, phase⟩ := reachable.accounts pushes
  obtain ⟨ahead, -, emptied⟩ := reachable.orderly pushes first
  obtain ⟨-, demanded⟩ := done
  simp only [reading, demanded] at ahead whole emptied
  simp only [Reading.Phase, reading, demanded] at phase
  -- No demand is left, so the first demand to finish was met.
  split at phase
  · rename_i isAttached _
    cases ahead isAttached
  · cases phase
  · simp at phase
  · simp at phase
  · obtain ⟨exhausted, again, finishes⟩ := phase
    rw [exhausted, List.append_nil] at whole
    refine ⟨whole, emptied, ?_⟩
    rw [finishes]
    cases Pipe.failureOf ending <;> simp

end Reachable

end Threads

end HttpDispatch.Flow
