import HttpDispatch.Proofs.Flow.Waiting
import Mathlib.Order.WellFounded

/-!
Pipes come to an end. Every step leaves less to do: the producer comes further, or else a demand is
met, or the reading thread comes further with finishing, or bytes are taken out of the ring, or a
thread is parked. So however the steps interleave, after finitely many of them nothing is left to
do and the producer was waited for.
-/

namespace HttpDispatch.Flow

/-- How many tasks of finishing are still to come. -/
def ReaderTask.later : ReaderTask → Nat
  | meeting => 2
  | draining => 1
  | joining => 0

theorem WriterThread.worker_wake (thread : WriterThread) : thread.wake.worker = thread.worker := by
  cases thread <;> rfl

namespace Threads

variable {state after : Threads}

/-- The number of threads that are not parked. -/
def awake (state : Threads) : Nat :=
  (!state.writer.isParked).toNat + (!state.reader.isParked).toNat

/-- `Nearer after before` holds when less is left to do. -/
inductive Nearer (after before : Threads) : Prop where
  | producer (later : Worker.Later after.writer.worker before.writer.worker)
  | demand (same : after.writer.worker = before.writer.worker)
      (less : after.demands.length < before.demands.length)
  | task (same : after.writer.worker = before.writer.worker)
      (demands : after.demands = before.demands)
      (less : after.reader.task.later < before.reader.task.later)
  | bytes (same : after.writer.worker = before.writer.worker)
      (demands : after.demands = before.demands) (task : after.reader.task = before.reader.task)
      (less : after.ring.available < before.ring.available)
  | thread (same : after.writer.worker = before.writer.worker)
      (demands : after.demands = before.demands) (task : after.reader.task = before.reader.task)
      (ring : after.ring = before.ring) (less : after.awake < before.awake)

theorem nearer_wellFounded : WellFounded Nearer := by
  let remaining (state : Threads) : Worker × Nat × Nat × Nat × Nat :=
    (state.writer.worker, state.demands.length, state.reader.task.later, state.ring.available,
      state.awake)
  have numbers := Nat.lt_wfRel.wf
  have wellFounded := InvImage.wf remaining <| Worker.later_wellFounded.prod_lex <|
    numbers.prod_lex <| numbers.prod_lex <| numbers.prod_lex numbers
  refine Subrelation.wf ?_ wellFounded
  intro after before nearer
  simp only [InvImage, Prod.lex_def, remaining]
  cases nearer with
  | producer later => exact .inl later
  | demand same less => exact .inr ⟨same, .inl less⟩
  | task same demands less => exact .inr ⟨same, .inr ⟨congrArg List.length demands, .inl less⟩⟩
  | bytes same demands task less =>
    exact .inr ⟨same, .inr ⟨congrArg List.length demands, .inr ⟨congrArg _ task, .inl less⟩⟩⟩
  | thread same demands task ring less =>
    exact .inr ⟨same, .inr ⟨congrArg List.length demands, .inr ⟨congrArg _ task,
      .inr ⟨congrArg _ ring, less⟩⟩⟩⟩

theorem nearer_of_writerMove (made : WriterMove state after) : Nearer after state := by
  cases made with
  | waits running full isOpen =>
    refine .thread ?_ rfl rfl rfl ?_
    · rw [running]
      rfl
    · simp [awake, running, WriterThread.isParked]
  | goesOn running follows taken =>
    apply Nearer.producer
    rw [running]
    exact .running (.single follows)
  | fills running follows same =>
    apply Nearer.producer
    rw [running]
    exact .running (.single follows)
  | ends running ending =>
    apply Nearer.producer
    rw [running]
    exact .ended ending _

/-- A read that is made to wait parks the thread, and any other is nearer to the end if its answer
is. -/
theorem nearer_readOnce (unparked : state.reader.isParked = false) {most : Nat}
    {take : Threads → Bytes → Threads} (nothing : Nearer (take state []) state)
    (got : ∀ ring bytes, bytes ≠ [] → ring.available < state.ring.available →
      Nearer (take { state with ring } bytes).wakeAll state) :
    Nearer (state.readOnce most take) state := by
  have made := readMove_readOnce state most take
  generalize state.readOnce most take = after at made ⊢
  cases made with
  | waits empty isOpen =>
    refine .thread rfl rfl rfl rfl ?_
    simp [awake, unparked]
  | nothing ended => exact nothing
  | got nonempty same less => exact got _ _ nonempty less

theorem nearer_of_readerStep (made : state.readerStep? = some after) : Nearer after state := by
  have unparked : state.reader.isParked = false := by
    unfold readerStep? at made
    split at made
    · cases made
    · rename_i unparked
      simpa using unparked
  cases readerMove_of_step made with
  | read task asked =>
    apply nearer_readOnce unparked
    · exact .demand rfl (by simp [asked])
    · intro ring bytes nonempty less
      exact .demand (WriterThread.worker_wake _) (by simp [wakeAll, asked])
  | finish task asked isAttached => exact .task rfl rfl (by simp [task, ReaderTask.later])
  | again task asked isAttached => exact .demand rfl (by simp [asked])
  | drain task =>
    apply nearer_readOnce unparked
    · exact .task rfl rfl (by simp [Threads.drain, task, ReaderTask.later])
    · intro ring bytes nonempty less
      simp only [Threads.drain, if_neg nonempty]
      exact .bytes (WriterThread.worker_wake _) rfl rfl less
  | join task asked ended => exact .demand rfl (by simp [asked])

theorem nearer_of_step (made : Step state after) : Nearer after state := by
  cases made with
  | writer made => exact nearer_of_writerMove (writerMove_of_step made)
  | reader made => exact nearer_of_readerStep made

/-- A run from some state: as long as a thread can take a step, one of them does. -/
structure Run (first : Threads) where
  states : Nat → Threads
  starts : states 0 = first
  goesOn : ∀ time, Step (states time) (states (time + 1)) ∨
    states (time + 1) = states time ∧ ∀ after, ¬Step (states time) after

namespace Run

variable {first : Threads}

theorem live (run : Run first) (live : first.Live) (time : Nat) : (run.states time).Live := by
  induction time with
  | zero => rwa [run.starts]
  | succ time ih =>
    rcases run.goesOn time with made | ⟨same, -⟩
    · exact ih.step made
    · rwa [same]

/-- No run goes on for ever. -/
theorem exists_last (run : Run first) : ∃ time, ∀ after, ¬Step (run.states time) after := by
  have : IsWellFounded Threads Nearer := ⟨nearer_wellFounded⟩
  obtain ⟨time, far⟩ := WellFounded.not_rel_apply_succ (r := Nearer) run.states
  refine ⟨time, ?_⟩
  rcases run.goesOn time with made | ⟨-, stuck⟩
  · exact absurd (nearer_of_step made) far
  · exact stuck

end Run

/-- A producer that writes and a thread that reads, and then finishes, never wait for each other.
Whatever happens, and though threads may be woken for no reason, a thread is parked only while it
has nothing to do, no write comes too late, and as long as something is left to do one of the
threads can do it. Once threads are woken for no reason no more, all is done some time, and then
the producer was waited for. -/
theorem never_deadlocks {script : Producer} {sizes : List Nat} {again : Nat} {state : Threads}
    (happened : Relation.ReflTransGen Happens
      (start script (sizes.map .read ++ .finish :: .replicate again .finish)) state) :
    (state.reader.isParked = true → state.ring.available = 0 ∧ state.ring.isOpen = true) ∧
      (state.writer.isParked = true → state.ring.free = 0 ∧ state.ring.isOpen = true) ∧
      ¬(state.reader.isParked = true ∧ state.writer.isParked = true) ∧
      (state.ring.isOpen = false → state.writer.ending?.isSome = true) ∧
      (∀ answer ∈ state.writes, ∃ bytes, answer = .ok bytes) ∧
      (¬state.IsDone → ∃ after, Step state after) ∧
      ∀ run : Run state, ∃ time, (run.states time).IsDone ∧ (run.states time).joins = 1 := by
  have live : state.Live := (Live.start script (by simp)).happens happened
  refine ⟨live.reader, live.writer, live.not_both_parked, ?_, live.written, live.exists_step, ?_⟩
  · intro isClosed
    simpa [isClosed] using live.closed
  · intro run
    obtain ⟨time, stuck⟩ := run.exists_last
    have last := run.live live time
    have done : (run.states time).IsDone := by
      by_contra unfinished
      obtain ⟨after, made⟩ := last.exists_step unfinished
      exact stuck after made
    exact ⟨time, done, last.joins_of_done done⟩

/-- A producer of one byte, which has not come to writing it. -/
def oneByte : Producer := .writeAll [0] fun _ => .finish (.ok ())

/-- A reading thread that came first is parked, and the producer goes on. -/
theorem reader_waits_for_byte :
    Relation.ReflTransGen Happens (start oneByte [.read 1, .finish])
        { start oneByte [.read 1, .finish] with reader := ⟨.meeting, true⟩ } ∧
      ∃ after, Step { start oneByte [.read 1, .finish] with reader := ⟨.meeting, true⟩ } after := by
  have happened : Relation.ReflTransGen Happens
      (start oneByte ([1].map .read ++ .finish :: .replicate 0 .finish))
      { start oneByte [.read 1, .finish] with reader := ⟨.meeting, true⟩ } :=
    .single (.step (.reader rfl))
  obtain ⟨-, -, -, -, -, progress, -⟩ := never_deadlocks happened
  exact ⟨happened, progress fun done => absurd done.2 (by simp [start])⟩

end Threads

end HttpDispatch.Flow
