import HttpDispatch.Proofs.Flow.Interleaving
import Mathlib.Logic.Relation

/-!
Waiting on a pipe. A thread is parked only while there is nothing that it could do: the reading
thread while the ring is empty and open, the writing thread while it is full and open. So never both
are parked, and as long as something is left to do one of them can do it.
-/

namespace HttpDispatch.Flow

namespace Threads

variable {state after : Threads}

/-! ### What a step can be -/

/-- What a step of the writing thread can be. Only an access that changes the ring wakes the
threads. -/
inductive WriterMove (state : Threads) : Threads → Prop where
  | waits {script : Producer} (running : state.writer = .working script)
      (full : state.ring.free = 0) (isOpen : state.ring.isOpen = true) :
      WriterMove state { state with writer := .parked script }
  | goesOn {script next : Producer} {answers : List (Except IoFault Bytes)}
      (running : state.writer = .working script) (follows : Producer.Follows next script)
      (taken : state.ring.isOpen = true → ∀ answer ∈ answers, ∃ bytes, answer = .ok bytes) :
      WriterMove state
        { state with writes := state.writes ++ answers, writer := .working next }
  | fills {script next : Producer} {ring : Ring blockSize} {bytes : Bytes}
      (running : state.writer = .working script) (follows : Producer.Follows next script)
      (same : ring.isOpen = state.ring.isOpen) :
      WriterMove state (wakeAll
        { state with ring, writes := state.writes ++ [.ok bytes], writer := .working next })
  | ends {script : Producer} (running : state.writer = .working script) (ending : Ending) :
      WriterMove state (state.endWriter ending)

theorem writerMove_writeOnce {script : Producer} {chunk : Bytes} {next : Except IoFault Nat → Producer}
    (running : state.writer = .working script)
    (refusal : Producer.Follows (next (.error .streamClosed)) script)
    (parts : ∀ count, (chunk ≠ [] → 0 < count) → Producer.Follows (next (.ok count)) script) :
    WriterMove state (state.writeOnce script chunk next) := by
  rcases answered : state.ring.write chunk with ⟨reply, ring⟩
  unfold writeOnce
  rw [answered]
  cases reply with
  | waits =>
    obtain ⟨-, isOpen, full⟩ := Ring.write_waits answered
    exact .waits running full isOpen
  | refused =>
    obtain ⟨-, isClosed⟩ := Ring.write_refused answered
    refine .goesOn running refusal ?_
    intro isOpen
    rw [isClosed] at isOpen
    cases isOpen
  | accepted count =>
    obtain ⟨-, rfl, proper⟩ := Ring.write_accepted answered
    have follows := parts count fun nonempty => (proper nonempty).1
    simp only
    split
    · rename_i nothing
      -- A write of nothing leaves the ring as it was.
      subst nothing
      rw [List.take_nil, Ring.push_nil]
      exact .goesOn running follows fun _ answer member => ⟨[], List.mem_singleton.mp member⟩
    · exact .fills running follows rfl

theorem writerMove_of_step (made : state.writerStep? = some after) : WriterMove state after := by
  have quiet {script next : Producer} (running : state.writer = .working script)
      (follows : Producer.Follows next script) :
      WriterMove state { state with writer := .working next } := by
    have silent : state.ring.isOpen = true → ∀ answer ∈ ([] : List (Except IoFault Bytes)),
        ∃ bytes, answer = .ok bytes := by simp
    simpa using WriterMove.goesOn running follows silent
  unfold writerStep? at made
  split at made
  · cases made
  · cases made
  · rename_i script running
    cases script with
    | finish result | panic payload =>
      cases made
      exact .ends running _
    | flush next =>
      cases made
      exact quiet running (.flush next _)
    | write chunk next =>
      cases made
      exact writerMove_writeOnce running (.write chunk next _) fun count _ => .write chunk next _
    | writeAll chunk next =>
      simp only [Option.some.injEq] at made
      split at made
      · subst made
        exact quiet running (.writeAll chunk next _)
      · rename_i nonempty
        subst made
        refine writerMove_writeOnce running (.writeAll chunk next _) ?_
        intro count proper
        have := proper nonempty
        unfold afterPart
        simp only
        split
        · refine .writePart _ _ next ?_
          rw [List.length_drop]
          omega
        · exact .writeAll chunk next _

/-- What one read of the reading thread can come to. -/
inductive ReadMove (state : Threads) (most : Nat) (take : Threads → Bytes → Threads) :
    Threads → Prop where
  | waits (empty : state.ring.available = 0) (isOpen : state.ring.isOpen = true) :
      ReadMove state most take { state with reader := { state.reader with isParked := true } }
  | nothing (ended : 0 < most → state.ring.isOpen = false) :
      ReadMove state most take (take state [])
  | got {ring : Ring blockSize} {bytes : Bytes} (nonempty : bytes ≠ [])
      (same : ring.isOpen = state.ring.isOpen)
      (less : ring.available < state.ring.available) :
      ReadMove state most take (wakeAll (take { state with ring } bytes))

theorem readMove_readOnce (state : Threads) (most : Nat) (take : Threads → Bytes → Threads) :
    ReadMove state most take (state.readOnce most take) := by
  rcases answered : state.ring.read most with ⟨reply, ring⟩
  unfold readOnce
  rw [answered]
  cases reply with
  | waits =>
    obtain ⟨-, -, empty, isOpen⟩ := Ring.read_waits answered
    exact .waits empty isOpen
  | got bytes =>
    obtain ⟨front, rfl, ended⟩ := Ring.read_got answered
    simp only
    split
    · rename_i nothing
      subst nothing
      have none := Ring.eq_zero_of_front Pipe.blockSize_pos _ front.symm
      simp only [none, Nat.add_zero]
      exact .nothing fun asked => ended asked (by omega)
    · rename_i nonempty
      have some : min state.ring.available most ≠ 0 := by
        intro none
        rw [none, Ring.front_zero] at front
        exact nonempty front
      refine .got nonempty rfl ?_
      show state.ring.written - (state.ring.taken + min state.ring.available most) < _
      unfold Ring.available at *
      omega

/-- What can happen to two threads: one of them takes a step, or is woken for no reason. -/
inductive Happens (state : Threads) : Threads → Prop where
  | step {after : Threads} (made : Step state after) : Happens state after
  | wakesWriter : Happens state { state with writer := state.writer.wake }
  | wakesReader : Happens state { state with reader := state.reader.wake }

/-- The reading thread can take a step that is not parked and has a demand, if it does not wait for
the producer to end. -/
theorem exists_readerStep (awake : state.reader.isParked = false) (demanded : state.demands ≠ [])
    (joins : state.reader.task = .joining → state.writer.ending?.isSome = true) :
    ∃ after, state.readerStep? = some after := by
  obtain ⟨demand, rest, asked⟩ := List.exists_cons_of_ne_nil demanded
  unfold readerStep?
  rw [if_neg (by simp [awake]), asked]
  cases task : state.reader.task with
  | meeting =>
    cases demand with
    | read most => exact ⟨_, rfl⟩
    | finish => cases state.isAttached <;> exact ⟨_, rfl⟩
  | draining => cases demand <;> exact ⟨_, rfl⟩
  | joining =>
    obtain ⟨ending, ended⟩ := Option.isSome_iff_exists.mp (joins task)
    rw [ended]
    cases demand <;> exact ⟨_, rfl⟩

/-! ### What holds while the threads work -/

/-- How far the reading thread is with finishing. It has a demand to finish until it waited for the
producer, which it does once and after the ring was closed. -/
def Finishing (state : Threads) : Prop :=
  match state.isAttached, state.reader.task with
  | true, .meeting => state.joins = 0 ∧ .finish ∈ state.demands
  | true, _ => False
  | false, .draining => state.joins = 0 ∧ state.demands ≠ []
  | false, .joining => state.joins = 0 ∧ state.demands ≠ [] ∧ state.ring.isOpen = false
  | false, .meeting => state.joins = 1 ∧ state.ring.isOpen = false

/-- Threads that wait for nothing that has come already. -/
structure Live (state : Threads) : Prop where
  reader : state.reader.isParked = true → state.ring.available = 0 ∧ state.ring.isOpen = true
  writer : state.writer.isParked = true → state.ring.free = 0 ∧ state.ring.isOpen = true
  closed : state.ring.isOpen = !state.writer.ending?.isSome
  /-- No write was refused. -/
  written : ∀ answer ∈ state.writes, ∃ bytes, answer = .ok bytes
  finishing : state.Finishing

theorem isParked_wake_writer (thread : WriterThread) : thread.wake.isParked = false := by
  cases thread <;> rfl

theorem ending?_wake (thread : WriterThread) : thread.wake.ending? = thread.ending? := by
  cases thread <;> rfl

/-- A ring that stays closed once it is closed does not matter for finishing otherwise. -/
theorem Finishing.of_ring (finishing : state.Finishing) {ring : Ring blockSize}
    (stays : state.ring.isOpen = false → ring.isOpen = false) :
    { state with ring }.Finishing := by
  unfold Finishing at *
  split <;> simp_all

namespace Live

theorem start (script : Producer) {demands : List Demand} (finishes : .finish ∈ demands) :
    (Threads.start script demands).Live where
  reader := nofun
  writer := nofun
  closed := rfl
  written := nofun
  finishing := ⟨rfl, finishes⟩

theorem wakeWriter (live : state.Live) : { state with writer := state.writer.wake }.Live where
  reader := live.reader
  writer parked := by
    rw [isParked_wake_writer] at parked
    cases parked
  closed := by rw [ending?_wake, live.closed]
  written := live.written
  finishing := live.finishing

theorem wakeReader (live : state.Live) : { state with reader := state.reader.wake }.Live where
  reader := nofun
  writer := live.writer
  closed := live.closed
  written := live.written
  finishing := live.finishing

/-- Threads that were just woken wait for nothing. -/
theorem of_woken (closed : state.ring.isOpen = !state.writer.ending?.isSome)
    (written : ∀ answer ∈ state.writes, ∃ bytes, answer = .ok bytes)
    (finishing : state.Finishing) : state.wakeAll.Live where
  reader := nofun
  writer parked := by
    rw [wakeAll, isParked_wake_writer] at parked
    cases parked
  closed := by rw [wakeAll, ending?_wake, ← closed]
  written := written
  finishing := finishing

theorem isOpen_of_working (live : state.Live) {script : Producer}
    (running : state.writer = .working script) : state.ring.isOpen = true := by
  rw [live.closed, running]
  rfl

theorem writerMove (live : state.Live) (made : WriterMove state after) : after.Live := by
  obtain ⟨reader, writer, closed, written, finishing⟩ := id live
  cases made with
  | waits running full isOpen => exact ⟨reader, fun _ => ⟨full, isOpen⟩, isOpen, written, finishing⟩
  | goesOn running follows taken =>
    have isOpen := live.isOpen_of_working running
    exact ⟨reader, nofun, isOpen, List.forall_mem_append.mpr ⟨written, taken isOpen⟩, finishing⟩
  | fills running follows same =>
    have isOpen := same.trans (live.isOpen_of_working running)
    refine .of_woken isOpen (List.forall_mem_append.mpr ⟨written, ?_⟩) (finishing.of_ring same.trans)
    intro answer now
    exact ⟨_, List.mem_singleton.mp now⟩
  | ends running ending => exact .of_woken rfl written (finishing.of_ring fun _ => rfl)

theorem readOnce (live : state.Live) {most : Nat} {take : Threads → Bytes → Threads}
    (nothing : (0 < most → state.ring.isOpen = false) → (take state []).Live)
    (got : ∀ ring bytes, bytes ≠ [] → ring.isOpen = state.ring.isOpen →
      (take { state with ring } bytes).wakeAll.Live) : (state.readOnce most take).Live := by
  have made := readMove_readOnce state most take
  generalize state.readOnce most take = after at made ⊢
  cases made with
  | waits empty isOpen =>
    exact ⟨fun _ => ⟨empty, isOpen⟩, live.writer, live.closed, live.written, live.finishing⟩
  | nothing ended => exact nothing ended
  | got nonempty same less => exact got _ _ nonempty same

theorem readerMove (live : state.Live) (made : ReaderMove state after) : after.Live := by
  obtain ⟨reader, writer, closed, written, finishing⟩ := id live
  simp only [Finishing] at finishing
  cases made with
  | @read most rest task asked =>
    have later : { state with demands := rest }.Finishing := by
      simp only [Finishing, task, asked] at finishing ⊢
      split <;> simp_all
    apply live.readOnce
    · intro ended
      exact ⟨reader, writer, closed, written, later⟩
    · intro ring bytes nonempty same
      exact .of_woken (same.trans closed) written (later.of_ring same.trans)
  | finish task asked isAttached =>
    simp only [isAttached, task] at finishing
    exact ⟨nofun, writer, closed, written, finishing.1, by simp [asked]⟩
  | again task asked isAttached =>
    simp only [isAttached, task] at finishing
    refine ⟨reader, writer, closed, written, ?_⟩
    simpa only [Finishing, isAttached, task] using finishing
  | drain task =>
    cases isAttached : state.isAttached with
    | true => simp [isAttached, task] at finishing
    | false =>
      simp only [isAttached, task] at finishing
      apply live.readOnce
      · intro ended
        refine ⟨nofun, writer, closed, written, ?_⟩
        simpa [Threads.drain, Finishing, isAttached] using
          And.intro finishing.1 ⟨finishing.2, ended (by decide)⟩
      · intro ring bytes nonempty same
        simp only [Threads.drain, if_neg nonempty]
        exact .of_woken (same.trans closed) written (live.finishing.of_ring same.trans)
  | join task asked ended =>
    cases isAttached : state.isAttached with
    | true => simp [isAttached, task] at finishing
    | false =>
      simp only [isAttached, task] at finishing
      refine ⟨nofun, writer, closed, written, ?_⟩
      simpa [Finishing, isAttached] using And.intro finishing.1 finishing.2.2

theorem step (live : state.Live) (made : Step state after) : after.Live := by
  cases made with
  | writer made => exact live.writerMove (writerMove_of_step made)
  | reader made => exact live.readerMove (readerMove_of_step made)

/-- Whatever happens to live threads they stay live. -/
theorem happens (live : state.Live) (happened : Relation.ReflTransGen Happens state after) :
    after.Live := by
  induction happened with
  | refl => exact live
  | tail _ last ih =>
    cases last with
    | step made => exact ih.step made
    | wakesWriter => exact ih.wakeWriter
    | wakesReader => exact ih.wakeReader

/-- The two threads never wait for each other: the ring is not both empty and full. -/
theorem not_both_parked (live : state.Live) :
    ¬(state.reader.isParked = true ∧ state.writer.isParked = true) := by
  rintro ⟨reader, writer⟩
  have empty := (live.reader reader).1
  have full := (live.writer writer).1
  rw [Ring.free, empty] at full
  exact absurd full (by decide)

/-- While the ring is open some demand is still to be met, and the producer is not waited for. -/
theorem of_open (live : state.Live) (isOpen : state.ring.isOpen = true) :
    state.demands ≠ [] ∧ state.reader.task ≠ .joining := by
  have finishing := live.finishing
  simp only [Finishing] at finishing
  split at finishing
  · rename_i task
    refine ⟨List.ne_nil_of_mem finishing.2, ?_⟩
    rw [task]
    nofun
  · cases finishing
  · rename_i task
    refine ⟨finishing.2, ?_⟩
    rw [task]
    nofun
  · simp [isOpen] at finishing
  · simp [isOpen] at finishing

/-- As long as something is left to do, one of the threads can do it. -/
theorem exists_step (live : state.Live) (unfinished : ¬state.IsDone) :
    ∃ after, Step state after := by
  -- A producer at work can always go on; else it is the reading thread that can.
  cases running : state.writer with
  | working script => exact ⟨_, .writer (by rw [writerStep?, running])⟩
  | parked script =>
    have parked : state.writer.isParked = true := by
      rw [running]
      rfl
    have awake : state.reader.isParked = false := by
      simpa [parked] using live.not_both_parked
    obtain ⟨demanded, task⟩ := live.of_open (live.writer parked).2
    obtain ⟨after, made⟩ := exists_readerStep awake demanded fun joining => absurd joining task
    exact ⟨after, .reader made⟩
  | ended ending =>
    have ended : state.writer.ending?.isSome = true := by
      rw [running]
      rfl
    have awake : state.reader.isParked = false := by
      cases parked : state.reader.isParked with
      | false => rfl
      | true =>
        have isOpen := (live.reader parked).2
        rw [live.closed, ended] at isOpen
        cases isOpen
    have demanded : state.demands ≠ [] := fun none => unfinished ⟨ended, none⟩
    obtain ⟨after, made⟩ := exists_readerStep awake demanded fun _ => ended
    exact ⟨after, .reader made⟩

/-- Once nothing is left to do the producer was waited for, once. -/
theorem joins_of_done (live : state.Live) (done : state.IsDone) : state.joins = 1 := by
  have finishing := live.finishing
  simp only [Finishing, done.2] at finishing
  split at finishing
  · cases finishing.2
  · cases finishing
  · exact absurd rfl finishing.2
  · exact absurd rfl finishing.2.1
  · exact finishing.1

end Live

end Threads

end HttpDispatch.Flow
