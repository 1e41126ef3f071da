import HttpDispatch.Proofs.Flow.Draining
import HttpDispatch.Proofs.Flow.ReadingOut

/-!
The schedule on which a pipe runs by itself. It lets the producer work when the reader would have to
wait for it, and the reader read as long as there is something in the ring. This is one of the
orders in which the two threads can take their steps, so what draining and closing a pipe give is
what reading out its threads can give.
-/

namespace HttpDispatch.Flow

theorem Ring.Exhausted.read {ring : Ring blockSize} (exhausted : ring.Exhausted) (most : Nat) :
    ring.read most = (.got [], ring) := by
  unfold Ring.read
  rw [exhausted.1, exhausted.2]
  split <;> rfl

namespace Pipe

variable {pipe : Pipe}

/-- A pipe of which a read gives nothing is spent: all is taken and its producer ended. -/
theorem Sound.spent_of_read {most : Nat} (sound : pipe.Sound) (asked : 0 < most)
    (nothing : (pipe.read most).1 = []) :
    (pipe.read most).2.ring.Exhausted ∧ ∃ ending, (pipe.read most).2.worker = .ended ending := by
  have settled := sound.ready
  have exhausted : (pipe.read most).2.ring.Exhausted := by
    unfold Pipe.read at nothing ⊢
    rw [if_neg (by omega)] at nothing ⊢
    rcases answered : pipe.ready.ring.read most with ⟨reply, ring⟩
    rw [answered] at nothing
    cases reply with
    | waits =>
      obtain ⟨-, -, none, isOpen⟩ := Ring.read_waits answered
      rw [settled.ended none] at isOpen
      cases isOpen
    | got bytes => exact Ring.exhausted_of_nil asked answered nothing
  refine ⟨exhausted, ?_⟩
  cases worker : (pipe.read most).2.worker with
  | ended ending => exact ⟨ending, rfl⟩
  | running script =>
    have isOpen := (sound.read asked).1.isOpen script worker
    rw [exhausted.2] at isOpen
    cases isOpen

/-- A pipe that was drained is spent. -/
theorem Sound.spent_drain (sound : pipe.Sound) :
    pipe.drain.2.ring.Exhausted ∧ ∃ ending, pipe.drain.2.worker = .ended ending := by
  induction pipe using Pipe.drain.induct with
  | case1 pipe rest got =>
    have spent := sound.spent_of_read blockSize_pos (congrArg Prod.fst got)
    rw [got] at spent
    rwa [drain_of_nil got]
  | case2 pipe byte bytes rest got ih =>
    obtain ⟨left, -, -, -⟩ := sound.read blockSize_pos
    rw [got] at left
    rw [drain_of_cons got]
    exact ih left

end Pipe

namespace Threads

variable {state after next : Threads} {script : Producer} {pipe : Pipe} {reading : Reading}

/-- No thread is parked. On the schedule of a pipe none ever is. -/
structure Unparked (state : Threads) : Prop where
  writer : state.writer.isParked = false
  reader : state.reader.isParked = false

/-- Some steps lead to threads with this pipe between them, the reading one being so far. -/
structure Leads (state after : Threads) (pipe : Pipe) (reading : Reading) : Prop where
  steps : Relation.ReflTransGen Step state after
  unparked : after.Unparked
  pipe : after.pipe = pipe
  reading : after.reading = reading

theorem Leads.refl (unparked : state.Unparked) (same : state.pipe = pipe) :
    Leads state state pipe state.reading :=
  ⟨.refl, unparked, same, rfl⟩

theorem Leads.trans {between : Pipe} (first : Leads state next between state.reading)
    (later : Leads next after pipe next.reading) : Leads state after pipe state.reading :=
  ⟨first.steps.trans later.steps, later.unparked, later.pipe, later.reading.trans first.reading⟩

theorem Unparked.working (unparked : state.Unparked)
    (running : state.pipe.worker = .running script) : state.writer = .working script := by
  have awake := unparked.writer
  cases writer : state.writer with
  | working current =>
    simp only [pipe, writer, WriterThread.worker, Worker.running.injEq] at running
    rw [running]
  | parked current => simp [writer, WriterThread.isParked] at awake
  | ended ending => simp [pipe, writer, WriterThread.worker] at running

theorem writer_of_worker {ending : Ending} (ended : state.pipe.worker = .ended ending) :
    state.writer = .ended ending := by
  cases writer : state.writer <;> simp_all [Threads.pipe, WriterThread.worker]

/-! ### The producer works -/

/-- A step of the producer that comes to a write does it if it need not wait. -/
theorem leads_writeOnce {chunk : Bytes} {goesOn : Except IoFault Nat → Producer}
    {answer : Except IoFault Nat} {ring : Ring blockSize} (unparked : state.Unparked)
    (made : state.writerStep? = some (state.writeOnce script chunk goesOn))
    (answered : Pipe.tryWrite state.ring chunk = some (answer, ring)) :
    ∃ after, Leads state after ⟨ring, .running (goesOn answer)⟩ state.reading := by
  have steps : Relation.ReflTransGen Step state (state.writeOnce script chunk goesOn) :=
    .single (.writer made)
  rcases wrote : state.ring.write chunk with ⟨reply, left⟩
  unfold Pipe.tryWrite at answered
  unfold writeOnce at steps
  rw [wrote] at answered steps
  cases reply with
  | waits => cases answered
  | refused =>
    obtain ⟨rfl, -⟩ := Ring.write_refused wrote
    cases answered
    exact ⟨_, steps, ⟨rfl, unparked.reader⟩, rfl, rfl⟩
  | accepted count =>
    cases answered
    simp only at steps
    split at steps
    · exact ⟨_, steps, ⟨rfl, unparked.reader⟩, rfl, rfl⟩
    · exact ⟨_, steps, ⟨rfl, rfl⟩, rfl, rfl⟩

/-- A step of the producer that comes to no write leaves the ring as it is. -/
theorem leads_goesOn {later : Producer} (unparked : state.Unparked)
    (made : state.writerStep? = some { state with writer := .working later }) :
    Leads state { state with writer := .working later } ⟨state.ring, .running later⟩
      state.reading :=
  ⟨.single (.writer made), ⟨rfl, unparked.reader⟩, rfl, rfl⟩

/-- The producer's thread does step by step what the producer's side of the pipe does at once. -/
theorem exists_advance {ring : Ring blockSize} (unparked : state.Unparked)
    (running : state.pipe = ⟨ring, .running script⟩) :
    ∃ after, Leads state after (Pipe.advance ring script) state.reading := by
  induction script generalizing state ring with
  | finish result =>
    have working := unparked.working (congrArg Pipe.worker running)
    have made : state.writerStep? = some (state.endWriter (Producer.ending result)) := by
      simp only [writerStep?, working]
    obtain rfl : state.ring = ring := congrArg Pipe.ring running
    exact ⟨_, .single (.writer made), ⟨rfl, rfl⟩, rfl, rfl⟩
  | panic cause =>
    have working := unparked.working (congrArg Pipe.worker running)
    have made : state.writerStep? = some (state.endWriter (.error (.panicked cause))) := by
      simp only [writerStep?, working]
    obtain rfl : state.ring = ring := congrArg Pipe.ring running
    exact ⟨_, .single (.writer made), ⟨rfl, rfl⟩, rfl, rfl⟩
  | flush goesOn ih =>
    have working := unparked.working (congrArg Pipe.worker running)
    have made : state.writerStep? = some { state with writer := .working (goesOn (.ok ())) } := by
      simp only [writerStep?, working]
    obtain rfl : state.ring = ring := congrArg Pipe.ring running
    have flushed := leads_goesOn unparked made
    obtain ⟨after, leads⟩ := ih (.ok ()) flushed.unparked flushed.pipe
    exact ⟨after, flushed.trans leads⟩
  | write chunk goesOn ih =>
    have working := unparked.working (congrArg Pipe.worker running)
    have made : state.writerStep? =
        some (state.writeOnce (.write chunk goesOn) chunk goesOn) := by
      simp only [writerStep?, working]
    obtain rfl : state.ring = ring := congrArg Pipe.ring running
    unfold Pipe.advance
    rcases tried : Pipe.tryWrite state.ring chunk with _ | ⟨answer, left⟩
    · exact ⟨state, .refl unparked running⟩
    · obtain ⟨next, wrote⟩ := leads_writeOnce unparked made tried
      obtain ⟨after, leads⟩ := ih answer wrote.unparked wrote.pipe
      exact ⟨after, wrote.trans leads⟩
  | writeAll chunk goesOn ih =>
    have working := unparked.working (congrArg Pipe.worker running)
    obtain rfl : state.ring = ring := congrArg Pipe.ring running
    unfold Pipe.advance
    by_cases nothing : chunk = []
    · have made : state.writerStep? =
          some { state with writer := .working (goesOn (.ok ())) } := by
        simp only [writerStep?, working, if_pos nothing]
      have wrote := leads_goesOn unparked made
      obtain ⟨after, leads⟩ := ih (.ok ()) wrote.unparked wrote.pipe
      rw [if_pos nothing]
      exact ⟨after, wrote.trans leads⟩
    · have made : state.writerStep? =
          some (state.writeOnce (.writeAll chunk goesOn) chunk (afterPart chunk goesOn)) := by
        simp only [writerStep?, working, if_neg nothing]
      rw [if_neg nothing]
      rcases tried : Pipe.tryWrite state.ring chunk with _ | ⟨fault | count, left⟩
      · exact ⟨state, .refl unparked running⟩
      · obtain ⟨next, wrote⟩ := leads_writeOnce unparked made tried
        obtain ⟨after, leads⟩ := ih (.error fault) wrote.unparked wrote.pipe
        exact ⟨after, wrote.trans leads⟩
      · obtain ⟨next, wrote⟩ := leads_writeOnce unparked made tried
        unfold afterPart at wrote
        by_cases part : count < chunk.length
        · simp only [if_pos part] at wrote ⊢
          exact ⟨next, wrote⟩
        · simp only [if_neg part] at wrote ⊢
          obtain ⟨after, leads⟩ := ih (.ok ()) wrote.unparked wrote.pipe
          exact ⟨after, wrote.trans leads⟩

theorem exists_ready (unparked : state.Unparked) :
    ∃ after, Leads state after state.pipe.ready state.reading := by
  unfold Pipe.ready
  split
  · rename_i script running
    split
    · exact exists_advance unparked (by rw [← running])
    · exact ⟨state, .refl unparked rfl⟩
  · exact ⟨state, .refl unparked rfl⟩

/-! ### The thread reads -/

/-- The reading thread after reads that gave these pieces, with these demands left. -/
def Reading.gave (reading : Reading) (pieces : List Bytes) (demands : List Demand) : Reading :=
  { reading with reads := reading.reads ++ pieces, demands }

theorem Reading.gave_gave (reading : Reading) (pieces later : List Bytes)
    (demands rest : List Demand) :
    (reading.gave pieces demands).gave later rest = reading.gave (pieces ++ later) rest := by
  simp only [gave, List.append_assoc]

/-- The reading thread's read, for which the producer has worked first, is that of the pipe. -/
theorem exists_read {most : Nat} {rest : List Demand} (unparked : state.Unparked)
    (sound : state.pipe.Sound) (asked : 0 < most) (task : state.reading.task = .meeting)
    (demanded : state.reading.demands = .read most :: rest) :
    ∃ after, Leads state after (state.pipe.read most).2
      (state.reading.gave [(state.pipe.read most).1] rest) := by
  obtain ⟨ready, leads⟩ := exists_ready unparked
  have settled := sound.ready
  have same : ready.ring = state.pipe.ready.ring := congrArg Pipe.ring leads.pipe
  unfold Pipe.read
  rw [if_neg (by omega)]
  rcases answered : state.pipe.ready.ring.read most with ⟨reply, ring⟩
  cases reply with
  | waits =>
    obtain ⟨-, -, none, isOpen⟩ := Ring.read_waits answered
    rw [settled.ended none] at isOpen
    cases isOpen
  | got bytes =>
    have meeting : ready.reader.task = .meeting := (congrArg Reading.task leads.reading).trans task
    have demands : ready.demands = .read most :: rest :=
      (congrArg Reading.demands leads.reading).trans demanded
    have made : ready.readerStep? = some (ready.readOnce most fun after bytes =>
        { after with reads := after.reads ++ [bytes], demands := rest }) := by
      simp [readerStep?, leads.unparked.reader, meeting, demands]
    have steps := leads.steps.tail (.reader made)
    let taken : Threads := { ready with ring, reads := ready.reads ++ [bytes], demands := rest }
    have pipe : taken.pipe = { state.pipe.ready with ring } := by
      rw [← leads.pipe]
      rfl
    have reading : taken.reading = state.reading.gave [bytes] rest := by
      rw [← leads.reading]
      rfl
    unfold readOnce at steps
    rw [same, answered] at steps
    simp only at steps
    split at steps
    · exact ⟨_, steps, ⟨leads.unparked.writer, leads.unparked.reader⟩, pipe, reading⟩
    · exact ⟨_, steps, ⟨isParked_wake_writer _, rfl⟩, (pipe_wakeAll taken).trans pipe, reading⟩

/-- Draining is reading in blocks until a read gives nothing. -/
theorem exists_drain {rest : List Demand} (unparked : state.Unparked) (sound : state.pipe.Sound)
    (task : state.reading.task = .meeting)
    (demanded : state.reading.demands =
      List.replicate (state.pipe.drain.1.length + 1) (.read blockSize) ++ rest) :
    ∃ after, Leads state after state.pipe.drain.2
      (state.reading.gave (state.pipe.drain.1 ++ [[]]) rest) := by
  generalize held : state.pipe = pipe at sound demanded ⊢
  induction pipe using Pipe.drain.induct generalizing state with
  | case1 pipe left got =>
    subst held
    rw [Pipe.drain_of_nil got] at demanded ⊢
    obtain ⟨after, leads⟩ := exists_read unparked sound Pipe.blockSize_pos task demanded
    rw [got] at leads
    exact ⟨after, leads⟩
  | case2 pipe byte bytes left got ih =>
    subst held
    rw [Pipe.drain_of_cons got] at demanded ⊢
    obtain ⟨next, steps, unparked, pipe, reading⟩ :=
      exists_read unparked sound Pipe.blockSize_pos task demanded
    obtain ⟨later, -, -, -⟩ := sound.read Pipe.blockSize_pos
    rw [got] at pipe reading later
    have demands : next.reading.demands =
        List.replicate (left.drain.1.length + 1) (.read blockSize) ++ rest := by
      rw [reading]
      rfl
    obtain ⟨after, drained⟩ := ih unparked (by rw [reading]; exact task) pipe later demands
    refine ⟨after, steps.trans drained.steps, drained.unparked, drained.pipe, ?_⟩
    rw [drained.reading, reading, Reading.gave_gave]
    rfl

/-! ### The thread finishes -/

/-- Once all is taken and the producer ended, finishing only says how. -/
theorem exists_finish {ending : Ending} {rest : List Demand} (unparked : state.Unparked)
    (exhausted : state.ring.Exhausted) (ended : state.writer = .ended ending)
    (isAttached : state.isAttached = true) (task : state.reader.task = .meeting)
    (demanded : state.demands = .finish :: rest) :
    ∃ after, Relation.ReflTransGen Step state after ∧ after.writer = .ended ending ∧
      after.demands = rest ∧ after.reads = state.reads ∧
      after.finishes = state.finishes ++ [Pipe.failureOf ending] := by
  let asking : Threads := { state with isAttached := false, reader := ⟨.draining, false⟩ }
  let joining : Threads := { asking with reader := ⟨.joining, false⟩ }
  have asks : state.readerStep? = some asking := by
    simp [readerStep?, unparked.reader, task, demanded, isAttached, asking]
  have drains : asking.readerStep? = some joining := by
    simp [readerStep?, asking, joining, demanded, readOnce, exhausted.read, drain]
  have joins : joining.readerStep? = some { joining with
      finishes := state.finishes ++ [Pipe.failureOf ending]
      joins := state.joins + 1
      reader := ⟨.meeting, false⟩
      demands := rest } := by
    simp [readerStep?, asking, joining, demanded, ended, WriterThread.ending?]
  exact ⟨_, .head (.reader asks) (.head (.reader drains) (.single (.reader joins))),
    ended, rfl, rfl, rfl⟩

/-- What draining and closing a pipe give is what reading out its two threads can give. -/
theorem exists_readOut (script : Producer) :
    ∃ count state, ReadOut script (List.replicate count blockSize)
      (Pipe.ofProducer script).drain.1 state ∧
      state.finishes = [(Pipe.ofProducer script).drain.2.close] := by
  have sound := Pipe.sound_ofProducer script
  let count := (Pipe.ofProducer script).drain.1.length + 1
  let first := start script ((List.replicate count blockSize).map .read ++ [.finish])
  have demanded : first.reading.demands = List.replicate count (.read blockSize) ++ [.finish] := by
    rw [← List.map_replicate]
    rfl
  have unparked : first.Unparked := ⟨rfl, rfl⟩
  obtain ⟨drained, read, unparked, pipe, reading⟩ := exists_drain unparked sound rfl demanded
  obtain ⟨exhausted, ending, worker⟩ := sound.spent_drain
  have ended : drained.writer = .ended ending :=
    writer_of_worker ((congrArg Pipe.worker pipe).trans worker)
  have same : drained.ring = (Pipe.ofProducer script).drain.2.ring := congrArg Pipe.ring pipe
  obtain ⟨after, finished, writer, demands, reads, finishes⟩ :=
    exists_finish unparked (same ▸ exhausted) ended (congrArg Reading.isAttached reading)
      (congrArg Reading.task reading) (congrArg Reading.demands reading)
  have happened := Relation.ReflTransGen.mono (fun _ _ => Happens.step) _ _ (read.trans finished)
  refine ⟨count, after, ⟨happened, ⟨?_, demands⟩, ?_,
    reads.trans (congrArg Reading.reads reading), Pipe.ne_nil_of_mem_drain _⟩, ?_⟩
  · rw [writer]
    rfl
  · intro most member
    rw [List.eq_of_mem_replicate member]
    exact Pipe.blockSize_pos
  · have closed : (Pipe.ofProducer script).drain.2.close = Pipe.failureOf ending := by
      rw [Pipe.close, sound.drain_drain, worker]
    rw [finishes, closed, show drained.finishes = [] from congrArg Reading.finishes reading]
    rfl

end Threads

end HttpDispatch.Flow
