import HttpDispatch.Proofs.Flow.Completion

/-!
Closing a pipe. However far the threads are when the reading one is done with the pipe, the
producer is heard out: what it writes is read or drained, and the first answer to a demand to finish
is how it ended.
-/

namespace HttpDispatch.Flow

namespace Producer

/-- The producer writes `bytes` to a sink that takes something of every write, and ends so. What it
does next may depend on how much was taken. -/
inductive Performs : Producer → Bytes → Ending → Prop where
  | finish (result : Except IoFault Unit) : Performs (.finish result) [] (Producer.ending result)
  | panic (cause : PanicPayload) : Performs (.panic cause) [] (.error (.panicked cause))
  | flush {next : Except IoFault Unit → Producer} (later : Performs (next (.ok ())) bytes outcome) :
    Performs (.flush next) bytes outcome
  | write {next : Except IoFault Nat → Producer} {chunk : Bytes} {count : Nat}
    (most : count ≤ chunk.length) (proper : chunk ≠ [] → 0 < count)
    (later : Performs (next (.ok count)) bytes outcome) :
    Performs (.write chunk next) (chunk.take count ++ bytes) outcome
  | writeAll {next : Except IoFault Unit → Producer} (chunk : Bytes)
    (later : Performs (next (.ok ())) bytes outcome) :
    Performs (.writeAll chunk next) (chunk ++ bytes) outcome

/-- A chunk that is written in parts is written as one. -/
theorem performs_afterPart {next : Except IoFault Unit → Producer} {chunk bytes : Bytes}
    {outcome : Ending} {count : Nat} (most : count ≤ chunk.length)
    (later : (Threads.afterPart chunk next (.ok count)).Performs bytes outcome) :
    (Producer.writeAll chunk next).Performs (chunk.take count ++ bytes) outcome := by
  unfold Threads.afterPart at later
  simp only at later
  split at later
  · cases later with
    | writeAll _ later =>
      rw [← List.append_assoc, List.take_append_drop]
      exact .writeAll chunk later
  · rw [List.take_of_length_le (by omega)]
    exact .writeAll chunk later

end Producer

/-- How far a producer is that has written so much of what `script` writes. -/
def Worker.Stands (script : Producer) (isOpen : Bool) (written : Bytes) : Worker → Prop
  | .running current => isOpen = true ∧ ∀ bytes ending, current.Performs bytes ending →
      script.Performs (written ++ bytes) ending
  | .ended ending => isOpen = false ∧ script.Performs written ending

/-- A ring that nothing will ever be taken from. -/
def Ring.Exhausted (ring : Ring blockSize) : Prop := ring.available = 0 ∧ ring.isOpen = false

namespace Threads

variable {state after : Threads} {script current : Producer} {again : Nat} {parts : List Bytes}

/-! ### Where the threads are -/

/-- How far the reading thread is with closing, which it does after its reads. To finish again is
to say once more that nothing failed. -/
def Reading.Stage (reading : Reading) (again : Nat) (pipe : Pipe) : Prop :=
  match reading.isAttached, reading.task with
  | true, .meeting => reading.drained = [] ∧ reading.finishes = [] ∧ ∃ sizes : List Nat,
      reading.demands = sizes.map .read ++ .finish :: .replicate again .finish
  | true, _ => False
  | false, .draining =>
    reading.finishes = [] ∧ reading.demands = .finish :: .replicate again .finish
  | false, .joining => pipe.ring.Exhausted ∧ reading.finishes = [] ∧
      reading.demands = .finish :: .replicate again .finish
  | false, .meeting => pipe.ring.Exhausted ∧ ∃ ending met left, pipe.worker = .ended ending ∧
      reading.finishes = Pipe.failureOf ending :: .replicate met none ∧
      reading.demands = .replicate left .finish ∧ met + left = again

/-- While the ring is open the stage is not about the pipe. -/
theorem Reading.Stage.of_open {reading : Reading} {pipe : Pipe}
    (stage : reading.Stage again pipe) (isOpen : pipe.ring.isOpen = true) (other : Pipe) :
    reading.Stage again other := by
  unfold Stage at *
  split at stage
  · exact stage
  · cases stage
  · exact stage
  · simp [Ring.Exhausted, isOpen] at stage
  · simp [Ring.Exhausted, isOpen] at stage

/-- The producer's writes were all accepted, in these parts, and what was taken out of the ring was
handed on. -/
structure Keeps (script : Producer) (again : Nat) (state : Threads) (parts : List Bytes) :
    Prop where
  writes : state.writes = parts.map .ok
  carries : state.pipe.ring.Carries parts.flatten
  stands : state.pipe.worker.Stands script state.pipe.ring.isOpen parts.flatten
  read : state.reading.reads.flatten ++ state.reading.drained =
    parts.flatten.take state.pipe.ring.taken
  stage : state.reading.Stage again state.pipe

/-- Threads that differ at most in which of them are parked. -/
structure SameWork (after before : Threads) : Prop where
  pipe : after.pipe = before.pipe
  reading : after.reading = before.reading
  writes : after.writes = before.writes

theorem sameWork_wakeAll (state : Threads) : SameWork state.wakeAll state :=
  ⟨pipe_wakeAll state, reading_wakeAll state, rfl⟩

theorem Keeps.of_same (keeps : Keeps script again state parts) (same : SameWork after state) :
    Keeps script again after parts := by
  obtain ⟨pipe, reading, writes⟩ := same
  constructor
  · rw [writes, keeps.writes]
  · rw [pipe]
    exact keeps.carries
  · rw [pipe]
    exact keeps.stands
  · rw [pipe, reading, keeps.read]
  · rw [pipe, reading]
    exact keeps.stage

theorem keeps_start (script : Producer) (sizes : List Nat) (again : Nat) :
    Keeps script again (start script (sizes.map .read ++ .finish :: .replicate again .finish)) []
    where
  writes := rfl
  carries := .empty
  stands := ⟨rfl, fun _ _ performs => performs⟩
  read := rfl
  stage := ⟨rfl, rfl, sizes, rfl⟩

/-! ### The writing thread -/

/-- A producer that is still at work has an open ring, and what it wrote is the front of what
it will have written. -/
theorem Keeps.working (keeps : Keeps script again state parts)
    (running : state.writer = .working current) :
    state.pipe.worker = .running current ∧ state.ring.isOpen = true ∧
      ∀ bytes ending, current.Performs bytes ending →
        script.Performs (parts.flatten ++ bytes) ending := by
  have worker : state.pipe.worker = .running current := by
    rw [pipe, running]
    rfl
  have stands := keeps.stands
  rw [worker] at stands
  exact ⟨worker, stands⟩

/-- One write of a producer, whose part that is accepted comes next. -/
theorem Keeps.writeOnce {chunk : Bytes} {next : Except IoFault Nat → Producer}
    (keeps : Keeps script again state parts) (running : state.writer = .working current)
    (goesOn : ∀ count ≤ chunk.length, (chunk ≠ [] → 0 < count) → ∀ bytes ending,
      (next (.ok count)).Performs bytes ending →
        current.Performs (chunk.take count ++ bytes) ending) :
    ∃ parts, Keeps script again (state.writeOnce current chunk next) parts := by
  have room := Pipe.blockSize_pos
  obtain ⟨worker, isOpen, performs⟩ := keeps.working running
  rcases answered : state.ring.write chunk with ⟨reply, ring⟩
  unfold Threads.writeOnce
  rw [answered]
  cases reply with
  | waits =>
    have parked : Pipe.mk state.ring (.running current) = state.pipe := by rw [← worker]; rfl
    exact ⟨parts, keeps.of_same ⟨parked, rfl, rfl⟩⟩
  | refused =>
    cases isOpen.symm.trans (Ring.write_refused answered).2
  | accepted count =>
    obtain ⟨count_eq, rfl, proper⟩ := Ring.write_accepted answered
    have fits : (chunk.take count).length ≤ state.ring.free := by
      rw [List.length_take]
      omega
    have reached : state.ring.taken ≤ parts.flatten.length :=
      keeps.carries.written ▸ keeps.carries.taken_le
    have stream : (parts ++ [chunk.take count]).flatten = parts.flatten ++ chunk.take count := by
      rw [List.flatten_append, List.flatten_singleton]
    have kept : Keeps script again
        { state with
          ring := state.ring.push (chunk.take count)
          writes := state.writes ++ [.ok (chunk.take count)]
          writer := .working (next (.ok count)) } (parts ++ [chunk.take count]) := by
      refine ⟨?_, ?_, ⟨isOpen, ?_⟩, ?_, keeps.stage.of_open isOpen _⟩
      · rw [List.map_append, ← keeps.writes]
        rfl
      · rw [stream]
        exact keeps.carries.push room fits
      · intro bytes ending later
        rw [stream, List.append_assoc]
        exact performs _ _ (goesOn count (by omega) (fun nonempty => (proper nonempty).1) _ _ later)
      · rw [stream]
        exact keeps.read.trans (List.take_append_of_le_length reached).symm
    simp only
    split
    · exact ⟨_, kept⟩
    · exact ⟨_, kept.of_same (sameWork_wakeAll _)⟩

/-- The end of the producer is that of what it was to do. -/
theorem Keeps.endWriter {ending : Ending} (keeps : Keeps script again state parts)
    (running : state.writer = .working current) (performs : current.Performs [] ending) :
    Keeps script again (state.endWriter ending) parts := by
  obtain ⟨-, isOpen, remains⟩ := keeps.working running
  have whole := remains _ _ performs
  rw [List.append_nil] at whole
  exact ⟨keeps.writes, keeps.carries.close, ⟨rfl, whole⟩, keeps.read, keeps.stage.of_open isOpen _⟩

/-- A producer that goes on without a write. -/
theorem Keeps.goesOn {next : Producer} (keeps : Keeps script again state parts)
    (running : state.writer = .working current)
    (later : ∀ bytes ending, next.Performs bytes ending → current.Performs bytes ending) :
    Keeps script again { state with writer := .working next } parts := by
  obtain ⟨-, isOpen, remains⟩ := keeps.working running
  exact ⟨keeps.writes, keeps.carries,
    ⟨isOpen, fun bytes ending performs => remains _ _ (later _ _ performs)⟩, keeps.read,
    keeps.stage.of_open isOpen _⟩

theorem Keeps.writerStep (keeps : Keeps script again state parts)
    (made : state.writerStep? = some after) : ∃ parts, Keeps script again after parts := by
  unfold writerStep? at made
  split at made
  · cases made
  · cases made
  · rename_i current running
    cases current with
    | finish result =>
      cases made
      exact ⟨parts, keeps.endWriter running (.finish result)⟩
    | panic cause =>
      cases made
      exact ⟨parts, keeps.endWriter running (.panic cause)⟩
    | flush next =>
      cases made
      exact ⟨parts, keeps.goesOn running fun _ _ later => .flush later⟩
    | write chunk next =>
      cases made
      exact keeps.writeOnce running fun count most proper _ _ later => .write most proper later
    | writeAll chunk next =>
      simp only [Option.some.injEq] at made
      split at made
      · rename_i nothing
        subst made nothing
        exact ⟨parts, keeps.goesOn running fun _ _ later => .writeAll [] later⟩
      · subst made
        exact keeps.writeOnce running fun count most _ _ _ later =>
          Producer.performs_afterPart most later

/-! ### The reading thread -/

/-- A read has the thread wait, or hands it the next bytes that were written. -/
theorem Keeps.readOnce (keeps : Keeps script again state parts) (most : Nat)
    {take : Threads → Bytes → Threads}
    (taking : ∀ ring bytes, ring.Carries parts.flatten → ring.isOpen = state.ring.isOpen →
      parts.flatten.take ring.taken = parts.flatten.take state.ring.taken ++ bytes →
      (0 < most → bytes = [] → ring.Exhausted) →
      Keeps script again (take { state with ring } bytes) parts) :
    Keeps script again (state.readOnce most take) parts := by
  have room := Pipe.blockSize_pos
  have carries : state.ring.Carries parts.flatten := keeps.carries
  rcases answered : state.ring.read most with ⟨reply, ring⟩
  unfold Threads.readOnce
  rw [answered]
  cases reply with
  | waits => exact keeps.of_same ⟨rfl, rfl, rfl⟩
  | got bytes =>
    obtain ⟨rfl, rfl, closing⟩ := Ring.read_got answered
    have enough := Nat.min_le_left state.ring.available most
    have taken : parts.flatten.take (state.ring.taken + min state.ring.available most) =
        parts.flatten.take state.ring.taken ++
          state.ring.front (min state.ring.available most) := by
      rw [carries.front_eq room enough, List.take_add]
    have kept := taking _ _ (carries.take enough) rfl taken (by
      intro asked nothing
      have none := Ring.eq_zero_of_front room _ nothing
      have exhausted : state.ring.available = 0 := by omega
      refine ⟨?_, closing asked exhausted⟩
      rw [none]
      exact exhausted)
    simp only
    split
    · exact kept
    · exact kept.of_same (sameWork_wakeAll _)

/-- The thread reads as long as the pipe is attached, before anything is drained. -/
theorem Keeps.asking {most : Nat} {rest : List Demand} (keeps : Keeps script again state parts)
    (task : state.reader.task = .meeting) (asked : state.demands = .read most :: rest) :
    state.isAttached = true ∧ state.drained = [] ∧ state.finishes = [] ∧
      ∃ sizes : List Nat, rest = sizes.map .read ++ .finish :: .replicate again .finish := by
  have stage := keeps.stage
  simp only [Reading.Stage, reading, task, asked] at stage
  cases isAttached : state.isAttached with
  | true =>
    simp only [isAttached] at stage
    obtain ⟨drained, finishes, sizes, demands⟩ := stage
    cases sizes with
    | nil => cases demands
    | cons size sizes =>
      cases demands
      exact ⟨rfl, drained, finishes, sizes, rfl⟩
  | false =>
    -- Once the pipe is closed only demands to finish are left.
    simp only [isAttached] at stage
    obtain ⟨-, -, -, left, -, -, demands, -⟩ := stage
    cases left <;> cases demands

theorem Keeps.reads {most : Nat} {rest : List Demand} (keeps : Keeps script again state parts)
    (task : state.reader.task = .meeting) (asked : state.demands = .read most :: rest) :
    Keeps script again (state.readOnce most fun after bytes =>
      { after with reads := after.reads ++ [bytes], demands := rest }) parts := by
  obtain ⟨isAttached, drained, finishes, sizes, demands⟩ := keeps.asking task asked
  have read := keeps.read
  apply keeps.readOnce most
  intro ring bytes carries same taken _
  refine ⟨keeps.writes, carries, same ▸ keeps.stands, ?_, ?_⟩
  · simpa [reading, drained, taken, pipe] using read
  · simp only [Reading.Stage, reading, isAttached, task]
    exact ⟨drained, finishes, sizes, demands⟩

/-- A thread that drains has closed the pipe and has not been answered yet. -/
theorem Keeps.draining (keeps : Keeps script again state parts)
    (task : state.reader.task = .draining) :
    state.isAttached = false ∧ state.finishes = [] ∧
      state.demands = .finish :: .replicate again .finish := by
  have stage := keeps.stage
  simp only [Reading.Stage, reading, task] at stage
  cases isAttached : state.isAttached with
  | true => simp [isAttached] at stage
  | false =>
    rw [isAttached] at stage
    exact ⟨rfl, stage⟩

theorem Keeps.drains (keeps : Keeps script again state parts)
    (task : state.reader.task = .draining) :
    Keeps script again (state.readOnce drainSize Threads.drain) parts := by
  obtain ⟨isAttached, finishes, demands⟩ := keeps.draining task
  have read := keeps.read
  apply keeps.readOnce drainSize
  intro ring bytes carries same taken ended
  unfold Threads.drain
  split
  · rename_i nothing
    subst nothing
    refine ⟨keeps.writes, carries, same ▸ keeps.stands, ?_, ?_⟩
    · simpa [reading, pipe, taken] using read
    · simp only [Reading.Stage, reading, isAttached]
      exact ⟨ended (by decide) rfl, finishes, demands⟩
  · refine ⟨keeps.writes, carries, same ▸ keeps.stands, ?_, ?_⟩
    · simp only [reading, pipe, taken]
      rw [← List.append_assoc]
      exact congrArg (· ++ bytes) read
    · simp only [Reading.Stage, reading, isAttached, task]
      exact ⟨finishes, demands⟩

theorem worker_of_ending? {ending : Ending} (ended : state.writer.ending? = some ending) :
    state.pipe.worker = .ended ending := by
  cases running : state.writer with
  | working script | parked script => simp [running, WriterThread.ending?] at ended
  | ended last =>
    simp only [running, WriterThread.ending?, Option.some.injEq] at ended
    simp [pipe, running, WriterThread.worker, ended]

theorem Keeps.readerStep (keeps : Keeps script again state parts)
    (made : ReaderMove state after) : Keeps script again after parts := by
  obtain ⟨writes, carries, stands, read, stage⟩ := id keeps
  simp only [Reading.Stage, reading] at stage
  cases made with
  | read task asked => exact keeps.reads task asked
  | finish task asked isAttached =>
    simp only [isAttached, task, asked] at stage
    obtain ⟨-, finishes, sizes, demands⟩ := stage
    cases sizes with
    | nil => exact ⟨writes, carries, stands, read, finishes, asked.trans demands⟩
    | cons size sizes => cases demands
  | again task asked isAttached =>
    simp only [isAttached, task, asked] at stage
    obtain ⟨exhausted, ending, met, left, ended, finishes, demands, total⟩ := stage
    cases left with
    | zero => cases demands
    | succ left =>
      cases demands
      refine ⟨writes, carries, stands, read, ?_⟩
      simp only [Reading.Stage, reading, isAttached, task]
      refine ⟨exhausted, ending, met + 1, left, ended, ?_, rfl, by omega⟩
      rw [finishes, List.replicate_succ', List.cons_append]
  | drain task => exact keeps.drains task
  | @join demand rest ending task asked ended =>
    cases isAttached : state.isAttached with
    | true => simp [isAttached, task] at stage
    | false =>
      simp only [isAttached, task, asked] at stage
      obtain ⟨exhausted, finishes, demands⟩ := stage
      cases demands
      refine ⟨writes, carries, stands, read, exhausted, ending, 0, again,
        worker_of_ending? ended, ?_, rfl, by omega⟩
      simp [finishes, reading]

/-- Whatever happens to the threads of a pipe, all that was written is accounted for. -/
theorem exists_keeps {sizes : List Nat}
    (happened : Relation.ReflTransGen Happens
      (start script (sizes.map .read ++ .finish :: .replicate again .finish)) state) :
    ∃ parts, Keeps script again state parts := by
  induction happened with
  | refl => exact ⟨[], keeps_start script sizes again⟩
  | @tail state after before last ih =>
    obtain ⟨parts, keeps⟩ := ih
    cases last with
    | step made =>
      cases made with
      | writer made => exact keeps.writerStep made
      | reader made => exact ⟨parts, keeps.readerStep (readerMove_of_step made)⟩
    | wakesWriter =>
      refine ⟨parts, keeps.of_same ⟨?_, rfl, rfl⟩⟩
      rw [pipe, WriterThread.worker_wake]
      rfl
    | wakesReader => exact ⟨parts, keeps.of_same ⟨rfl, rfl, rfl⟩⟩

/-! ### The pipe once it is closed -/

/-- The answer to closing a pipe whose producer ended so. -/
structure Reports (ending : Ending) (report : Option IoFault) : Prop where
  succeeded : report = none ↔ ending = .ok ()
  failed : ∀ fault, ending = .error (.failed fault) → report = some fault
  panicked : ∀ cause, ending = .error (.panicked cause) →
    report = some (.ofMessage .other "body producer panicked")

theorem reports_failureOf (ending : Ending) : Reports ending (Pipe.failureOf ending) := by
  constructor
  · rcases ending with (fault | cause) | ⟨⟩ <;> simp [Pipe.failureOf]
  · rintro fault rfl
    rfl
  · rintro cause rfl
    rfl

/-- A pipe that was closed: its producer came to its own end, and all that it wrote was read or
drained. To finish again only adds one more answer that nothing failed. -/
structure Closed (script : Producer) (state : Threads) (written : Bytes) (ending : Ending)
    (report : Option IoFault) : Prop where
  ended : state.writer = .ended ending
  performed : script.Performs written ending
  whole : state.reads.flatten ++ state.drained = written
  answers : ∃ met, state.finishes = report :: .replicate met none
  reports : Reports ending report
  joined : state.joins = 1
  idle : ∀ after, state.readerStep? = some after →
    after = { state with
      finishes := state.finishes ++ [none]
      demands := state.demands.tail }

theorem Keeps.closed (keeps : Keeps script again state parts) (live : state.Live)
    (answered : state.finishes ≠ []) :
    ∃ ending report, Closed script state parts.flatten ending report := by
  obtain ⟨-, carries, stands, read, stage⟩ := keeps
  have finishing := live.finishing
  simp only [Reading.Stage, reading] at stage
  simp only [Finishing] at finishing
  split at stage
  · exact absurd stage.2.1 answered
  · cases stage
  · exact absurd stage.1 answered
  · exact absurd stage.2.1 answered
  · rename_i isAttached task
    obtain ⟨⟨empty, -⟩, ending, met, left, worker, finishes, demands, -⟩ := stage
    simp only [isAttached, task] at finishing
    have ended : state.writer = .ended ending := by
      cases running : state.writer <;>
        simp_all [pipe, WriterThread.worker]
    refine ⟨ending, Pipe.failureOf ending, ended, ?_, ?_, ⟨met, finishes⟩,
      reports_failureOf ending, finishing.1, ?_⟩
    · rw [worker] at stands
      exact stands.2
    · have written := carries.written
      have reached : parts.flatten.length ≤ state.pipe.ring.taken := by
        unfold Ring.available at empty
        omega
      rw [List.take_of_length_le reached] at read
      exact read
    · intro after made
      cases readerMove_of_step made with
      | again _ asked _ => rw [asked]; rfl
      | read _ asked =>
        rw [asked] at demands
        cases left <;> cases demands
      | finish _ _ attached => cases isAttached.symm.trans attached
      | drain draining => cases task.symm.trans draining
      | join joining => cases task.symm.trans joining

theorem Keeps.length_finishes (keeps : Keeps script again state parts) (done : state.IsDone) :
    state.finishes.length = again + 1 := by
  have stage := keeps.stage
  simp only [Reading.Stage, reading, done.2] at stage
  split at stage
  · obtain ⟨-, -, sizes, demands⟩ := stage
    cases sizes <;> cases demands
  · cases stage
  · cases stage.2
  · cases stage.2.2
  · obtain ⟨-, ending, met, left, -, finishes, demands, total⟩ := stage
    cases left with
    | zero =>
      rw [finishes, List.length_cons, List.length_replicate]
      exact congrArg (· + 1) total
    | succ left => cases demands

/-- The outcome of a producer is never lost, however little was read of what it writes before the
pipe is closed. Whatever happens to the two threads, every write of the producer succeeds and what
was read is the front of what it wrote; and once the pipe is closed it came to its own end, all that
it wrote was read or drained, and closing answered how it ended. -/
theorem closing_hears_out {sizes : List Nat}
    (happened : Relation.ReflTransGen Happens
      (start script (sizes.map .read ++ .finish :: .replicate again .finish)) state) :
    ∃ parts : List Bytes, state.writes = parts.map .ok ∧ state.reads.flatten <+: parts.flatten ∧
      (state.finishes ≠ [] → ∃ ending report, Closed script state parts.flatten ending report) ∧
      (state.IsDone → state.finishes.length = again + 1) := by
  have live : state.Live := (Live.start script (by simp)).happens happened
  obtain ⟨parts, keeps⟩ := exists_keeps happened
  refine ⟨parts, keeps.writes, ?_, keeps.closed live, keeps.length_finishes⟩
  have handed : state.reads.flatten <+: parts.flatten.take state.pipe.ring.taken :=
    ⟨_, keeps.read⟩
  exact handed.trans (List.take_prefix _ _)

/-- The threads of a pipe can always come to the end of what they have to do. -/
theorem Live.exists_done (live : state.Live) :
    ∃ after, Relation.ReflTransGen Happens state after ∧ after.IsDone := by
  induction state using nearer_wellFounded.induction with
  | _ state ih =>
    by_cases done : state.IsDone
    · exact ⟨state, .refl, done⟩
    · obtain ⟨next, made⟩ := live.exists_step done
      obtain ⟨after, happened, done⟩ := ih next (nearer_of_step made) (live.step made)
      exact ⟨after, .head (.step made) happened, done⟩

/-- A producer of one byte that panics then. -/
def breakingOff : Producer := .writeAll [7] fun _ => .panic .foreign

/-- A pipe that is closed before anything was read answers that its producer panicked, once. -/
theorem breakingOff_reported :
    ∃ state, Relation.ReflTransGen Happens (start breakingOff [.finish, .finish]) state ∧
      state.reads.flatten ++ state.drained = [7] ∧
      state.finishes = [some (.ofMessage .other "body producer panicked"), none] := by
  have live : (start breakingOff [.finish, .finish]).Live := Live.start _ (by simp)
  obtain ⟨state, happened, done⟩ := live.exists_done
  have closing : Relation.ReflTransGen Happens
      (start breakingOff (([] : List Nat).map .read ++ .finish :: .replicate 1 .finish)) state :=
    happened
  obtain ⟨parts, -, -, closed, answered⟩ := closing_hears_out closing
  have two := answered done
  obtain ⟨ending, report, closed⟩ := closed (List.ne_nil_of_length_eq_add_one two)
  obtain ⟨met, finishes⟩ := closed.answers
  rw [finishes, List.length_cons, List.length_replicate, Nat.add_right_cancel_iff] at two
  have whole := closed.whole
  generalize parts.flatten = written at closed whole
  cases closed.performed with
  | writeAll chunk later =>
    cases later
    refine ⟨state, happened, whole, ?_⟩
    rw [finishes, two, closed.reports.panicked _ rfl]
    rfl

end Threads

end HttpDispatch.Flow
