import HttpDispatch.Proofs.Body.Consumption
import HttpDispatch.Proofs.Flow.Scheduling

/-!
Streaming a body against reading it. However a producer and the thread that reads from it take their
steps, the frames that are sent on are what reading gives, and the failure after them is the one
that reading and closing report. Two things are not sent on: a panic of a reader, after which the
frames just end, and what a reader would have given after an interruption.
-/

namespace HttpDispatch

open HttpDispatch.Flow

namespace Source

/-- What bytes a source may deliver, and which failure may be reported after them. What a producer
delivers is what some sink takes of its writes, and for a producer to panic is to fail. For a reader
it is not. -/
def Delivers (payload : Bytes) (failure : Option IoFault) : Source → Prop
  | .empty => payload = [] ∧ failure = none
  | .once bytes _ => payload = bytes ∧ failure = none
  | .reader (.error stop) => payload = [] ∧ failure = stop.fault?
  | .reader (.ok supply) => payload = supply.payload ∧ failure = supply.failure?
  | .producer script => ∃ ending, script.Performs payload ending ∧
      failure = Pipe.failureOf ending

/-- The source has the same bytes whoever reads it: a producer goes on from wherever its sink left
it. -/
def Fixed : Source → Prop
  | .producer script => ∃ payload ending, script.Pushes payload ending
  | .empty | .once _ _ | .reader _ => True

/-- Opening or reading the supply of a source panics. -/
def Crashes (cause : PanicPayload) : Source → Prop
  | .reader (.error stop) => stop = .panicked cause
  | .reader (.ok supply) => supply.stop? = some (.panicked cause)
  | .empty | .once _ _ | .producer _ => False

/-- What panics delivers no failure. -/
theorem Crashes.failure_eq {source : Source} {cause : PanicPayload} (crashes : source.Crashes cause)
    {payload : Bytes} {failure : Option IoFault} (delivers : source.Delivers payload failure) :
    failure = none := by
  match source with
  | .reader (.error stop) =>
    rw [delivers.2, show stop = .panicked cause from crashes]
    rfl
  | .reader (.ok supply) =>
    rw [delivers.2, Supply.failure?, show supply.stop? = _ from crashes]
    rfl

/-- What a fixed source delivers does not depend on the run. -/
theorem Fixed.unique {source : Source} (isFixed : source.Fixed) {payload other : Bytes}
    {failure otherFailure : Option IoFault} (delivers : source.Delivers payload failure)
    (also : source.Delivers other otherFailure) : payload = other ∧ failure = otherFailure := by
  match source with
  | .empty | .once _ _ | .reader (.error _) | .reader (.ok _) =>
    exact ⟨delivers.1.trans also.1.symm, delivers.2.trans also.2.symm⟩
  | .producer script =>
    obtain ⟨pushed, outcome, pushes⟩ := isFixed
    obtain ⟨ending, performs, rfl⟩ := delivers
    obtain ⟨otherEnding, performsToo, rfl⟩ := also
    obtain ⟨rfl, rfl⟩ := pushes.of_performs performs
    obtain ⟨rfl, rfl⟩ := pushes.of_performs performsToo
    exact ⟨rfl, rfl⟩

end Source

namespace Report

/-- Opening or reading panicked. -/
def Panics (report : Report) (cause : PanicPayload) : Prop :=
  report.opening.or report.reading = some (.panicked cause)

/-- Something went wrong, be it a panic. -/
def Troubled (report : Report) : Prop :=
  report.opening.isSome ∨ report.reading.isSome ∨ report.closing.isSome

/-- What goes wrong is reported as a failure, unless it is a panic. -/
theorem troubled_iff {report : Report} (calm : ∀ cause, ¬ report.Panics cause) :
    report.Troubled ↔ report.failure?.isSome := by
  obtain ⟨opening, reading, closing⟩ := report
  rcases opening with _ | fault | cause
  · rcases reading with _ | fault | cause
    · simp [Troubled, failure?]
    · simp [Troubled, failure?, Stop.fault?]
    · exact absurd rfl (calm cause)
  · simp [Troubled, failure?, Stop.fault?]
  · exact absurd rfl (calm cause)

end Report

namespace Body

/-- Reading a body with some buffers until nothing more comes or a read fails or panics, and closing
it then, may come to these bytes and this report. A producer's thread and the reading one take their
steps in any order. -/
inductive Reads (body : Body) : Bytes → Report → Prop where
  | alone {sizes : List Nat} {bytes : Bytes} {report : Report} (unpushed : body.isPushed = false)
      (asked : ∀ most ∈ sizes, 0 < most) (came : body.readThrough sizes = some (bytes, report)) :
      Reads body bytes report
  | together {script : Producer} {sizes : List Nat} {pieces : List Bytes} {state : Threads}
      {closing : Option IoFault} (pushed : body.source = .producer script)
      (out : Threads.ReadOut script sizes pieces state) (finishes : state.finishes = [closing]) :
      Reads body pieces.flatten ⟨none, none, closing⟩

/-- Streaming a body may send these frames and then this failure, if there is one. Of a producer
they are read in blocks, its thread and the reading one taking their steps in any order. -/
inductive Sends (body : Body) : List Bytes → Option IoFault → Prop where
  | alone {frames : List Bytes} {failure : Option IoFault} (unpushed : body.isPushed = false)
      (items : body.toChannel.items = frames.map .ok ++ failure.toList.map .error) :
      Sends body frames failure
  | together {script : Producer} {count : Nat} {frames : List Bytes} {state : Threads}
      {failure : Option IoFault} (pushed : body.source = .producer script)
      (out : Threads.ReadOut script (List.replicate count blockSize) frames state)
      (finishes : state.finishes = [failure]) : Sends body frames failure

variable {body : Body} {bytes payload : Bytes} {report : Report} {frames : List Bytes}
variable {failure : Option IoFault}

/-! ### What is delivered -/

/-- A body that is not pushed gives what its source says, whoever takes it. -/
theorem exists_gives (unpushed : body.isPushed = false) :
    ∃ payload report, body.Gives payload report ∧
      body.source.Delivers payload report.failure? ∧
      ∀ cause, report.Panics cause ↔ body.source.Crashes cause := by
  obtain ⟨source, size, mime⟩ := body
  match source with
  | .empty | .once _ _ =>
    refine ⟨_, ⟨none, none, none⟩, ⟨rfl, rfl, rfl, rfl⟩, ⟨rfl, rfl⟩, fun cause => ?_⟩
    simp [Report.Panics, Source.Crashes]
  | .reader (.error stop) =>
    refine ⟨[], ⟨some stop, none, none⟩, ⟨rfl, rfl⟩, ⟨rfl, ?_⟩, fun cause => ?_⟩
    · simp [Report.failure?]
    · simp [Report.Panics, Source.Crashes]
  | .reader (.ok supply) =>
    refine ⟨supply.payload, ⟨none, supply.stop?, none⟩, ⟨rfl, rfl, rfl, rfl⟩, ⟨rfl, ?_⟩, ?_⟩
    · simp [Report.failure?, Supply.failure?]
    · intro cause
      rw [Report.Panics, Option.none_or, Source.Crashes]
  | .producer script => cases unpushed

theorem Reads.delivers (reads : body.Reads bytes report) :
    body.source.Delivers bytes report.failure? ∧ report.failures = report.failure?.toList := by
  cases reads with
  | alone unpushed asked came =>
    obtain ⟨payload, given, gives, delivers, -⟩ := exists_gives unpushed
    obtain ⟨rfl, rfl⟩ := Prod.mk.inj (gives.readThrough_eq asked came)
    exact ⟨delivers, gives.failures_eq⟩
  | together pushed out finishes =>
    obtain ⟨parts, ending, -, whole, performs, ended⟩ := out.heard
    cases finishes.symm.trans ended
    refine ⟨?_, rfl⟩
    rw [pushed]
    exact ⟨ending, whole ▸ performs, rfl⟩

theorem Reads.panics_iff (reads : body.Reads bytes report) (cause : PanicPayload) :
    report.Panics cause ↔ body.source.Crashes cause := by
  cases reads with
  | alone unpushed asked came =>
    obtain ⟨payload, given, gives, -, panics⟩ := exists_gives unpushed
    obtain ⟨rfl, rfl⟩ := Prod.mk.inj (gives.readThrough_eq asked came)
    exact panics cause
  | together pushed out finishes =>
    rw [pushed]
    simp [Report.Panics, Source.Crashes]

/-- Items tell the frames from the failure. -/
theorem items_inj {other : List Bytes} {otherFailure : Option IoFault}
    (same : frames.map Except.ok ++ failure.toList.map Except.error =
      other.map Except.ok ++ otherFailure.toList.map Except.error) :
    frames = other ∧ failure = otherFailure := by
  induction frames generalizing other with
  | nil => cases other <;> cases failure <;> cases otherFailure <;> simp_all
  | cons frame frames ih =>
    cases other with
    | nil => cases otherFailure <;> simp at same
    | cons first other =>
      simp only [List.map_cons, List.cons_append, List.cons.injEq, Except.ok.injEq] at same
      obtain ⟨rfl, rfl⟩ := ih same.2
      exact ⟨by rw [same.1], rfl⟩

/-- What is sent of a body that is not pushed. -/
theorem Gives.of_items (gives : body.Gives payload report)
    (items : body.toChannel.items = frames.map .ok ++ failure.toList.map .error) :
    frames.flatten = payload ∧ failure = report.failure? ∧ ∀ frame ∈ frames, frame ≠ [] := by
  obtain ⟨given, proper, whole, same⟩ := gives.items_toChannel
  obtain ⟨rfl, rfl⟩ := items_inj (items.symm.trans same)
  exact ⟨whole, rfl, proper⟩

theorem Sends.delivers (sends : body.Sends frames failure) :
    body.source.Delivers frames.flatten failure ∧ ∀ frame ∈ frames, frame ≠ [] := by
  cases sends with
  | alone unpushed items =>
    obtain ⟨payload, report, gives, delivers, -⟩ := exists_gives unpushed
    obtain ⟨rfl, rfl, proper⟩ := gives.of_items items
    exact ⟨delivers, proper⟩
  | together pushed out finishes =>
    obtain ⟨parts, ending, -, whole, performs, ended⟩ := out.heard
    cases finishes.symm.trans ended
    refine ⟨?_, out.proper⟩
    rw [pushed]
    exact ⟨ending, whole ▸ performs, rfl⟩

/-- What streaming sends, some reading of the body gives too. -/
theorem Sends.exists_reads (sends : body.Sends frames failure) :
    ∃ report, body.Reads frames.flatten report ∧ report.failures = failure.toList := by
  cases sends with
  | alone unpushed items =>
    obtain ⟨payload, report, gives, -, -⟩ := exists_gives unpushed
    obtain ⟨rfl, rfl, -⟩ := gives.of_items items
    have asked : ∀ most ∈ List.replicate (frames.flatten.length + 1) 1, 0 < most := by
      intro most member
      rw [List.eq_of_mem_replicate member]
      exact Nat.one_pos
    have ends := gives.isSome_readThrough asked (by simp)
    obtain ⟨came, read⟩ := Option.isSome_iff_exists.mp ends
    rw [gives.readThrough_eq asked read] at read
    exact ⟨report, .alone unpushed asked read, gives.failures_eq⟩
  | together pushed out finishes =>
    exact ⟨⟨none, none, failure⟩, .together pushed out finishes, rfl⟩

/-- What the channel of a body is polled for is what streaming the body can send. -/
theorem exists_sends (body : Body) :
    ∃ frames failure, body.Sends frames failure ∧
      body.toChannel.items = frames.map .ok ++ failure.toList.map .error := by
  cases pushed : body.isPushed with
  | false =>
    obtain ⟨payload, report, gives, -, -⟩ := exists_gives pushed
    obtain ⟨frames, -, -, items⟩ := gives.items_toChannel
    exact ⟨frames, report.failure?, .alone pushed items, items⟩
  | true =>
    obtain ⟨source, size, mime⟩ := body
    match source with
    | .producer script =>
      obtain ⟨count, state, out, finishes⟩ := Threads.exists_readOut script
      exact ⟨_, _, .together rfl out finishes, rfl⟩

/-- What is sent begins what reading again after every interruption gives, and is all of it unless
an interruption is what ended it. -/
theorem Sends.prefix_readToEnd (sends : body.Sends frames failure)
    (unpushed : body.isPushed = false) {opened : BodyReader} (isOpen : body.open = .ok opened) :
    frames.flatten <+: opened.readToEnd.1.bytes ∧
      ((∀ fault, failure = some fault → fault.kind ≠ .interrupted) →
        opened.readToEnd.1.bytes = frames.flatten ∧
          opened.readToEnd.1.stop.bind Stop.fault? = failure) := by
  obtain ⟨delivers, -⟩ := sends.delivers
  obtain ⟨source, size, mime⟩ := body
  match source with
  | .empty | .once _ _ =>
    obtain rfl := Except.ok.inj isOpen
    rw [BodyReader.readToEnd_buffered, delivers.1, delivers.2]
    exact ⟨List.prefix_rfl, fun _ => ⟨rfl, rfl⟩⟩
  | .reader (.ok supply) =>
    obtain rfl := Except.ok.inj isOpen
    rw [BodyReader.readToEnd_stream, delivers.1]
    refine ⟨supply.payload_uninterrupted, fun lasting => ?_⟩
    have steady : supply.Steady := by
      rintro (fault | cause) met
      · have heard : failure = some fault := by rw [delivers.2, Supply.failure?, met]; rfl
        simpa [Stop.isInterruption] using lasting fault heard
      · rfl
    obtain ⟨same, ended⟩ := steady.uninterrupted
    exact ⟨same, by rw [ended, delivers.2]; rfl⟩
  | .reader (.error stop) => cases isOpen
  | .producer script => cases unpushed

/-- What streaming a body sends, held against reading it. -/
structure SentAsRead (body : Body) (frames : List Bytes) (failure : Option IoFault) : Prop where
  proper : ∀ frame ∈ frames, frame ≠ []
  delivers : body.source.Delivers frames.flatten failure
  /-- A reading of the body gives these bytes and this failure. -/
  readable : ∃ report, body.Reads frames.flatten report ∧ report.failures = failure.toList
  /-- So does every other one, unless a producer looks at how much of its writes is taken. -/
  read : body.source.Fixed → ∀ bytes report, body.Reads bytes report →
    bytes = frames.flatten ∧ report.failures = failure.toList
  /-- If nothing can panic but a producer, all that goes wrong is sent. -/
  told : body.source.Fixed → (∀ cause, ¬ body.source.Crashes cause) →
    ∀ bytes report, body.Reads bytes report → (report.Troubled ↔ failure.isSome)
  /-- A panic of a reader is not. -/
  untold : ∀ cause, body.source.Crashes cause →
    failure = none ∧ ∀ bytes report, body.Reads bytes report → report.Panics cause
  /-- An interruption is sent as a failure, and ends what is sent. -/
  interrupted : body.isPushed = false → ∀ opened, body.open = .ok opened →
    frames.flatten <+: opened.readToEnd.1.bytes ∧
      ((∀ fault, failure = some fault → fault.kind ≠ .interrupted) →
        opened.readToEnd.1.bytes = frames.flatten ∧
          opened.readToEnd.1.stop.bind Stop.fault? = failure)

theorem Sends.sentAsRead (sends : body.Sends frames failure) : body.SentAsRead frames failure := by
  obtain ⟨delivers, proper⟩ := sends.delivers
  have read (isFixed : body.source.Fixed) {bytes : Bytes} {report : Report}
      (reads : body.Reads bytes report) : bytes = frames.flatten ∧ report.failure? = failure :=
    isFixed.unique reads.delivers.1 delivers
  refine ⟨proper, delivers, sends.exists_reads, ?_, ?_, ?_, ?_⟩
  · intro isFixed bytes report reads
    obtain ⟨whole, met⟩ := read isFixed reads
    exact ⟨whole, met ▸ reads.delivers.2⟩
  · intro isFixed calm bytes report reads
    have unpanicked : ∀ cause, ¬ report.Panics cause := by
      intro cause panics
      exact calm cause ((reads.panics_iff cause).mp panics)
    rw [Report.troubled_iff unpanicked, (read isFixed reads).2]
  · intro cause crashes
    exact ⟨crashes.failure_eq delivers, fun _ _ reads => (reads.panics_iff cause).mpr crashes⟩
  · intro unpushed opened isOpen
    exact sends.prefix_readToEnd unpushed isOpen

end Body

end HttpDispatch
