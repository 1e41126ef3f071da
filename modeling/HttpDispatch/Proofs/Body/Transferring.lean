import HttpDispatch.Proofs.Body.Consumption
import HttpDispatch.Proofs.Flow.Calling
import HttpDispatch.Proofs.Flow.Supplying

/-!
Writing a body to a sink. However the sink answers, what is reported is what it took: a success
counts the bytes that it took, which are all those of the source, and a failure is that of the
source or of the last call, after some of them. A panic is one of the source.
-/

namespace HttpDispatch

open HttpDispatch.Flow

namespace Source

/-- The bytes that a source produces. What a producer produces is what is taken of its writes. -/
def produced (calls : List Sink.Call) : Source → Bytes
  | .empty | .reader (.error _) => []
  | .once bytes _ => bytes
  | .reader (.ok supply) => supply.uninterrupted.payload
  | .producer _ => Sink.accepted calls

/-- With these calls everything that a source produces is written. -/
def Completes (calls : List Sink.Call) : Source → Prop
  | .empty => calls = []
  | .once bytes _ => Sink.GoesOn calls ∧ Sink.accepted calls = bytes
  | .reader (.error _) => False
  | .reader (.ok supply) => Sink.GoesOn calls ∧
      Sink.accepted calls = supply.uninterrupted.payload ∧ supply.uninterrupted.stop? = none
  | .producer script => script.Talks calls (.ok ())

/-- Why writing what a source produces fails with these calls. -/
inductive Raises (fault : IoFault) : Source → List Sink.Call → Prop where
  /-- The supply cannot be opened. -/
  | opening : Raises fault (.reader (.error (.failed fault))) []
  /-- A read fails, other than by an interruption, after all that came before it was written. -/
  | reading {supply : Supply} (goes : Sink.GoesOn calls)
    (whole : Sink.accepted calls = supply.uninterrupted.payload)
    (met : supply.uninterrupted.stop? = some (.failed fault)) :
    Raises fault (.reader (.ok supply)) calls
  /-- A write fails, other than by an interruption. -/
  | copying {supply : Supply} (front : Sink.accepted calls <+: supply.uninterrupted.payload)
    (ends : Sink.Ends calls fault) : Raises fault (.reader (.ok supply)) calls
  | storing {nonempty : bytes ≠ []} (front : Sink.accepted calls <+: bytes)
    (ends : Sink.Ends calls fault) : Raises fault (.once bytes nonempty) calls
  /-- The producer returns the failure. -/
  | producing {script : Producer} (talks : script.Talks calls (.error (.failed fault))) :
    Raises fault (.producer script) calls
  /-- Everything is written, and then flushing fails. -/
  | flushing {source : Source} (completes : source.Completes calls) :
    Raises fault source (calls ++ [.flush (.error fault)])

/-- Why writing what a source produces panics after these calls. -/
inductive Panics (cause : PanicPayload) : Source → List Sink.Call → Prop where
  /-- Opening the supply panics. -/
  | opening : Panics cause (.reader (.error (.panicked cause))) []
  /-- A read panics, after all that came before it was written. -/
  | reading {supply : Supply} (goes : Sink.GoesOn calls)
    (whole : Sink.accepted calls = supply.uninterrupted.payload)
    (met : supply.uninterrupted.stop? = some (.panicked cause)) :
    Panics cause (.reader (.ok supply)) calls
  | producing {script : Producer} (talks : script.Talks calls (.error (.panicked cause))) :
    Panics cause (.producer script) calls

theorem accepted_flush (calls : List Sink.Call) (answer : Except IoFault Unit) :
    Sink.accepted (calls ++ [.flush answer]) = Sink.accepted calls := by
  rw [Sink.accepted_append]
  exact List.append_nil _

theorem produced_flush (source : Source) (calls : List Sink.Call) (answer : Except IoFault Unit) :
    source.produced (calls ++ [.flush answer]) = source.produced calls := by
  match source with
  | .empty | .once _ _ | .reader (.error _) | .reader (.ok _) => rfl
  | .producer script => exact accepted_flush calls answer

theorem Completes.produced {source : Source} {calls : List Sink.Call}
    (completes : source.Completes calls) : Sink.accepted calls = source.produced calls := by
  match source with
  | .empty => rw [show calls = [] from completes]; rfl
  | .once bytes nonempty => exact completes.2
  | .reader (.ok supply) => exact completes.2.1
  | .producer script => rfl

theorem Completes.produced_flush {source : Source} {calls : List Sink.Call}
    (completes : source.Completes calls) (answer : Except IoFault Unit) :
    Sink.accepted (calls ++ [.flush answer]) = source.produced (calls ++ [.flush answer]) := by
  rw [accepted_flush, source.produced_flush, completes.produced]

/-- What was taken before a failure is the front of what the source produces. -/
theorem Raises.front {source : Source} {calls : List Sink.Call} {fault : IoFault}
    (raises : source.Raises fault calls) : Sink.accepted calls <+: source.produced calls := by
  cases raises with
  | opening => exact List.prefix_rfl
  | reading goes whole met => exact ⟨[], (List.append_nil _).trans whole⟩
  | copying front ends => exact front
  | storing front ends => exact front
  | producing talks => exact List.prefix_rfl
  | flushing completes =>
    exact ⟨[], (List.append_nil _).trans (completes.produced_flush _)⟩

/-- What writing what a source produces comes to, before the sink is flushed. -/
def Ended (source : Source) (calls : List Sink.Call) : Body.Delivered → Prop
  | .ok count => source.Completes calls ∧ (Sink.accepted calls).length = count
  | .error (.failed fault) => source.Raises fault calls
  | .error (.panicked cause) => source.Panics cause calls

/-- What writing a body comes to. A success means that everything the source produces was taken
and that the sink was flushed last; a failure is that of the source or of the call that ended the
writing, and the front of what the source produces was taken. The sink cannot panic. -/
def Reports (source : Source) (calls : List Sink.Call) : Body.Delivered → Prop
  | .ok count => ∃ made, calls = made ++ [.flush (.ok ())] ∧ source.Completes made ∧
      Sink.accepted calls = source.produced calls ∧ (Sink.accepted calls).length = count
  | .error (.failed fault) => source.Raises fault calls ∧
      Sink.accepted calls <+: source.produced calls
  | .error (.panicked cause) => source.Panics cause calls

end Source

namespace Body

variable {σ : Type} (sink : Sink σ) (state : σ)

/-- What is read of a supply is written block by block, up to the first call that fails. -/
theorem copy_logged (supply : Supply) :
    ∃ calls, Sink.Logs calls [] (copy sink.logged (state, []) supply) (copy sink state supply) ∧
      (Source.reader (.ok supply)).Ended calls (copy sink state supply).result := by
  obtain ⟨whole, stopped⟩ := supply.readAll_uninterrupted Pipe.blockSize_pos
  obtain ⟨calls, writes, watched⟩ :=
    sink.watches_logged.writeChunks (state, []) (supply.readAll blockSize true).blocks
  obtain ⟨result, after, loggedTaken, taken⟩ := watched.logs
  have front := writes.accepted
  have outcome := writes.outcome
  rw [whole, result] at front
  rw [result] at outcome
  refine ⟨calls, ⟨?_, after, loggedTaken, taken⟩, ?_⟩
  · simp only [copy, result]
  · simp only [copy, stopped, foldl_length, whole, Nat.zero_add]
    generalize (sink.writeChunks state (supply.readAll blockSize true).blocks).result = ended
      at front outcome
    -- A write that fails ends the copying before what stops a read is met.
    cases ended with
    | error fault => exact .copying front.1 outcome
    | ok =>
      rcases met : supply.uninterrupted.stop? with _ | fault | cause
      · exact ⟨⟨outcome, front.2 rfl, met⟩, congrArg List.length (front.2 rfl)⟩
      · exact .reading outcome (front.2 rfl) met
      · exact .reading outcome (front.2 rfl) met

/-- What a source produces is written with some calls, and these account for the result. -/
theorem transfer_logged (source : Source) :
    ∃ calls, Sink.Logs calls [] (transfer sink.logged (state, []) source)
        (transfer sink state source) ∧
      source.Ended calls (transfer sink state source).result := by
  match source with
  | .empty => exact ⟨[], ⟨rfl, rfl, rfl, rfl⟩, rfl, rfl⟩
  | .reader (.error (.failed fault)) => exact ⟨[], ⟨rfl, rfl, rfl, rfl⟩, .opening⟩
  | .reader (.error (.panicked cause)) => exact ⟨[], ⟨rfl, rfl, rfl, rfl⟩, .opening⟩
  | .reader (.ok supply) => exact copy_logged sink state supply
  | .once bytes nonempty =>
    obtain ⟨calls, writes, watched⟩ := sink.watches_logged.writeAll (state, []) bytes
    obtain ⟨result, after, loggedTaken, taken⟩ := watched.logs
    have front := writes.accepted
    have outcome := writes.outcome
    rw [result] at front outcome
    refine ⟨calls, ⟨?_, after, loggedTaken, taken⟩, ?_⟩
    · simp only [transfer, result]
    · simp only [transfer]
      generalize (sink.writeAll state bytes).result = ended at front outcome
      cases ended with
      | ok => exact ⟨⟨outcome, front.2 rfl⟩, congrArg List.length (front.2 rfl)⟩
      | error fault => exact .storing front.1 outcome
  | .producer script =>
    -- A producer writes to a sink that counts, so its calls are noted together with the count.
    obtain ⟨calls, talks, watched⟩ := sink.watches_counting_logged.run script ((state, []), 0)
    obtain ⟨result, taken, after, noted, accepted⟩ := watched
    rw [Sink.foldl_noteBytes] at noted
    obtain ⟨log, count⟩ := Prod.mk.inj noted
    refine ⟨calls, ⟨?_, Prod.ext ?_ log, accepted, taken.trans accepted⟩, ?_⟩
    · simp only [transfer, result, after]
    · simp only [transfer, after]
    · simp only [transfer, result, after, count, Nat.zero_add]
      generalize (script.run sink.logged.counting ((state, []), 0)).result = ended at talks
      rcases ended with (fault | cause) | _
      · exact .producing talks
      · exact .producing talks
      · exact ⟨talks, rfl⟩

variable {sink state} {done : Transfer σ Delivered}

theorem flushed_of_error {stop : Stop IoFault} (failed : done.result = .error stop) :
    flushed sink done = done := by
  simp only [flushed, failed]

theorem flushed_of_ok {count : Nat} (wrote : done.result = .ok count) :
    flushed sink done = ⟨(Producer.ending (sink.flush done.after).1).map fun _ => count,
      done.taken, (sink.flush done.after).2⟩ := by
  simp only [flushed, wrote]

/-- A sink is flushed once everything is written, and after a failure no more is done with it. -/
theorem flushed_logged {source : Source} {calls : List Sink.Call}
    {logging : Transfer (σ × List Sink.Call) Delivered}
    (logs : Sink.Logs calls [] logging done) (ended : source.Ended calls done.result) :
    ∃ all, Sink.Logs all [] (flushed sink.logged logging) (flushed sink done) ∧
      source.Reports all (flushed sink done).result := by
  obtain ⟨result, after, loggedTaken, taken⟩ := logs
  cases came : done.result with
  | error stop =>
    rw [came] at ended
    rw [flushed_of_error came, flushed_of_error (result.trans came), came]
    refine ⟨calls, ⟨result, after, loggedTaken, taken⟩, ?_⟩
    cases stop with
    | failed fault => exact ⟨ended, Source.Raises.front ended⟩
    | panicked cause => exact ended
  | ok count =>
    rw [came] at ended
    obtain ⟨completes, counted⟩ := ended
    rw [flushed_of_ok came, flushed_of_ok (result.trans came), after]
    rcases answered : sink.flush done.after with ⟨answer, flushedState⟩
    have answeredLog : sink.logged.flush (done.after, [] ++ calls) =
        (answer, flushedState, calls ++ [.flush answer]) := by
      simp only [Sink.logged, answered, List.nil_append]
    have same := Source.accepted_flush calls answer
    rw [answeredLog]
    refine ⟨calls ++ [.flush answer], ⟨rfl, rfl, loggedTaken.trans same.symm,
      taken.trans same.symm⟩, ?_⟩
    cases answer with
    | error fault => exact ⟨.flushing completes, Source.Raises.front (.flushing completes)⟩
    | ok =>
      have length := congrArg List.length same
      exact ⟨calls, rfl, completes, completes.produced_flush _, length.trans counted⟩

end Body

/-- Writing a body to a sink reports what the sink took, however the sink answers: a list of its
calls, with its answers, accounts for the report. -/
theorem Body.writeTo_reports (body : Body) (sink : Sink σ) (state : σ) :
    ∃ calls, Sink.Logs calls [] (body.writeTo sink.logged (state, [])) (body.writeTo sink state) ∧
      body.source.Reports calls (body.writeTo sink state).result := by
  obtain ⟨calls, logs, ended⟩ := transfer_logged sink state body.source
  exact flushed_logged logs ended

end HttpDispatch
