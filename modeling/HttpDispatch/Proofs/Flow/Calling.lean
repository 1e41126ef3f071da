import HttpDispatch.Flow.Producer

/-!
The calls that a sink gets, with its answers. `WritesAll`, `WritesChunks` and `Producer.Talks` say
which calls are made for a chunk, for chunks and by a producer when they are answered so, and what
comes of it. Whatever the sink, the calls made are such calls.
-/

namespace HttpDispatch.Flow

namespace Sink

/-- A call of a sink, and what the sink answered. -/
inductive Call where
  | write (chunk : Bytes) (answer : Except IoFault Nat)
  | flush (answer : Except IoFault Unit)

namespace Call

/-- The bytes that the sink took. -/
def taken : Call → Bytes
  | write chunk (.ok count) => chunk.take count
  | write _ (.error _) | flush _ => []

/-- The failure that ends the writing. To take nothing is one, to be interrupted is none. -/
def failure? : Call → Option IoFault
  | write _ (.ok 0) => some .writeZero
  | write _ (.ok (_ + 1)) | flush (.ok ()) => none
  | write _ (.error fault) => if fault.kind = .interrupted then none else some fault
  | flush (.error fault) => some fault

theorem failure?_write_ok {chunk : Bytes} {count : Nat} (some_taken : 0 < count) :
    failure? (.write chunk (.ok count)) = none := by
  obtain ⟨count, rfl⟩ := Nat.exists_eq_add_one_of_ne_zero (Nat.ne_of_gt some_taken)
  rfl

theorem failure?_write_error {chunk : Bytes} {fault : IoFault} :
    failure? (.write chunk (.error fault)) =
      if fault.kind = .interrupted then none else some fault := rfl

end Call

/-- The bytes that the sink took, in order. -/
def accepted (calls : List Call) : Bytes := calls.flatMap Call.taken

theorem accepted_cons (call : Call) (calls : List Call) :
    accepted (call :: calls) = call.taken ++ accepted calls := rfl

theorem accepted_append (first later : List Call) :
    accepted (first ++ later) = accepted first ++ accepted later := List.flatMap_append

/-- The sink goes on after each of these calls. -/
def GoesOn (calls : List Call) : Prop := ∀ call ∈ calls, call.failure? = none

/-- The sink goes on after each of these calls but the last, which ends the writing. -/
def Ends (calls : List Call) (fault : IoFault) : Prop :=
  ∃ earlier last, calls = earlier ++ [last] ∧ GoesOn earlier ∧ last.failure? = some fault

theorem goesOn_singleton {call : Call} (none : call.failure? = none) : GoesOn [call] := by
  simpa [GoesOn] using none

theorem GoesOn.append {first later : List Call} (goes : GoesOn first) (on : GoesOn later) :
    GoesOn (first ++ later) := fun call member =>
  (List.mem_append.mp member).elim (goes call) (on call)

theorem GoesOn.ends {first later : List Call} {fault : IoFault} (goes : GoesOn first)
    (ends : Ends later fault) : Ends (first ++ later) fault := by
  obtain ⟨earlier, last, rfl, on, failed⟩ := ends
  exact ⟨first ++ earlier, last, (List.append_assoc ..).symm, goes.append on, failed⟩

/-- What writing comes to: it goes on to the end, or is ended by a failure of a call. -/
def Outcome (calls : List Call) : Except IoFault Unit → Prop
  | .ok () => GoesOn calls
  | .error fault => Ends calls fault

theorem GoesOn.outcome {first later : List Call} {result : Except IoFault Unit}
    (goes : GoesOn first) (outcome : Outcome later result) : Outcome (first ++ later) result := by
  cases result with
  | ok => exact goes.append outcome
  | error fault => exact goes.ends outcome

/-- The calls made to write a chunk, and the result. What was not taken is offered again, and so
is everything after an interruption. -/
inductive WritesAll : Bytes → List Call → Except IoFault Unit → Prop where
  | done : WritesAll [] [] (.ok ())
  | takesPart {chunk : Bytes} {count : Nat} (some_taken : 0 < count)
    (later : WritesAll (chunk.drop count) calls result) :
    WritesAll chunk (.write chunk (.ok count) :: calls) result
  | takesNothing (chunk : Bytes) : WritesAll chunk [.write chunk (.ok 0)] (.error .writeZero)
  | interrupted {fault : IoFault} (again : fault.kind = .interrupted)
    (later : WritesAll chunk calls result) :
    WritesAll chunk (.write chunk (.error fault) :: calls) result
  | fails (chunk : Bytes) {fault : IoFault} (final : fault.kind ≠ .interrupted) :
    WritesAll chunk [.write chunk (.error fault)] (.error fault)

/-- The calls made to write chunks one after the other, and the result. -/
inductive WritesChunks : List Bytes → List Call → Except IoFault Unit → Prop where
  | done : WritesChunks [] [] (.ok ())
  | fails {chunk : Bytes} (chunks : List Bytes) (written : WritesAll chunk calls (.error fault)) :
    WritesChunks (chunk :: chunks) calls (.error fault)
  | next {chunk : Bytes} (written : WritesAll chunk first (.ok ()))
    (later : WritesChunks chunks calls result) :
    WritesChunks (chunk :: chunks) (first ++ calls) result

/-- Of a chunk the front is taken, all of it if nothing fails. -/
theorem WritesAll.accepted {chunk : Bytes} {calls : List Call} {result : Except IoFault Unit}
    (writes : WritesAll chunk calls result) :
    Sink.accepted calls <+: chunk ∧ (result = .ok () → Sink.accepted calls = chunk) := by
  induction writes with
  | done => exact ⟨List.prefix_rfl, fun _ => rfl⟩
  | @takesPart calls result chunk count some_taken later ih =>
    rw [accepted_cons, Call.taken]
    obtain ⟨front, whole⟩ := ih
    have split := List.take_append_drop count chunk
    refine ⟨?_, fun succeeded => by rw [whole succeeded, split]⟩
    conv => rhs; rw [← split]
    exact (List.prefix_append_right_inj _).mpr front
  | takesNothing chunk => exact ⟨List.nil_prefix, nofun⟩
  | interrupted again later ih => exact ih
  | fails chunk final => exact ⟨List.nil_prefix, nofun⟩

theorem WritesAll.outcome {chunk : Bytes} {calls : List Call} {result : Except IoFault Unit}
    (writes : WritesAll chunk calls result) : Outcome calls result := by
  induction writes with
  | done => exact nofun
  | takesPart some_taken later ih =>
    exact (goesOn_singleton (Call.failure?_write_ok some_taken)).outcome ih
  | takesNothing chunk => exact ⟨[], _, rfl, nofun, rfl⟩
  | interrupted again later ih =>
    exact (goesOn_singleton (Call.failure?_write_error.trans (if_pos again))).outcome ih
  | fails chunk final => exact ⟨[], _, rfl, nofun, if_neg final⟩

theorem WritesChunks.accepted {chunks : List Bytes} {calls : List Call}
    {result : Except IoFault Unit} (writes : WritesChunks chunks calls result) :
    Sink.accepted calls <+: chunks.flatten ∧
      (result = .ok () → Sink.accepted calls = chunks.flatten) := by
  induction writes with
  | done => exact ⟨List.prefix_rfl, fun _ => rfl⟩
  | fails chunks written =>
    exact ⟨written.accepted.1.trans (List.prefix_append _ _), nofun⟩
  | next written later ih =>
    rw [accepted_append, written.accepted.2 rfl, List.flatten_cons]
    exact ⟨(List.prefix_append_right_inj _).mpr ih.1, fun succeeded => by rw [ih.2 succeeded]⟩

theorem WritesChunks.outcome {chunks : List Bytes} {calls : List Call}
    {result : Except IoFault Unit} (writes : WritesChunks chunks calls result) :
    Outcome calls result := by
  induction writes with
  | done => exact nofun
  | fails chunks written => exact written.outcome
  | next written later ih => exact GoesOn.outcome written.outcome ih

end Sink

/-- The calls that a producer makes, and how it ends. What it does next depends on the answers. -/
inductive Producer.Talks : Producer → List Sink.Call → Ending → Prop where
  | finish (result : Except IoFault Unit) : Talks (.finish result) [] (Producer.ending result)
  | panic (cause : PanicPayload) : Talks (.panic cause) [] (.error (.panicked cause))
  | write {next : Except IoFault Nat → Producer} (chunk : Bytes) (answer : Except IoFault Nat)
    (later : Talks (next answer) calls outcome) :
    Talks (.write chunk next) (.write chunk answer :: calls) outcome
  | writeAll {next : Except IoFault Unit → Producer} (written : Sink.WritesAll chunk first result)
    (later : Talks (next result) calls outcome) :
    Talks (.writeAll chunk next) (first ++ calls) outcome
  | flush {next : Except IoFault Unit → Producer} (answer : Except IoFault Unit)
    (later : Talks (next answer) calls outcome) :
    Talks (.flush next) (.flush answer :: calls) outcome

theorem Producer.run_write {sink : Sink σ} {state after : σ} {chunk : Bytes}
    {next : Except IoFault Nat → Producer} {answer : Except IoFault Nat}
    (answered : sink.write state chunk = (answer, after)) :
    (Producer.write chunk next).run sink state =
      (⟨(), (Sink.Call.write chunk answer).taken, after⟩ : Transfer σ Unit).andThen
        ((next answer).run sink after) := by
  simp only [run, answered]
  cases answer <;> rfl

/-! ### Sinks that are watched -/

namespace Sink

variable {σ τ ν ρ : Type}

/-- One sink does what another does, and takes a note of every call. -/
structure Watches (watching : Sink τ) (sink : Sink σ) (forget : τ → σ) (note : τ → ν)
    (step : ν → Call → ν) : Prop where
  write : ∀ state chunk answer after, watching.write state chunk = (answer, after) →
    sink.write (forget state) chunk = (answer, forget after) ∧
      note after = step (note state) (.write chunk answer)
  flush : ∀ state answer after, watching.flush state = (answer, after) →
    sink.flush (forget state) = (answer, forget after) ∧
      note after = step (note state) (.flush answer)

/-- A stretch of writing to a sink that takes notes, and the same stretch without them. -/
structure Watched (forget : τ → σ) (note : τ → ν) (step : ν → Call → ν) (calls : List Call)
    (state : τ) (watched : Transfer τ ρ) (plain : Transfer σ ρ) : Prop where
  result : plain.result = watched.result
  taken : plain.taken = watched.taken
  after : plain.after = forget watched.after
  noted : note watched.after = calls.foldl step (note state)
  accepted : watched.taken = accepted calls

theorem Watched.andThen {ω : Type} {forget : τ → σ} {note : τ → ν} {step : ν → Call → ν}
    {first later : List Call} {state : τ} {watched : Transfer τ ρ} {plain : Transfer σ ρ}
    {next : Transfer τ ω} {plainNext : Transfer σ ω}
    (began : Watched forget note step first state watched plain)
    (went : Watched forget note step later watched.after next plainNext) :
    Watched forget note step (first ++ later) state (watched.andThen next)
      (plain.andThen plainNext) where
  result := went.result
  taken := by simp only [Transfer.andThen, began.taken, went.taken]
  after := went.after
  noted := by rw [List.foldl_append, ← began.noted]; exact went.noted
  accepted := by rw [accepted_append, ← began.accepted, ← went.accepted]; rfl

variable {sink : Sink σ} {state after : σ} {chunk : Bytes}

theorem writeAll_nil (sink : Sink σ) (state : σ) : sink.writeAll state [] = ⟨.ok (), [], state⟩ := by
  simp [writeAll]

theorem writeAll_of_zero (nonempty : chunk ≠ []) (answered : sink.write state chunk = (.ok 0, after)) :
    sink.writeAll state chunk = ⟨.error .writeZero, [], after⟩ := by
  rw [writeAll, dif_neg nonempty]
  split <;> simp_all

/-- A part that was taken is followed by what writing the rest comes to. -/
theorem writeAll_of_succ {count : Nat} (nonempty : chunk ≠ [])
    (answered : sink.write state chunk = (.ok (count + 1), after)) :
    sink.writeAll state chunk = (⟨(), chunk.take (count + 1), after⟩ : Transfer σ Unit).andThen
      (sink.writeAll after (chunk.drop (count + 1))) := by
  rw [writeAll, dif_neg nonempty]
  split
  · simp_all
  · rename_i same
    obtain ⟨counted, rfl⟩ := Prod.mk.inj (same.symm.trans answered)
    cases counted
    rfl
  · simp_all

theorem writeAll_of_interrupted {fault : IoFault} (nonempty : chunk ≠ [])
    (answered : sink.write state chunk = (.error fault, after))
    (again : fault.kind = .interrupted) :
    sink.writeAll state chunk = sink.writeAll after chunk := by
  rw [writeAll, dif_neg nonempty]
  split <;> simp_all

theorem writeAll_of_error {fault : IoFault} (nonempty : chunk ≠ [])
    (answered : sink.write state chunk = (.error fault, after))
    (final : fault.kind ≠ .interrupted) :
    sink.writeAll state chunk = ⟨.error fault, [], after⟩ := by
  rw [writeAll, dif_neg nonempty]
  split <;> simp_all

theorem writeChunks_of_error {chunks : List Bytes} {fault : IoFault}
    (ended : (sink.writeAll state chunk).result = .error fault) :
    sink.writeChunks state (chunk :: chunks) =
      ⟨.error fault, (sink.writeAll state chunk).taken, (sink.writeAll state chunk).after⟩ := by
  simp only [writeChunks, ended]

theorem writeChunks_of_ok {chunks : List Bytes}
    (ended : (sink.writeAll state chunk).result = .ok ()) :
    sink.writeChunks state (chunk :: chunks) = (sink.writeAll state chunk).andThen
      (sink.writeChunks (sink.writeAll state chunk).after chunks) := by
  simp only [writeChunks, ended]

namespace Watches

variable {watching : Sink τ} {forget : τ → σ} {note : τ → ν} {step : ν → Call → ν}

theorem watched_write (watches : watching.Watches sink forget note step) {state after : τ}
    {chunk : Bytes} {answer : Except IoFault Nat}
    (answered : watching.write state chunk = (answer, after)) :
    sink.write (forget state) chunk = (answer, forget after) ∧
      Watched forget note step [.write chunk answer] state
        (⟨(), (Call.write chunk answer).taken, after⟩ : Transfer τ Unit)
        ⟨(), (Call.write chunk answer).taken, forget after⟩ := by
  obtain ⟨same, noted⟩ := watches.write _ _ _ _ answered
  exact ⟨same, rfl, rfl, rfl, noted, (List.append_nil _).symm⟩

/-- The calls made to write a chunk, whatever the sink. -/
theorem writeAll (watches : watching.Watches sink forget note step) (state : τ) (chunk : Bytes) :
    ∃ calls, WritesAll chunk calls (watching.writeAll state chunk).result ∧
      Watched forget note step calls state (watching.writeAll state chunk)
        (sink.writeAll (forget state) chunk) := by
  -- Each write leaves a shorter chunk or, if it is interrupted, a less patient sink.
  induction state, chunk using Sink.writeAll.induct watching with
  | case1 state =>
    rw [writeAll_nil, writeAll_nil]
    exact ⟨[], .done, rfl, rfl, rfl, rfl, rfl⟩
  | case2 state chunk nonempty after answered =>
    obtain ⟨same, noted⟩ := watches.write _ _ _ _ answered
    rw [writeAll_of_zero nonempty answered, writeAll_of_zero nonempty same]
    exact ⟨_, .takesNothing chunk, rfl, rfl, rfl, noted, rfl⟩
  | case3 state chunk nonempty count after answered ih =>
    obtain ⟨calls, writes, watched⟩ := ih
    obtain ⟨same, one⟩ := watches.watched_write answered
    rw [writeAll_of_succ nonempty answered, writeAll_of_succ nonempty same]
    exact ⟨_, .takesPart (Nat.succ_pos count) writes, one.andThen watched⟩
  | case4 state chunk nonempty fault after answered again ih =>
    obtain ⟨calls, writes, watched⟩ := ih
    obtain ⟨same, one⟩ := watches.watched_write answered
    rw [writeAll_of_interrupted nonempty answered again,
      writeAll_of_interrupted nonempty same again]
    exact ⟨_, .interrupted again writes, one.andThen watched⟩
  | case5 state chunk nonempty fault after answered final =>
    obtain ⟨same, noted⟩ := watches.write _ _ _ _ answered
    rw [writeAll_of_error nonempty answered final, writeAll_of_error nonempty same final]
    exact ⟨_, .fails chunk final, rfl, rfl, rfl, noted, rfl⟩

theorem writeChunks (watches : watching.Watches sink forget note step) (state : τ)
    (chunks : List Bytes) :
    ∃ calls, WritesChunks chunks calls (watching.writeChunks state chunks).result ∧
      Watched forget note step calls state (watching.writeChunks state chunks)
        (sink.writeChunks (forget state) chunks) := by
  induction chunks generalizing state with
  | nil => exact ⟨[], .done, rfl, rfl, rfl, rfl, rfl⟩
  | cons chunk chunks ih =>
    obtain ⟨calls, writes, watched⟩ := watches.writeAll state chunk
    have same := watched.result
    cases ended : (watching.writeAll state chunk).result with
    | error fault =>
      rw [ended] at writes same
      rw [writeChunks_of_error ended, writeChunks_of_error same]
      exact ⟨calls, .fails chunks writes, rfl, watched.taken, watched.after, watched.noted,
        watched.accepted⟩
    | ok =>
      rw [ended] at writes same
      obtain ⟨more, later, went⟩ := ih (watching.writeAll state chunk).after
      rw [writeChunks_of_ok ended, writeChunks_of_ok same, watched.after]
      exact ⟨calls ++ more, .next writes later, watched.andThen went⟩

/-- The calls that a producer makes, whatever the sink. -/
theorem run (watches : watching.Watches sink forget note step) (script : Producer) (state : τ) :
    ∃ calls, script.Talks calls (script.run watching state).result ∧
      Watched forget note step calls state (script.run watching state)
        (script.run sink (forget state)) := by
  induction script generalizing state with
  | finish result => exact ⟨[], .finish result, rfl, rfl, rfl, rfl, rfl⟩
  | panic cause => exact ⟨[], .panic cause, rfl, rfl, rfl, rfl, rfl⟩
  | write chunk next ih =>
    rcases answered : watching.write state chunk with ⟨answer, after⟩
    obtain ⟨same, one⟩ := watches.watched_write answered
    obtain ⟨calls, later, went⟩ := ih answer after
    rw [Producer.run_write answered, Producer.run_write same]
    exact ⟨_, .write chunk answer later, one.andThen went⟩
  | writeAll chunk next ih =>
    obtain ⟨calls, writes, watched⟩ := watches.writeAll state chunk
    obtain ⟨more, later, went⟩ := ih _ (watching.writeAll state chunk).after
    rw [Producer.run, Producer.run, watched.result, watched.after]
    exact ⟨calls ++ more, .writeAll writes later, watched.andThen went⟩
  | flush next ih =>
    rcases answered : watching.flush state with ⟨answer, after⟩
    obtain ⟨same, noted⟩ := watches.flush _ _ _ answered
    obtain ⟨calls, later, went⟩ := ih answer after
    rw [Producer.run, Producer.run, answered, same]
    refine ⟨_, .flush answer later, went.result, went.taken, went.after, ?_, went.accepted⟩
    rw [List.foldl_cons, ← noted]
    exact went.noted

end Watches

/-- The same sink, which also keeps a list of its calls. -/
def logged (sink : Sink σ) : Sink (σ × List Call) where
  write state chunk :=
    let answer := sink.write state.1 chunk
    (answer.1, answer.2, state.2 ++ [.write chunk answer.1])
  flush state :=
    let answer := sink.flush state.1
    (answer.1, answer.2, state.2 ++ [.flush answer.1])
  patience state := sink.patience state.1
  write_le state chunk count after answered := by
    refine sink.write_le state.1 chunk count (sink.write state.1 chunk).2 ?_
    rw [← (Prod.mk.inj answered).1]
  patience_lt state chunk fault after answered interrupted := by
    rw [← (Prod.mk.inj answered).2]
    refine sink.patience_lt state.1 chunk fault _ ?_ interrupted
    rw [← (Prod.mk.inj answered).1]

/-- A sink never takes more than it is offered. -/
theorem length_taken_write (sink : Sink σ) (state : σ) (chunk : Bytes) :
    (Call.write chunk (sink.write state chunk).1).taken.length =
      (sink.write state chunk).1.toOption.getD 0 := by
  rcases answered : sink.write state chunk with ⟨_ | count, after⟩
  · rfl
  · exact List.length_take_of_le (sink.write_le _ _ _ _ answered)

def noteCall (log : List Call) (call : Call) : List Call := log ++ [call]

/-- Notes the call and counts the bytes taken. -/
def noteBytes (noted : List Call × Nat) (call : Call) : List Call × Nat :=
  (noteCall noted.1 call, noted.2 + call.taken.length)

theorem foldl_noteBytes (calls log : List Call) (count : Nat) :
    calls.foldl noteBytes (log, count) = (log ++ calls, count + (accepted calls).length) := by
  induction calls generalizing log count with
  | nil => simp [accepted]
  | cons call calls ih =>
    rw [List.foldl_cons, noteBytes, ih, accepted_cons, List.length_append]
    simp [noteCall, Nat.add_assoc]

theorem foldl_noteCall (calls log : List Call) : calls.foldl noteCall log = log ++ calls := by
  induction calls generalizing log with
  | nil => simp
  | cons call calls ih => simp [ih, noteCall]

theorem watches_logged (sink : Sink σ) : sink.logged.Watches sink Prod.fst Prod.snd noteCall where
  write := by
    rintro state chunk answer after answered
    cases answered
    exact ⟨rfl, rfl⟩
  flush := by
    rintro state answer after answered
    cases answered
    exact ⟨rfl, rfl⟩

/-- What is counted is what is taken, also of a sink that keeps a list of its calls. -/
theorem watches_counting_logged (sink : Sink σ) :
    sink.logged.counting.Watches sink.counting (fun state => (state.1.1, state.2))
      (fun state => (state.1.2, state.2)) noteBytes where
  write := by
    rintro state chunk answer after answered
    cases answered
    refine ⟨rfl, ?_⟩
    rw [noteBytes, length_taken_write]
    rfl
  flush := by
    rintro state answer after answered
    cases answered
    exact ⟨rfl, rfl⟩

/-- Writing to a sink that keeps a list of its calls is writing to the sink, and adds these calls
to the list. -/
structure Logs (calls log : List Call) (logging : Transfer (σ × List Call) ρ)
    (plain : Transfer σ ρ) : Prop where
  result : logging.result = plain.result
  after : logging.after = (plain.after, log ++ calls)
  loggedTaken : logging.taken = accepted calls
  taken : plain.taken = accepted calls

theorem Watched.logs {calls log : List Call} {state : σ} {logging : Transfer (σ × List Call) ρ}
    {plain : Transfer σ ρ}
    (watched : Watched Prod.fst Prod.snd noteCall calls (state, log) logging plain) :
    Logs calls log logging plain where
  result := watched.result.symm
  after := Prod.ext watched.after.symm (watched.noted.trans (foldl_noteCall calls log))
  loggedTaken := watched.accepted
  taken := watched.taken.trans watched.accepted

end Sink

end HttpDispatch.Flow
