import HttpDispatch.Flow.Producer

/-!
What a producer pushes. A producer that goes on from wherever the sink left it pushes the same
bytes into every sink that takes something of each write.
-/

namespace HttpDispatch.Flow

namespace Sink

/-- A sink that takes a chunk at once is written to once. -/
theorem writeAll_of_taken {sink : Sink σ} {state after : σ} {chunk : Bytes}
    (nonempty : chunk ≠ []) (taken : sink.write state chunk = (.ok chunk.length, after)) :
    sink.writeAll state chunk = ⟨.ok (), chunk, after⟩ := by
  have done (state : σ) : sink.writeAll state [] = ⟨.ok (), [], state⟩ := by simp [writeAll]
  rw [writeAll, dif_neg nonempty]
  split
  · rename_i same
    simp [taken, nonempty] at same
  · rename_i count _ same
    obtain ⟨counted, rfl⟩ := Prod.mk.inj (taken.symm.trans same)
    rw [Nat.succ_eq_add_one, Except.ok.injEq] at counted
    simp [← counted, done]
  · rename_i same
    simp [taken] at same

theorem writeAll_unbounded (chunk : Bytes) :
    unbounded.writeAll () chunk = ⟨.ok (), chunk, ()⟩ := by
  by_cases nothing : chunk = []
  · simp [writeAll, nothing]
  · exact writeAll_of_taken nothing rfl

theorem writeChunks_unbounded (chunks : List Bytes) :
    unbounded.writeChunks () chunks = ⟨.ok (), chunks.flatten, ()⟩ := by
  induction chunks with
  | nil => rfl
  | cons chunk rest ih => simp [writeChunks, writeAll_unbounded, Transfer.andThen, ih]

theorem writeAll_counting (counted : Nat) (chunk : Bytes) :
    unbounded.counting.writeAll ((), counted) chunk =
      ⟨.ok (), chunk, ((), counted + chunk.length)⟩ := by
  by_cases nothing : chunk = []
  · simp [writeAll, nothing]
  · exact writeAll_of_taken nothing rfl

end Sink

namespace Producer

/-- The producer writes `payload` and ends so, in whatever parts a sink takes the bytes, as long as
it takes something of every write. -/
inductive Pushes : Producer → Bytes → Ending → Prop where
  | finish (result : Except IoFault Unit) : Pushes (.finish result) [] (Producer.ending result)
  | panic (cause : PanicPayload) : Pushes (.panic cause) [] (.error (.panicked cause))
  | flush {next : Except IoFault Unit → Producer} (later : Pushes (next (.ok ())) payload outcome) :
    Pushes (.flush next) payload outcome
  | writeAll {next : Except IoFault Unit → Producer} (chunk : Bytes)
    (later : Pushes (next (.ok ())) payload outcome) :
    Pushes (.writeAll chunk next) (chunk ++ payload) outcome
  | write {next : Except IoFault Nat → Producer} {chunk : Bytes} (first : chunk <+: payload)
    (later : ∀ count ≤ chunk.length, (chunk ≠ [] → 0 < count) →
      Pushes (next (.ok count)) (payload.drop count) outcome) :
    Pushes (.write chunk next) payload outcome

/-- A sink that takes everything takes the payload. -/
theorem Pushes.run_counting {script : Producer} {outcome : Ending}
    (pushes : script.Pushes payload outcome) (counted : Nat) :
    script.run Sink.unbounded.counting ((), counted) =
      ⟨outcome, payload, ((), counted + payload.length)⟩ := by
  induction pushes generalizing counted with
  | finish result => rfl
  | panic cause => rfl
  | flush later ih =>
    rw [run]
    exact ih counted
  | writeAll chunk later ih =>
    simp [run, Sink.writeAll_counting, Transfer.andThen, ih, Nat.add_assoc]
  | @write _ _ _ chunk first later ih =>
    obtain ⟨rest, rfl⟩ := first
    have rest := ih chunk.length (Nat.le_refl _) List.length_pos_iff.mpr (counted + chunk.length)
    rw [List.drop_left] at rest
    have answer : Sink.unbounded.counting.write ((), counted) chunk =
      (.ok chunk.length, ((), counted + chunk.length)) := rfl
    simp [run, answer, rest, Nat.add_assoc]

/-- What a scripted producer does with its sink, ending with the failure that the sink answers. -/
inductive Push where
  | write (chunk : Bytes)
  | flush

/-- The producer that does what a script says and then returns. -/
def scripted (result : Except IoFault Unit) : List Push → Producer
  | [] => .finish result
  | .write chunk :: rest => .writeAll chunk (scripted result rest).orFail
  | .flush :: rest => .flush (scripted result rest).orFail

/-- The bytes that a script writes. -/
def scriptedBytes : List Push → Bytes
  | [] => []
  | .write chunk :: rest => chunk ++ scriptedBytes rest
  | .flush :: rest => scriptedBytes rest

theorem pushes_scripted (result : Except IoFault Unit) (pushes : List Push) :
    (scripted result pushes).Pushes (scriptedBytes pushes) (Producer.ending result) := by
  induction pushes with
  | nil => exact .finish result
  | cons push rest ih =>
    cases push with
    | write chunk => exact .writeAll chunk ih
    | flush => exact .flush ih

end Producer

end HttpDispatch.Flow
