import HttpDispatch.Proofs.Body.Consumption
import HttpDispatch.Proofs.Flow.Supplying

/-!
Collecting a body in memory. What a streamed body is collected to is what its source gives: the
declared size has no part in it, except that too large a size is a panic.
-/

namespace HttpDispatch

open HttpDispatch.Flow

/-- The bytes that a producer pushes into a sink that takes everything, and how it ends. -/
def Flow.Producer.pushed : Producer → Bytes × Ending
  | .finish result => ([], ending result)
  | .panic cause => ([], .error (.panicked cause))
  | .write chunk next =>
    (chunk ++ (next (.ok chunk.length)).pushed.1, (next (.ok chunk.length)).pushed.2)
  | .writeAll chunk next => (chunk ++ (next (.ok ())).pushed.1, (next (.ok ())).pushed.2)
  | .flush next => (next (.ok ())).pushed

theorem Flow.Producer.run_pushed (script : Producer) (counted : Nat) :
    script.run Sink.unbounded.counting ((), counted) =
      ⟨script.pushed.2, script.pushed.1, ((), counted + script.pushed.1.length)⟩ := by
  induction script generalizing counted with
  | finish result => rfl
  | panic cause => rfl
  | write chunk next ih =>
    have answered : Sink.unbounded.counting.write ((), counted) chunk =
      (.ok chunk.length, ((), counted + chunk.length)) := rfl
    simp [run, answered, ih, pushed, Nat.add_assoc]
  | writeAll chunk next ih =>
    simp [run, Sink.writeAll_counting, Transfer.andThen, ih, pushed, Nat.add_assoc]
  | flush next ih => exact ih (.ok ()) counted

namespace Source

/-- The bytes of a source, or how it fails or panics. -/
def collected : Source → Except (Stop IoFault) Bytes
  | .empty => .ok []
  | .once bytes _ => .ok bytes
  | .reader (.error stop) => .error stop
  | .reader (.ok supply) =>
    match supply.uninterrupted.stop? with
    | some stop => .error stop
    | none => .ok supply.uninterrupted.payload
  | .producer script => script.pushed.2.map fun () => script.pushed.1

/-- The source is not in memory. -/
def IsStreamed : Source → Prop
  | .empty | .once _ _ => False
  | .reader _ | .producer _ => True

end Source

namespace Body

/-- Into memory everything is written, up to a failure or panic of the source. -/
theorem writeTo_collected (body : Body) :
    ((body.writeTo Sink.unbounded ()).result.map fun _ => (body.writeTo Sink.unbounded ()).taken) =
      body.source.collected := by
  obtain ⟨source, size, mime⟩ := body
  match source with
  | .empty => rfl
  | .once bytes nonempty =>
    simp only [writeTo, transfer, Sink.writeAll_unbounded]
    rfl
  | .reader (.error stop) => rfl
  | .reader (.ok supply) =>
    obtain ⟨whole, stopped⟩ := supply.readAll_uninterrupted Pipe.blockSize_pos
    rw [writeTo, transfer, copy, Sink.writeChunks_unbounded, whole, stopped, Source.collected]
    cases supply.uninterrupted.stop? <;> rfl
  | .producer script =>
    rw [writeTo, transfer, script.run_pushed, Source.collected]
    rcases script.pushed with ⟨bytes, _ | _⟩ <;> rfl

/-- What collecting a streamed body comes to, by the size that it declares. -/
theorem collect_withSize {body : Body} (streamed : body.source.IsStreamed) (size : Option Nat) :
    (body.withSize size).collect =
      if maxReserve < size.getD 0 then .error (.panicked (.text "capacity overflow"))
      else body.source.collected := by
  have collects : (body.withSize size).collect =
      if maxReserve < size.getD 0 then .error (.panicked (.text "capacity overflow"))
      else ((body.withSize size).writeTo Sink.unbounded ()).result.map fun _ =>
        ((body.withSize size).writeTo Sink.unbounded ()).taken := by
    obtain ⟨source, old, mime⟩ := body
    match source with
    | .reader opening => rfl
    | .producer script => rfl
  rw [collects, writeTo_collected]
  rfl

end Body

end HttpDispatch
