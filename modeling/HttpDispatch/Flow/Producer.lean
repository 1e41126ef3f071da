import HttpDispatch.Flow.Sink

/-!
Producers of bytes: programs that write to a sink they are handed. A producer is given as the tree
of what it does next after each answer of the sink, so it may look at every answer, go on after a
failure, or end with a failure of its own.
-/

namespace HttpDispatch.Flow

/-- A producer. `write` is a single write, of which the sink may take a part; `writeAll` repeats
it until the chunk is taken or the sink fails. -/
inductive Producer where
  | finish (result : Except IoFault Unit)
  | panic (payload : PanicPayload)
  | write (chunk : Bytes) (next : Except IoFault Nat → Producer)
  | writeAll (chunk : Bytes) (next : Except IoFault Unit → Producer)
  | flush (next : Except IoFault Unit → Producer)

abbrev Ending := Except (Stop IoFault) Unit

namespace Producer

/-- Ends with the failure that the sink answered, or goes on. -/
def orFail (rest : Producer) : Except IoFault Unit → Producer
  | .ok () => rest
  | .error fault => .finish (.error fault)

def ending (result : Except IoFault Unit) : Ending := result.mapError .failed

def run (sink : Sink σ) (state : σ) : Producer → Transfer σ Ending
  | finish result => ⟨ending result, [], state⟩
  | panic payload => ⟨.error (.panicked payload), [], state⟩
  | write chunk next =>
    let answer := sink.write state chunk
    let count := match answer.1 with
      | .ok count => count
      | .error _ => 0
    let later := (next answer.1).run sink answer.2
    { later with taken := chunk.take count ++ later.taken }
  | writeAll chunk next =>
    let first := sink.writeAll state chunk
    first.andThen ((next first.result).run sink first.after)
  | flush next =>
    let answer := sink.flush state
    (next answer.1).run sink answer.2

/-- `Follows later earlier` holds when a producer comes to `later` by doing one thing: getting an
answer, or having a part of a chunk taken. -/
inductive Follows : Producer → Producer → Prop where
  | write (chunk : Bytes) (next : Except IoFault Nat → Producer) (answer : Except IoFault Nat) :
    Follows (next answer) (write chunk next)
  | writeAll (chunk : Bytes) (next : Except IoFault Unit → Producer)
    (answer : Except IoFault Unit) : Follows (next answer) (writeAll chunk next)
  | writePart (part chunk : Bytes) (next : Except IoFault Unit → Producer)
    (shorter : part.length < chunk.length) : Follows (writeAll part next) (writeAll chunk next)
  | flush (next : Except IoFault Unit → Producer) (answer : Except IoFault Unit) :
    Follows (next answer) (flush next)

/-- No producer can go on for ever. -/
theorem follows_wellFounded : WellFounded Follows := by
  refine ⟨fun script => ?_⟩
  induction script with
  | finish result => exact ⟨_, fun _ step => by cases step⟩
  | panic payload => exact ⟨_, fun _ step => by cases step⟩
  | flush next ih => exact ⟨_, fun _ step => by cases step; exact ih _⟩
  | write chunk next ih => exact ⟨_, fun _ step => by cases step; exact ih _⟩
  | writeAll chunk next ih =>
    induction size : chunk.length using Nat.strongRecOn generalizing chunk with
    | ind length shorter =>
      refine ⟨_, fun later step => ?_⟩
      cases step with
      | writeAll _ _ answer => exact ih answer
      | writePart part _ _ less => exact shorter part.length (size ▸ less) part rfl

end Producer

end HttpDispatch.Flow
