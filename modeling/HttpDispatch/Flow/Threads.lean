import HttpDispatch.Flow.Pipe

/-!
A pipe as its two threads see it. Every access to the ring is one step of one thread. A thread that
has to wait is parked until the other thread wakes it, which every access that changes the ring
does; it then makes the same access again. `Reachable` holds of the states that some interleaving
of the two threads comes to.
-/

namespace HttpDispatch.Flow

/-- What the reading thread is asked to do: read at most so many bytes, or finish with the pipe. -/
inductive Demand where
  | read (most : Nat)
  | finish
  deriving DecidableEq

inductive WriterThread where
  | working (script : Producer)
  | parked (script : Producer)
  | ended (ending : Ending)

/-- What the reading thread is about. Finishing is reading what is left, then waiting for the
producer to end. -/
inductive ReaderTask where
  | meeting
  | draining
  | joining
  deriving DecidableEq

structure ReaderThread where
  task : ReaderTask
  isParked : Bool := false
  deriving DecidableEq

/-- The two threads of a pipe and the ring between them, with what came of it so far. -/
structure Threads where
  ring : Ring blockSize
  writer : WriterThread
  reader : ReaderThread
  /-- The demands on the reading thread, the one it is about first. -/
  demands : List Demand
  /-- Whether the reading thread still has to wait for the producer some time. -/
  isAttached : Bool
  /-- The answers to the producer's writes. -/
  writes : List (Except IoFault Bytes)
  /-- The answers to the reads. -/
  reads : List Bytes
  /-- What was read while finishing. -/
  drained : Bytes
  /-- The answers to the demands to finish. -/
  finishes : List (Option IoFault)
  /-- How often the producer's end was waited for. -/
  joins : Nat

def drainSize : Nat := 512

namespace WriterThread

def wake : WriterThread → WriterThread
  | parked script => working script
  | thread => thread

def isParked : WriterThread → Bool
  | parked _ => true
  | _ => false

def ending? : WriterThread → Option Ending
  | ended ending => some ending
  | _ => none

end WriterThread

def ReaderThread.wake (thread : ReaderThread) : ReaderThread := { thread with isParked := false }

namespace Threads

/-- The threads of a pipe whose producer has not started and whose reader has demands to meet. -/
def start (script : Producer) (demands : List Demand) : Threads where
  ring := .empty
  writer := .working script
  reader := ⟨.meeting, false⟩
  demands := demands
  isAttached := true
  writes := []
  reads := []
  drained := []
  finishes := []
  joins := 0

def wakeAll (state : Threads) : Threads :=
  { state with writer := state.writer.wake, reader := state.reader.wake }

/-- Ends the producer, which closes the ring. -/
def endWriter (state : Threads) (ending : Ending) : Threads :=
  wakeAll { state with ring := state.ring.close, writer := .ended ending }

/-- One write of a producer at `script`, which goes on as `next` says. A write of nothing does not
come to the ring. -/
def writeOnce (state : Threads) (script : Producer) (chunk : Bytes)
    (next : Except IoFault Nat → Producer) : Threads :=
  match state.ring.write chunk with
  | (.waits, _) => { state with writer := .parked script }
  | (.refused, _) =>
    { state with
      writes := state.writes ++ [.error .streamClosed]
      writer := .working (next (.error .streamClosed)) }
  | (.accepted count, ring) =>
    let after : Threads :=
      { state with
        ring
        writes := state.writes ++ [.ok (chunk.take count)]
        writer := .working (next (.ok count)) }
    if chunk = [] then after else after.wakeAll

/-- How a producer goes on that writes a chunk to its end, after one write of it. -/
def afterPart (chunk : Bytes) (next : Except IoFault Unit → Producer) :
    Except IoFault Nat → Producer
  | .error fault => next (.error fault)
  | .ok count =>
    if count < chunk.length then .writeAll (chunk.drop count) next else next (.ok ())

/-- A step of the writing thread, if it can make one. -/
def writerStep? (state : Threads) : Option Threads :=
  match state.writer with
  | .parked _ | .ended _ => none
  | .working script => some <| match script with
    | .finish result => state.endWriter (Producer.ending result)
    | .panic payload => state.endWriter (.error (.panicked payload))
    | .flush next => { state with writer := .working (next (.ok ())) }
    | .write chunk next => state.writeOnce script chunk next
    | .writeAll chunk next =>
      if chunk = [] then { state with writer := .working (next (.ok ())) }
      else state.writeOnce script chunk (afterPart chunk next)

/-- One read of the reading thread, whose answer is used as `take` says. -/
def readOnce (state : Threads) (most : Nat) (take : Threads → Bytes → Threads) : Threads :=
  match state.ring.read most with
  | (.waits, _) => { state with reader := { state.reader with isParked := true } }
  | (.got bytes, ring) =>
    let after := take { state with ring } bytes
    if bytes = [] then after else after.wakeAll

/-- Uses what was read while finishing: nothing means that all was read. -/
def drain (state : Threads) (bytes : Bytes) : Threads :=
  if bytes = [] then { state with reader := ⟨.joining, false⟩ }
  else { state with drained := state.drained ++ bytes }

/-- A step of the reading thread, if it can make one. The producer is waited for once; to finish
again does nothing. -/
def readerStep? (state : Threads) : Option Threads :=
  if state.reader.isParked then none
  else match state.reader.task, state.demands with
  | _, [] => none
  | .meeting, .read most :: rest =>
    some <| state.readOnce most fun after bytes =>
      { after with reads := after.reads ++ [bytes], demands := rest }
  | .meeting, .finish :: rest =>
    if state.isAttached then some { state with isAttached := false, reader := ⟨.draining, false⟩ }
    else some { state with finishes := state.finishes ++ [none], demands := rest }
  | .draining, _ => some (state.readOnce drainSize drain)
  | .joining, _ :: rest =>
    state.writer.ending?.map fun ending =>
      { state with
        finishes := state.finishes ++ [Pipe.failureOf ending]
        joins := state.joins + 1
        reader := ⟨.meeting, false⟩
        demands := rest }

inductive Step (state : Threads) : Threads → Prop where
  | writer {after : Threads} (made : state.writerStep? = some after) : Step state after
  | reader {after : Threads} (made : state.readerStep? = some after) : Step state after

/-- The states that the threads of a pipe can come to. -/
inductive Reachable (script : Producer) (demands : List Demand) : Threads → Prop where
  | start : Reachable script demands (start script demands)
  | step {state after : Threads} (before : Reachable script demands state)
    (made : Step state after) : Reachable script demands after

def IsDone (state : Threads) : Prop := state.writer.ending?.isSome ∧ state.demands = []

end Threads

end HttpDispatch.Flow
