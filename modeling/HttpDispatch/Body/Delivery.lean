import HttpDispatch.Body.Basic
import HttpDispatch.Form.TextMap
import HttpDispatch.Flow.Pipe

/-!
Consuming a body at once: written to a sink, collected in memory, or decoded.
-/

namespace HttpDispatch.Body

open HttpDispatch.Flow

/-- How delivering bytes ended: with the number of bytes delivered, unless it failed. -/
abbrev Delivered := Except (Stop IoFault) Nat

/-- Writes the blocks of a supply to a sink as they are read. The bytes read before a failure or a
panic are written first, and a failed write ends the copying before either is met. -/
def copy (sink : Sink σ) (state : σ) (supply : Supply) : Transfer σ Delivered :=
  let reading := supply.readAll blockSize true
  let transfer := sink.writeChunks state reading.blocks
  { transfer with
    result := match transfer.result, reading.stop with
      | .error fault, _ => .error (.failed fault)
      | .ok (), some stop => .error stop
      | .ok (), none => .ok (reading.blocks.foldl (fun total block => total + block.length) 0) }

/-- Writes the bytes of a source to a sink. A producer writes to the sink itself, which counts for
it. -/
def transfer (sink : Sink σ) (state : σ) : Source → Transfer σ Delivered
  | .empty => ⟨.ok 0, [], state⟩
  | .once bytes _ =>
    let written := sink.writeAll state bytes
    { written with result := (Producer.ending written.result).map fun () => bytes.length }
  | .reader (.error stop) => ⟨.error stop, [], state⟩
  | .reader (.ok supply) => copy sink state supply
  | .producer script =>
    let done := script.run sink.counting (state, 0)
    ⟨done.result.map fun () => done.after.2, done.taken, done.after.1⟩

def flushed (sink : Sink σ) (transfer : Transfer σ Delivered) : Transfer σ Delivered :=
  match transfer.result with
  | .error _ => transfer
  | .ok count =>
    let answer := sink.flush transfer.after
    ⟨(Producer.ending answer.1).map fun () => count, transfer.taken, answer.2⟩

/-- Writes a body to a sink, flushes the sink and gives the number of bytes written. -/
def writeTo (body : Body) (sink : Sink σ) (state : σ) : Transfer σ Delivered :=
  flushed sink (transfer sink state body.source)

/-- The largest number of bytes for which room can be asked for. -/
def maxReserve : Nat := Nat.pow 2 63 - 1

/-- Collects a body in memory. Room for the declared size of a streamed body is made first, and
asking for more than there can be is a panic. -/
def collect (body : Body) : Except (Stop IoFault) Bytes :=
  match body.source with
  | .empty => .ok []
  | .once bytes _ => .ok bytes
  | _ =>
    if maxReserve < body.size.getD 0 then .error (.panicked (.text "capacity overflow"))
    else
      let written := body.writeTo Sink.unbounded ()
      written.result.map fun _ => written.taken

/-- Collects a body, a failure to read it being a fault of the body. -/
def collectBody (body : Body) : Except (Stop BodyFault) Bytes :=
  body.collect.mapError fun stop => stop.map .io

def text (body : Body) : Except (Stop BodyFault) String := do
  let bytes ← body.collectBody
  (Utf8.decode bytes).mapError fun defect => .failed (.invalidUtf8 defect)

/-- The body as the pairs of a submitted form, the last value of a name counting. -/
def form (body : Body) : Except (Stop BodyFault) TextMap := do
  let bytes ← body.collectBody
  return .ofPairs (Form.decode bytes)

end HttpDispatch.Body
