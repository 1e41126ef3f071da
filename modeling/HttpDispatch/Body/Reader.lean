import HttpDispatch.Body.Basic
import HttpDispatch.Flow.Pipe

/-!
Reading a body piece by piece. Whatever the source of a body, its reader gives bytes until it gives
none; only a pushed body has anything to report when the reader is closed.
-/

namespace HttpDispatch

open HttpDispatch.Flow

inductive BodyReader where
  /-- Bytes in memory: how many there were, and those not read yet. -/
  | buffered (length : Nat) (rest : Bytes)
  | stream (supply : Supply)
  | pipe (pipe : Pipe)

def Body.open (body : Body) : Except (Stop IoFault) BodyReader :=
  match body.source with
  | .empty => .ok (.buffered 0 [])
  | .once bytes _ => .ok (.buffered bytes.length bytes)
  | .reader opening => opening.map .stream
  | .producer script => .ok (.pipe (.ofProducer script))

namespace BodyReader

def summary : BodyReader → String
  | buffered length _ => "Buffered(" ++ toString length ++ ")"
  | stream _ => "Stream"
  | pipe _ => "Pipe(PipeReader \x7b joined: false, .. \x7d)"

def read (most : Nat) : BodyReader → Except (Stop IoFault) Bytes × BodyReader
  | buffered length rest => (.ok (rest.take most), buffered length (rest.drop most))
  | stream supply =>
    let outcome := supply.read most
    (outcome.1, stream outcome.2)
  | pipe source =>
    let outcome := source.read most
    (.ok outcome.1, pipe outcome.2)

/-- What several reads gave: the bytes, and the failure or panic that stopped them, if any. -/
structure Chunk where
  bytes : Bytes
  stop : Option (Stop IoFault)

/-- Reads until `count` bytes were read, nothing more came, or a read failed or panicked. -/
def readUpTo (reader : BodyReader) (count : Nat) : Chunk × BodyReader :=
  if count = 0 then (⟨[], none⟩, reader)
  else match reader.read count with
  | (.ok [], reader) => (⟨[], none⟩, reader)
  | (.error stop, reader) => (⟨[], some stop⟩, reader)
  | (.ok (byte :: bytes), reader) =>
    let later := reader.readUpTo (count - (bytes.length + 1))
    (⟨byte :: bytes ++ later.1.bytes, later.1.stop⟩, later.2)
termination_by count
decreasing_by omega

/-- The blocks that reading to the end gives, what stopped it, and what is left. With `persistent`,
an interrupted read is made again. -/
def blocks (persistent : Bool) : BodyReader → List Bytes × Option (Stop IoFault) × BodyReader
  | buffered length rest => (if rest.isEmpty then [] else [rest], none, buffered length [])
  | stream supply =>
    let reading := supply.readAll blockSize persistent
    (reading.blocks, reading.stop, stream reading.rest)
  | pipe source =>
    let drained := source.drain
    (drained.1, none, pipe drained.2)

def readToEnd (reader : BodyReader) : Chunk × BodyReader :=
  let (blocks, stop, reader) := reader.blocks true
  (⟨blocks.flatten, stop⟩, reader)

/-- Closes the reader and gives the failure that only closing reports, if there is one. -/
def close : BodyReader → Option IoFault
  | pipe source => source.close
  | buffered _ _ | stream _ => none

end BodyReader

end HttpDispatch
