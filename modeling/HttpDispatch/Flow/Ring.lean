import HttpDispatch.Text.Utf8

/-!
A ring of byte slots between one writer and one reader. Two counters say how many bytes were ever
written and taken; their difference is what the ring holds, and the remainder by the capacity is
where the next byte goes or comes from. `contents` is the ring as a queue.
-/

namespace HttpDispatch.Flow

structure Span where
  start : Nat
  length : Nat

/-- The ring. It stays open until the writer is done. -/
structure Ring (capacity : Nat) where
  slots : Vector UInt8 capacity
  taken : Nat
  written : Nat
  isOpen : Bool

inductive WriteReply where
  | refused
  | waits
  | accepted (count : Nat)
  deriving DecidableEq

inductive ReadReply where
  | waits
  | got (bytes : Bytes)
  deriving DecidableEq

namespace Ring

variable {capacity : Nat}

def empty : Ring capacity := ⟨Vector.replicate capacity 0, 0, 0, true⟩

/-- The number of bytes waiting to be taken. -/
def available (ring : Ring capacity) : Nat := ring.written - ring.taken

/-- The number of bytes that can be written before the next one is taken. -/
def free (ring : Ring capacity) : Nat := capacity - ring.available

/-- The slots of `count` bytes from a counter on: those up to the end of the ring, and the others
from its start. -/
def spans (capacity counter count : Nat) : Span × Span :=
  let start := counter % capacity
  let first := min count (capacity - start)
  (⟨start, first⟩, ⟨0, count - first⟩)

def fill (slots : Vector UInt8 capacity) (start : Nat) : Bytes → Vector UInt8 capacity
  | [] => slots
  | byte :: rest => fill (slots.setIfInBounds start byte) (start + 1) rest

def slice (slots : Vector UInt8 capacity) (span : Span) : Bytes :=
  (slots.toArray.extract span.start (span.start + span.length)).toList

def front (ring : Ring capacity) (count : Nat) : Bytes :=
  let stretches := spans capacity ring.taken count
  slice ring.slots stretches.1 ++ slice ring.slots stretches.2

/-- Everything that waits to be taken, oldest first. -/
def contents (ring : Ring capacity) : Bytes := ring.front ring.available

/-- Puts bytes after those in the ring, which has room for them. -/
def push (ring : Ring capacity) (bytes : Bytes) : Ring capacity :=
  let stretches := spans capacity ring.written bytes.length
  let slots := fill ring.slots stretches.1.start (bytes.take stretches.1.length)
  let slots := fill slots stretches.2.start (bytes.drop stretches.1.length)
  { ring with slots, written := ring.written + bytes.length }

/-- One write of a chunk: as much of its beginning as there is room for. A write of nothing
succeeds at once, even after the ring was closed. -/
def write (ring : Ring capacity) (chunk : Bytes) : WriteReply × Ring capacity :=
  if chunk.isEmpty then (.accepted 0, ring)
  else if !ring.isOpen then (.refused, ring)
  else if ring.free = 0 then (.waits, ring)
  else
    let count := min ring.free chunk.length
    (.accepted count, ring.push (chunk.take count))

/-- One read of at most `most` bytes. A read of nothing succeeds at once, and a read from a closed
ring gives what is left. -/
def read (ring : Ring capacity) (most : Nat) : ReadReply × Ring capacity :=
  if most = 0 then (.got [], ring)
  else if ring.available = 0 then (if ring.isOpen then .waits else .got [], ring)
  else
    let count := min ring.available most
    (.got (ring.front count), { ring with taken := ring.taken + count })

/-- Ends the writing. What is in the ring can still be taken. -/
def close (ring : Ring capacity) : Ring capacity := { ring with isOpen := false }

end Ring

end HttpDispatch.Flow
