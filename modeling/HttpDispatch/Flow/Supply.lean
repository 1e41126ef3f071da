import HttpDispatch.Fault.Basic

/-!
Supplies of bytes, as a reader meets them: chunks, failures and panics in order. A read gives at
most the rest of one chunk, and a read that gives nothing is the end of the stream.
-/

namespace HttpDispatch.Flow

inductive SupplyEvent where
  | chunk (bytes : Bytes)
  | failure (fault : IoFault)
  | panic (cause : PanicPayload)

/-- The events of a supply, in order; after the last one every read gives nothing. -/
abbrev Supply := List SupplyEvent

namespace Supply

/-- One read of at most `most` bytes. A failure is raised once, and so is a panic. -/
def read (most : Nat) : Supply → Except (Stop IoFault) Bytes × Supply
  | [] => (.ok [], [])
  | .failure fault :: rest => (.error (.failed fault), rest)
  | .panic cause :: rest => (.error (.panicked cause), rest)
  | .chunk bytes :: rest =>
    let remaining := bytes.drop most
    (.ok (bytes.take most), if remaining.isEmpty then rest else .chunk remaining :: rest)

/-- The number of reads that a supply can occupy before it gives nothing for ever. -/
def weight : Supply → Nat
  | [] => 0
  | .failure _ :: rest | .panic _ :: rest => weight rest + 1
  | .chunk bytes :: rest => weight rest + bytes.length + 1

theorem weight_read_error {most : Nat} {supply rest : Supply} {stop : Stop IoFault}
    (stopped : supply.read most = (.error stop, rest)) : weight rest < weight supply := by
  unfold read at stopped
  split at stopped
  · simp at stopped
  · simp only [Prod.mk.injEq] at stopped
    simp [weight, stopped.2]
  · simp only [Prod.mk.injEq] at stopped
    simp [weight, stopped.2]
  · simp at stopped

theorem weight_read_cons {most : Nat} {supply rest : Supply} {byte : UInt8} {bytes : Bytes}
    (got : supply.read most = (.ok (byte :: bytes), rest)) : weight rest < weight supply := by
  unfold read at got
  split at got
  · simp at got
  · simp at got
  · simp at got
  · rename_i chunk after
    simp only [Prod.mk.injEq, Except.ok.injEq] at got
    obtain ⟨taken, left⟩ := got
    have some_taken : 0 < (chunk.take most).length := by rw [taken]; simp
    rw [List.length_take] at some_taken
    rw [← left]
    split
    · simp only [weight]
      omega
    · simp only [weight, List.length_drop]
      omega

/-- What reading to the end gives: the blocks read, the failure or panic that stopped it, if any,
and what the supply still holds. -/
structure Reading where
  blocks : List Bytes
  stop : Option (Stop IoFault)
  rest : Supply

/-- Reads blocks of at most `most` bytes to the end of the stream, or until a read fails or panics.
With `persistent`, an interrupted read is made again. -/
def readAll (most : Nat) (persistent : Bool) (supply : Supply) : Reading :=
  match outcome : supply.read most with
  | (.ok [], rest) => ⟨[], none, rest⟩
  | (.ok (byte :: bytes), rest) =>
    have := weight_read_cons outcome
    let later := readAll most persistent rest
    { later with blocks := (byte :: bytes) :: later.blocks }
  | (.error stop, rest) =>
    have := weight_read_error outcome
    if persistent && stop.isInterruption then readAll most persistent rest
    else ⟨[], some stop, rest⟩
termination_by weight supply

end Supply

end HttpDispatch.Flow
