import HttpDispatch.Body.Reader
import HttpDispatch.Proofs.Flow.Draining
import HttpDispatch.Proofs.Flow.Supplying

/-!
Reading a body. Whatever the source of a body and the sizes of the buffers it is read with, the
reads give the bytes of the source, and what goes wrong is reported once, or is a panic.
-/

namespace HttpDispatch

open HttpDispatch.Flow

namespace BodyReader

/-- Reading comes to `payload` and then to `reading`, a failure, a panic or the end of the stream,
after which closing reports `closing`. -/
def Yields (payload : Bytes) (reading : Option (Stop IoFault)) (closing : Option IoFault) :
    BodyReader → Prop
  | buffered _ rest => rest = payload ∧ reading = none ∧ closing = none
  | stream supply => supply.payload = payload ∧ supply.stop? = reading ∧ closing = none
  | pipe source => source.Sound ∧ source.drain.1.flatten = payload ∧ reading = none ∧
      closing = source.close

namespace Yields

variable {reader rest : BodyReader} {payload : Bytes} {reading : Option (Stop IoFault)}
variable {closing : Option IoFault} {most : Nat}

/-- A pipe yields what its producer pushes, however much of it each write takes. -/
theorem of_gives {source : Pipe} {ending : Ending} (gives : source.Gives payload ending) :
    (pipe source).Yields payload none (Pipe.failureOf ending) :=
  ⟨gives.sound, gives.drain.1, rfl, gives.close.symm⟩

/-- What goes wrong is met while reading or while closing, but not twice. -/
theorem none_or_none (yields : reader.Yields payload reading closing) :
    reading = none ∨ closing = none := by
  cases reader with
  | buffered length bytes => exact .inl yields.2.1
  | stream supply => exact .inr yields.2.2
  | pipe source => exact .inl yields.2.2.1

theorem of_read_nil (yields : reader.Yields payload reading closing) (asked : 0 < most)
    (got : reader.read most = (.ok [], rest)) :
    payload = [] ∧ reading = none ∧ rest.close = closing := by
  cases reader with
  | buffered length bytes =>
    obtain ⟨rfl, rfl, rfl⟩ := yields
    simp only [read, Prod.mk.injEq, Except.ok.injEq, List.take_eq_nil_iff] at got
    obtain ⟨nothing, rfl⟩ := got
    exact ⟨nothing.resolve_left (by omega), rfl, rfl⟩
  | stream supply =>
    obtain ⟨rfl, rfl, rfl⟩ := yields
    simp only [read, Prod.mk.injEq] at got
    obtain ⟨none, ended⟩ := Supply.of_read_nil asked (Prod.ext got.1 rfl)
    obtain ⟨-, rfl⟩ := got
    exact ⟨none, ended, rfl⟩
  | pipe source =>
    obtain ⟨sound, rfl, rfl, rfl⟩ := yields
    obtain ⟨-, whole, ends, ended⟩ := sound.read asked
    simp only [read, Prod.mk.injEq, Except.ok.injEq] at got
    obtain ⟨nothing, rfl⟩ := got
    rw [nothing, ended nothing] at whole
    exact ⟨whole, rfl, Pipe.close_congr ends⟩

theorem of_read_error {stop : Stop IoFault} (yields : reader.Yields payload reading closing)
    (stopped : reader.read most = (.error stop, rest)) :
    payload = [] ∧ reading = some stop ∧ rest.close = closing := by
  cases reader with
  | buffered length bytes => simp [read] at stopped
  | stream supply =>
    obtain ⟨rfl, rfl, rfl⟩ := yields
    simp only [read, Prod.mk.injEq] at stopped
    obtain ⟨none, met⟩ := Supply.of_read_error (Prod.ext stopped.1 rfl)
    obtain ⟨-, rfl⟩ := stopped
    exact ⟨none, met, rfl⟩
  | pipe source => simp [read] at stopped

theorem of_read_cons {byte : UInt8} {bytes : Bytes}
    (yields : reader.Yields payload reading closing) (asked : 0 < most)
    (got : reader.read most = (.ok (byte :: bytes), rest)) :
    ∃ later, payload = byte :: bytes ++ later ∧ rest.Yields later reading closing := by
  cases reader with
  | buffered length held =>
    obtain ⟨rfl, rfl, rfl⟩ := yields
    simp only [read, Prod.mk.injEq, Except.ok.injEq] at got
    obtain ⟨taken, rfl⟩ := got
    exact ⟨held.drop most, by rw [← taken, List.take_append_drop], rfl, rfl, rfl⟩
  | stream supply =>
    obtain ⟨rfl, rfl, rfl⟩ := yields
    simp only [read, Prod.mk.injEq] at got
    obtain ⟨whole, ended⟩ := Supply.of_read_cons (Prod.ext got.1 rfl)
    obtain ⟨-, rfl⟩ := got
    exact ⟨_, whole, rfl, ended.symm, rfl⟩
  | pipe source =>
    obtain ⟨sound, rfl, rfl, rfl⟩ := yields
    obtain ⟨left, whole, ends, -⟩ := sound.read asked
    simp only [read, Prod.mk.injEq, Except.ok.injEq] at got
    obtain ⟨taken, rfl⟩ := got
    exact ⟨_, by rw [whole, taken], left, rfl, rfl, (Pipe.close_congr ends).symm⟩

end Yields

/-- Reads with buffers of the given sizes until nothing more comes or a read fails or panics, unless
it comes to the last buffer before that. -/
def readWith : List Nat → BodyReader → Option (Chunk × BodyReader)
  | [], _ => none
  | most :: sizes, reader =>
    match reader.read most with
    | (.ok [], rest) => some (⟨[], none⟩, rest)
    | (.error stop, rest) => some (⟨[], some stop⟩, rest)
    | (.ok (byte :: bytes), rest) =>
      (readWith sizes rest).map fun later =>
        (⟨byte :: bytes ++ later.1.bytes, later.1.stop⟩, later.2)

/-- Reading that came to an end gave everything, and closing reports what reading did not. -/
theorem Yields.of_readWith {reader rest : BodyReader} {payload : Bytes}
    {reading : Option (Stop IoFault)} {closing : Option IoFault} {sizes : List Nat} {chunk : Chunk}
    (yields : reader.Yields payload reading closing) (asked : ∀ most ∈ sizes, 0 < most)
    (done : reader.readWith sizes = some (chunk, rest)) :
    chunk = ⟨payload, reading⟩ ∧ rest.close = closing := by
  induction sizes generalizing reader payload chunk with
  | nil => cases done
  | cons most sizes ih =>
    have some_asked := asked most List.mem_cons_self
    unfold readWith at done
    split at done
    · rename_i got
      cases done
      obtain ⟨rfl, rfl, closed⟩ := yields.of_read_nil some_asked got
      exact ⟨rfl, closed⟩
    · rename_i stopped
      cases done
      obtain ⟨rfl, rfl, closed⟩ := yields.of_read_error stopped
      exact ⟨rfl, closed⟩
    · rename_i got
      obtain ⟨later, rfl, left⟩ := yields.of_read_cons some_asked got
      obtain ⟨⟨part, last⟩, came, same⟩ := Option.map_eq_some_iff.mp done
      obtain ⟨rfl, rfl⟩ := Prod.mk.inj same
      obtain ⟨rfl, closed⟩ := ih left (fun size member => asked size (.tail _ member)) came
      exact ⟨rfl, closed⟩

/-- Reading comes to an end once there are more buffers than bytes. -/
theorem Yields.isSome_readWith {reader : BodyReader} {payload : Bytes}
    {reading : Option (Stop IoFault)} {closing : Option IoFault} {sizes : List Nat}
    (yields : reader.Yields payload reading closing) (asked : ∀ most ∈ sizes, 0 < most)
    (enough : payload.length < sizes.length) : (reader.readWith sizes).isSome := by
  induction sizes generalizing reader payload with
  | nil => exact absurd enough (Nat.not_lt_zero _)
  | cons most sizes ih =>
    unfold readWith
    split
    · rfl
    · rfl
    · rename_i got
      obtain ⟨later, rfl, left⟩ := yields.of_read_cons (asked most List.mem_cons_self) got
      rw [Option.isSome_map]
      refine ih left (fun size member => asked size (.tail _ member)) ?_
      simp only [List.length_append, List.length_cons] at enough
      omega

/-- The blocks in which a reader is read to the end are not empty and give everything. -/
theorem Yields.blocks_eq {reader : BodyReader} {payload : Bytes}
    {reading : Option (Stop IoFault)} {closing : Option IoFault}
    (yields : reader.Yields payload reading closing) :
    (reader.blocks false).1.flatten = payload ∧ (∀ block ∈ (reader.blocks false).1, block ≠ []) ∧
      (reader.blocks false).2.1 = reading ∧ (reader.blocks false).2.2.close = closing := by
  cases reader with
  | buffered length rest =>
    obtain ⟨rfl, rfl, rfl⟩ := yields
    cases rest <;> simp [blocks, close]
  | stream supply =>
    obtain ⟨rfl, rfl, rfl⟩ := yields
    have persistent : false = true → supply.Steady := nofun
    obtain ⟨whole, ended, nonempty⟩ := supply.readAll_eq Pipe.blockSize_pos persistent
    exact ⟨whole, nonempty, ended, rfl⟩
  | pipe source =>
    obtain ⟨sound, rfl, rfl, rfl⟩ := yields
    exact ⟨rfl, source.ne_nil_of_mem_drain, rfl, Pipe.close_congr sound.drain_drain⟩

/-! ### Reading again after interruptions -/

theorem readToEnd_buffered (length : Nat) (rest : Bytes) :
    (buffered length rest).readToEnd.1 = ⟨rest, none⟩ := by
  cases rest <;> simp [readToEnd, blocks]

theorem readToEnd_stream (supply : Supply) :
    (stream supply).readToEnd.1 = ⟨supply.uninterrupted.payload, supply.uninterrupted.stop?⟩ := by
  obtain ⟨whole, stopped⟩ := supply.readAll_uninterrupted Pipe.blockSize_pos
  rw [← whole, ← stopped]
  rfl

end BodyReader

end HttpDispatch
