import HttpDispatch.Fault.Basic

/-!
Sinks of bytes. A sink answers each write with the number of bytes it took from the front of the
chunk, or with a failure; `writeAll` writes a chunk to its end and tells which bytes the sink took.
-/

namespace HttpDispatch.Flow

/-- A sink with states `σ`. It never takes more than it is offered, and it interrupts writes only
finitely often in a row: `patience` bounds how often it still may. -/
structure Sink (σ : Type) where
  write : σ → Bytes → Except IoFault Nat × σ
  flush : σ → Except IoFault Unit × σ
  patience : σ → Nat
  write_le : ∀ state chunk count after,
    write state chunk = (.ok count, after) → count ≤ chunk.length
  patience_lt : ∀ state chunk fault after,
    write state chunk = (.error fault, after) → fault.kind = .interrupted →
      patience after < patience state

/-- What a stretch of writing came to: how it ended, the bytes that the sink took, in order, and
the state it was left in. -/
structure Transfer (σ ρ : Type) where
  result : ρ
  taken : Bytes
  after : σ

namespace Transfer

/-- A stretch of writing followed by another one. -/
def andThen (first : Transfer σ ρ) (second : Transfer σ τ) : Transfer σ τ :=
  { second with taken := first.taken ++ second.taken }

end Transfer

namespace Sink

variable {σ : Type}

def unbounded : Sink Unit where
  write _ chunk := (.ok chunk.length, ())
  flush _ := (.ok (), ())
  patience _ := 0
  write_le _ _ _ _ answered := by
    simp only [Prod.mk.injEq, Except.ok.injEq] at answered
    omega
  patience_lt _ _ _ _ answered := by simp at answered

/-- What a limited sink still takes, if there is a limit, and how often it was flushed. -/
structure Quota where
  left : Option Nat
  flushes : Nat := 0

/-- The front of a chunk, as long as a limit allows. -/
def front (limit : Option Nat) (chunk : Bytes) : Bytes :=
  match limit with
  | some limit => chunk.take limit
  | none => chunk

theorem length_front_le (limit : Option Nat) (chunk : Bytes) :
    (front limit chunk).length ≤ chunk.length := by
  cases limit with
  | none => exact Nat.le_refl _
  | some limit =>
    rw [front, List.length_take]
    exact Nat.min_le_right _ _

/-- The sink that takes at most `most` bytes at a time and no more than its quota. Once full it
answers each write with a failure, or takes nothing; an interruption, which would be met for ever,
counts as taking nothing. -/
def limited (most : Option Nat) (full flushing : Option IoFault) : Sink Quota where
  write quota chunk :=
    if chunk.isEmpty then (.ok 0, quota)
    else if quota.left = some 0 then
      match full with
      | some fault => (if fault.kind = .interrupted then .ok 0 else .error fault, quota)
      | none => (.ok 0, quota)
    else
      let count := (front quota.left (front most chunk)).length
      (.ok count, { quota with left := quota.left.map (· - count) })
  flush quota :=
    (match flushing with
      | some fault => .error fault
      | none => .ok (), { quota with flushes := quota.flushes + 1 })
  patience _ := 0
  write_le quota chunk count after answered := by
    simp only at answered
    repeat' split at answered
    all_goals simp only [Prod.mk.injEq, Except.ok.injEq, reduceCtorEq, false_and] at answered
    all_goals have := length_front_le quota.left (front most chunk)
    all_goals have := length_front_le most chunk
    all_goals omega
  patience_lt quota chunk fault after answered interrupted := by
    simp only at answered
    repeat' split at answered
    all_goals simp_all

/-- The same sink, which also counts the bytes that it took. -/
def counting (sink : Sink σ) : Sink (σ × Nat) where
  write state chunk :=
    let answer := sink.write state.1 chunk
    (answer.1, answer.2, state.2 + answer.1.toOption.getD 0)
  flush state :=
    let answer := sink.flush state.1
    (answer.1, answer.2, state.2)
  patience state := sink.patience state.1
  write_le state chunk count after answered := by
    refine sink.write_le state.1 chunk count (sink.write state.1 chunk).2 ?_
    rw [← (Prod.mk.inj answered).1]
  patience_lt state chunk fault after answered interrupted := by
    rw [← (Prod.mk.inj answered).2]
    refine sink.patience_lt state.1 chunk fault _ ?_ interrupted
    rw [← (Prod.mk.inj answered).1]

/-- Writes until the whole chunk is taken. An interrupted write is made again, and a sink that
takes nothing has failed. -/
def writeAll (sink : Sink σ) (state : σ) (chunk : Bytes) : Transfer σ (Except IoFault Unit) :=
  if _isDone : chunk = [] then ⟨.ok (), [], state⟩
  else match answer : sink.write state chunk with
  | (.ok 0, after) => ⟨.error .writeZero, [], after⟩
  | (.ok (count + 1), after) =>
    let later := sink.writeAll after (chunk.drop (count + 1))
    { later with taken := chunk.take (count + 1) ++ later.taken }
  | (.error fault, after) =>
    if _interrupted : fault.kind = .interrupted then sink.writeAll after chunk
    else ⟨.error fault, [], after⟩
termination_by (chunk.length, sink.patience state)
decreasing_by
  · apply Prod.Lex.left
    have := List.length_pos_iff.mpr _isDone
    simp only [List.length_drop]
    omega
  · apply Prod.Lex.right
    exact sink.patience_lt _ _ _ _ answer _interrupted

/-- Writes chunks one after the other, up to the first failure. -/
def writeChunks (sink : Sink σ) (state : σ) : List Bytes → Transfer σ (Except IoFault Unit)
  | [] => ⟨.ok (), [], state⟩
  | chunk :: chunks =>
    let first := sink.writeAll state chunk
    match first.result with
    | .error fault => { first with result := .error fault }
    | .ok () => first.andThen (sink.writeChunks first.after chunks)

end Sink

end HttpDispatch.Flow
