import HttpDispatch.Flow.Producer
import HttpDispatch.Flow.Ring

/-!
Pipes: a producer that fills a ring while a reader empties it. The reader is served from the ring;
when the ring is empty the producer works until it would have to wait or is done.
-/

namespace HttpDispatch.Flow

/-- The size of the ring of a pipe, which is also the size of the blocks in which streams are
copied. -/
def blockSize : Nat := 8192

/-- The producer's side of a pipe: what it still has to do, or how it ended. -/
inductive Worker where
  | running (script : Producer)
  | ended (ending : Ending)

namespace Worker

/-- `Later after before` holds when a producer's side comes to `after` by doing something. -/
inductive Later : Worker → Worker → Prop where
  | running {after before : Producer} (steps : Relation.TransGen Producer.Follows after before) :
    Later (running after) (running before)
  | ended (ending : Ending) (before : Producer) : Later (ended ending) (running before)

theorem later_wellFounded : WellFounded Later := by
  have ended_acc (ending : Ending) : Acc Later (ended ending) := ⟨_, fun _ later => by cases later⟩
  refine ⟨fun worker => ?_⟩
  cases worker with
  | ended ending => exact ended_acc ending
  | running script =>
    induction script using Producer.follows_wellFounded.transGen.induction with
    | _ script ih =>
      refine ⟨_, fun after later => ?_⟩
      cases later with
      | running steps => exact ih _ steps
      | ended ending => exact ended_acc ending

theorem Later.of_follows {after : Worker} {script before : Producer}
    (later : Later after (.running script)) (step : Producer.Follows script before) :
    Later after (.running before) := by
  cases later with
  | running steps => exact .running (steps.tail step)
  | ended ending => exact .ended ending before

end Worker

structure Pipe where
  ring : Ring blockSize
  worker : Worker

namespace Pipe

/-- Pipes get smaller when the producer does something, or else when the ring is emptied. -/
instance : WellFoundedRelation Pipe where
  rel := InvImage (Prod.Lex Worker.Later (· < ·)) fun pipe => (pipe.worker, pipe.ring.available)
  wf := InvImage.wf _ (Prod.lex ⟨_, Worker.later_wellFounded⟩ inferInstance).wf

/-- A write by a producer that is not made to wait: the answer and the ring after it. -/
def tryWrite (ring : Ring blockSize) (chunk : Bytes) :
    Option (Except IoFault Nat × Ring blockSize) :=
  match ring.write chunk with
  | (.refused, ring) => some (.error .streamClosed, ring)
  | (.accepted count, ring) => some (.ok count, ring)
  | (.waits, _) => none

/-- Lets a producer work until it would wait for room or is done. Being done closes the ring. -/
def advance (ring : Ring blockSize) : Producer → Pipe
  | .finish result => ⟨ring.close, .ended (Producer.ending result)⟩
  | .panic payload => ⟨ring.close, .ended (.error (.panicked payload))⟩
  | .flush next => advance ring (next (.ok ()))
  | .write chunk next =>
    match tryWrite ring chunk with
    | none => ⟨ring, .running (.write chunk next)⟩
    | some (answer, ring) => advance ring (next answer)
  | .writeAll chunk next =>
    if chunk = [] then advance ring (next (.ok ()))
    else match tryWrite ring chunk with
    | none => ⟨ring, .running (.writeAll chunk next)⟩
    | some (.error fault, ring) => advance ring (next (.error fault))
    | some (.ok count, ring) =>
      if count < chunk.length then ⟨ring, .running (.writeAll (chunk.drop count) next)⟩
      else advance ring (next (.ok ()))

theorem pos_of_tryWrite {ring after : Ring blockSize} {chunk : Bytes} {count : Nat}
    (nonempty : chunk ≠ []) (accepted : tryWrite ring chunk = some (.ok count, after)) :
    0 < count := by
  have := List.length_pos_iff.mpr nonempty
  unfold tryWrite Ring.write at accepted
  rw [if_neg (by simpa using nonempty)] at accepted
  split at accepted <;> split at * <;> grind

/-- Working either comes to something or has to wait at once. -/
theorem later_advance (ring : Ring blockSize) (script : Producer) :
    advance ring script = ⟨ring, .running script⟩ ∨
      Worker.Later (advance ring script).worker (.running script) := by
  have step {ring : Ring blockSize} {after before : Producer}
      (ih : advance ring after = ⟨ring, .running after⟩ ∨
        Worker.Later (advance ring after).worker (.running after))
      (follows : Producer.Follows after before) :
      Worker.Later (advance ring after).worker (.running before) := by
    rcases ih with waiting | later
    · rw [waiting]
      exact .running (.single follows)
    · exact later.of_follows follows
  induction script generalizing ring with
  | finish result => exact .inr (.ended _ _)
  | panic payload => exact .inr (.ended _ _)
  | flush next ih =>
    rw [advance]
    exact .inr (step (ih _ _) (.flush next _))
  | write chunk next ih =>
    unfold advance
    split
    · exact .inl rfl
    · exact .inr (step (ih _ _) (.write chunk next _))
  | writeAll chunk next ih =>
    unfold advance
    split
    · exact .inr (step (ih _ _) (.writeAll chunk next _))
    · rename_i nonempty
      split
      · exact .inl rfl
      · exact .inr (step (ih _ _) (.writeAll chunk next _))
      · rename_i accepted
        split
        · have := pos_of_tryWrite nonempty accepted
          refine .inr (.running (.single (.writePart _ _ next ?_)))
          rw [List.length_drop]
          omega
        · exact .inr (step (ih _ _) (.writeAll chunk next _))

def ofProducer (script : Producer) : Pipe := ⟨.empty, .running script⟩

/-- Lets the producer work if the reader would have to wait for it. -/
def ready (pipe : Pipe) : Pipe :=
  match pipe.worker with
  | .running script => if pipe.ring.available = 0 then advance pipe.ring script else pipe
  | .ended _ => pipe

def read (pipe : Pipe) (most : Nat) : Bytes × Pipe :=
  if most = 0 then ([], pipe)
  else match pipe.ready.ring.read most with
  | (.got bytes, ring) => (bytes, { pipe.ready with ring })
  | (.waits, _) => ([], pipe.ready)

/-- A read that gives something leaves a smaller pipe. -/
theorem smaller_of_read {pipe rest : Pipe} {most : Nat} {byte : UInt8} {bytes : Bytes}
    (got : pipe.read most = (byte :: bytes, rest)) : WellFoundedRelation.rel rest pipe := by
  have shrinks {before after : Ring blockSize}
      (taken : before.read most = (.got (byte :: bytes), after)) :
      after.available < before.available := by
    unfold Ring.read at taken
    unfold Ring.available at *
    grind
  unfold read at got
  split at got
  · simp at got
  · split at got
    · rename_i taken
      simp only [Prod.mk.injEq] at got
      obtain ⟨rfl, rfl⟩ := got
      have less := shrinks taken
      show Prod.Lex _ _ _ _
      have kept : pipe.ready = pipe ∨ Worker.Later pipe.ready.worker pipe.worker := by
        unfold ready
        split
        · rename_i script running
          split
          · rw [running]
            rcases later_advance pipe.ring script with waiting | later
            · left
              rw [waiting, ← running]
            · exact .inr later
          · exact .inl rfl
        · exact .inl rfl
      rcases kept with same | later
      · rw [same] at less ⊢
        exact .right _ less
      · exact .left _ _ later
    · simp at got

/-- Everything that reading to the end gives, in blocks, and what is left of the pipe. -/
def drain (pipe : Pipe) : List Bytes × Pipe :=
  match _outcome : pipe.read blockSize with
  | ([], rest) => ([], rest)
  | (byte :: bytes, rest) =>
    let later := drain rest
    ((byte :: bytes) :: later.1, later.2)
termination_by pipe
decreasing_by exact smaller_of_read _outcome

/-- The failure that closing a pipe reports: the one its producer ended with. -/
def failureOf : Ending → Option IoFault
  | .ok () => none
  | .error (.failed fault) => some fault
  | .error (.panicked _) => some .producerPanicked

/-- Reads what is left and waits for the producer. -/
def close (pipe : Pipe) : Option IoFault :=
  match pipe.drain.2.worker with
  | .ended ending => failureOf ending
  | .running _ => none

end Pipe

end HttpDispatch.Flow
