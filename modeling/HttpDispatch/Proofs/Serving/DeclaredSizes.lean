import HttpDispatch.Proofs.Body.Collecting
import HttpDispatch.Proofs.Serving.Delivering
import HttpDispatch.Proofs.Serving.Matching

/-!
Declared sizes of streamed bodies. Every access that collects a body comes to what collecting it
comes to, which is what the source gives, whatever size is declared, as long as room for the size
can be asked for.
-/

namespace HttpDispatch

open HttpDispatch.Flow

/-! ### Accesses that collect -/

namespace Body

variable {body : Body}

/-- Bytes that were collected are as good as bytes in memory. -/
theorem collectBody_of_ok {bytes : Bytes} (collected : body.collect = .ok bytes) :
    body.collectBody = (ofBytes bytes).collectBody := by
  have stored : (ofBytes bytes).collect = .ok bytes := by cases bytes <;> rfl
  rw [collectBody, collectBody, collected, stored]

theorem collectBody_of_error {stop : Stop IoFault} (failed : body.collect = .error stop) :
    body.collectBody = .error (stop.map .io) := by
  rw [collectBody, failed]
  rfl

end Body

namespace Access

variable {α : Type} {body : Body}

/-- The access reads the body, and does not just take it. -/
def Collects : {α : Type} → Access α → Prop
  | _, .take => False
  | _, .text | _, .urlencoded | _, .form _ => True
  | _, .optional access => access.Collects

/-- What an access gives if collecting the body stops so. -/
def stopped : {α : Type} → Access α → Stop IoFault → Except (Stop BodyFault) α
  | _, .take, stop | _, .text, stop | _, .urlencoded, stop | _, .form _, stop =>
    .error (stop.map .io)
  | _, .optional access, stop => orNone (access.stopped stop)

theorem reading_of_ok {access : Access α} (collects : access.Collects) (request : Request)
    {bytes : Bytes} (collected : body.collect = .ok bytes) :
    access.reading request body = access.reading request (.ofBytes bytes) := by
  have same := Body.collectBody_of_ok collected
  induction access with
  | take => exact collects.elim
  | text => simp only [reading, Body.text, same]
  | urlencoded => simp only [reading, Body.form, same]
  | form decode => simp only [reading, same]
  | optional access ih => exact congrArg orNone (ih collects)

theorem reading_of_error {access : Access α} (collects : access.Collects) (request : Request)
    {stop : Stop IoFault} (failed : body.collect = .error stop) :
    access.reading request body = access.stopped stop := by
  have same := Body.collectBody_of_error failed
  induction access with
  | take => exact collects.elim
  | text => simp only [reading, Body.text, same]; rfl
  | urlencoded => simp only [reading, Body.form, same]; rfl
  | form decode => simp only [reading, same]; rfl
  | optional access ih => exact congrArg orNone (ih collects)

/-- Bodies that are collected to the same are read alike. -/
theorem reading_congr {access : Access α} (collects : access.Collects) (request : Request)
    {other : Body} (same : body.collect = other.collect) :
    access.reading request body = access.reading request other := by
  cases collected : body.collect with
  | error stop =>
    rw [collected] at same
    rw [reading_of_error collects request collected, reading_of_error collects request same.symm]
  | ok bytes =>
    rw [collected] at same
    rw [reading_of_ok collects request collected, reading_of_ok collects request same.symm]

end Access

/-! ### Bodies that come to the same -/

variable {κ σ : Type} [DecidableEq κ] [ContextCatalog κ]

/-- A body is collected to this, and so are all accesses to it that collect it. -/
structure Body.CollectsTo (κ σ : Type) [DecidableEq κ] [ContextCatalog κ] (body : Body)
    (collected : Except (Stop IoFault) Bytes) : Prop where
  bytes : body.collect = collected
  /-- Its bytes are decoded as if they had been in memory. -/
  decodes : ∀ bytes, collected = .ok bytes →
    body.text = (Body.ofBytes bytes).text ∧ body.form = (Body.ofBytes bytes).form
  fails : ∀ stop, collected = .error stop →
    body.text = .error (stop.map .io) ∧ body.form = .error (stop.map .io)
  reads : ∀ {α : Type} (access : Access α), access.Collects → ∀ request bytes,
    collected = .ok bytes → access.reading request body = access.reading request (.ofBytes bytes)
  stops : ∀ {α : Type} (access : Access α), access.Collects → ∀ request stop,
    collected = .error stop → access.reading request body = access.stopped stop
  /-- The request gives what is read of its body. -/
  performs : ∀ {α : Type} (access : Access α) (request : Request) (shelf : Shelf),
    shelf.body? request.ticket = some body →
      access.perform request shelf = (access.reading request body, shelf.clear request.ticket)
  forms : ∀ {α : Type} (decode : Form.Pairs → Except FormDefect α) (context : Context κ)
    (request : Request) (world : World σ), context.request? = some request →
      world.shelf.body? request.ticket = some body →
      Extractor.form decode context world =
        (((Access.form decode).reading request body).mapError (Stop.map BodyFault.toFault),
          { world with shelf := world.shelf.clear request.ticket })

theorem Body.collectsTo {body : Body} {collected : Except (Stop IoFault) Bytes}
    (comes : body.collect = collected) : body.CollectsTo κ σ collected where
  bytes := comes
  decodes bytes whole := by
    have same := Body.collectBody_of_ok (comes.trans whole)
    simp only [Body.text, Body.form, same, and_self]
  fails stop failed := by
    have same := Body.collectBody_of_error (comes.trans failed)
    simp only [Body.text, Body.form, same]
    exact ⟨rfl, rfl⟩
  reads _ collects request _ whole := Access.reading_of_ok collects request (comes.trans whole)
  stops _ collects request _ failed := Access.reading_of_error collects request (comes.trans failed)
  performs access request shelf held := by rw [access.perform_eq, held]
  forms decode context request world asked held := by
    rw [← Conduct.service_form, Conduct.ofRequest, asked]
    simp only [Conduct.service_accesses, Service.ofAccess_eq, Access.perform_eq, held]

/-- The size that a streamed body declares is only a hint, up to the largest for which room can be
asked for: any two such sizes give the same, which is what the source gives. Above it collecting
the body is a panic. -/
theorem declared_size_is_hint {body : Body} (streamed : body.source.IsStreamed) :
    (∀ size other : Option Nat,
      size.getD 0 ≤ Body.maxReserve → other.getD 0 ≤ Body.maxReserve →
        ∀ {α : Type} (access : Access α), access.Collects → ∀ request,
          access.reading request (body.withSize size) =
            access.reading request (body.withSize other)) ∧
      (∀ size : Option Nat, size.getD 0 ≤ Body.maxReserve →
        (body.withSize size).CollectsTo κ σ body.source.collected) ∧
      ∀ size : Option Nat, Body.maxReserve < size.getD 0 →
        (body.withSize size).CollectsTo κ σ (.error (.panicked (.text "capacity overflow"))) := by
  have hint (size : Option Nat) (fits : size.getD 0 ≤ Body.maxReserve) :
      (body.withSize size).collect = body.source.collected :=
    (Body.collect_withSize streamed size).trans (if_neg (Nat.not_lt.mpr fits))
  refine ⟨?_, ?_, ?_⟩
  · intro size other fits fitsOther α access collects request
    exact Access.reading_congr collects request ((hint size fits).trans (hint other fitsOther).symm)
  · intro size fits
    exact Body.collectsTo (hint size fits)
  · intro size large
    exact Body.collectsTo ((Body.collect_withSize streamed size).trans (if_pos large))

/-- Three bytes that come from a reader. -/
def Body.letters : Body := .ofReader none (.ok [.chunk [97, 98, 99]])

/-- A wrong size does no harm, but one above the largest does. -/
theorem letters_declared :
    Body.letters.source.IsStreamed ∧
      (Body.letters.withSize (some 7)).collect = .ok [97, 98, 99] ∧
      (Body.letters.withSize (some (Nat.pow 2 63))).collect =
        .error (.panicked (.text "capacity overflow")) := by
  have streamed : Body.letters.source.IsStreamed := trivial
  obtain ⟨-, hints, overflows⟩ := declared_size_is_hint (κ := Empty) (σ := Unit) streamed
  refine ⟨streamed, ?_, ?_⟩
  · exact (hints (some 7) (by decide)).bytes
  · exact (overflows (some (Nat.pow 2 63)) (by decide)).bytes

/-- Not all sizes of 64 bits are only hints. -/
theorem collect_of_overflowing_size :
    ¬ ∀ body : Body, body.source.IsStreamed → ∀ size other : Option Nat,
      (∀ count ∈ size, count < Nat.pow 2 64) → (∀ count ∈ other, count < Nat.pow 2 64) →
        (body.withSize size).collect = (body.withSize other).collect := by
  intro hint
  have streamed : Body.letters.source.IsStreamed := trivial
  have gives : Body.letters.source.collected = .ok [97, 98, 99] := rfl
  have same := hint .letters streamed (some (Nat.pow 2 63)) (some 3) (by simp) (by simp)
  rw [Body.collect_withSize streamed, Body.collect_withSize streamed, if_pos (by decide),
    if_neg (by decide), gives] at same
  cases same

end HttpDispatch
