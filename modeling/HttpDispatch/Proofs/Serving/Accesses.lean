import HttpDispatch.Serving.Extractor

/-!
Accesses to the body of a request. Each of them takes the body off the shelf first, so what it comes
to is known from what is on the shelf: it reads the body that it gets, or is refused.
-/

namespace HttpDispatch

variable {α : Type}

/-! ### The shelf -/

namespace Shelf

variable {ticket other : Ticket}

theorem body?_clear (shelf : Shelf) (ticket other : Ticket) :
    (shelf.clear ticket).body? other = if ticket = other then none else shelf.body? other := by
  unfold body? clear
  rw [List.getElem?_set]
  by_cases same : ticket = other
  · subst same
    rw [if_pos rfl, if_pos rfl]
    split <;> rfl
  · have apart : ticket.place ≠ other.place := fun equal => same (congrArg Ticket.mk equal)
    rw [if_neg apart, if_neg same]

theorem length_clear (shelf : Shelf) (ticket : Ticket) :
    (shelf.clear ticket).bodies.length = shelf.bodies.length :=
  List.length_set

theorem body?_put_of_lt (shelf : Shelf) (body : Body)
    (known : ticket.place < shelf.bodies.length) :
    (shelf.put body).2.body? ticket = shelf.body? ticket := by
  simp only [put, body?, List.getElem?_append_left known]

theorem body?_put (shelf : Shelf) (body : Body) :
    (shelf.put body).2.body? (shelf.put body).1 = some body := by
  simp [put, body?]

theorem length_put (shelf : Shelf) (body : Body) :
    (shelf.put body).2.bodies.length = shelf.bodies.length + 1 :=
  List.length_append

end Shelf

/-! ### Accesses -/

/-- A way to get at the body of a request, with what it gives. -/
inductive Access : Type → Type 1 where
  | take : Access Body
  | text : Access String
  | urlencoded : Access TextMap
  | form {α : Type} (decode : Form.Pairs → Except FormDefect α) : Access α
  /-- Nothing where the access fails. -/
  | optional {α : Type} (access : Access α) : Access (Option α)

/-- A failure as nothing. A panic is none. -/
def orNone {ε : Type} : Except (Stop ε) α → Except (Stop ε) (Option α)
  | .ok value => .ok (some value)
  | .error (.failed _) => .ok none
  | .error (.panicked payload) => .error (.panicked payload)

namespace Access

def perform : {α : Type} → Access α → Request → BodyAccess α
  | _, .take, request => request.takeBody
  | _, .text, request => request.text
  | _, .urlencoded, request => request.form
  | _, .form decode, request => do
    let body ← request.takeBody
    let bytes ← ExceptT.mk (pure body.collectBody)
    ExceptT.mk (pure ((decode (Form.decode bytes)).mapError fun defect =>
      .failed (.malformed defect)))
  | _, .optional access, request => fun shelf =>
    ((orNone (access.perform request shelf).1), (access.perform request shelf).2)

/-- What an access gives that gets this body. -/
def reading : {α : Type} → Access α → Request → Body → Except (Stop BodyFault) α
  | _, .take, _, body => .ok body
  | _, .text, _, body => body.text
  | _, .urlencoded, request, body =>
    body.form.map fun submitted => submitted.extend request.queryMap.entries
  | _, .form decode, _, body => body.collectBody.bind fun bytes =>
    (decode (Form.decode bytes)).mapError fun defect => .failed (.malformed defect)
  | _, .optional access, request, body => orNone (access.reading request body)

/-- What an access gives once the body is gone. -/
def refusal : {α : Type} → Access α → Except (Stop BodyFault) α
  | _, .optional access => orNone access.refusal
  | _, .take | _, .text | _, .urlencoded | _, .form _ => .error (.failed .consumed)

theorem takeBody_bind (request : Request) (next : Body → BodyAccess α) (shelf : Shelf) :
    (request.takeBody >>= next) shelf =
      match shelf.body? request.ticket with
      | some body => next body (shelf.clear request.ticket)
      | none => (.error (.failed .consumed), shelf) := by
  simp only [bind, ExceptT.bind, ExceptT.mk, StateT.bind, Request.takeBody]
  cases shelf.body? request.ticket <;> rfl

/-- An access reads the body, which is then gone, or it is refused and changes nothing. -/
theorem perform_eq (access : Access α) (request : Request) (shelf : Shelf) :
    access.perform request shelf =
      match shelf.body? request.ticket with
      | some body => (access.reading request body, shelf.clear request.ticket)
      | none => (access.refusal, shelf) := by
  induction access with
  | take =>
    rw [perform, Request.takeBody]
    cases shelf.body? request.ticket <;> rfl
  | text =>
    rw [perform, Request.text, takeBody_bind]
    cases shelf.body? request.ticket <;> rfl
  | urlencoded =>
    rw [perform, Request.form, takeBody_bind]
    cases shelf.body? request.ticket with
    | none => rfl
    | some body =>
      simp only [reading]
      cases body.form <;> rfl
  | form decode =>
    rw [perform, takeBody_bind]
    cases shelf.body? request.ticket with
    | none => rfl
    | some body =>
      simp only [reading]
      cases body.collectBody <;> rfl
  | optional access ih =>
    simp only [perform, ih]
    cases shelf.body? request.ticket <;> rfl

theorem length_perform (access : Access α) (request : Request) (shelf : Shelf) :
    (access.perform request shelf).2.bodies.length = shelf.bodies.length := by
  rw [perform_eq]
  split
  · exact Shelf.length_clear _ _
  · rfl

end Access

end HttpDispatch
