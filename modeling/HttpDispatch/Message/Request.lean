import HttpDispatch.Body.Delivery
import HttpDispatch.Message.Headers
import HttpDispatch.Message.Target

/-!
Requests. The head of a request is plain data and may be copied freely. Its body is kept on a
shelf and is handed out once for the ticket that every copy of the request carries, so whoever
comes first gets it.
-/

namespace HttpDispatch

/-- The claim to the body of one request. -/
structure Ticket where
  place : Nat
  deriving DecidableEq

/-- The bodies of requests, those not taken yet in their places. -/
structure Shelf where
  bodies : List (Option Body)

namespace Shelf

def empty : Shelf := ⟨[]⟩

/-- Puts a body on the shelf and hands out its ticket. -/
def put (shelf : Shelf) (body : Body) : Ticket × Shelf :=
  (⟨shelf.bodies.length⟩, ⟨shelf.bodies ++ [some body]⟩)

def body? (shelf : Shelf) (ticket : Ticket) : Option Body := (shelf.bodies[ticket.place]?).join

/-- Takes the body of a ticket off the shelf. -/
def clear (shelf : Shelf) (ticket : Ticket) : Shelf := ⟨shelf.bodies.set ticket.place none⟩

end Shelf

/-- Something done with the bodies of requests. -/
abbrev BodyAccess (α : Type) := ExceptT (Stop BodyFault) (StateM Shelf) α

structure Request where
  path : String
  query : Option String
  headers : Headers
  cookies : TextMap
  params : List String
  ticket : Ticket

namespace Request

/-- The first value of a header, if it can be shown as text. -/
def header? (request : Request) (name : HeaderName) : Option String :=
  request.headers.readable? name

/-- The value of a cookie, which has to be there. -/
def cookie (request : Request) (name : String) : Except Fault String :=
  match request.cookies.get? name with
  | some value => .ok value
  | none => .error (.missingCookie name none)

def queryPairs (request : Request) : Form.Pairs :=
  Form.decode (Utf8.encode (request.query.getD ""))

def queryMap (request : Request) : TextMap := .ofPairs request.queryPairs

/-- Takes the body, which fails once it is gone. -/
def takeBody (request : Request) : BodyAccess Body := fun shelf =>
  match shelf.body? request.ticket with
  | some body => (.ok body, shelf.clear request.ticket)
  | none => (.error (.failed .consumed), shelf)

def text (request : Request) : BodyAccess String := do
  let body ← request.takeBody
  ExceptT.mk (pure body.text)

/-- Takes the body and reads it as a form; a value in the query counts more than one in the
body. -/
def form (request : Request) : BodyAccess TextMap := do
  let body ← request.takeBody
  let submitted ← ExceptT.mk (pure body.form)
  return submitted.extend request.queryMap.entries

end Request

structure RequestDraft where
  path : String
  query : Option String := none
  headers : Headers := .empty
  cookies : TextMap := .empty
  params : List String := []
  body : Option Body := none

namespace RequestDraft

def ofPath (path : String) : RequestDraft := { path }

def withQuery (draft : RequestDraft) (query : String) : RequestDraft :=
  { draft with query := some query }

def withHeader (draft : RequestDraft) (name : HeaderName) (value : String) : RequestDraft :=
  { draft with headers := draft.headers.append name value }

def withHeaders (draft : RequestDraft) (headers : Headers) : RequestDraft := { draft with headers }

def withCookie (draft : RequestDraft) (name value : String) : RequestDraft :=
  { draft with cookies := draft.cookies.insert name value }

def withParams (draft : RequestDraft) (params : List String) : RequestDraft := { draft with params }

/-- Sets the body, whose media type is announced unless one is announced already. -/
def withBody (draft : RequestDraft) (body : Body) : RequestDraft :=
  { draft with
    headers :=
      if draft.headers.contains .contentType then draft.headers
      else draft.headers.insert .contentType body.mime.text
    body := some body }

/-- The request that arrived for a target with headers and a body. -/
def ofMessage (target : Target) (headers : Headers) (body : Body) (params : List String) :
    RequestDraft :=
  { (((ofPath target.path).withHeaders headers).withParams params).withBody body with
    query := target.query }

/-- Finishes the request. Without a body it gets the empty one. -/
def build (draft : RequestDraft) : StateM Shelf Request := fun shelf =>
  let (ticket, shelf) := shelf.put (draft.body.getD .empty)
  (⟨draft.path, draft.query, draft.headers, draft.cookies, draft.params, ticket⟩, shelf)

end RequestDraft

end HttpDispatch
