import HttpDispatch.Fault.Basic

/-!
The record of one dispatch, and the ways to report it.
-/

namespace HttpDispatch

/-- What is kept of a dispatch: the status answered, the request line, and what went wrong. -/
structure Record where
  status : Status
  method : String
  path : String
  error : Option String
  deriving DecidableEq

namespace Record

def ofFault (status : Status) (method path : String) (fault : Option Fault) : Record :=
  ⟨status, method, path, fault.map Fault.chain⟩

def line (record : Record) : String :=
  "[" ++ toString record.status.code ++ "] " ++ record.method ++ " " ++ record.path

end Record

/-- The weight of a reported event. -/
inductive Level where
  | info
  | warn
  | error
  deriving DecidableEq

structure Event where
  level : Level
  message : String
  record : Record

/-- The event of a record: an answered error weighs more than an error answered, and a failure of
the serving side weighs most. -/
def Event.ofRecord (record : Record) : Event :=
  match record.error with
  | none => ⟨if record.status.code < 400 then .info else .warn, "dispatched", record⟩
  | some _ => ⟨if record.status.code < 500 then .warn else .error, "dispatch failed", record⟩

inductive Channel where
  | output
  | error
  deriving DecidableEq

/-- The channel that a record is printed on. -/
def Record.channel (record : Record) : Channel :=
  if record.status.code < 400 then .output else .error

/-- The lines printed for a record: what went wrong, if anything, and the record itself. -/
def Record.printed (record : Record) : List String := record.error.toList ++ [record.line]

end HttpDispatch
