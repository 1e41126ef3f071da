import HttpDispatch.Fault.Basic
import HttpDispatch.Message.Response

/-!
What handlers give back. A reply is a response, something that makes one, or one of these inside a
result, an option or a pair with a status.
-/

namespace HttpDispatch

inductive ReplyShape where
  | unit
  | text
  | body
  | response
  | result (inner : ReplyShape)
  | option (inner : ReplyShape)
  | withStatus (inner : ReplyShape)

namespace ReplyShape

@[reducible] def Value : ReplyShape → Type
  | unit => Unit
  | text => String
  | body => Body
  | response => Response
  | result inner => Except Fault inner.Value
  | option inner => Option inner.Value
  | withStatus inner => Status × inner.Value

/-- Whether replies of a shape say nothing more than that all went well. -/
def isVoid : ReplyShape → Bool
  | unit => true
  | result inner => inner.isVoid
  | _ => false

/-- The response that a reply stands for, or the failure that it carries. -/
def respond : (shape : ReplyShape) → shape.Value → Except Fault Response
  | unit, () => .ok (.withBody .ok .empty)
  | text, words => .ok (.ofBody (.ofText words))
  | body, content => .ok (.ofBody content)
  | response, given => .ok given
  | result inner, reply => reply.bind inner.respond
  | option _, none => .ok (.ofBody .empty)
  | option inner, some reply => inner.respond reply
  | withStatus inner, (status, reply) =>
    (inner.respond reply).map fun response => { response with status }

end ReplyShape

end HttpDispatch
