import HttpDispatch.Form.Codec
import HttpDispatch.Message.Mime
import HttpDispatch.Message.Status
import HttpDispatch.Flow.Producer
import HttpDispatch.Flow.Supply
import HttpDispatch.Text.Quoted

/-!
Bodies of messages. A body is held in memory, read from a supply that is opened when it is needed,
or pushed by a producer; it declares a size, which may be unknown, and a media type.
-/

namespace HttpDispatch

inductive Source where
  | empty
  /-- Bytes in memory, of which there are some. -/
  | once (bytes : Bytes) (nonempty : bytes ≠ [])
  /-- What opening the supply comes to, when the body is read. -/
  | reader (opening : Except (Stop IoFault) Flow.Supply)
  | producer (script : Flow.Producer)

def Source.kind : Source → String
  | empty => "empty"
  | once _ _ => "once"
  | reader _ => "reader"
  | producer _ => "producer"

structure Body where
  source : Source
  size : Option Nat
  mime : Mime

namespace Body

def empty : Body := ⟨.empty, some 0, .octetStream⟩

/-- A body in memory. Without bytes it is the empty body. -/
def ofBytes (bytes : Bytes) : Body :=
  if nothing : bytes = [] then empty else ⟨.once bytes nothing, some bytes.length, .octetStream⟩

def ofReader (size : Option Nat) (opening : Except (Stop IoFault) Flow.Supply) : Body :=
  ⟨.reader opening, size, .octetStream⟩

def ofProducer (size : Option Nat) (script : Flow.Producer) : Body :=
  ⟨.producer script, size, .octetStream⟩

def withMime (body : Body) (mime : Mime) : Body := { body with mime }

def withSize (body : Body) (size : Option Nat) : Body := { body with size }

def ofText (text : String) : Body := (ofBytes (Utf8.encode text)).withMime .textPlain

def ofHtml (html : String) : Body := (ofBytes (Utf8.encode html)).withMime .textHtml

/-- Pairs as the body of a submitted form. -/
def ofForm (pairs : Form.Pairs) : Body := (ofBytes (Form.encode pairs)).withMime .formUrlencoded

def errorPage (status : Status) : Body :=
  let code := toString status.code
  let side := if status.isServerError then "Server" else "Client"
  ofHtml ("<!DOCTYPE html><html lang=\"en\"><head><title>" ++ code ++
    "</title><meta charset=\"UTF-8\"></head><body><h1>" ++ code ++ "</h1><p>" ++
    status.reason?.getD "" ++ "</p><footer>" ++ side ++ " Error</footer></body></html>")

/-- Whether the body declares to have no bytes. -/
def isEmpty (body : Body) : Bool := body.size == some 0

def isPushed (body : Body) : Bool :=
  match body.source with
  | .producer _ => true
  | _ => false

def summary (body : Body) : String :=
  let size := match body.size with
    | some size => "Some(" ++ toString size ++ ")"
    | none => "None"
  "Body \x7b kind: " ++ Text.quoted body.source.kind ++ ", size: " ++ size ++ ", mime: " ++
    Text.quoted body.mime.text ++ " \x7d"

end Body

end HttpDispatch
