import HttpDispatch.Message.Mime
import HttpDispatch.Settings.Document

/-!
The settings of a dispatcher. A stored document may leave out any of them; a field that is there
has to be valid.
-/

namespace HttpDispatch

/-- The media types assumed of endpoints that declare none, and whether patterns have wildcards. -/
structure Config where
  defaultIn : Mime := .formUrlencoded
  defaultOut : Mime := .textHtml
  wildcards : Bool := true
  deriving DecidableEq

namespace Config

def standard : Config := {}

inductive Defect where
  | wrongType (found : Document) (expected : String)
  | invalidMime (text : String) (defect : Mime.Defect)
  | tooLong (length : Nat)

def Defect.message : Defect → String
  | .wrongType found expected => "invalid type: " ++ found.describe ++ ", expected " ++ expected
  | .invalidMime text defect => "invalid mime type " ++ Text.quoted text ++ ": " ++ defect.message
  | .tooLong length =>
    "invalid length " ++ toString length ++ ", expected fewer elements in array"

def readMime : Document → Except Defect Mime
  | .string text => (Mime.parse text).mapError (.invalidMime text)
  | found => .error (.wrongType found "a string")

def readBool : Document → Except Defect Bool
  | .boolean value => .ok value
  | found => .error (.wrongType found "a boolean")

/-- The value of a field, or the default where the field is missing. -/
def readField (read : Document → Except Defect α) (default : α) : Option Document → Except Defect α
  | some document => read document
  | none => .ok default

/-- Reads the three settings in the order of their names; the first bad one is reported. -/
def readFields (defaultIn defaultOut wildcards : Option Document) : Except Defect Config := do
  let defaultIn ← readField readMime standard.defaultIn defaultIn
  let defaultOut ← readField readMime standard.defaultOut defaultOut
  let wildcards ← readField readBool standard.wildcards wildcards
  return ⟨defaultIn, defaultOut, wildcards⟩

/-- Reads settings from a map by name, ignoring unknown names, or from a list by position. -/
def ofDocument : Document → Except Defect Config
  | .map fields =>
    readFields (fields.lookup "default_in") (fields.lookup "default_out")
      (fields.lookup "wildcards")
  | .list items => do
    let config ← readFields items[0]? items[1]? items[2]?
    if items.length ≤ 3 then return config else throw (.tooLong items.length)
  | found => .error (.wrongType found "struct DispatchConfig")

/-- The document that settings are stored as. -/
def toDocument (config : Config) : Document :=
  .map [
    ("default_in", .string config.defaultIn.text),
    ("default_out", .string config.defaultOut.text),
    ("wildcards", .boolean config.wildcards)]

end Config

end HttpDispatch
