import HttpDispatch.Fault.Layer
import HttpDispatch.Form.Codec

/-!
Records read from urlencoded data. A record has named fields of simple types; names it does not
have are passed over, a field may be given once, and a required field has to be given.
-/

namespace HttpDispatch.Form

inductive FieldType where
  | text
  | integer (range : Text.IntegerRange)
  | truth
  | choice (first second : String)

inductive FieldValue where
  | text (value : String)
  | integer (value : Int)
  | truth (value : Bool)

structure Field where
  name : String
  type : FieldType
  required : Bool

/-- The fields of a record, in the order in which they are declared. -/
abbrev Shape := List Field

def FieldType.read : FieldType → String → Except FormDefect FieldValue
  | .text, written => .ok (.text written)
  | .integer range, written =>
    match Text.readInteger range written with
    | .ok value => .ok (.integer value)
    | .error defect => .error (.integer defect)
  | .truth, written =>
    match Text.readBool written with
    | some value => .ok (.truth value)
    | none => .error .truth
  | .choice first second, written =>
    if written = first ∨ written = second then .ok (.text written)
    else .error (.unknownVariant written first second)

/-- The values read so far, by field name. -/
abbrev Filled := List (String × FieldValue)

/-- Takes one pair: a field given twice is refused before its value is looked at. -/
def takePair (shape : Shape) (filled : Filled) (pair : String × String) :
    Except FormDefect Filled :=
  match shape.find? (·.name == pair.1) with
  | none => .ok filled
  | some field =>
    if (filled.lookup field.name).isSome then .error (.duplicateField field.name)
    else do
      let value ← field.type.read pair.2
      return filled ++ [(field.name, value)]

/-- The value of each field, in order, or the first required one that is missing. -/
def collect (filled : Filled) : Shape → Except FormDefect (List (Option FieldValue))
  | [] => .ok []
  | field :: shape =>
    match filled.lookup field.name with
    | none =>
      if field.required then .error (.missingField field.name)
      else (collect filled shape).map (none :: ·)
    | some value => (collect filled shape).map (some value :: ·)

/-- Reads a record from pairs, taken left to right. -/
def readRecord (shape : Shape) (pairs : Pairs) : Except FormDefect (List (Option FieldValue)) := do
  let filled ← pairs.foldlM (takePair shape) []
  collect filled shape

end HttpDispatch.Form
