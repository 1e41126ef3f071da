import HttpDispatch.Decimal.Shortest
import HttpDispatch.Text.Quoted

/-!
Structured documents, as settings are stored in them.
-/

namespace HttpDispatch

/-- A value of a structured document. -/
inductive Document where
  | null
  | boolean (value : Bool)
  | integer (value : Int)
  | real (value : Float)
  | string (text : String)
  | list (items : List Document)
  | map (fields : List (String × Document))

namespace Document

/-- The value of a name in a map. -/
def field? : Document → String → Option Document
  | map fields, name => fields.lookup name
  | _, _ => none

def items : Document → List Document
  | list items => items
  | _ => []

/-- A value as it is named in a complaint about its type. -/
def describe : Document → String
  | null => "null"
  | boolean value => "boolean `" ++ (if value then "true" else "false") ++ "`"
  | integer value => "integer `" ++ toString value ++ "`"
  | real value => "floating point `" ++ Decimal.display value ++ "`"
  | string text => "string " ++ Text.quoted text
  | list _ => "sequence"
  | map _ => "map"

end Document

end HttpDispatch
