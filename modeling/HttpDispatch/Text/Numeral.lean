/-!
Values written as text: integers of a bounded range, truth values and the reasons why a text is
none of them. An integer is read from the left, so the first digit that leaves the range, or the
first character that is no digit, decides the reason.
-/

namespace HttpDispatch.Text

/-- The integers between two bounds. Only a range with negative members reads a minus sign. -/
structure IntegerRange where
  lowest : Int
  highest : Int

namespace IntegerRange

/-- The integers of so many bits, one of them for the sign. -/
def signed (bits : Nat) : IntegerRange :=
  ⟨-(Nat.pow 2 (bits - 1) : Int), (Nat.pow 2 (bits - 1) : Int) - 1⟩

/-- The natural numbers of so many bits. -/
def unsigned (bits : Nat) : IntegerRange := ⟨0, (Nat.pow 2 bits : Int) - 1⟩

def isSigned (range : IntegerRange) : Bool := range.lowest < 0

end IntegerRange

/-- Why a text is no integer of a range. -/
inductive IntegerDefect where
  | empty
  | invalidDigit
  | tooLarge
  | tooSmall
  deriving DecidableEq

def IntegerDefect.message : IntegerDefect → String
  | .empty => "cannot parse integer from empty string"
  | .invalidDigit => "invalid digit found in string"
  | .tooLarge => "number too large to fit in target type"
  | .tooSmall => "number too small to fit in target type"

def digit? (character : Char) : Option Nat :=
  if character.isDigit then some (character.toNat - '0'.toNat) else none

/-- Reads the digits after `value`, each one adding in the direction of the sign. -/
def readDigits (range : IntegerRange) (negative : Bool) (value : Int) :
    List Char → Except IntegerDefect Int
  | [] => .ok value
  | character :: rest =>
    match digit? character with
    | none => .error .invalidDigit
    | some digit =>
      let value := if negative then value * 10 - digit else value * 10 + digit
      if value < range.lowest then .error .tooSmall
      else if range.highest < value then .error .tooLarge
      else readDigits range negative value rest

/-- Reads an integer: an optional sign, then one or more ASCII digits. -/
def readInteger (range : IntegerRange) (text : String) : Except IntegerDefect Int :=
  match text.toList with
  | [] => .error .empty
  | ['+'] | ['-'] => .error .invalidDigit
  | '+' :: digits => readDigits range false 0 digits
  | '-' :: digits =>
    if range.isSigned then readDigits range true 0 digits else .error .invalidDigit
  | digits => readDigits range false 0 digits

def readBool (text : String) : Option Bool :=
  if text = "true" then some true else if text = "false" then some false else none

/-- Said of a text that is no truth value. -/
def badBoolMessage : String := "provided string was not \x60true\x60 or \x60false\x60"

/-- Why a text is no decimal number. -/
inductive DecimalDefect where
  | empty
  | invalid
  deriving DecidableEq

def DecimalDefect.message : DecimalDefect → String
  | .empty => "cannot parse float from empty string"
  | .invalid => "invalid float literal"

end HttpDispatch.Text
