import HttpDispatch.Decimal.Scaled
import HttpDispatch.Settings.Document
import HttpDispatch.Text.Numeral

/-!
Documents as JSON text. `read` takes one document with blanks around it, and of a name that is
given twice it keeps the last value; `write` puts no blanks anywhere. A number without fraction and
exponent is an integer if it fits into 64 bits; any other is a double, and has to be finite.
-/

namespace HttpDispatch.Json

open HttpDispatch.Text (IntegerRange)

def isBlank (character : Char) : Bool :=
  character = ' ' || character = '\t' || character = '\n' || character = '\r'

def skipBlanks (input : List Char) : List Char := input.dropWhile isBlank

def hexNumber? (digits : List Char) : Option Nat :=
  digits.foldlM (fun value digit =>
    if digit.isDigit then some (value * 16 + (digit.toNat - '0'.toNat))
    else if 'a' ≤ digit.toLower ∧ digit.toLower ≤ 'f' then
      some (value * 16 + (digit.toLower.toNat - 'a'.toNat + 10))
    else none) 0

/-- The marks that follow a backslash in place of a character. -/
def shortEscapes : List (Char × Char) := [
  ('"', '"'), ('\\', '\\'), ('/', '/'), ('n', '\n'), ('t', '\t'), ('r', '\r'), ('b', '\x08'),
  ('f', '\x0c')]

/-- Reads what follows a backslash. A character beyond the first plane takes two escapes. -/
def readEscape : List Char → Option (Char × List Char)
  | 'u' :: a :: b :: c :: d :: rest => do
    let first ← hexNumber? [a, b, c, d]
    if first < 0xD800 ∨ 0xE000 ≤ first then some (Char.ofNat first, rest)
    else if 0xDC00 ≤ first then none
    else match rest with
    | '\\' :: 'u' :: e :: f :: g :: h :: rest => do
      let second ← hexNumber? [e, f, g, h]
      if 0xDC00 ≤ second ∧ second < 0xE000 then
        some (Char.ofNat (0x10000 + (first - 0xD800) * 0x400 + (second - 0xDC00)), rest)
      else none
    | _ => none
  | mark :: rest => (shortEscapes.lookup mark).map (·, rest)
  | [] => none

/-- Reads the rest of a string after its opening quote; `passed` is what came before, reversed. -/
def readString (passed : List Char) : Nat → List Char → Option (String × List Char)
  | 0, _ | _, [] => none
  | fuel + 1, character :: rest =>
    if character = '"' then some (String.ofList passed.reverse, rest)
    else if character = '\\' then do
      let (escaped, rest) ← readEscape rest
      readString (escaped :: passed) fuel rest
    else if character.toNat < 0x20 then none
    else readString (character :: passed) fuel rest

/-- The parts of a written number. -/
structure Numeral where
  negative : Bool
  whole : List Char
  fraction : List Char
  exponent : Int

namespace Numeral

def significand (numeral : Numeral) : Nat :=
  Nat.ofDigitChars 10 (numeral.whole ++ numeral.fraction) 0

def toFloat? (numeral : Numeral) : Option Float := do
  let magnitude ← ((Decimal.Scaled.ofDigits numeral.whole numeral.fraction).shift
    numeral.exponent).toFloat?
  some (if numeral.negative then -magnitude else magnitude)

end Numeral

def readDigits (input : List Char) : Option (List Char × List Char) :=
  let digits := input.takeWhile Char.isDigit
  if digits.isEmpty then none else some (digits, input.dropWhile Char.isDigit)

def readExponent : List Char → Option (Int × List Char)
  | '-' :: input => (readDigits input).map fun (digits, rest) =>
    (-(Nat.ofDigitChars 10 digits 0 : Int), rest)
  | '+' :: input | input => (readDigits input).map fun (digits, rest) =>
    (Nat.ofDigitChars 10 digits 0, rest)

def readNumber (input : List Char) : Option (Document × List Char) := do
  let negative := input.head? == some '-'
  let (whole, rest) ← readDigits (if negative then input.drop 1 else input)
  if whole.head? = some '0' ∧ 1 < whole.length then none
  else
    let (fraction, rest) ← match rest with
      | '.' :: rest => readDigits rest
      | _ => some ([], rest)
    let (exponent, rest) ← match rest with
      | 'e' :: rest | 'E' :: rest => (readExponent rest).map fun (found, rest) => (some found, rest)
      | _ => some (none, rest)
    let numeral : Numeral := ⟨negative, whole, fraction, exponent.getD 0⟩
    let integer : Int := if negative then -numeral.significand else numeral.significand
    let fits := (IntegerRange.signed 64).lowest ≤ integer ∧
      integer ≤ (IntegerRange.unsigned 64).highest
    if fraction.isEmpty ∧ exponent.isNone ∧ fits ∧ ¬(negative ∧ integer = 0) then
      some (.integer integer, rest)
    else numeral.toFloat?.map (.real ·, rest)

def expect? (wanted : List Char) (input : List Char) : Option (List Char) :=
  if wanted.isPrefixOf input then some (input.drop wanted.length) else none

mutual

/-- Reads a document. The fuel bounds the number of steps and the length of strings. -/
def readDocument : Nat → List Char → Option (Document × List Char)
  | 0, _ => none
  | fuel + 1, input =>
    match skipBlanks input with
    | 'n' :: rest => (expect? ['u', 'l', 'l'] rest).map (.null, ·)
    | 't' :: rest => (expect? ['r', 'u', 'e'] rest).map (.boolean true, ·)
    | 'f' :: rest => (expect? ['a', 'l', 's', 'e'] rest).map (.boolean false, ·)
    | '"' :: rest => (readString [] fuel rest).map fun (text, rest) => (.string text, rest)
    | '[' :: rest =>
      match skipBlanks rest with
      | ']' :: rest => some (.list [], rest)
      | rest => (readItems fuel rest).map fun (items, rest) => (.list items, rest)
    | '\x7b' :: rest =>
      match skipBlanks rest with
      | '\x7d' :: rest => some (.map [], rest)
      | rest => (readFields fuel rest).map fun (fields, rest) => (.map fields, rest)
    | rest => readNumber rest

/-- Reads the items of a list and its closing bracket. -/
def readItems : Nat → List Char → Option (List Document × List Char)
  | 0, _ => none
  | fuel + 1, input => do
    let (item, rest) ← readDocument fuel input
    match skipBlanks rest with
    | ',' :: rest => (readItems fuel rest).map fun (items, rest) => (item :: items, rest)
    | ']' :: rest => some ([item], rest)
    | _ => none

/-- Reads the fields of a map and its closing brace. -/
def readFields : Nat → List Char → Option (List (String × Document) × List Char)
  | 0, _ => none
  | fuel + 1, input => do
    let rest ← expect? ['"'] (skipBlanks input)
    let (name, rest) ← readString [] fuel rest
    let rest ← expect? [':'] (skipBlanks rest)
    let (value, rest) ← readDocument fuel rest
    match skipBlanks rest with
    | ',' :: rest => (readFields fuel rest).map fun (fields, rest) =>
      (if fields.any (·.1 == name) then fields else (name, value) :: fields, rest)
    | '\x7d' :: rest => some ([(name, value)], rest)
    | _ => none

end

def read (text : String) : Option Document := do
  let input := text.toList
  let (document, rest) ← readDocument (input.length + 1) input
  if (skipBlanks rest).isEmpty then some document else none

/-- A character as it stands in a string. -/
def writeCharacter (character : Char) : List Char :=
  match (shortEscapes.find? fun escape => escape.2 = character ∧ character ≠ '/') with
  | some escape => ['\\', escape.1]
  | none =>
    if character.toNat < 0x20 then
      let digits := Nat.toDigits 16 character.toNat
      ['\\', 'u'] ++ List.replicate (4 - digits.length) '0' ++ digits
    else [character]

def writeString (text : String) : String :=
  String.ofList ('"' :: text.toList.flatMap writeCharacter ++ ['"'])

mutual

def write : Document → String
  | .null => "null"
  | .boolean value => if value then "true" else "false"
  | .integer value => toString value
  | .real value => Decimal.display value
  | .string text => writeString text
  | .list items => "[" ++ ",".intercalate (writeItems items) ++ "]"
  | .map fields => "\x7b" ++ ",".intercalate (writeFields fields) ++ "\x7d"

def writeItems : List Document → List String
  | [] => []
  | item :: items => write item :: writeItems items

def writeFields : List (String × Document) → List String
  | [] => []
  | (name, value) :: fields => (writeString name ++ ":" ++ write value) :: writeFields fields

end

end HttpDispatch.Json
