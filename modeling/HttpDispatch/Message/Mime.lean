import HttpDispatch.Text.Basic

/-!
Media types. Reading one keeps its text, with the type, the subtype, the parameter names and the
value of `charset` in lowercase, and without a list of no parameters.
-/

namespace HttpDispatch

/-- A media type, by its text. -/
structure Mime where
  text : String
  deriving DecidableEq

namespace Mime

def octetStream : Mime := ⟨"application/octet-stream"⟩
def textPlain : Mime := ⟨"text/plain"⟩
def textHtml : Mime := ⟨"text/html"⟩
def formUrlencoded : Mime := ⟨"application/x-www-form-urlencoded"⟩

/-- The type and subtype, without parameters. -/
def essence (mime : Mime) : String := String.ofList (mime.text.toList.takeWhile (· ≠ ';'))

/-- Whether two media types agree in type and subtype, ignoring letter case and parameters. -/
def sameEssence (left right : Mime) : Bool :=
  left.essence.toList.map Char.toLower == right.essence.toList.map Char.toLower

inductive Defect where
  | missingSlash
  | missingEqual
  | missingQuote
  | invalidToken (byte : UInt8) (position : Nat)
  deriving DecidableEq

/-- The uppercase hexadecimal digits of a byte, without leading zeros. -/
def hexByte (byte : UInt8) : String :=
  String.ofList ((Nat.toDigits 16 byte.toNat).map Char.toUpper)

def Defect.message : Defect → String
  | .missingSlash =>
    "mime parse error: a slash (/) was missing between the type and subtype"
  | .missingEqual =>
    "mime parse error: an equals sign (=) was missing between a parameter and its value"
  | .missingQuote =>
    "mime parse error: a quote (\") was missing from a parameter value"
  | .invalidToken byte position =>
    "mime parse error: an invalid token was encountered, " ++ hexByte byte ++ " at position " ++
      toString position

def byteLength (characters : List Char) : Nat :=
  characters.foldl (fun total character => total + character.utf8Size) 0

/-- The defect of a character that has no place at a byte position. -/
def unexpected (character : Char) (position : Nat) : Defect :=
  .invalidToken ((String.utf8EncodeChar character).headD 0) position

/-- The characters allowed between quotes; a quote may only be the first of them. -/
def isQuotedChar (character : Char) : Bool := 32 ≤ character.toNat && character.toNat ≠ 127

/-- One value of a parameter as read: its text with the quotes, and what follows it up to the
next parameter. -/
structure ReadValue where
  value : List Char
  gap : List Char
  /-- What stands after the semicolon, or none at the end of the text. -/
  next : Option (List Char)

/-- Reads the value of a parameter that is not in quotes. -/
def readPlainValue (position : Nat) (input : List Char) : Except Defect ReadValue :=
  let value := input.takeWhile Text.isTokenChar
  match input.dropWhile Text.isTokenChar with
  | [] => .ok ⟨value, [], none⟩
  | character :: rest =>
    if character = ';' ∧ value ≠ [] then .ok ⟨value, [], some rest⟩
    else .error (unexpected character (position + value.length))

/-- Reads what may follow a closing quote: spaces, up to a semicolon or the end. -/
def readGap (position : Nat) (value : List Char) (input : List Char) : Except Defect ReadValue :=
  let gap := input.takeWhile (· = ' ')
  match input.dropWhile (· = ' ') with
  | [] => .ok ⟨value, gap, none⟩
  | character :: rest =>
    if character = ';' then .ok ⟨value, gap, some rest⟩
    else .error (unexpected character (position + gap.length))

/-- Reads the value of a parameter after its opening quote. -/
def readQuotedValue (position : Nat) : List Char → Except Defect ReadValue
  | [] => .error .missingQuote
  | first :: input =>
    if isQuotedChar first then
      let content := input.takeWhile fun character => isQuotedChar character && character ≠ '"'
      let position := position + byteLength (first :: content)
      match input.dropWhile fun character => isQuotedChar character && character ≠ '"' with
      | [] => .error .missingQuote
      | character :: rest =>
        if character = '"' then readGap (position + 1) ('"' :: first :: content ++ ['"']) rest
        else .error (unexpected character position)
    else .error (unexpected first position)

def readValue (position : Nat) : List Char → Except Defect ReadValue
  | '"' :: rest => readQuotedValue (position + 1) rest
  | input => readPlainValue position input

/-- The value of a parameter as it is kept. -/
def keptValue (name value : List Char) : List Char :=
  if name = "charset".toList then value.map Char.toLower else value

/-- Reads the parameters after a semicolon and gives their kept text, or none if only spaces are
left. Each step reads at least the name, so `fuel` above the length of the input is never spent. -/
def readParameters : (fuel : Nat) → (position : Nat) → List Char →
    Except Defect (Option (List Char))
  | 0, _, _ => .ok none
  | fuel + 1, position, input =>
    let spaces := input.takeWhile (· = ' ')
    match input.dropWhile (· = ' ') with
    | [] => .ok none
    | input =>
      let name := input.takeWhile Text.isTokenChar
      let position := position + spaces.length + name.length
      match input.dropWhile Text.isTokenChar with
      | [] => .error .missingEqual
      | character :: rest =>
        if character = '=' ∧ name ≠ [] then do
          let read ← readValue (position + 1) rest
          let name := name.map Char.toLower
          let kept := spaces ++ name ++ '=' :: keptValue name read.value ++ read.gap
          match read.next with
          | none => .ok (some kept)
          | some more =>
            let position := position + 1 + byteLength (read.value ++ read.gap) + 1
            let tail ← readParameters fuel position more
            .ok (some (kept ++ ';' :: tail.getD more))
        else .error (unexpected character position)

/-- Reads the subtype and the parameters after the slash. `kind` is the type as read. -/
def readSubtype (kind : List Char) (input : List Char) : Except Defect Mime :=
  let subtype := input.takeWhile Text.isTokenChar
  let essence := (kind ++ '/' :: subtype).map Char.toLower
  match input.dropWhile Text.isTokenChar with
  | [] => .ok ⟨String.ofList essence⟩
  | character :: rest =>
    if character = ';' ∧ subtype ≠ [] then do
      let parameters ← readParameters (rest.length + 1) (essence.length + 1) rest
      match parameters with
      | none => .ok ⟨String.ofList essence⟩
      | some kept => .ok ⟨String.ofList (essence ++ ';' :: kept)⟩
    else .error (unexpected character essence.length)

def parse (text : String) : Except Defect Mime :=
  if text = "*/*" then .ok ⟨text⟩
  else
    let input := text.toList
    let kind := input.takeWhile Text.isTokenChar
    match input.dropWhile Text.isTokenChar with
    | [] => .error .missingSlash
    | character :: rest =>
      if character = '/' ∧ kind ≠ [] then readSubtype kind rest
      else .error (unexpected character kind.length)

end Mime

end HttpDispatch
