import HttpDispatch.Text.Basic
import HttpDispatch.Text.Utf8

/-!
Urlencoded data: pairs of texts, written with an ampersand between pairs and an equals sign inside
each. Letters, digits and four marks stand for themselves, a plus sign stands for a space, and any
other byte is written as a percent sign and two hexadecimal digits.
-/

namespace HttpDispatch.Form

/-- Names with values, in order; a name may occur more than once. -/
abbrev Pairs := List (String × String)

def ampersand : UInt8 := 0x26
def equalsSign : UInt8 := 0x3D
def percent : UInt8 := 0x25
def plus : UInt8 := 0x2B
def space : UInt8 := 0x20

/-- The bytes that stand for themselves: ASCII letters, digits and `*`, `-`, `.`, `_`. -/
def isKept (byte : UInt8) : Bool :=
  let code := byte.toNat
  (0x30 ≤ code && code ≤ 0x39) || (0x41 ≤ code && code ≤ 0x5A) || (0x61 ≤ code && code ≤ 0x7A) ||
    code = 0x2A || code = 0x2D || code = 0x2E || code = 0x5F

def hexDigit (value : Nat) : UInt8 :=
  UInt8.ofNat (if value < 10 then 0x30 + value else 0x37 + value)

def hexValue? (byte : UInt8) : Option Nat :=
  let code := byte.toNat
  if 0x30 ≤ code ∧ code ≤ 0x39 then some (code - 0x30)
  else if 0x41 ≤ code ∧ code ≤ 0x46 then some (code - 0x37)
  else if 0x61 ≤ code ∧ code ≤ 0x66 then some (code - 0x57)
  else none

def encodeByte (byte : UInt8) : Bytes :=
  if isKept byte then [byte]
  else if byte = space then [plus]
  else [percent, hexDigit (byte.toNat / 16), hexDigit (byte.toNat % 16)]

def encodeText (text : String) : Bytes := (Utf8.encode text).flatMap encodeByte

def encodePair (pair : String × String) : Bytes :=
  encodeText pair.1 ++ equalsSign :: encodeText pair.2

def encode (pairs : Pairs) : Bytes := [ampersand].intercalate (pairs.map encodePair)

/-- The byte written as a percent sign and two digits. -/
def unescape? (sign high low : UInt8) : Option UInt8 :=
  if sign = percent then
    match hexValue? high, hexValue? low with
    | some high, some low => some (UInt8.ofNat (high * 16 + low))
    | _, _ => none
  else none

/-- What a byte stands for where it starts no escape. -/
def unescaped (byte : UInt8) : UInt8 := if byte = plus then space else byte

/-- Undoes the writing of bytes. A percent sign without two digits stands for itself. -/
def decodeBytes : Bytes → Bytes
  | first :: second :: third :: rest =>
    match unescape? first second third with
    | some byte => byte :: decodeBytes rest
    | none => unescaped first :: decodeBytes (second :: third :: rest)
  | first :: rest => unescaped first :: decodeBytes rest
  | [] => []

def decodeText (bytes : Bytes) : String := Utf8.decodeLossy (decodeBytes bytes)

/-- Reads a pair: the name up to the first equals sign, and the value after it. -/
def decodePair (piece : Bytes) : String × String :=
  (decodeText (piece.takeWhile (· != equalsSign)),
    decodeText ((piece.dropWhile (· != equalsSign)).drop 1))

/-- Reads urlencoded data. Every byte sequence is some. -/
def decode (bytes : Bytes) : Pairs := (Text.nonemptyPieces ampersand bytes).map decodePair

end HttpDispatch.Form
