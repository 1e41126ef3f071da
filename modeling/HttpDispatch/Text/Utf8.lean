/-!
Texts as byte sequences. `encode` writes a text as UTF-8, `pieces` cuts any byte sequence into
characters and the maximal stretches that belong to none, and the two readers differ only in
what they do with such a stretch: `decode` stops at the first, `decodeLossy` replaces each one.
-/

namespace HttpDispatch

abbrev Bytes := List UInt8

namespace Utf8

def encode (text : String) : Bytes := text.toList.flatMap String.utf8EncodeChar

/-- A byte that continues a character begun before it. -/
def isContinuation (byte : UInt8) : Bool := 0x80 ≤ byte.toNat && byte.toNat ≤ 0xBF

/-- What a first byte of several announces: the second bytes it admits, and how many more
continuation bytes follow the second. -/
structure Lead where
  low : Nat
  high : Nat
  more : Nat

/-- The announcement of a first byte, if a character of several bytes can start with it. The
bounds on the second byte exclude overlong forms, surrogates and values past the last scalar. -/
def Lead.of? (byte : Nat) : Option Lead :=
  if 0xC2 ≤ byte ∧ byte ≤ 0xDF then some ⟨0x80, 0xBF, 0⟩
  else if byte = 0xE0 then some ⟨0xA0, 0xBF, 1⟩
  else if byte = 0xED then some ⟨0x80, 0x9F, 1⟩
  else if 0xE1 ≤ byte ∧ byte ≤ 0xEF then some ⟨0x80, 0xBF, 1⟩
  else if byte = 0xF0 then some ⟨0x90, 0xBF, 2⟩
  else if byte = 0xF4 then some ⟨0x80, 0x8F, 2⟩
  else if 0xF1 ≤ byte ∧ byte ≤ 0xF3 then some ⟨0x80, 0xBF, 2⟩
  else none

def Lead.admits (lead : Lead) (second : UInt8) : Bool :=
  lead.low ≤ second.toNat && second.toNat ≤ lead.high

/-- One stretch of a byte sequence: a character, or the bytes up to the first that cannot
continue one. `cut` marks a stretch that could have continued had the input not ended. -/
inductive Piece where
  | char (value : Char)
  | broken (width : Nat) (cut : Bool)
  deriving DecidableEq

/-- The value carried by a first byte and its continuation bytes, six bits each. -/
def scalar (leadBits : Nat) (continuation : List UInt8) : Char :=
  Char.ofNat (continuation.foldl (fun value byte => value * 64 + byte.toNat % 64) leadBits)

/-- The stretch that starts at the byte `first`, and what follows it. -/
def next (first : UInt8) (rest : Bytes) : Piece × Bytes :=
  if first.toNat < 0x80 then (.char (Char.ofNat first.toNat), rest)
  else match Lead.of? first.toNat with
  | none => (.broken 1 false, rest)
  | some lead => match rest with
    | [] => (.broken 1 true, [])
    | second :: rest =>
      if !lead.admits second then (.broken 1 false, second :: rest)
      else if lead.more = 0 then (.char (scalar (first.toNat % 32) [second]), rest)
      else match rest with
      | [] => (.broken 2 true, [])
      | third :: rest =>
        if !isContinuation third then (.broken 2 false, third :: rest)
        else if lead.more = 1 then (.char (scalar (first.toNat % 16) [second, third]), rest)
        else match rest with
        | [] => (.broken 3 true, [])
        | fourth :: rest =>
          if !isContinuation fourth then (.broken 3 false, fourth :: rest)
          else (.char (scalar (first.toNat % 8) [second, third, fourth]), rest)

theorem next_length (first : UInt8) (rest : Bytes) : (next first rest).2.length ≤ rest.length := by
  unfold next
  repeat' split
  all_goals simp only [List.length_cons, List.length_nil] at *
  all_goals omega

/-- The stretches of a byte sequence, in order. -/
def pieces : Bytes → List Piece
  | [] => []
  | first :: rest => (next first rest).1 :: pieces (next first rest).2
termination_by bytes => bytes.length
decreasing_by
  have := next_length first rest
  simp only [List.length_cons]
  omega

/-- Where and how a byte sequence stops being text: the length of its valid beginning, and the
width of the stretch that breaks it, or none if the input ended inside a character. -/
structure Defect where
  validUpTo : Nat
  width : Option Nat
  deriving DecidableEq

def Defect.message (defect : Defect) : String :=
  match defect.width with
  | some width => s!"invalid utf-8 sequence of {width} bytes from index {defect.validUpTo}"
  | none => s!"incomplete utf-8 byte sequence from index {defect.validUpTo}"

/-- The characters of the stretches, or the first defect. `offset` counts the bytes read. -/
def characters (offset : Nat) : List Piece → Except Defect (List Char)
  | [] => .ok []
  | .char value :: rest => (characters (offset + value.utf8Size) rest).map (value :: ·)
  | .broken width cut :: _ => .error ⟨offset, if cut then none else some width⟩

def decode (bytes : Bytes) : Except Defect String :=
  (characters 0 (pieces bytes)).map String.ofList

/-- The character shown for bytes that belong to none. -/
def replacement : Char := '\uFFFD'

def Piece.shown : Piece → Char
  | .char value => value
  | .broken _ _ => replacement

/-- Reads a byte sequence as text, showing the replacement character for each broken stretch. -/
def decodeLossy (bytes : Bytes) : String := String.ofList ((pieces bytes).map Piece.shown)

end Utf8

end HttpDispatch
