import HttpDispatch.Form.Codec
import HttpDispatch.Proofs.Text.Encoding

/-!
Pairs written as urlencoded data are read back. What is written of a text has no separator in it and
stands for the bytes of the text, so the data is cut where it was joined; and all of it is ASCII, so
it may as well be written as a text.
-/

namespace HttpDispatch.Form

/-! ### Bytes -/

theorem hexValue?_hexDigit : ∀ value < 16, hexValue? (hexDigit value) = some value := by decide

/-- The bytes that texts are written with. -/
def IsWritten (byte : UInt8) : Prop := isKept byte = true ∨ byte = plus ∨ byte = percent

instance (byte : UInt8) : Decidable (IsWritten byte) := by unfold IsWritten; infer_instance

theorem isWritten_of_mem_encodeByte (byte : UInt8) : ∀ sign ∈ encodeByte byte, IsWritten sign := by
  have all : ∀ code < 256, ∀ sign ∈ encodeByte (UInt8.ofNat code), IsWritten sign := by
    decide +kernel
  have written := all byte.toNat byte.toNat_lt
  rwa [UInt8.ofNat_toNat] at written

theorem isWritten_of_mem_encodeText {text : String} {sign : UInt8} (member : sign ∈ encodeText text) :
    IsWritten sign := by
  obtain ⟨byte, -, written⟩ := List.mem_flatMap.mp member
  exact isWritten_of_mem_encodeByte byte sign written

/-- No separator is written as part of a text. -/
theorem notMem_encodeText {sign : UInt8} (other : ¬IsWritten sign) (text : String) :
    sign ∉ encodeText text :=
  fun member => other (isWritten_of_mem_encodeText member)

theorem decodeBytes_cons_of_ne {byte : UInt8} (plain : byte ≠ percent) (rest : Bytes) :
    decodeBytes (byte :: rest) = unescaped byte :: decodeBytes rest := by
  have none (high low : UInt8) : unescape? byte high low = none := if_neg plain
  match rest with
  | [] | [_] => rfl
  | second :: third :: rest => rw [decodeBytes, none]

theorem decodeBytes_escaped {value : Nat} (small : value < 256) (rest : Bytes) :
    decodeBytes (percent :: hexDigit (value / 16) :: hexDigit (value % 16) :: rest) =
      UInt8.ofNat value :: decodeBytes rest := by
  have whole : value / 16 * 16 + value % 16 = value := by omega
  rw [decodeBytes, unescape?, if_pos rfl, hexValue?_hexDigit _ (by omega),
    hexValue?_hexDigit _ (by omega)]
  simp only [whole]

/-- What a byte is written as stands for it, whatever follows. -/
theorem decodeBytes_encodeByte (byte : UInt8) (rest : Bytes) :
    decodeBytes (encodeByte byte ++ rest) = byte :: decodeBytes rest := by
  unfold encodeByte
  split
  · rename_i kept
    have plain : byte ≠ percent := by rintro rfl; cases kept
    have itself : byte ≠ plus := by rintro rfl; cases kept
    rw [List.singleton_append, decodeBytes_cons_of_ne plain, unescaped, if_neg itself]
  · split
    · rename_i blank
      subst blank
      rw [List.singleton_append, decodeBytes_cons_of_ne (by decide)]
      rfl
    · have escaped := decodeBytes_escaped byte.toNat_lt rest
      rwa [UInt8.ofNat_toNat] at escaped

theorem decodeBytes_flatMap (bytes : Bytes) : decodeBytes (bytes.flatMap encodeByte) = bytes := by
  induction bytes with
  | nil => rfl
  | cons byte rest ih => rw [List.flatMap_cons, decodeBytes_encodeByte, ih]

/-! ### Pairs -/

theorem decodeText_encodeText (text : String) : decodeText (encodeText text) = text := by
  rw [decodeText, encodeText, decodeBytes_flatMap, Utf8.decodeLossy_encode]

/-- The first equals sign of a pair is the one between its name and its value. -/
theorem decodePair_encodePair (pair : String × String) : decodePair (encodePair pair) = pair := by
  have name : ∀ sign ∈ encodeText pair.1, (sign != equalsSign) = true := by
    intro sign member
    rw [bne_iff_ne]
    rintro rfl
    exact notMem_encodeText (by decide) pair.1 member
  rw [decodePair, encodePair, List.takeWhile_append_of_pos name, List.dropWhile_append_of_pos name,
    List.takeWhile_cons_of_neg (by simp), List.dropWhile_cons_of_neg (by simp),
    List.append_nil, List.drop_one, List.tail_cons, decodeText_encodeText, decodeText_encodeText]

theorem encodePair_ne_nil (pair : String × String) : encodePair pair ≠ [] := by
  simp [encodePair]

theorem ampersand_notMem_encodePair (pair : String × String) : ampersand ∉ encodePair pair := by
  have apart : ¬IsWritten ampersand := by decide
  have other : ampersand ≠ equalsSign := by decide
  simp [encodePair, notMem_encodeText apart, other]

theorem nonemptyPieces_intercalate {α : Type} [DecidableEq α] {separator : α}
    {pieces : List (List α)} (proper : ∀ piece ∈ pieces, piece ≠ [] ∧ separator ∉ piece) :
    Text.nonemptyPieces separator ([separator].intercalate pieces) = pieces := by
  by_cases nothing : pieces = []
  · subst nothing
    rfl
  · rw [Text.nonemptyPieces, List.splitOn_intercalate _ (fun piece member => (proper piece member).2)
      nothing, List.filter_eq_self]
    intro piece member
    simpa using (proper piece member).1

/-- Pairs that were written are read back, each of them and in their order. -/
theorem decode_encode (pairs : Pairs) : decode (encode pairs) = pairs := by
  have each : decodePair ∘ encodePair = id := funext decodePair_encodePair
  rw [decode, encode, nonemptyPieces_intercalate, List.map_map, each, List.map_id]
  · intro piece member
    obtain ⟨pair, -, rfl⟩ := List.mem_map.mp member
    exact ⟨encodePair_ne_nil pair, ampersand_notMem_encodePair pair⟩

/-! ### Text -/

/-- Urlencoded data as a text. -/
def text (pairs : Pairs) : String :=
  String.ofList ((encode pairs).map fun byte => Char.ofNat byte.toNat)

theorem toNat_lt_of_isWritten (byte : UInt8) : IsWritten byte → byte.toNat < 0x80 := by
  have all : ∀ code < 256, IsWritten (UInt8.ofNat code) → (UInt8.ofNat code).toNat < 0x80 := by
    decide +kernel
  have small := all byte.toNat byte.toNat_lt
  rwa [UInt8.ofNat_toNat] at small

theorem mem_of_mem_intercalate {α : Type} {separator : α} {pieces : List (List α)} {item : α}
    (member : item ∈ [separator].intercalate pieces) :
    item = separator ∨ ∃ piece ∈ pieces, item ∈ piece := by
  induction pieces with
  | nil => simp at member
  | cons first rest ih =>
    cases rest with
    | nil => exact .inr ⟨first, .head _, by simpa using member⟩
    | cons next rest =>
      rw [List.intercalate_cons_cons, List.mem_append, List.mem_append] at member
      rcases member with (here | between) | later
      · exact .inr ⟨first, .head _, here⟩
      · exact .inl (List.mem_singleton.mp between)
      · rcases ih later with same | ⟨piece, listed, inside⟩
        · exact .inl same
        · exact .inr ⟨piece, .tail _ listed, inside⟩

/-- Urlencoded data is ASCII. -/
theorem toNat_lt_of_mem_encode {pairs : Pairs} {byte : UInt8} (member : byte ∈ encode pairs) :
    byte.toNat < 0x80 := by
  rcases mem_of_mem_intercalate member with rfl | ⟨piece, listed, inside⟩
  · decide
  · obtain ⟨pair, -, rfl⟩ := List.mem_map.mp listed
    rcases List.mem_append.mp inside with name | rest
    · exact toNat_lt_of_isWritten byte (isWritten_of_mem_encodeText name)
    · rcases List.mem_cons.mp rest with rfl | value
      · decide
      · exact toNat_lt_of_isWritten byte (isWritten_of_mem_encodeText value)

theorem utf8EncodeChar_ofNat {byte : UInt8} (ascii : byte.toNat < 0x80) :
    String.utf8EncodeChar (Char.ofNat byte.toNat) = [byte] := by
  have value : (Char.ofNat byte.toNat).val.toNat = byte.toNat := by
    rw [Char.ofNat, dif_pos (.inl (by omega))]
    rfl
  rw [String.utf8EncodeChar]
  simp only [value, UInt8.ofNat_toNat]
  rw [if_pos (by omega)]

theorem flatMap_utf8EncodeChar {bytes : Bytes} (ascii : ∀ byte ∈ bytes, byte.toNat < 0x80) :
    bytes.flatMap (fun byte => String.utf8EncodeChar (Char.ofNat byte.toNat)) = bytes := by
  induction bytes with
  | nil => rfl
  | cons byte rest ih =>
    rw [List.forall_mem_cons] at ascii
    rw [List.flatMap_cons, utf8EncodeChar_ofNat ascii.1, ih ascii.2, List.singleton_append]

/-- The bytes of the text are those that the pairs are written as. -/
theorem encode_text (pairs : Pairs) : Utf8.encode (text pairs) = encode pairs := by
  rw [Utf8.encode, text, String.toList_ofList, List.flatMap_map]
  exact flatMap_utf8EncodeChar fun _ => toNat_lt_of_mem_encode

example : text [("a b", "&=é"), ("", "*-._+")] = "a+b=%26%3D%C3%A9&=*-._%2B" := by decide +kernel

end HttpDispatch.Form
