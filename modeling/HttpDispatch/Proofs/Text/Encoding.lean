import HttpDispatch.Text.Utf8

/-!
Texts written as bytes are read back. What the bytes of a character start with announces how many of
them there are, and none of the bytes is out of the bounds that were announced; so a text is cut
into its characters again, and nothing of it is replaced.
-/

namespace HttpDispatch.Utf8

/-! ### First bytes -/

/-- The stretch that starts with an announced character of so many bytes. -/
theorem next_of_two {first second : UInt8} {rest : Bytes} {lead : Lead}
    (several : 0x80 ≤ first.toNat) (announced : Lead.of? first.toNat = some lead)
    (more : lead.more = 0) (admitted : lead.admits second = true) :
    next first (second :: rest) = (.char (scalar (first.toNat % 32) [second]), rest) := by
  unfold next
  rw [if_neg (Nat.not_lt.mpr several), announced]
  simp [admitted, more]

theorem next_of_three {first second third : UInt8} {rest : Bytes} {lead : Lead}
    (several : 0x80 ≤ first.toNat) (announced : Lead.of? first.toNat = some lead)
    (more : lead.more = 1) (admitted : lead.admits second = true)
    (continued : isContinuation third = true) :
    next first (second :: third :: rest) =
      (.char (scalar (first.toNat % 16) [second, third]), rest) := by
  unfold next
  rw [if_neg (Nat.not_lt.mpr several), announced]
  simp [admitted, more, continued]

theorem next_of_four {first second third fourth : UInt8} {rest : Bytes} {lead : Lead}
    (several : 0x80 ≤ first.toNat) (announced : Lead.of? first.toNat = some lead)
    (more : lead.more = 2) (admitted : lead.admits second = true)
    (continued : isContinuation third = true) (ended : isContinuation fourth = true) :
    next first (second :: third :: fourth :: rest) =
      (.char (scalar (first.toNat % 8) [second, third, fourth]), rest) := by
  unfold next
  rw [if_neg (Nat.not_lt.mpr several), announced]
  simp [admitted, more, continued, ended]

/-- The first byte of two announces one more. -/
theorem Lead.of?_two {code : Nat} (low : 0x80 ≤ code) (high : code ≤ 0x7FF) :
    Lead.of? (code / 64 % 32 + 0xC0) = some ⟨0x80, 0xBF, 0⟩ := by
  unfold Lead.of?
  rw [if_pos (by omega)]

/-- The first byte of three announces two more, and bounds that keep out what is not a character. -/
theorem Lead.of?_three {code : Nat} (low : 0x7FF < code) (high : code ≤ 0xFFFF)
    (proper : code < 0xD800 ∨ 0xDFFF < code) :
    ∃ lead, Lead.of? (code / 4096 % 16 + 0xE0) = some lead ∧ lead.more = 1 ∧
      lead.low ≤ code / 64 % 64 + 0x80 ∧ code / 64 % 64 + 0x80 ≤ lead.high := by
  unfold Lead.of?
  rw [if_neg (by omega)]
  by_cases overlong : code / 4096 % 16 + 0xE0 = 0xE0
  · rw [if_pos overlong]
    exact ⟨_, rfl, rfl, by dsimp only; omega, by dsimp only; omega⟩
  · rw [if_neg overlong]
    by_cases surrogate : code / 4096 % 16 + 0xE0 = 0xED
    · rw [if_pos surrogate]
      exact ⟨_, rfl, rfl, by dsimp only; omega, by dsimp only; omega⟩
    · rw [if_neg surrogate, if_pos (by omega)]
      exact ⟨_, rfl, rfl, by dsimp only; omega, by dsimp only; omega⟩

/-- The first byte of four announces three more, and bounds that end with the last character. -/
theorem Lead.of?_four {code : Nat} (low : 0xFFFF < code) (high : code < 0x110000) :
    ∃ lead, Lead.of? (code / 262144 % 8 + 0xF0) = some lead ∧ lead.more = 2 ∧
      lead.low ≤ code / 4096 % 64 + 0x80 ∧ code / 4096 % 64 + 0x80 ≤ lead.high := by
  unfold Lead.of?
  rw [if_neg (by omega), if_neg (by omega), if_neg (by omega), if_neg (by omega)]
  by_cases overlong : code / 262144 % 8 + 0xF0 = 0xF0
  · rw [if_pos overlong]
    exact ⟨_, rfl, rfl, by dsimp only; omega, by dsimp only; omega⟩
  · rw [if_neg overlong]
    by_cases behind : code / 262144 % 8 + 0xF0 = 0xF4
    · rw [if_pos behind]
      exact ⟨_, rfl, rfl, by dsimp only; omega, by dsimp only; omega⟩
    · rw [if_neg behind, if_pos (by omega)]
      exact ⟨_, rfl, rfl, by dsimp only; omega, by dsimp only; omega⟩

/-! ### Characters -/

theorem toNat_ofNat_of_lt {code : Nat} (small : code < 0x100) : (UInt8.ofNat code).toNat = code := by
  rw [UInt8.toNat_ofNat', Nat.mod_eq_of_lt small]

theorem isContinuation_ofNat (code : Nat) :
    isContinuation (UInt8.ofNat (code % 64 + 0x80)) = true := by
  have toNat := toNat_ofNat_of_lt (show code % 64 + 0x80 < 0x100 by omega)
  simp only [isContinuation, toNat, Bool.and_eq_true, decide_eq_true_eq]
  omega

theorem Lead.admits_ofNat {lead : Lead} {code : Nat} (low : lead.low ≤ code % 64 + 0x80)
    (high : code % 64 + 0x80 ≤ lead.high) :
    lead.admits (UInt8.ofNat (code % 64 + 0x80)) = true := by
  have toNat := toNat_ofNat_of_lt (show code % 64 + 0x80 < 0x100 by omega)
  simp only [Lead.admits, toNat, Bool.and_eq_true, decide_eq_true_eq]
  exact ⟨low, high⟩

/-- Continuation bytes carry six bits each. -/
theorem scalar_ofNat (leadBits : Nat) (codes : List Nat) :
    scalar leadBits (codes.map fun code => UInt8.ofNat (code % 64 + 0x80)) =
      Char.ofNat (codes.foldl (fun value code => value * 64 + code % 64) leadBits) := by
  have carried (code : Nat) : (UInt8.ofNat (code % 64 + 0x80)).toNat % 64 = code % 64 := by
    rw [toNat_ofNat_of_lt (by omega)]
    omega
  simp only [scalar, List.foldl_map, carried]

theorem next_encoded_two {code : Nat} (low : 0x7F < code) (high : code ≤ 0x7FF) (rest : Bytes) :
    next (UInt8.ofNat (code / 64 % 32 + 0xC0)) (UInt8.ofNat (code % 64 + 0x80) :: rest) =
      (.char (Char.ofNat code), rest) := by
  have first := toNat_ofNat_of_lt (show code / 64 % 32 + 0xC0 < 0x100 by omega)
  have announced := Lead.of?_two low high
  rw [← first] at announced
  rw [next_of_two (by omega) announced rfl
    (Lead.admits_ofNat (by dsimp only; omega) (by dsimp only; omega)), first]
  have bits : (code / 64 % 32 + 0xC0) % 32 * 64 + code % 64 = code := by omega
  exact congrArg (Piece.char · , rest) ((scalar_ofNat _ [code]).trans (congrArg Char.ofNat bits))

theorem next_encoded_three {code : Nat} (low : 0x7FF < code) (high : code ≤ 0xFFFF)
    (proper : code < 0xD800 ∨ 0xDFFF < code) (rest : Bytes) :
    next (UInt8.ofNat (code / 4096 % 16 + 0xE0))
        (UInt8.ofNat (code / 64 % 64 + 0x80) :: UInt8.ofNat (code % 64 + 0x80) :: rest) =
      (.char (Char.ofNat code), rest) := by
  have first := toNat_ofNat_of_lt (show code / 4096 % 16 + 0xE0 < 0x100 by omega)
  obtain ⟨lead, announced, more, least, most⟩ := Lead.of?_three low high proper
  rw [← first] at announced
  rw [next_of_three (by omega) announced more (Lead.admits_ofNat least most)
    (isContinuation_ofNat code), first]
  have bits : ((code / 4096 % 16 + 0xE0) % 16 * 64 + code / 64 % 64) * 64 + code % 64 = code := by
    omega
  exact congrArg (Piece.char · , rest)
    ((scalar_ofNat _ [code / 64, code]).trans (congrArg Char.ofNat bits))

theorem next_encoded_four {code : Nat} (low : 0xFFFF < code) (high : code < 0x110000)
    (rest : Bytes) :
    next (UInt8.ofNat (code / 262144 % 8 + 0xF0))
        (UInt8.ofNat (code / 4096 % 64 + 0x80) :: UInt8.ofNat (code / 64 % 64 + 0x80) ::
          UInt8.ofNat (code % 64 + 0x80) :: rest) =
      (.char (Char.ofNat code), rest) := by
  have first := toNat_ofNat_of_lt (show code / 262144 % 8 + 0xF0 < 0x100 by omega)
  obtain ⟨lead, announced, more, least, most⟩ := Lead.of?_four low high
  rw [← first] at announced
  rw [next_of_four (by omega) announced more (Lead.admits_ofNat least most)
    (isContinuation_ofNat (code / 64)) (isContinuation_ofNat code), first]
  have bits : (((code / 262144 % 8 + 0xF0) % 8 * 64 + code / 4096 % 64) * 64 + code / 64 % 64) * 64
      + code % 64 = code := by
    omega
  exact congrArg (Piece.char · , rest)
    ((scalar_ofNat _ [code / 4096, code / 64, code]).trans (congrArg Char.ofNat bits))

/-- What a character is written as is one stretch, and stands for the character. -/
theorem next_utf8EncodeChar (character : Char) (rest : Bytes) :
    ∃ first later, String.utf8EncodeChar character = first :: later ∧
      next first (later ++ rest) = (.char character, rest) := by
  have value : Char.ofNat character.toNat = character := Char.ofNat_toNat character
  have proper : character.toNat < 0xD800 ∨ 0xDFFF < character.toNat ∧ character.toNat < 0x110000 :=
    character.valid
  simp only [String.utf8EncodeChar, show character.val.toNat = character.toNat from rfl]
  generalize character.toNat = code at value proper ⊢
  subst value
  by_cases one : code ≤ 0x7F
  · have toNat := toNat_ofNat_of_lt (show code < 0x100 by omega)
    refine ⟨_, _, if_pos one, ?_⟩
    rw [next, toNat, if_pos (by omega)]
    rfl
  rw [if_neg one]
  by_cases two : code ≤ 0x7FF
  · exact ⟨_, _, if_pos two, next_encoded_two (by omega) two rest⟩
  rw [if_neg two]
  by_cases three : code ≤ 0xFFFF
  · exact ⟨_, _, if_pos three, next_encoded_three (by omega) three (by omega) rest⟩
  · exact ⟨_, _, if_neg three, next_encoded_four (by omega) (by omega) rest⟩

/-! ### Texts -/

theorem pieces_utf8EncodeChar_append (character : Char) (rest : Bytes) :
    pieces (String.utf8EncodeChar character ++ rest) = .char character :: pieces rest := by
  obtain ⟨first, later, written, read⟩ := next_utf8EncodeChar character rest
  rw [written, List.cons_append, pieces, read]

/-- A text that was written as bytes is cut into its characters. -/
theorem pieces_encode (text : String) : pieces (encode text) = text.toList.map .char := by
  unfold encode
  induction text.toList with
  | nil => rw [List.flatMap_nil, pieces, List.map_nil]
  | cons character rest ih =>
    rw [List.flatMap_cons, pieces_utf8EncodeChar_append, ih, List.map_cons]

/-- A text that was written as bytes is read back. -/
theorem decodeLossy_encode (text : String) : decodeLossy (encode text) = text := by
  have shown : Piece.shown ∘ Piece.char = id := rfl
  rw [decodeLossy, pieces_encode, List.map_map, shown, List.map_id, String.ofList_toList]

end HttpDispatch.Utf8
