import HttpDispatch.Settings.Json

/-!
Flat documents as JSON text. A string is read back as it was written, whatever characters it has,
and so is a map of strings and truth values under different names.
-/

namespace HttpDispatch.Json

/-! ### Strings -/

theorem readEscape_mark {escape : Char × Char} (known : escape ∈ shortEscapes) (rest : List Char) :
    readEscape (escape.1 :: rest) = some (escape.2, rest) := by
  simp only [shortEscapes, List.mem_cons, List.not_mem_nil, or_false] at known
  rcases known with rfl | rfl | rfl | rfl | rfl | rfl | rfl | rfl <;> rfl

/-- The number of a control character as four digits. -/
theorem hexNumber?_control : ∀ code < 0x20,
    (List.replicate (4 - (Nat.toDigits 16 code).length) '0' ++ Nat.toDigits 16 code).length = 4 ∧
      hexNumber? (List.replicate (4 - (Nat.toDigits 16 code).length) '0' ++
        Nat.toDigits 16 code) = some code := by
  decide +kernel

theorem readEscape_control {character : Char} (control : character.toNat < 0x20)
    (rest : List Char) :
    readEscape ('u' :: (List.replicate (4 - (Nat.toDigits 16 character.toNat).length) '0' ++
      Nat.toDigits 16 character.toNat ++ rest)) = some (character, rest) := by
  obtain ⟨four, number⟩ := hexNumber?_control _ control
  generalize List.replicate (4 - (Nat.toDigits 16 character.toNat).length) '0' ++
    Nat.toDigits 16 character.toNat = digits at four number
  have early : character.toNat < 0xD800 := by omega
  rcases digits with _ | ⟨a, _ | ⟨b, _ | ⟨c, _ | ⟨d, _ | ⟨e, digits⟩⟩⟩⟩⟩ <;> cases four
  rw [List.cons_append, List.cons_append, List.cons_append, List.cons_append, List.nil_append,
    readEscape, number]
  simp [early]

theorem readString_escape (passed : List Char) (fuel : Nat) {escape rest : List Char}
    {character : Char} (read : readEscape escape = some (character, rest)) :
    readString passed (fuel + 1) ('\\' :: escape) = readString (character :: passed) fuel rest := by
  rw [readString, if_neg (by decide), if_pos rfl, read]
  rfl

/-- A written character is read in one step. -/
theorem readString_writeCharacter (passed : List Char) (fuel : Nat) (character : Char)
    (rest : List Char) :
    readString passed (fuel + 1) (writeCharacter character ++ rest) =
      readString (character :: passed) fuel rest := by
  unfold writeCharacter
  split
  case h_1 escape found =>
    have marked := readEscape_mark (List.mem_of_find?_eq_some found) rest
    have stands := List.find?_some found
    rw [(of_decide_eq_true stands).1] at marked
    exact readString_escape passed fuel marked
  case h_2 unmarked =>
    have apart : ∀ escape ∈ shortEscapes, ¬(escape.2 = character ∧ character ≠ '/') := by
      intro escape known
      exact of_decide_eq_false (Bool.not_eq_true _ ▸ List.find?_eq_none.mp unmarked escape known)
    split
    case isTrue control =>
      exact readString_escape passed fuel (readEscape_control control rest)
    case isFalse shown =>
      have quote : character ≠ '"' := by
        rintro rfl
        exact apart _ (.head _) ⟨rfl, by decide⟩
      have backslash : character ≠ '\\' := by
        rintro rfl
        exact apart _ (.tail _ (.head _)) ⟨rfl, by decide⟩
      rw [List.singleton_append, readString, if_neg quote, if_neg backslash, if_neg shown]

theorem readString_written (text rest passed : List Char) {fuel : Nat}
    (enough : text.length < fuel) :
    readString passed fuel (text.flatMap writeCharacter ++ '"' :: rest) =
      some (String.ofList (passed.reverse ++ text), rest) := by
  induction text generalizing passed fuel with
  | nil =>
    obtain ⟨fuel, rfl⟩ := Nat.exists_eq_add_one_of_ne_zero (Nat.ne_of_gt enough)
    rw [List.flatMap_nil, List.nil_append, List.append_nil, readString, if_pos rfl]
  | cons character text ih =>
    obtain ⟨fuel, rfl⟩ := Nat.exists_eq_add_one_of_ne_zero (Nat.ne_zero_of_lt enough)
    rw [List.flatMap_cons, List.append_assoc, readString_writeCharacter,
      ih _ (Nat.lt_of_succ_lt_succ enough), List.reverse_cons, List.append_assoc]
    rfl

theorem length_le_flatMap_writeCharacter (text : List Char) :
    text.length ≤ (text.flatMap writeCharacter).length := by
  induction text with
  | nil => exact Nat.le_refl _
  | cons character text ih =>
    have some_written : 0 < (writeCharacter character).length := by
      unfold writeCharacter
      split
      · exact Nat.zero_lt_succ _
      · split <;> exact Nat.zero_lt_succ _
    rw [List.flatMap_cons, List.length_append, List.length_cons]
    omega

/-! ### Documents -/

/-- A string or a truth value. -/
inductive IsScalar : Document → Prop where
  | string (text : String) : IsScalar (.string text)
  | boolean (value : Bool) : IsScalar (.boolean value)

theorem toList_writeString (text : String) :
    (writeString text).toList = '"' :: (text.toList.flatMap writeCharacter ++ ['"']) := by
  rw [writeString, String.toList_ofList, List.cons_append]

theorem length_lt_writeString (text : String) :
    text.toList.length + 2 ≤ (writeString text).toList.length := by
  have written := length_le_flatMap_writeCharacter text.toList
  rw [toList_writeString, List.length_cons, List.length_append, List.length_singleton]
  omega

theorem readString_writeString (text : String) (rest : List Char) {fuel : Nat}
    (enough : text.toList.length < fuel) :
    ∃ behind, (writeString text).toList ++ rest = '"' :: behind ∧
      readString [] fuel behind = some (text, rest) := by
  refine ⟨text.toList.flatMap writeCharacter ++ '"' :: rest, by simp [toList_writeString], ?_⟩
  rw [readString_written _ _ _ enough, List.reverse_nil, List.nil_append, String.ofList_toList]

theorem readDocument_scalar {document : Document} (scalar : IsScalar document) (rest : List Char)
    {fuel : Nat} (enough : (write document).toList.length < fuel) :
    readDocument fuel ((write document).toList ++ rest) = some (document, rest) := by
  obtain ⟨fuel, rfl⟩ := Nat.exists_eq_add_one_of_ne_zero (Nat.ne_zero_of_lt enough)
  cases scalar with
  | string text =>
    rw [write] at enough ⊢
    have longer := length_lt_writeString text
    have enough : text.toList.length < fuel := by omega
    obtain ⟨behind, opens, read⟩ := readString_writeString text rest enough
    have shown : skipBlanks ('"' :: behind) = '"' :: behind := rfl
    rw [opens, readDocument, shown]
    simp [read]
  | boolean value =>
    cases value <;> rfl

/-! ### Maps -/

/-- What is read of a map from a field on, whose name and value have been read already. -/
def fieldsFrom (fuel : Nat) (name : String) (value : Document) (behind : List Char) :
    Option (List (String × Document) × List Char) :=
  match skipBlanks behind with
  | ',' :: rest => (readFields fuel rest).map fun (fields, rest) =>
    (if fields.any (·.1 == name) then fields else (name, value) :: fields, rest)
  | '\x7d' :: rest => some ([(name, value)], rest)
  | _ => none

theorem fieldsFrom_comma {fuel : Nat} {name : String} {value : Document}
    {behind rest : List Char} {fields : List (String × Document)}
    (unseen : name ∉ fields.map (·.1)) (read : readFields fuel behind = some (fields, rest)) :
    fieldsFrom fuel name value (',' :: behind) = some ((name, value) :: fields, rest) := by
  have fresh : (fields.any fun entry => entry.1 == name) = false := by
    rw [List.any_eq_false]
    intro entry member same
    exact unseen (List.mem_map.mpr ⟨entry, member, eq_of_beq same⟩)
  have blank : skipBlanks (',' :: behind) = ',' :: behind := rfl
  simp only [fieldsFrom, blank, read, Option.map_some, fresh, if_neg Bool.false_ne_true]

theorem readFields_field (name : String) {value : Document} (scalar : IsScalar value)
    (behind : List Char) {fuel : Nat}
    (enough : (writeString name ++ ":" ++ write value).toList.length < fuel + 1) :
    readFields (fuel + 1) ((writeString name ++ ":" ++ write value).toList ++ behind) =
      fieldsFrom fuel name value behind := by
  have longer := length_lt_writeString name
  simp only [String.toList_append, List.length_append, List.append_assoc] at enough ⊢
  have named : name.toList.length < fuel := by omega
  have valued : (write value).toList.length < fuel := by omega
  obtain ⟨rest, opens, read⟩ :=
    readString_writeString name (":".toList ++ ((write value).toList ++ behind)) named
  have quoted : expect? ['"'] (skipBlanks ('"' :: rest)) = some rest := rfl
  have colon : expect? [':'] (skipBlanks (":".toList ++ ((write value).toList ++ behind))) =
      some ((write value).toList ++ behind) := rfl
  rw [opens, readFields]
  simp only [quoted, read, colon, readDocument_scalar scalar behind valued, Option.bind_eq_bind,
    Option.bind_some]
  rfl

/-- A map of strings and truth values is read back as it was written. -/
theorem readFields_written {fields : List (String × Document)} (nonempty : fields ≠ [])
    (scalar : ∀ entry ∈ fields, IsScalar entry.2) (distinct : (fields.map (·.1)).Nodup)
    (rest : List Char) {fuel : Nat}
    (enough : (",".intercalate (writeFields fields)).toList.length < fuel) :
    readFields fuel ((",".intercalate (writeFields fields)).toList ++ '\x7d' :: rest) =
      some (fields, rest) := by
  induction fields generalizing fuel with
  | nil => exact absurd rfl nonempty
  | cons entry fields ih =>
    obtain ⟨name, value⟩ := entry
    obtain ⟨fuel, rfl⟩ := Nat.exists_eq_add_one_of_ne_zero (Nat.ne_zero_of_lt enough)
    have first : IsScalar value := scalar (name, value) List.mem_cons_self
    cases fields with
    | nil =>
      rw [writeFields, writeFields, String.intercalate_singleton] at enough ⊢
      rw [readFields_field name first _ enough]
      rfl
    | cons next fields =>
      obtain ⟨unseen, distinct⟩ := List.nodup_cons.mp distinct
      have split : (",".intercalate (writeFields ((name, value) :: next :: fields))).toList =
          (writeString name ++ ":" ++ write value).toList ++
            ',' :: (",".intercalate (writeFields (next :: fields))).toList := by
        obtain ⟨nextName, nextValue⟩ := next
        rw [writeFields, writeFields, String.intercalate_cons_cons, String.toList_append,
          String.toList_append, List.append_assoc]
        rfl
      rw [split] at enough ⊢
      rw [List.length_append, List.length_cons] at enough
      have others : readFields fuel
          ((",".intercalate (writeFields (next :: fields))).toList ++ '\x7d' :: rest) =
            some (next :: fields, rest) :=
        ih (List.cons_ne_nil _ _) (fun entry member => scalar entry (.tail _ member)) distinct
          (by omega)
      rw [List.append_assoc, List.cons_append, readFields_field name first _ (by omega)]
      exact fieldsFrom_comma unseen others

theorem writeFields_quoted {fields : List (String × Document)} (nonempty : fields ≠ [])
    (rest : List Char) :
    ∃ behind, (",".intercalate (writeFields fields)).toList ++ rest = '"' :: behind := by
  rcases fields with _ | ⟨⟨name, value⟩, _ | ⟨⟨nextName, nextValue⟩, fields⟩⟩
  · exact absurd rfl nonempty
  · simp [writeFields, toList_writeString]
  · simp [writeFields, String.intercalate_cons_cons, toList_writeString]

theorem readDocument_map {fuel : Nat} {behind rest : List Char}
    {fields : List (String × Document)}
    (inside : readFields fuel ('"' :: behind) = some (fields, rest)) :
    readDocument (fuel + 1) ('\x7b' :: '"' :: behind) = some (.map fields, rest) := by
  have opens : skipBlanks ('\x7b' :: '"' :: behind) = '\x7b' :: '"' :: behind := rfl
  have starts : skipBlanks ('"' :: behind) = '"' :: behind := rfl
  rw [readDocument, opens]
  simp only [starts]
  exact congrArg (Option.map _) inside

/-- A map of strings and truth values is read back from the text that it is written as. -/
theorem read_write_map {fields : List (String × Document)} (nonempty : fields ≠ [])
    (scalar : ∀ entry ∈ fields, IsScalar entry.2) (distinct : (fields.map (·.1)).Nodup) :
    read (write (.map fields)) = some (.map fields) := by
  have whole : (write (.map fields)).toList =
      '\x7b' :: ((",".intercalate (writeFields fields)).toList ++ ['\x7d']) := by
    rw [write, String.toList_append, String.toList_append]
    rfl
  have enough : (",".intercalate (writeFields fields)).toList.length <
      (write (.map fields)).toList.length := by
    rw [whole, List.length_cons, List.length_append]
    omega
  have inside := readFields_written nonempty scalar distinct [] enough
  obtain ⟨behind, quoted⟩ := writeFields_quoted nonempty ['\x7d']
  rw [quoted] at whole inside
  have document := readDocument_map inside
  rw [← whole] at document
  simp only [read, document, Option.bind_eq_bind, Option.bind_some]
  rfl

end HttpDispatch.Json
