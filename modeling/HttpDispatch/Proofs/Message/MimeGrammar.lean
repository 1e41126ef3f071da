import Mathlib.Data.List.TakeWhile
import HttpDispatch.Message.Mime

/-!
The grammar of media types. The parser accepts the texts of the grammar and no others, and keeps of
each what the grammar says. What is kept is again such a text, and of this everything is kept.
-/

namespace HttpDispatch.Mime

open HttpDispatch.Text (isTokenChar)

/-! ### Runs of characters -/

section

variable {p : Char → Bool} {front rest : List Char}

/-- A run of characters does not go on into the rest of a text. -/
def Stops (p : Char → Bool) (rest : List Char) : Prop :=
  ∀ character, rest.head? = some character → p character = false

theorem exists_run (p : Char → Bool) (input : List Char) :
    ∃ front rest, input = front ++ rest ∧ (∀ character ∈ front, p character) ∧ Stops p rest := by
  refine ⟨input.takeWhile p, input.dropWhile p, List.takeWhile_append_dropWhile.symm,
    List.all_eq_true.mp List.all_takeWhile, ?_⟩
  intro character found
  have stopped := List.head?_dropWhile_not p input
  rwa [found] at stopped

theorem takeWhile_run (inside : ∀ character ∈ front, p character) (stops : Stops p rest) :
    (front ++ rest).takeWhile p = front := by
  rw [List.takeWhile_append_of_pos inside]
  cases rest with
  | nil => exact List.append_nil front
  | cons character rest =>
    rw [List.takeWhile_cons_of_neg (by simp [stops character rfl]), List.append_nil]

theorem dropWhile_run (inside : ∀ character ∈ front, p character) (stops : Stops p rest) :
    (front ++ rest).dropWhile p = rest := by
  rw [List.dropWhile_append_of_pos inside]
  cases rest with
  | nil => rfl
  | cons character rest => rw [List.dropWhile_cons_of_neg (by simp [stops character rfl])]

end

/-! ### Letter case -/

theorem isLower_iff {character : Char} :
    character.isLower ↔ 'a'.toNat ≤ character.toNat ∧ character.toNat ≤ 'z'.toNat := by
  change (decide ('a'.val ≤ character.val) && decide (character.val ≤ 'z'.val)) = true ↔ _
  rw [Bool.and_eq_true, decide_eq_true_iff, decide_eq_true_iff, UInt32.le_iff_toNat_le,
    UInt32.le_iff_toNat_le]
  rfl

/-- The lowercase of a character is a lowercase letter unless it is the character itself. -/
theorem toLower_cases (character : Char) :
    character.toLower = character ∨ character.toLower.isLower := by
  by_cases upper : 'A'.val ≤ character.val ∧ character.val ≤ 'Z'.val
  · right
    have first : 65 ≤ character.toNat := UInt32.le_iff_toNat_le.mp upper.1
    have last : character.toNat ≤ 90 := UInt32.le_iff_toNat_le.mp upper.2
    have lowered : character.toLower = _ := dif_pos upper
    have small : character.toNat + 32 < 2 ^ 32 := by omega
    have code : character.toLower.toNat = character.toNat + 32 := by
      rw [lowered]
      exact (UInt32.toNat_add _ _).trans (Nat.mod_eq_of_lt small)
    rw [isLower_iff, code]
    exact ⟨Nat.add_le_add_right first 32, Nat.add_le_add_right last 32⟩
  · exact .inl (dif_neg upper)

theorem toLower_of_isLower {character : Char} (lower : character.isLower) :
    character.toLower = character := by
  refine dif_neg fun upper => ?_
  have behind : character.toNat ≤ 'Z'.toNat := UInt32.le_iff_toNat_le.mp upper.2
  exact absurd (Nat.le_trans (isLower_iff.mp lower).1 behind) (by decide)

theorem map_toLower_map_toLower (text : List Char) :
    (text.map Char.toLower).map Char.toLower = text.map Char.toLower := by
  rw [List.map_map]
  apply List.map_congr_left
  intro character _
  rcases toLower_cases character with same | lower
  · rw [Function.comp_apply, same, same]
  · exact toLower_of_isLower lower

/-- A class of characters with all lowercase letters in it has the lowercase of each character. -/
theorem toLower_of_class {p : Char → Bool}
    (letters : ∀ character, character.isLower → p character) {character : Char}
    (inside : p character) : p character.toLower := by
  rcases toLower_cases character with same | lower
  · rwa [same]
  · exact letters _ lower

theorem forall_mem_map_toLower {p : Char → Bool}
    (letters : ∀ character, character.isLower → p character) {text : List Char}
    (inside : ∀ character ∈ text, p character) :
    ∀ character ∈ text.map Char.toLower, p character := by
  intro lowered found
  obtain ⟨character, member, rfl⟩ := List.mem_map.mp found
  exact toLower_of_class letters (inside character member)

theorem isTokenChar_of_isLower (character : Char) (lower : character.isLower) :
    isTokenChar character := by
  have letter : character.isAlphanum := by
    change (character.isUpper || character.isLower || character.isDigit) = true
    rw [lower, Bool.or_true, Bool.true_or]
  rw [isTokenChar, letter, Bool.true_or]

theorem isContent_of_isLower (character : Char) (lower : character.isLower) :
    (isQuotedChar character && decide (character ≠ '"')) = true := by
  obtain ⟨first, last⟩ := isLower_iff.mp lower
  have least : 97 ≤ character.toNat := first
  have greatest : character.toNat ≤ 122 := last
  have apart : character ≠ '"' := by
    rintro rfl
    exact absurd least (by decide)
  simp only [isQuotedChar, Bool.and_eq_true, decide_eq_true_eq]
  exact ⟨⟨by omega, by omega⟩, apart⟩

/-! ### Steps of reading -/

theorem bind_eq_ok {α β : Type} {first : Except Defect α} {next : α → Except Defect β}
    {value : β} :
    first >>= next = .ok value ↔ ∃ found, first = .ok found ∧ next found = .ok value := by
  constructor
  · intro done
    cases first with
    | error => nomatch done
    | ok found => exact ⟨found, rfl, done⟩
  · rintro ⟨found, rfl, done⟩
    exact done

theorem ite_eq_ok {α : Type} {passes : Prop} [Decidable passes] {result : Except Defect α}
    {defect : Defect} {value : α} :
    (if passes then result else .error defect) = .ok value ↔ passes ∧ result = .ok value := by
  by_cases passed : passes <;> simp [passed]

/-! ### Values -/

/-- The text of a value, and what may stand between it and the next semicolon. A value without any
characters has to be the last one. -/
inductive IsValue : (value gap : List Char) → (last : Bool) → Prop where
  | plain (token : ∀ character ∈ value, isTokenChar character) (ends : value = [] → last = true) :
      IsValue value [] last
  | quoted (opens : isQuotedChar first)
      (content : ∀ character ∈ middle, isQuotedChar character && decide (character ≠ '"'))
      (spaces : ∀ character ∈ gap, decide (character = ' ')) :
      IsValue ('"' :: first :: middle ++ ['"']) gap last

/-- A semicolon and what stands behind it, or the end of the text. -/
def follow : Option (List Char) → List Char
  | none => []
  | some more => ';' :: more

variable {position : Nat} {input : List Char} {read : ReadValue}

theorem stops_follow {p : Char → Bool} (apart : p ';' = false) (next : Option (List Char)) :
    Stops p (follow next) := by
  cases next with
  | none => exact fun _ found => nomatch found
  | some more =>
    rintro _ ⟨⟩
    exact apart

theorem readPlainValue_sound (done : readPlainValue position input = .ok read) :
    IsValue read.value read.gap read.next.isNone ∧
      input = read.value ++ read.gap ++ follow read.next := by
  obtain ⟨value, rest, rfl, token, stops⟩ := exists_run isTokenChar input
  simp only [readPlainValue, takeWhile_run token stops, dropWhile_run token stops] at done
  cases rest with
  | nil =>
    cases done
    exact ⟨.plain token fun _ => rfl, by simp [follow]⟩
  | cons mark more =>
    obtain ⟨⟨rfl, nonempty⟩, found⟩ := ite_eq_ok.mp done
    cases found
    exact ⟨.plain token fun empty => absurd empty nonempty, by simp [follow]⟩

theorem readPlainValue_complete (position : Nat) {value : List Char} {next : Option (List Char)}
    (token : ∀ character ∈ value, isTokenChar character) (ends : value = [] → next.isNone = true) :
    readPlainValue position (value ++ follow next) = .ok ⟨value, [], next⟩ := by
  have stops : Stops isTokenChar (follow next) := stops_follow (by decide) next
  simp only [readPlainValue, takeWhile_run token stops, dropWhile_run token stops]
  cases next with
  | none => rfl
  | some more => exact if_pos ⟨rfl, fun empty => nomatch ends empty⟩

theorem readGap_sound {value : List Char} (done : readGap position value input = .ok read) :
    read.value = value ∧ (∀ character ∈ read.gap, decide (character = ' ')) ∧
      input = read.gap ++ follow read.next := by
  obtain ⟨gap, rest, rfl, spaces, stops⟩ := exists_run (· = ' ') input
  simp only [readGap, takeWhile_run spaces stops, dropWhile_run spaces stops] at done
  cases rest with
  | nil =>
    cases done
    exact ⟨rfl, spaces, rfl⟩
  | cons mark more =>
    obtain ⟨rfl, found⟩ := ite_eq_ok.mp done
    cases found
    exact ⟨rfl, spaces, rfl⟩

theorem readGap_complete (position : Nat) (value : List Char) {gap : List Char}
    (spaces : ∀ character ∈ gap, decide (character = ' ')) (next : Option (List Char)) :
    readGap position value (gap ++ follow next) = .ok ⟨value, gap, next⟩ := by
  have stops : Stops (fun character => decide (character = ' ')) (follow next) :=
    stops_follow (by decide) next
  simp only [readGap, takeWhile_run spaces stops, dropWhile_run spaces stops]
  cases next <;> rfl

theorem readQuotedValue_sound (done : readQuotedValue position input = .ok read) :
    IsValue read.value read.gap read.next.isNone ∧
      '"' :: input = read.value ++ read.gap ++ follow read.next := by
  cases input with
  | nil => nomatch done
  | cons first input =>
    obtain ⟨opens, done⟩ := ite_eq_ok.mp done
    obtain ⟨middle, rest, rfl, content, stops⟩ :=
      exists_run (fun character => isQuotedChar character && decide (character ≠ '"')) input
    simp only [takeWhile_run content stops, dropWhile_run content stops] at done
    cases rest with
    | nil => nomatch done
    | cons mark rest =>
      obtain ⟨rfl, done⟩ := ite_eq_ok.mp done
      obtain ⟨value, spaces, rfl⟩ := readGap_sound done
      rw [value]
      exact ⟨.quoted opens content spaces, by simp⟩

theorem readQuotedValue_complete (position : Nat) {first : Char} {middle gap : List Char}
    (opens : isQuotedChar first)
    (content : ∀ character ∈ middle, isQuotedChar character && decide (character ≠ '"'))
    (spaces : ∀ character ∈ gap, decide (character = ' ')) (next : Option (List Char)) :
    readQuotedValue position (first :: (middle ++ '"' :: (gap ++ follow next))) =
      .ok ⟨'"' :: first :: middle ++ ['"'], gap, next⟩ := by
  have stops : Stops (fun character => isQuotedChar character && decide (character ≠ '"'))
      ('"' :: (gap ++ follow next)) := by
    rintro _ ⟨⟩
    rfl
  rw [readQuotedValue, if_pos opens]
  simp only [takeWhile_run content stops, dropWhile_run content stops]
  exact readGap_complete _ _ spaces next

theorem readValue_of_ne (unquoted : ∀ rest, input ≠ '"' :: rest) :
    readValue position input = readPlainValue position input := by
  unfold readValue
  split
  case h_1 rest => exact absurd rfl (unquoted rest)
  case h_2 => rfl

theorem readValue_sound (done : readValue position input = .ok read) :
    IsValue read.value read.gap read.next.isNone ∧
      input = read.value ++ read.gap ++ follow read.next := by
  by_cases quoted : ∃ rest, input = '"' :: rest
  · obtain ⟨rest, rfl⟩ := quoted
    exact readQuotedValue_sound done
  · rw [readValue_of_ne (not_exists.mp quoted)] at done
    exact readPlainValue_sound done

theorem readValue_complete (position : Nat) {value gap : List Char} {next : Option (List Char)}
    (valued : IsValue value gap next.isNone) :
    readValue position (value ++ gap ++ follow next) = .ok ⟨value, gap, next⟩ := by
  cases valued with
  | plain token ends =>
    rw [List.append_nil, readValue_of_ne, readPlainValue_complete position token ends]
    intro rest same
    cases value with
    | nil => cases next <;> cases same
    | cons first value =>
      obtain ⟨rfl, -⟩ := List.cons.inj same
      exact absurd (token _ List.mem_cons_self) (by decide)
  | quoted opens content spaces =>
    have read := readQuotedValue_complete (position + 1) opens content spaces next
    simpa [readValue] using read

theorem IsValue.map_toLower {value gap : List Char} {last : Bool}
    (valued : IsValue value gap last) : IsValue (value.map Char.toLower) gap last := by
  cases valued with
  | plain token ends =>
    refine .plain (forall_mem_map_toLower isTokenChar_of_isLower token) fun empty => ends ?_
    exact List.map_eq_nil_iff.mp empty
  | quoted opens content spaces =>
    rw [List.map_append, List.map_cons, List.map_cons]
    refine .quoted (toLower_of_class ?_ opens)
      (forall_mem_map_toLower isContent_of_isLower content) spaces
    exact fun _ lower => (Bool.and_eq_true_iff.mp (isContent_of_isLower _ lower)).1

theorem IsValue.keptValue {value gap : List Char} {last : Bool} (valued : IsValue value gap last)
    (name : List Char) : IsValue (keptValue name value) gap last := by
  unfold Mime.keptValue
  split
  · exact valued.map_toLower
  · exact valued

theorem keptValue_keptValue (name value : List Char) :
    keptValue name (keptValue name value) = keptValue name value := by
  unfold keptValue
  split
  · exact map_toLower_map_toLower value
  · rfl

/-! ### Parameters -/

/-- A parameter as it stands in a text, with the spaces around it. -/
structure Parameter where
  spaces : List Char
  name : List Char
  value : List Char
  gap : List Char

namespace Parameter

def text (parameter : Parameter) : List Char :=
  parameter.spaces ++ parameter.name ++ '=' :: parameter.value ++ parameter.gap

/-- A parameter as it is kept. -/
def kept (parameter : Parameter) : Parameter :=
  let name := parameter.name.map Char.toLower
  { parameter with name, value := keptValue name parameter.value }

/-- A parameter that can stand in a text, with a semicolon behind it unless it is the last one. -/
structure IsWritten (parameter : Parameter) (last : Bool) : Prop where
  spaces : ∀ character ∈ parameter.spaces, decide (character = ' ')
  named : parameter.name ≠ []
  name : ∀ character ∈ parameter.name, isTokenChar character
  value : IsValue parameter.value parameter.gap last

theorem stops_name {parameter : Parameter} {last : Bool} (written : parameter.IsWritten last)
    (rest : List Char) :
    Stops (fun character => decide (character = ' ')) (parameter.name ++ rest) := by
  obtain ⟨first, name, whole⟩ := List.exists_cons_of_ne_nil written.named
  have token := written.name first (whole ▸ List.mem_cons_self)
  rw [whole]
  rintro _ ⟨⟩
  refine decide_eq_false ?_
  rintro rfl
  exact absurd token (by decide)

theorem IsWritten.kept {parameter : Parameter} {last : Bool} (written : parameter.IsWritten last) :
    parameter.kept.IsWritten last where
  spaces := written.spaces
  named empty := written.named (List.map_eq_nil_iff.mp empty)
  name := forall_mem_map_toLower isTokenChar_of_isLower written.name
  value := written.value.keptValue _

theorem kept_kept (parameter : Parameter) : parameter.kept.kept = parameter.kept := by
  simp only [kept, map_toLower_map_toLower, keptValue_keptValue]

end Parameter

/-- The text of a list of parameters, and what is kept of it, or nothing if none is there. -/
inductive IsList : List Char → Option (List Char) → Prop where
  | nothing {input : List Char} (spaces : ∀ character ∈ input, decide (character = ' ')) :
      IsList input none
  | last {parameter : Parameter} (written : parameter.IsWritten true) :
      IsList parameter.text (some parameter.kept.text)
  | more {parameter : Parameter} {input : List Char} {result : Option (List Char)}
      (written : parameter.IsWritten false) (others : IsList input result) :
      IsList (parameter.text ++ ';' :: input)
        (some (parameter.kept.text ++ ';' :: result.getD input))

/-- Reading a parameter goes on behind its semicolon, if there is one. -/
theorem readParameters_parameter (fuel position : Nat) {parameter : Parameter}
    (next : Option (List Char)) (written : parameter.IsWritten next.isNone) :
    ∃ behind, readParameters (fuel + 1) position (parameter.text ++ follow next) =
      match next with
      | none => .ok (some parameter.kept.text)
      | some more => readParameters fuel behind more >>= fun tail =>
        .ok (some (parameter.kept.text ++ ';' :: tail.getD more)) := by
  obtain ⟨spaces, name, value, gap⟩ := parameter
  -- The spaces end where the name starts, so the first letter of the name is needed.
  cases name with
  | nil => exact absurd rfl written.named
  | cons first name =>
    have whole : Parameter.text ⟨spaces, first :: name, value, gap⟩ ++ follow next =
        spaces ++ first :: (name ++ '=' :: (value ++ gap ++ follow next)) := by
      simp [Parameter.text]
    have spaced : ∀ character ∈ spaces, decide (character = ' ') := written.spaces
    have starts : Stops (fun character => decide (character = ' '))
        (first :: (name ++ '=' :: (value ++ gap ++ follow next))) :=
      Parameter.stops_name written _
    have stops : Stops isTokenChar ('=' :: (value ++ gap ++ follow next)) := by
      rintro _ ⟨⟩
      rfl
    have named : (first :: (name ++ '=' :: (value ++ gap ++ follow next))).takeWhile isTokenChar =
        first :: name :=
      takeWhile_run written.name stops
    have valued : (first :: (name ++ '=' :: (value ++ gap ++ follow next))).dropWhile isTokenChar =
        '=' :: (value ++ gap ++ follow next) :=
      dropWhile_run written.name stops
    refine ⟨position + spaces.length + (first :: name).length + 1 + byteLength (value ++ gap) + 1,
      ?_⟩
    rw [whole, readParameters]
    simp only [takeWhile_run spaced starts, dropWhile_run spaced starts, named, valued]
    rw [if_pos ⟨trivial, written.named⟩, readValue_complete _ written.value]
    cases next <;> rfl

/-- What is read starts with a parameter, unless only spaces are left. -/
theorem exists_parameter {fuel : Nat} {result : Option (List Char)}
    (done : readParameters (fuel + 1) position input = .ok result) :
    (∀ character ∈ input, decide (character = ' ')) ∧ result = none ∨
      ∃ (parameter : Parameter) (next : Option (List Char)),
        parameter.IsWritten next.isNone ∧ input = parameter.text ++ follow next := by
  obtain ⟨spaces, rest, rfl, spaced, starts⟩ := exists_run (· = ' ') input
  rw [readParameters] at done
  simp only [takeWhile_run spaced starts, dropWhile_run spaced starts] at done
  cases rest with
  | nil =>
    cases done
    exact .inl ⟨(List.append_nil spaces).symm ▸ spaced, rfl⟩
  | cons first rest =>
    obtain ⟨name, valued, whole, token, stops⟩ := exists_run isTokenChar (first :: rest)
    simp only [whole, takeWhile_run token stops, dropWhile_run token stops] at done
    cases valued with
    | nil => nomatch done
    | cons mark valued =>
      obtain ⟨⟨rfl, named⟩, passed⟩ := ite_eq_ok.mp done
      obtain ⟨read, found, -⟩ := bind_eq_ok.mp passed
      obtain ⟨value, rfl⟩ := readValue_sound found
      refine .inr ⟨⟨spaces, name, read.value, read.gap⟩, read.next, ⟨spaced, named, token, value⟩,
        ?_⟩
      rw [whole]
      simp [Parameter.text]

theorem readParameters_sound {fuel : Nat} {result : Option (List Char)}
    (enough : input.length < fuel) (done : readParameters fuel position input = .ok result) :
    IsList input result := by
  induction fuel generalizing position input result with
  | zero => exact absurd enough (Nat.not_lt_zero _)
  | succ fuel ih =>
    obtain ⟨spaces, rfl⟩ | ⟨parameter, next, written, rfl⟩ := exists_parameter done
    · exact .nothing spaces
    · obtain ⟨behind, step⟩ := readParameters_parameter fuel position next written
      rw [step] at done
      cases next with
      | none =>
        cases done
        rw [follow, List.append_nil]
        exact .last written
      | some more =>
        obtain ⟨tail, found, done⟩ := bind_eq_ok.mp done
        cases done
        refine .more written (ih ?_ found)
        simp only [follow, List.length_append, List.length_cons] at enough
        omega

theorem readParameters_complete {result : Option (List Char)} (list : IsList input result)
    {fuel : Nat} (enough : input.length < fuel) (position : Nat) :
    readParameters fuel position input = .ok result := by
  obtain ⟨fuel, rfl⟩ := Nat.exists_eq_succ_of_ne_zero (Nat.ne_zero_of_lt enough)
  induction list generalizing fuel position with
  | nothing spaces =>
    rw [readParameters, List.dropWhile_eq_nil_iff.mpr spaces]
  | @last parameter written =>
    obtain ⟨behind, step⟩ := readParameters_parameter fuel position none written
    rwa [follow, List.append_nil] at step
  | @more parameter input result written others ih =>
    obtain ⟨behind, step⟩ := readParameters_parameter fuel position (some input) written
    simp only [List.length_append, List.length_cons] at enough
    obtain ⟨fuel, rfl⟩ := Nat.exists_eq_succ_of_ne_zero (n := fuel) (by omega)
    have read := ih behind fuel (by omega)
    simp only [read] at step
    exact step

/-- What is kept of a list is a list of which everything is kept. -/
theorem IsList.kept {result : Option (List Char)} (list : IsList input result) :
    IsList (result.getD input) result := by
  induction list with
  | nothing spaces => exact .nothing spaces
  | @last parameter written =>
    have again := IsList.last written.kept
    rwa [parameter.kept_kept] at again
  | @more parameter input result written others ih =>
    have again := IsList.more written.kept ih
    have same : result.getD (result.getD input) = result.getD input := by cases result <;> rfl
    rwa [parameter.kept_kept, same] at again

/-! ### Media types -/

/-- A type and a subtype. -/
structure IsEssence (kind subtype : List Char) : Prop where
  named : kind ≠ []
  kind : ∀ character ∈ kind, isTokenChar character
  subtype : ∀ character ∈ subtype, isTokenChar character

/-- The text of a media type and what is kept of it. Only the subtype at the end of a text may have
no characters, and a list of no parameters is not kept. -/
inductive Keeps : (text kept : List Char) → Prop where
  | bare {kind subtype : List Char} (essence : IsEssence kind subtype) :
      Keeps (kind ++ '/' :: subtype) ((kind ++ '/' :: subtype).map Char.toLower)
  | listed {kind subtype input : List Char} {result : Option (List Char)}
      (essence : IsEssence kind subtype) (nonempty : subtype ≠ []) (list : IsList input result) :
      Keeps (kind ++ '/' :: subtype ++ ';' :: input)
        ((kind ++ '/' :: subtype).map Char.toLower ++ follow result)

theorem IsEssence.map_toLower {kind subtype : List Char} (essence : IsEssence kind subtype) :
    IsEssence (kind.map Char.toLower) (subtype.map Char.toLower) where
  named empty := essence.named (List.map_eq_nil_iff.mp empty)
  kind := forall_mem_map_toLower isTokenChar_of_isLower essence.kind
  subtype := forall_mem_map_toLower isTokenChar_of_isLower essence.subtype

/-- What is kept of a media type is a media type of which everything is kept. -/
theorem Keeps.kept {text kept : List Char} (keeps : Keeps text kept) : Keeps kept kept := by
  have lowered (kind subtype : List Char) : (kind ++ '/' :: subtype).map Char.toLower =
      kind.map Char.toLower ++ '/' :: subtype.map Char.toLower := by
    rw [List.map_append, List.map_cons]
    rfl
  cases keeps with
  | @bare kind subtype essence =>
    have again := Keeps.bare essence.map_toLower
    rwa [← lowered, map_toLower_map_toLower] at again
  | @listed kind subtype input result essence nonempty list =>
    cases result with
    | none =>
      have again := Keeps.bare essence.map_toLower
      rwa [← lowered, map_toLower_map_toLower, ← List.append_nil (List.map _ _)] at again
    | some more =>
      have nonempty : subtype.map Char.toLower ≠ [] := fun empty =>
        nonempty (List.map_eq_nil_iff.mp empty)
      have again := Keeps.listed essence.map_toLower nonempty list.kept
      rwa [← lowered, map_toLower_map_toLower] at again

/-- A media type behind the check for the one that stands for all others. -/
def parseList (input : List Char) : Except Defect Mime :=
  let kind := input.takeWhile isTokenChar
  match input.dropWhile isTokenChar with
  | [] => .error .missingSlash
  | character :: rest =>
    if character = '/' ∧ kind ≠ [] then readSubtype kind rest
    else .error (unexpected character kind.length)

theorem parse_eq_parseList (text : String) : parse text = parseList text.toList := by
  by_cases all : text = "*/*"
  · subst all
    rfl
  · exact if_neg all

theorem readSubtype_sound {kind : List Char} {mime : Mime} (named : kind ≠ [])
    (typed : ∀ character ∈ kind, isTokenChar character) (done : readSubtype kind input = .ok mime) :
    Keeps (kind ++ '/' :: input) mime.text.toList := by
  obtain ⟨subtype, rest, rfl, subtyped, stops⟩ := exists_run isTokenChar input
  have essence : IsEssence kind subtype := ⟨named, typed, subtyped⟩
  simp only [readSubtype, takeWhile_run subtyped stops, dropWhile_run subtyped stops] at done
  cases rest with
  | nil =>
    cases done
    rw [List.append_nil, String.toList_ofList]
    exact .bare essence
  | cons mark rest =>
    obtain ⟨⟨rfl, nonempty⟩, passed⟩ := ite_eq_ok.mp done
    obtain ⟨result, read, kept⟩ := bind_eq_ok.mp passed
    have keeps := Keeps.listed essence nonempty (readParameters_sound (Nat.lt_succ_self _) read)
    have same : (kind ++ '/' :: subtype).map Char.toLower ++ follow result = mime.text.toList := by
      cases result <;> cases kept <;> simp [follow]
    rw [same] at keeps
    simpa using keeps

theorem parse_sound {text : String} {mime : Mime} (done : parse text = .ok mime) :
    Keeps text.toList mime.text.toList := by
  rw [parse_eq_parseList] at done
  obtain ⟨kind, rest, whole, typed, stops⟩ := exists_run isTokenChar text.toList
  simp only [parseList, whole, takeWhile_run typed stops, dropWhile_run typed stops] at done
  rw [whole]
  cases rest with
  | nil => nomatch done
  | cons mark rest =>
    obtain ⟨⟨rfl, named⟩, passed⟩ := ite_eq_ok.mp done
    exact readSubtype_sound named typed passed

theorem parseList_essence {kind subtype : List Char} (essence : IsEssence kind subtype)
    (rest : List Char) :
    parseList (kind ++ '/' :: (subtype ++ rest)) = readSubtype kind (subtype ++ rest) := by
  have slash : Stops isTokenChar ('/' :: (subtype ++ rest)) := by
    rintro _ ⟨⟩
    rfl
  simp only [parseList, takeWhile_run essence.kind slash, dropWhile_run essence.kind slash]
  exact if_pos ⟨trivial, essence.named⟩

theorem parseList_complete {text kept : List Char} (keeps : Keeps text kept) :
    parseList text = .ok ⟨String.ofList kept⟩ := by
  cases keeps with
  | @bare kind subtype essence =>
    have stops : Stops isTokenChar [] := fun _ found => nomatch found
    have read := parseList_essence essence []
    simp only [readSubtype, takeWhile_run essence.subtype stops,
      dropWhile_run essence.subtype stops] at read
    rwa [List.append_nil] at read
  | @listed kind subtype input result essence nonempty list =>
    have stops : Stops isTokenChar (';' :: input) := by
      rintro _ ⟨⟩
      rfl
    have read := parseList_essence essence (';' :: input)
    simp only [readSubtype, takeWhile_run essence.subtype stops,
      dropWhile_run essence.subtype stops,
      readParameters_complete list (Nat.lt_succ_self _)] at read
    rw [if_pos ⟨trivial, nonempty⟩] at read
    rw [List.append_assoc, List.cons_append, read]
    cases result with
    | none => rw [follow, List.append_nil]; rfl
    | some more => rfl

/-- The parser accepts the texts of the grammar, keeps what it says and accepts no others. -/
theorem parse_eq_ok_iff {text : String} {mime : Mime} :
    parse text = .ok mime ↔ Keeps text.toList mime.text.toList := by
  constructor
  · exact parse_sound
  · intro keeps
    rw [parse_eq_parseList, parseList_complete keeps, String.ofList_toList]

/-- The text that a media type keeps is read as this media type. -/
theorem parse_text {text : String} {mime : Mime} (done : parse text = .ok mime) :
    parse mime.text = .ok mime :=
  parse_eq_ok_iff.mpr (parse_eq_ok_iff.mp done).kept

end HttpDispatch.Mime
