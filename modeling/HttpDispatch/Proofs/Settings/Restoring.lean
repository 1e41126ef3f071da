import Mathlib.Data.List.Nodup
import HttpDispatch.Proofs.Message.MimeGrammar
import HttpDispatch.Proofs.Settings.JsonTexts
import HttpDispatch.Settings.Config

/-!
Settings that are stored and restored. All of their fields give the settings back. Only some of them
give these settings and the defaults of the others, whatever unknown fields are among them. A media
type that cannot be read fails the whole.
-/

namespace HttpDispatch

namespace Config

/-- The media types of the settings are such as have been read. -/
structure IsRead (config : Config) : Prop where
  defaultIn : ∃ text, Mime.parse text = .ok config.defaultIn
  defaultOut : ∃ text, Mime.parse text = .ok config.defaultOut

/-! ### Fields -/

/-- The fields that settings are stored in. -/
def fields (config : Config) : List (String × Document) := [
  ("default_in", .string config.defaultIn.text),
  ("default_out", .string config.defaultOut.text),
  ("wildcards", .boolean config.wildcards)]

theorem toDocument_eq (config : Config) : config.toDocument = .map config.fields := rfl

theorem nodup_fields (config : Config) : (config.fields.map (·.1)).Nodup := by
  change ["default_in", "default_out", "wildcards"].Nodup
  decide

/-- Some of the fields of the settings and some unknown ones, in any order. -/
structure Among (config : Config) (kept unknown fields : List (String × Document)) : Prop where
  stored : kept.Sublist config.fields
  others : ∀ entry ∈ unknown, entry.1 ∉ config.fields.map (·.1)
  mixed : fields.Perm (kept ++ unknown)

theorem lookup_of_unique {fields : List (String × Document)} {entry : String × Document}
    (found : entry ∈ fields) (only : ∀ other ∈ fields, other.1 = entry.1 → other = entry) :
    fields.lookup entry.1 = some entry.2 := by
  cases looked : fields.lookup entry.1 with
  | none =>
    have apart := List.lookup_eq_none_iff.mp looked entry found
    exact absurd rfl (bne_iff_ne.mp apart)
  | some document =>
    obtain ⟨front, rest, rfl, -⟩ := List.lookup_eq_some_iff.mp looked
    have same := only _ (List.mem_append_right front List.mem_cons_self) rfl
    rw [← same]

/-- A known field is found as it was stored, if it is there. -/
theorem Among.lookup_eq {config : Config} {kept unknown fields : List (String × Document)}
    (among : config.Among kept unknown fields) {name : String} {document : Document}
    (known : (name, document) ∈ config.fields) :
    fields.lookup name = if name ∈ kept.map (·.1) then some document else none := by
  have kept_of_named : ∀ entry ∈ fields, entry.1 = name → entry ∈ kept := by
    rintro entry found rfl
    rcases List.mem_append.mp (among.mixed.mem_iff.mp found) with member | member
    · exact member
    · exact absurd (List.mem_map_of_mem known) (among.others entry member)
  have same : ∀ entry ∈ kept, entry.1 = name → entry = (name, document) := by
    intro entry member named
    exact List.inj_on_of_nodup_map config.nodup_fields (among.stored.mem member) known named
  split
  case isTrue present =>
    obtain ⟨entry, member, named⟩ := List.mem_map.mp present
    obtain rfl := same entry member named
    refine lookup_of_unique (among.mixed.mem_iff.mpr (List.mem_append_left _ member)) ?_
    exact fun other found named => same other (kept_of_named other found named) named
  case isFalse absent =>
    rw [List.lookup_eq_none_iff]
    intro entry found
    refine bne_iff_ne.mpr fun named => absent ?_
    exact List.mem_map.mpr ⟨entry, kept_of_named entry found named.symm, named.symm⟩

/-! ### Reading them -/

/-- The settings whose fields are there, and the defaults of the others. -/
def restrictedTo (config : Config) (present : List String) : Config where
  defaultIn := if "default_in" ∈ present then config.defaultIn else standard.defaultIn
  defaultOut := if "default_out" ∈ present then config.defaultOut else standard.defaultOut
  wildcards := if "wildcards" ∈ present then config.wildcards else standard.wildcards

theorem restrictedTo_all (config : Config) :
    config.restrictedTo (config.fields.map (·.1)) = config := by
  cases config
  rfl

theorem readMime_text {mime : Mime} (read : ∃ text, Mime.parse text = .ok mime) :
    readMime (.string mime.text) = .ok mime := by
  obtain ⟨text, read⟩ := read
  rw [readMime, Mime.parse_text read]
  rfl

/-- A field that is read as a setting gives it, if it is there. -/
theorem readField_ite {α : Type} {read : Document → Except Defect α} {document : Document}
    {value : α} (gives : read document = .ok value) (default : α) (present : Prop)
    [Decidable present] :
    readField read default (if present then some document else none) =
      .ok (if present then value else default) := by
  split
  · exact gives
  · rfl

theorem ofDocument_among {config : Config} (read : config.IsRead)
    {kept unknown fields : List (String × Document)} (among : config.Among kept unknown fields) :
    ofDocument (.map fields) = .ok (config.restrictedTo (kept.map (·.1))) := by
  have mimeIn := readField_ite (readMime_text read.defaultIn) standard.defaultIn
    ("default_in" ∈ kept.map (·.1))
  have mimeOut := readField_ite (readMime_text read.defaultOut) standard.defaultOut
    ("default_out" ∈ kept.map (·.1))
  have flag : readBool (.boolean config.wildcards) = .ok config.wildcards := rfl
  have wildcards := readField_ite flag standard.wildcards ("wildcards" ∈ kept.map (·.1))
  rw [ofDocument, among.lookup_eq (.head _), among.lookup_eq (.tail _ (.head _)),
    among.lookup_eq (.tail _ (.tail _ (.head _))), readFields, mimeIn, mimeOut, wildcards]
  rfl

theorem among_fields (config : Config) : config.Among config.fields [] config.fields where
  stored := .refl _
  others _ member := nomatch member
  mixed := by rw [List.append_nil]

theorem ofDocument_toDocument {config : Config} (read : config.IsRead) :
    ofDocument config.toDocument = .ok config := by
  rw [toDocument_eq, ofDocument_among read config.among_fields, restrictedTo_all]

/-- What is wrong with fields of which one is a media type that cannot be read. -/
structure Rejects (fields : List (String × Document)) (text : String) (defect : Mime.Defect) :
    Prop where
  first : fields.lookup "default_in" = some (.string text) →
    ofDocument (.map fields) = .error (.invalidMime text defect)
  second : fields.lookup "default_out" = some (.string text) →
    ∃ complaint, ofDocument (.map fields) = .error complaint ∧
      ∀ mime, readField readMime standard.defaultIn (fields.lookup "default_in") = .ok mime →
        complaint = .invalidMime text defect

theorem rejects (fields : List (String × Document)) {text : String} {defect : Mime.Defect}
    (rejected : Mime.parse text = .error defect) : Rejects fields text defect := by
  have wrong : readMime (.string text) = .error (.invalidMime text defect) := by
    rw [readMime, rejected]
    rfl
  constructor
  · intro present
    rw [ofDocument, present, readFields, readField, wrong]
    rfl
  · intro present
    rw [ofDocument, present, readFields]
    cases found : readField readMime standard.defaultIn (fields.lookup "default_in") with
    | error complaint => exact ⟨complaint, rfl, fun _ read => nomatch read⟩
    | ok mime =>
      refine ⟨.invalidMime text defect, ?_, fun _ _ => rfl⟩
      rw [readField, wrong]
      rfl

theorem isScalar_of_mem_fields (config : Config) :
    ∀ entry ∈ config.fields, Json.IsScalar entry.2 := by
  simp only [fields, List.forall_mem_cons]
  exact ⟨.string _, .string _, .boolean _, fun _ member => nomatch member⟩

/-- Settings whose media types have been read are restored from what they are stored as, and this
can be written and read as text. Some of their fields restore these settings, beside any fields that
are unknown. A media type that cannot be read fails the whole. -/
theorem settings_restored (config : Config) (read : config.IsRead) :
    ofDocument config.toDocument = .ok config ∧
      Json.read (Json.write config.toDocument) = some config.toDocument ∧
      (∀ kept unknown fields : List (String × Document), config.Among kept unknown fields →
        ofDocument (.map fields) = .ok (config.restrictedTo (kept.map (·.1)))) ∧
      ∀ (fields : List (String × Document)) (text : String) (defect : Mime.Defect),
        Mime.parse text = .error defect → Rejects fields text defect := by
  refine ⟨ofDocument_toDocument read, ?_, ?_, ?_⟩
  · exact Json.read_write_map (List.cons_ne_nil _ _) config.isScalar_of_mem_fields
      config.nodup_fields
  · intro kept unknown fields among
    exact ofDocument_among read among
  · intro fields text defect rejected
    exact rejects fields rejected

/-- A charset in quotes that is followed by another parameter, and a type that announces parameters
and has none. -/
theorem quoted_charset_restored :
    let config : Config := ⟨⟨"text/html; charset=\"utf-8\" ; q=A;"⟩, ⟨"a/b"⟩, false⟩
    Mime.parse "Text/HTML; Charset=\"UTF-8\" ; Q=A;" = .ok config.defaultIn ∧
      Mime.parse "A/B; " = .ok config.defaultOut ∧
      ofDocument config.toDocument = .ok config ∧
      ofDocument (.map [("wildcards", .boolean false), ("size", .null),
        ("default_in", .string config.defaultIn.text)]) =
          .ok ⟨config.defaultIn, .textHtml, false⟩ := by
  intro config
  have first : Mime.parse "Text/HTML; Charset=\"UTF-8\" ; Q=A;" = .ok config.defaultIn := by rfl
  have second : Mime.parse "A/B; " = .ok config.defaultOut := by rfl
  obtain ⟨whole, -, partly, -⟩ := settings_restored config ⟨⟨_, first⟩, ⟨_, second⟩⟩
  refine ⟨first, second, whole, ?_⟩
  refine partly [("default_in", .string config.defaultIn.text), ("wildcards", .boolean false)]
    [("size", .null)] _ ⟨?_, ?_, ?_⟩
  · exact .cons_cons _ (.cons _ (.refl _))
  · simp [Config.fields]
  · exact List.perm_append_singleton _ [("wildcards", Document.boolean false), ("size", .null)]

end Config

end HttpDispatch
