/-!
Header lists. Names are compared ignoring case and a name may have several values, whose order
is kept.
-/

namespace HttpDispatch

/-- The name of a header, in lowercase. -/
structure HeaderName where
  text : String
  deriving DecidableEq

namespace HeaderName

def ofText (text : String) : HeaderName := ⟨text.map Char.toLower⟩

def accept : HeaderName := ⟨"accept"⟩
def allow : HeaderName := ⟨"allow"⟩
def contentLength : HeaderName := ⟨"content-length"⟩
def contentType : HeaderName := ⟨"content-type"⟩

end HeaderName

/-- The headers of a message, each with one value, in the order in which they were added. -/
structure Headers where
  entries : List (HeaderName × String)

namespace Headers

def empty : Headers := ⟨[]⟩

def valuesOf (headers : Headers) (name : HeaderName) : List String :=
  (headers.entries.filter fun entry => entry.1 == name).map (·.2)

def contains (headers : Headers) (name : HeaderName) : Bool :=
  headers.entries.any fun entry => entry.1 == name

/-- Adds a value after those that the name has. -/
def append (headers : Headers) (name : HeaderName) (value : String) : Headers :=
  ⟨headers.entries ++ [(name, value)]⟩

def remove (headers : Headers) (name : HeaderName) : Headers :=
  ⟨headers.entries.filter fun entry => entry.1 != name⟩

/-- Gives a name one value in place of those it has. -/
def insert (headers : Headers) (name : HeaderName) (value : String) : Headers :=
  (headers.remove name).append name value

/-- Gives a name one value, or takes its values away. -/
def assign (headers : Headers) (name : HeaderName) : Option String → Headers
  | some value => headers.insert name value
  | none => headers.remove name

/-- Whether a value is text that can be shown: visible ASCII, spaces and tabs. -/
def isReadable (value : String) : Bool :=
  value.toList.all fun character =>
    character = '\t' || (32 ≤ character.toNat && character.toNat ≤ 126)

/-- The first value of a name, if it can be shown as text. -/
def readable? (headers : Headers) (name : HeaderName) : Option String :=
  (headers.valuesOf name).head?.filter isReadable

theorem valuesOf_append (headers : Headers) (name wanted : HeaderName) (value : String) :
    (headers.append name value).valuesOf wanted =
      headers.valuesOf wanted ++ if name = wanted then [value] else [] := by
  by_cases same : name = wanted <;> simp [valuesOf, append, same]

theorem valuesOf_remove (headers : Headers) (name wanted : HeaderName) :
    (headers.remove name).valuesOf wanted =
      if name = wanted then [] else headers.valuesOf wanted := by
  unfold valuesOf remove
  rw [List.filter_filter]
  by_cases same : name = wanted
  · subst same
    simp
  · rw [if_neg same]
    congr 1
    apply List.filter_congr
    intro entry _
    by_cases found : entry.1 = wanted
    · simp [found, Ne.symm same]
    · simp [found]

theorem valuesOf_insert (headers : Headers) (name wanted : HeaderName) (value : String) :
    (headers.insert name value).valuesOf wanted =
      if name = wanted then [value] else headers.valuesOf wanted := by
  rw [insert, valuesOf_append, valuesOf_remove]
  by_cases same : name = wanted <;> simp [same]

end Headers

end HttpDispatch
