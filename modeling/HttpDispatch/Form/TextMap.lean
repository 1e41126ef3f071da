import HttpDispatch.Form.Codec

/-!
Maps of texts, in which the last value given to a name counts.
-/

namespace HttpDispatch

/-- A value for each of some names, in the order in which the names were first given. -/
structure TextMap where
  entries : Form.Pairs

namespace TextMap

def empty : TextMap := ⟨[]⟩

def get? (map : TextMap) (name : String) : Option String := map.entries.lookup name

def insertEntry (name value : String) : Form.Pairs → Form.Pairs
  | [] => [(name, value)]
  | (held, old) :: rest =>
    if held = name then (held, value) :: rest else (held, old) :: insertEntry name value rest

def insert (map : TextMap) (name value : String) : TextMap :=
  ⟨insertEntry name value map.entries⟩

/-- Gives names values in turn, a later pair counting more than an earlier one. -/
def extend (map : TextMap) (pairs : Form.Pairs) : TextMap :=
  pairs.foldl (fun map pair => map.insert pair.1 pair.2) map

def ofPairs (pairs : Form.Pairs) : TextMap := empty.extend pairs

theorem lookup_insertEntry (name value wanted : String) (entries : Form.Pairs) :
    (insertEntry name value entries).lookup wanted =
      if wanted = name then some value else entries.lookup wanted := by
  induction entries with
  | nil =>
    rw [insertEntry, List.lookup_cons]
    by_cases same : wanted = name
    · simp [same]
    · simp [beq_false_of_ne same, same]
  | cons entry rest ih =>
    obtain ⟨held, old⟩ := entry
    rw [insertEntry]
    by_cases found : held = name
    · subst found
      rw [if_pos rfl, List.lookup_cons, List.lookup_cons]
      by_cases same : wanted = held
      · simp [same]
      · simp [beq_false_of_ne same, same]
    · rw [if_neg found, List.lookup_cons, List.lookup_cons, ih]
      by_cases same : wanted = held
      · subst same
        simp [found]
      · simp [beq_false_of_ne same]

theorem get?_insert (map : TextMap) (name value wanted : String) :
    (map.insert name value).get? wanted = if wanted = name then some value else map.get? wanted :=
  lookup_insertEntry name value wanted map.entries

end TextMap

end HttpDispatch
