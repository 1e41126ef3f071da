import HttpDispatch.Text.Basic

/-!
The parts of a path. A path is read as its non-empty segments; a pattern is read as labels, which
either name a segment, ignoring case, or stand for any one segment. Labels are ordered by their
folded text, with the wildcard after every literal.
-/

namespace HttpDispatch.Routing

def segments (path : String) : List String :=
  (Text.nonemptyPieces '/' path.toList).map String.ofList

/-- Whether a star in a pattern is a wildcard or an ordinary segment. -/
inductive Mode where
  | wildcards
  | literal
  deriving DecidableEq

inductive Label where
  | literal (text : String)
  | wildcard
  deriving DecidableEq

namespace Label

/-- The order of labels: folded text by code point, the wildcard last. -/
def order : Label → Label → Ordering
  | .literal left, .literal right => compare (Text.fold left) (Text.fold right)
  | .literal _, .wildcard => .lt
  | .wildcard, .literal _ => .gt
  | .wildcard, .wildcard => .eq

/-- The label that one segment of a pattern stands for. A star is written `\*` where it is not
meant as a wildcard. -/
def ofSegment (mode : Mode) (segment : String) : Label :=
  match mode with
  | .literal => .literal segment
  | .wildcards =>
    if segment = "*" then .wildcard
    else if segment = "\\*" then .literal "*"
    else .literal segment

/-- The segment that a label is written as. -/
def render (mode : Mode) : Label → String
  | .wildcard => "*"
  | .literal text => if mode = .wildcards ∧ text = "*" then "\\*" else text

end Label

/-- The labels of a pattern. -/
def labels (mode : Mode) (pattern : String) : List Label :=
  (segments pattern).map (Label.ofSegment mode)

/-- A sequence of labels written as a path, one slash before each. -/
def renderPath (mode : Mode) (path : List Label) : String :=
  String.join (path.map fun label => "/" ++ label.render mode)

/-- A sequence of labels written as a pattern; the empty one is the root. -/
def renderPattern (mode : Mode) (path : List Label) : String :=
  if path.isEmpty then "/" else renderPath mode path

end HttpDispatch.Routing
