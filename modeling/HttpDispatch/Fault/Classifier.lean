import HttpDispatch.Fault.Basic

/-!
Choosing the status of an error page. A table holds at most one rule for each sort of error; the
outermost layer of a fault that has a rule decides, and what it decides is made an error status.
-/

namespace HttpDispatch

/-- The status of the errors of one sort. A rule sees the error with its causes. -/
structure Rule where
  kind : Layer.Kind
  status : Fault → Status

/-- Rules, in the order in which their sorts were first declared. -/
abbrev RuleTable := List Rule

namespace RuleTable

/-- Declares a rule, in the place of the one for the same sort if there is one. -/
def declare (table : RuleTable) (rule : Rule) : RuleTable :=
  if table.any (·.kind == rule.kind) then
    table.map fun held => if held.kind == rule.kind then rule else held
  else table ++ [rule]

def declareStatus (table : RuleTable) (kind : Layer.Kind) (status : Status) : RuleTable :=
  table.declare ⟨kind, fun _ => status⟩

/-- The status that an error names itself. -/
def ownStatus (fault : Fault) : Status :=
  match fault.outer with
  | .serve status _ => status
  | .body defect => defect.status
  | _ => .internal

/-- The rules for the errors that the library itself raises or passes on. -/
def defaults : List Rule := [
  ⟨.serve, ownStatus⟩,
  ⟨.body, ownStatus⟩,
  ⟨.contextMiss, fun _ => .internal⟩,
  ⟨.outputType, fun _ => .internal⟩,
  ⟨.handlerPanic, fun _ => .internal⟩,
  ⟨.integer, fun _ => .badRequest⟩,
  ⟨.decimal, fun _ => .badRequest⟩,
  ⟨.truth, fun _ => .badRequest⟩,
  ⟨.textView, fun _ => .badRequest⟩,
  ⟨.textConversion, fun _ => .badRequest⟩,
  ⟨.form, fun _ => .badRequest⟩]

/-- Declares the default rules, as if each were declared in turn. -/
def declareDefaults (table : RuleTable) : RuleTable := defaults.foldl declare table

/-- The status of the first rule for the sort of a layer. -/
def ruleStatus? (table : RuleTable) (fault : Fault) : Option Status :=
  (table.find? (·.kind == fault.outer.kind)).map (·.status fault)

/-- The status of a chain of layers: that of the outermost layer with a rule. -/
def classifyLayers (table : RuleTable) : List Layer → Status
  | [] => .internal
  | outer :: causes =>
    match table.ruleStatus? ⟨outer, causes⟩ with
    | some status => status.clampToError
    | none => table.classifyLayers causes

theorem isError_classifyLayers (table : RuleTable) (layers : List Layer) :
    (table.classifyLayers layers).isError = true := by
  induction layers with
  | nil => rfl
  | cons outer causes ih =>
    unfold classifyLayers
    split
    · exact Status.isError_clampToError _
    · exact ih

end RuleTable

/-- How the status of a fault is chosen: from a table, or by a function of the fault. -/
inductive Classifier where
  | table (rules : RuleTable)
  | function (status : Fault → Status)

namespace Classifier

def standard : Classifier := .table (RuleTable.declareDefaults [])

/-- The status of a fault, always one of an error. -/
def classify : Classifier → Fault → Status
  | table rules, fault => rules.classifyLayers fault.layers
  | function status, fault => (status fault).clampToError

theorem isError_classify (classifier : Classifier) (fault : Fault) :
    (classifier.classify fault).isError = true := by
  cases classifier with
  | table rules => exact rules.isError_classifyLayers fault.layers
  | function status => exact Status.isError_clampToError _

end Classifier

end HttpDispatch
