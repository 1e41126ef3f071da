import HttpDispatch.Fault.Classifier
import Mathlib.Data.List.Induction

/-!
What a table of rules decides. However its rules were declared, a table has for every sort of error
the rule declared last, and the outermost layer of a fault that has a rule decides alone.
-/

namespace HttpDispatch

namespace RuleTable

/-- What is done to a table while it is made. -/
inductive Call where
  | handle (rule : Rule)
  | handleStatus (kind : Layer.Kind) (status : Status)
  | defaults

namespace Call

def perform (table : RuleTable) : Call → RuleTable
  | handle rule => table.declare rule
  | handleStatus kind status => table.declareStatus kind status
  | defaults => table.declareDefaults

/-- The rules that a call declares, in order. -/
def rules : Call → List Rule
  | handle rule => [rule]
  | handleStatus kind status => [⟨kind, fun _ => status⟩]
  | defaults => RuleTable.defaults

end Call

/-- The table that calls make. -/
def after (calls : List Call) : RuleTable := calls.foldl Call.perform []

/-- The rules that calls declare for one sort of error, in order. -/
def declaredFor (calls : List Call) (kind : Layer.Kind) : List Rule :=
  (calls.flatMap Call.rules).filter (·.kind = kind)

/-- The rule that calls declare last for one sort of error. -/
def lastFor? (calls : List Call) (kind : Layer.Kind) : Option Rule :=
  (declaredFor calls kind).getLast?

/-! ### What a table holds -/

/-- The rule that a table has for one sort of error. -/
def ruleFor? (table : RuleTable) (kind : Layer.Kind) : Option Rule := table.find? (·.kind == kind)

variable {table : RuleTable} {rule : Rule} {kind : Layer.Kind}

theorem ruleFor?_cons (held : Rule) (rest : RuleTable) (kind : Layer.Kind) :
    ruleFor? (held :: rest) kind = if held.kind = kind then some held else rest.ruleFor? kind := by
  by_cases same : held.kind = kind <;> simp [ruleFor?, same]

/-- A rule takes the place of all rules for its sort. -/
theorem ruleFor?_replace (table : RuleTable) (rule : Rule) (kind : Layer.Kind) :
    ruleFor? (table.map fun held => if held.kind == rule.kind then rule else held) kind =
      if rule.kind = kind then (table.ruleFor? kind).map fun _ => rule
      else table.ruleFor? kind := by
  induction table with
  | nil => simp [ruleFor?]
  | cons held rest ih =>
    rw [List.map_cons, ruleFor?_cons, ih, ruleFor?_cons]
    by_cases replaced : held.kind = rule.kind
    · by_cases here : rule.kind = kind <;> simp [replaced, here]
    · by_cases here : rule.kind = kind
      · have other : held.kind ≠ kind := fun same => replaced (same.trans here.symm)
        simp [here, other]
      · simp [replaced, here]

theorem ruleFor?_declare (table : RuleTable) (rule : Rule) (kind : Layer.Kind) :
    (table.declare rule).ruleFor? kind =
      if rule.kind = kind then some rule else table.ruleFor? kind := by
  unfold declare
  by_cases known : table.any (·.kind == rule.kind) = true
  · rw [if_pos known, ruleFor?_replace]
    by_cases here : rule.kind = kind
    · subst here
      obtain ⟨held, found⟩ := Option.isSome_iff_exists.mp (List.find?_isSome.mpr
        (List.any_eq_true.mp known))
      simp [ruleFor?, found]
    · rw [if_neg here, if_neg here]
  · rw [if_neg known]
    have missing : table.ruleFor? rule.kind = none := by
      rw [ruleFor?, List.find?_eq_none]
      intro held member same
      exact known (List.any_eq_true.mpr ⟨held, member, same⟩)
    rw [ruleFor?, List.find?_append, ← ruleFor?, ← ruleFor?, ruleFor?_cons]
    by_cases here : rule.kind = kind
    · subst here
      simp [missing]
    · simp [here, ruleFor?]

theorem perform_eq (call : Call) (table : RuleTable) :
    call.perform table = call.rules.foldl declare table := by
  cases call <;> rfl

theorem after_eq (calls : List Call) :
    after calls = (calls.flatMap Call.rules).foldl declare [] := by
  rw [after, List.foldl_flatMap]
  congr 1
  funext table call
  exact perform_eq call table

/-- Declared one after the other, the last rule for a sort stays. -/
theorem ruleFor?_foldl_declare (rules : List Rule) (kind : Layer.Kind) :
    ruleFor? (rules.foldl declare []) kind = (rules.filter (·.kind = kind)).getLast? := by
  induction rules using List.reverseRecOn with
  | nil => rfl
  | append_singleton rules rule ih =>
    rw [List.foldl_append, List.foldl_cons, List.foldl_nil, ruleFor?_declare, ih,
      List.filter_append]
    by_cases here : rule.kind = kind <;> simp [here]

theorem ruleFor?_after (calls : List Call) (kind : Layer.Kind) :
    (after calls).ruleFor? kind = lastFor? calls kind := by
  rw [after_eq, ruleFor?_foldl_declare]
  rfl

/-! ### What a table decides -/

theorem classifyLayers_cons (table : RuleTable) (outer : Layer) (causes : List Layer) :
    table.classifyLayers (outer :: causes) =
      match table.ruleFor? outer.kind with
      | some rule => (rule.status ⟨outer, causes⟩).clampToError
      | none => table.classifyLayers causes := by
  rw [classifyLayers, ruleStatus?, ruleFor?]
  cases table.find? (·.kind == outer.kind) <;> rfl

/-- Layers without a rule are passed over. -/
theorem classifyLayers_append {above : List Layer} (layers : List Layer)
    (unruled : ∀ layer ∈ above, table.ruleFor? layer.kind = none) :
    table.classifyLayers (above ++ layers) = table.classifyLayers layers := by
  induction above with
  | nil => rfl
  | cons outer above ih =>
    rw [List.forall_mem_cons] at unruled
    rw [List.cons_append, classifyLayers_cons, unruled.1]
    exact ih unruled.2

/-- Tables with the same rules, in whatever order, decide alike. -/
theorem classifyLayers_congr {one other : RuleTable}
    (same : ∀ kind, one.ruleFor? kind = other.ruleFor? kind) (layers : List Layer) :
    one.classifyLayers layers = other.classifyLayers layers := by
  induction layers with
  | nil => rfl
  | cons outer causes ih => rw [classifyLayers_cons, classifyLayers_cons, same, ih]

/-- Calls about different sorts of errors can be made in either order. -/
theorem declaredFor_swap (before rest : List Call) {one other : Call}
    (apart : ∀ first ∈ one.rules, ∀ second ∈ other.rules, first.kind ≠ second.kind)
    (kind : Layer.Kind) :
    declaredFor (before ++ other :: one :: rest) kind =
      declaredFor (before ++ one :: other :: rest) kind := by
  have only : one.rules.filter (·.kind = kind) = [] ∨ other.rules.filter (·.kind = kind) = [] := by
    by_cases here : ∃ first ∈ one.rules, first.kind = kind
    · obtain ⟨first, member, rfl⟩ := here
      right
      rw [List.filter_eq_nil_iff]
      intro second later same
      exact apart first member second later (of_decide_eq_true same).symm
    · left
      rw [List.filter_eq_nil_iff]
      intro first member same
      exact here ⟨first, member, by simpa using same⟩
  simp only [declaredFor, List.flatMap_append, List.flatMap_cons, List.filter_append]
  rcases only with none | none <;> simp [none]

end RuleTable

open RuleTable in
/-- What a classifier made by calls decides about faults. -/
structure Classifier.DecidesBy (classifier : Classifier) (calls : List RuleTable.Call) : Prop where
  /-- The outermost layer with a rule decides by the last one declared for its sort, and what is no
  error status is made an internal error there and then. -/
  ruled : ∀ (fault : Fault) (above : List Layer) (layer : Layer) (below : List Layer) (rule : Rule),
    fault.layers = above ++ layer :: below →
    (∀ outer ∈ above, lastFor? calls outer.kind = none) → lastFor? calls layer.kind = some rule →
    classifier.classify fault =
      if 400 ≤ (rule.status ⟨layer, below⟩).code ∧ (rule.status ⟨layer, below⟩).code ≤ 599 then
        rule.status ⟨layer, below⟩
      else .internal
  unruled : ∀ fault : Fault, (∀ layer ∈ fault.layers, lastFor? calls layer.kind = none) →
    classifier.classify fault = .internal
  isError : ∀ fault, 400 ≤ (classifier.classify fault).code ∧ (classifier.classify fault).code ≤ 599
  /-- Calls that declare the same rules for each sort in the same order decide alike, in whatever
  order they declare rules for different sorts. -/
  regrouped : ∀ others, (∀ kind, declaredFor others kind = declaredFor calls kind) →
    ∀ fault, (Classifier.table (after others)).classify fault = classifier.classify fault
  swapped : ∀ before one other rest, calls = before ++ one :: other :: rest →
    (∀ first ∈ one.rules, ∀ second ∈ other.rules, first.kind ≠ second.kind) →
    ∀ fault, (Classifier.table (after (before ++ other :: one :: rest))).classify fault =
      classifier.classify fault
  /-- A layer without a rule around a fault does not change what is decided. -/
  wrapped : ∀ (fault : Fault) (layer : Layer), lastFor? calls layer.kind = none →
    classifier.classify ⟨layer, fault.layers⟩ = classifier.classify fault

theorem Status.clampToError_eq (status : Status) :
    status.clampToError =
      if 400 ≤ status.code ∧ status.code ≤ 599 then status else .internal := by
  simp only [clampToError, isError_iff]

namespace RuleTable

/-- Calls with the same rules for each sort make tables that decide alike. -/
theorem classify_regrouped {calls others : List Call}
    (same : ∀ kind, declaredFor others kind = declaredFor calls kind) (fault : Fault) :
    (Classifier.table (after others)).classify fault =
      (Classifier.table (after calls)).classify fault := by
  apply classifyLayers_congr
  intro kind
  rw [ruleFor?_after, ruleFor?_after, lastFor?, same, lastFor?]

/-- Whatever calls make a table, in whatever order, it decides by the outermost layer for the sort
of which some rule was declared, and by the last one declared for it. -/
theorem table_decides (calls : List Call) :
    (Classifier.table (after calls)).DecidesBy calls where
  ruled fault above layer below rule layers unruled last := by
    have passed : ∀ outer ∈ above, (after calls).ruleFor? outer.kind = none := by
      intro outer member
      rw [ruleFor?_after, unruled outer member]
    rw [Classifier.classify, layers, classifyLayers_append _ passed, classifyLayers_cons,
      ruleFor?_after, last, ← Status.clampToError_eq]
  unruled fault unruled := by
    have passed : ∀ layer ∈ fault.layers, (after calls).ruleFor? layer.kind = none := by
      intro layer member
      rw [ruleFor?_after, unruled layer member]
    have nothing := classifyLayers_append [] passed
    rwa [List.append_nil] at nothing
  isError fault := Status.isError_iff.mp (Classifier.isError_classify _ fault)
  regrouped others same := classify_regrouped same
  swapped before one other rest same apart := by
    subst same
    exact classify_regrouped (declaredFor_swap before rest apart)
  wrapped fault layer unruled := by
    have passed : ∀ outer ∈ [layer], (after calls).ruleFor? outer.kind = none := by
      intro outer member
      rw [List.mem_singleton.mp member, ruleFor?_after, unruled]
    exact classifyLayers_append fault.layers passed

end RuleTable

end HttpDispatch
