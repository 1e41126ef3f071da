import Mathlib.Data.List.DropRight
import Mathlib.Data.List.Induction
import HttpDispatch.Proofs.Message.EntityHeaders
import HttpDispatch.Proofs.Serving.Accesses

/-!
The content type of a request that was built step by step. A type may be stated in a header, on its
own or among all headers at once, and a body tells its type if none is known yet. So what counts is
the first of these since all headers were replaced; and it describes the body that the request
carries unless a body came before it.
-/

namespace HttpDispatch

namespace RequestDraft

/-! ### Steps -/

/-- A step in which a request is built. -/
inductive Step where
  | query (query : String)
  | header (name : HeaderName) (value : String)
  | headers (headers : Headers)
  | cookie (name value : String)
  | params (params : List String)
  | body (body : Body)

namespace Step

def apply (draft : RequestDraft) : Step → RequestDraft
  | query text => draft.withQuery text
  | header name value => draft.withHeader name value
  | headers given => draft.withHeaders given
  | cookie name value => draft.withCookie name value
  | params values => draft.withParams values
  | body content => draft.withBody content

/-- Whether what a step gives for headers can be shown as text. -/
def isReadable : Step → Bool
  | header _ value => Headers.isReadable value
  | headers given => given.entries.all fun entry => Headers.isReadable entry.2
  | body content => Headers.isReadable content.mime.text
  | query _ | cookie _ _ | params _ => true

/-- The headers that a step puts in place of all others. -/
def headers? : Step → Option Headers
  | headers given => some given
  | _ => none

def body? : Step → Option Body
  | body content => some content
  | _ => none

/-- The content type that a step adds to the headers. -/
def stated? : Step → Option String
  | header name value => if name = .contentType then some value else none
  | _ => none

/-- The content type that a step adds or that its body has. -/
def announced? : Step → Option String
  | body content => some content.mime.text
  | step => step.stated?

end Step

/-- The draft after steps. -/
def after (path : String) (steps : List Step) : RequestDraft :=
  steps.foldl Step.apply (.ofPath path)

/-- The headers given last in place of all others. -/
def base (steps : List Step) : Headers := (steps.filterMap Step.headers?).getLast?.getD .empty

/-- The steps since then. -/
def later (steps : List Step) : List Step := steps.rtakeWhile fun step => step.headers?.isNone

/-- The content types that are stated since all headers were replaced. -/
def statedTypes (steps : List Step) : List String :=
  (base steps).valuesOf .contentType ++ (later steps).filterMap Step.stated?

/-- Those of them that no body came before. -/
def leadingTypes (steps : List Step) : List String :=
  (base steps).valuesOf .contentType ++
    ((later steps).takeWhile fun step => step.body?.isNone).filterMap Step.stated?

/-- The content types that are stated or belong to bodies since all headers were replaced. -/
def announcedTypes (steps : List Step) : List String :=
  (base steps).valuesOf .contentType ++ (later steps).filterMap Step.announced?

def bodies (steps : List Step) : List Body := steps.filterMap Step.body?

/-! ### One more step -/

section

variable (steps : List Step) (step : Step)

theorem base_concat : base (steps ++ [step]) = step.headers?.getD (base steps) := by
  rw [base, List.filterMap_append]
  cases step <;> simp [Step.headers?, base]

theorem later_concat :
    later (steps ++ [step]) = if step.headers?.isNone then later steps ++ [step] else [] := by
  rw [later, List.rtakeWhile_concat]
  rfl

/-- The first announcement after a step, from the one before it. -/
theorem head?_announcedTypes_concat :
    (announcedTypes (steps ++ [step])).head? =
      match step.headers? with
      | some given => (given.valuesOf .contentType).head?
      | none => (announcedTypes steps).head?.or step.announced? := by
  rw [announcedTypes, base_concat, later_concat]
  cases replaced : step.headers? with
  | some given => simp
  | none => simp [announcedTypes, List.filterMap_append, ← List.append_assoc, List.head?_append]

end

/-- A body adds its type only where none is known, and a header adds one behind those known. -/
theorem head?_valuesOf_apply (draft : RequestDraft) (step : Step) :
    ((step.apply draft).headers.valuesOf .contentType).head? =
      match step.headers? with
      | some given => (given.valuesOf .contentType).head?
      | none => (draft.headers.valuesOf .contentType).head?.or step.announced? := by
  cases step with
  | headers given => rfl
  | query | cookie | params => exact (Option.or_none).symm
  | header name value =>
    change ((draft.headers.append name value).valuesOf .contentType).head? = _
    rw [Headers.valuesOf_append, List.head?_append]
    by_cases wanted : name = .contentType <;>
      simp [Step.headers?, Step.announced?, Step.stated?, wanted]
  | body body =>
    change ((draft.withBody body).headers.valuesOf .contentType).head? = _
    rw [withBody, Headers.contains_eq_isEmpty]
    cases known : draft.headers.valuesOf .contentType with
    | nil => simp [Headers.valuesOf_insert, Step.headers?, Step.announced?]
    | cons value values => simp [known, Step.headers?]

theorem body_apply (draft : RequestDraft) (step : Step) :
    (step.apply draft).body = step.body?.or draft.body := by
  cases step <;> rfl

theorem head?_valuesOf_after (path : String) (steps : List Step) :
    ((after path steps).headers.valuesOf .contentType).head? = (announcedTypes steps).head? := by
  induction steps using List.reverseRecOn with
  | nil => rfl
  | append_singleton steps step ih =>
    rw [after, List.foldl_append, ← after, List.foldl_cons, List.foldl_nil, head?_valuesOf_apply,
      head?_announcedTypes_concat, ih]

theorem body_after (path : String) (steps : List Step) :
    (after path steps).body = (bodies steps).getLast? := by
  induction steps using List.reverseRecOn with
  | nil => rfl
  | append_singleton steps step ih =>
    rw [after, List.foldl_append, ← after, List.foldl_cons, List.foldl_nil, body_apply, ih, bodies,
      bodies, List.filterMap_append, List.getLast?_append]
    cases set : step.body? <;> simp [set]

/-! ### What counts -/

theorem mem_of_mem_later {steps : List Step} {step : Step} (found : step ∈ later steps) :
    step ∈ steps :=
  (List.rtakeWhile_suffix _ _).mem found

theorem base_isReadable {steps : List Step} (readable : ∀ step ∈ steps, step.isReadable) :
    (base steps).entries.all fun entry => Headers.isReadable entry.2 := by
  induction steps using List.reverseRecOn with
  | nil => rfl
  | append_singleton steps step ih =>
    have earlier := ih fun step found => readable step (List.mem_append_left _ found)
    have last := readable step (List.mem_append_right _ List.mem_cons_self)
    rw [base_concat]
    cases step with
    | headers => exact last
    | query | header | cookie | params | body => exact earlier

theorem isReadable_of_mem_announcedTypes {steps : List Step}
    (readable : ∀ step ∈ steps, step.isReadable) {value : String}
    (announced : value ∈ announcedTypes steps) : Headers.isReadable value := by
  rcases List.mem_append.mp announced with stated | added
  · obtain ⟨entry, found, rfl⟩ := List.mem_map.mp stated
    exact List.all_eq_true.mp (base_isReadable readable) entry (List.mem_of_mem_filter found)
  · obtain ⟨step, found, added⟩ := List.mem_filterMap.mp added
    have shown := readable step (mem_of_mem_later found)
    cases step with
    | header name given =>
      obtain ⟨_, same⟩ := Option.ite_none_right_eq_some.mp added
      cases same
      exact shown
    | body body =>
      cases added
      exact shown
    | query | headers | cookie | params => cases added

theorem Step.announced?_eq (step : Step) :
    step.announced? = (step.body?.map (·.mime.text)).or step.stated? := by
  cases step <;> rfl

/-- Of all announcements the first is a stated one, or else that of the first body. -/
theorem head?_announcedTypes (steps : List Step) :
    (announcedTypes steps).head? =
      (leadingTypes steps).head?.or ((bodies (later steps)).head?.map (·.mime.text)) := by
  have since (steps : List Step) : (steps.filterMap Step.announced?).head? =
      ((steps.takeWhile fun step => step.body?.isNone).filterMap Step.stated?).head?.or
        ((bodies steps).head?.map (·.mime.text)) := by
    induction steps with
    | nil => rfl
    | cons step steps ih =>
      rw [bodies, List.filterMap_cons, List.takeWhile_cons, List.filterMap_cons,
        Step.announced?_eq]
      cases set : step.body? with
      | some body => rfl
      | none =>
        rw [Option.isNone_none, if_pos rfl, List.filterMap_cons]
        cases stated : step.stated? with
        | some value => rfl
        | none => exact ih
  rw [announcedTypes, leadingTypes, List.head?_append, List.head?_append, since, Option.or_assoc]

theorem head?_announcedTypes_of_stated {steps : List Step} (stated : leadingTypes steps ≠ []) :
    (announcedTypes steps).head? = (statedTypes steps).head? := by
  have leads : leadingTypes steps <+: statedTypes steps :=
    (List.prefix_append_right_inj _).mpr ((List.takeWhile_prefix _).filterMap _)
  obtain ⟨others, whole⟩ := leads
  obtain ⟨value, values, found⟩ := List.exists_cons_of_ne_nil stated
  rw [head?_announcedTypes, ← whole, found]
  rfl

theorem head?_announcedTypes_of_unstated {steps : List Step} (unstated : leadingTypes steps = []) :
    (announcedTypes steps).head? = (bodies (later steps)).head?.map (·.mime.text) := by
  rw [head?_announcedTypes, unstated, List.head?_nil, Option.none_or]

theorem bodies_later_suffix (steps : List Step) : bodies (later steps) <:+ bodies steps :=
  (List.rtakeWhile_suffix _ _).filterMap _

/-! ### The request -/

/-- The request that steps build, and the shelf that its body is put on. -/
def built (path : String) (steps : List Step) (shelf : Shelf) : Request × Shelf :=
  (after path steps).build shelf

/-- How the content type of a request and the body that it carries come from the steps. -/
structure Describes (steps : List Step) (type : Option String) (carried : Body) : Prop where
  carries : carried = (bodies steps).getLast?.getD .empty
  /-- A type that is stated before any body counts, whatever follows. -/
  stated : leadingTypes steps ≠ [] → type = (statedTypes steps).head?
  /-- Otherwise the first body tells its type, whatever is stated or set after it. -/
  told : leadingTypes steps = [] → type = (bodies (later steps)).head?.map (·.mime.text)
  /-- So the type is that of the body that is carried, if no other one is set. -/
  single : leadingTypes steps = [] → ∀ body, bodies (later steps) = [body] →
    carried = body ∧ type = some carried.mime.text

theorem header?_built {steps : List Step} (readable : ∀ step ∈ steps, step.isReadable)
    (path : String) (shelf : Shelf) :
    (built path steps shelf).1.header? .contentType = (announcedTypes steps).head? := by
  have shown : (built path steps shelf).1.header? .contentType =
      ((after path steps).headers.valuesOf .contentType).head?.filter Headers.isReadable := rfl
  rw [shown, head?_valuesOf_after]
  cases first : (announcedTypes steps).head? with
  | none => rfl
  | some value =>
    exact Option.filter_some_pos
      (isReadable_of_mem_announcedTypes readable (List.mem_of_mem_head? first))

theorem body?_built (path : String) (steps : List Step) (shelf : Shelf) :
    (built path steps shelf).2.body? (built path steps shelf).1.ticket =
      some ((bodies steps).getLast?.getD .empty) := by
  rw [← body_after path]
  exact shelf.body?_put _

theorem describes_built {steps : List Step} (readable : ∀ step ∈ steps, step.isReadable)
    (path : String) (shelf : Shelf) :
    Describes steps ((built path steps shelf).1.header? .contentType)
      ((bodies steps).getLast?.getD .empty) := by
  rw [header?_built readable]
  refine ⟨rfl, head?_announcedTypes_of_stated, head?_announcedTypes_of_unstated, ?_⟩
  intro unstated body only
  obtain ⟨earlier, all⟩ := bodies_later_suffix steps
  have carried : (bodies steps).getLast?.getD .empty = body := by
    rw [← all, only, List.getLast?_concat, Option.getD_some]
  rw [carried, head?_announcedTypes_of_unstated unstated, only]
  exact ⟨rfl, rfl⟩

/-! ### Messages -/

/-- The steps that build the request of a message. -/
def arrival (target : Target) (headers : Headers) (body : Body) (params : List String) :
    List Step :=
  [.headers headers, .params params, .body body] ++ (target.query.map Step.query).toList

section

variable (target : Target) (headers : Headers) (body : Body) (params : List String)

theorem after_arrival :
    after target.path (arrival target headers body params) =
      ofMessage target headers body params := by
  obtain ⟨path, query⟩ := target
  cases query <;> rfl

theorem isReadable_arrival (given : headers.entries.all fun entry => Headers.isReadable entry.2)
    (told : Headers.isReadable body.mime.text) :
    ∀ step ∈ arrival target headers body params, step.isReadable := by
  unfold arrival
  cases target.query <;> simp [Step.isReadable, given, told]

theorem head?_announcedTypes_arrival :
    (announcedTypes (arrival target headers body params)).head? =
      some ((headers.valuesOf .contentType).head?.getD body.mime.text) := by
  have all : announcedTypes (arrival target headers body params) =
      headers.valuesOf .contentType ++ [body.mime.text] := by
    unfold arrival
    cases target.query <;> rfl
  rw [all, List.head?_append, List.head?_singleton, Option.or_some]

theorem bodies_arrival : bodies (arrival target headers body params) = [body] := by
  unfold arrival
  cases target.query <;> rfl

end

/-- What a request says of its body, of whatever steps it was built: the first type that is stated,
if no body came before it, or else the type of the first body, each since all headers were replaced.
The request of a message says what its headers state first, or else the type of its body. -/
theorem content_type_described (path : String) (steps : List Step) (shelf : Shelf)
    (readable : ∀ step ∈ steps, step.isReadable) :
    (∃ carried,
      (built path steps shelf).2.body? (built path steps shelf).1.ticket = some carried ∧
        Describes steps ((built path steps shelf).1.header? .contentType) carried) ∧
      ∀ (target : Target) (headers : Headers) (body : Body) (params : List String),
        (headers.entries.all fun entry => Headers.isReadable entry.2) →
          Headers.isReadable body.mime.text →
          ∃ request rest, (ofMessage target headers body params).build shelf = (request, rest) ∧
            rest.body? request.ticket = some body ∧
            request.header? .contentType =
              some ((headers.valuesOf .contentType).head?.getD body.mime.text) := by
  refine ⟨⟨_, body?_built path steps shelf, describes_built readable path shelf⟩, ?_⟩
  intro target headers body params given told
  have readable := isReadable_arrival target headers body params given told
  refine ⟨(built target.path (arrival target headers body params) shelf).1,
    (built target.path (arrival target headers body params) shelf).2, ?_, ?_, ?_⟩
  · rw [← after_arrival]
    rfl
  · rw [body?_built, bodies_arrival]
    rfl
  · rw [header?_built readable, head?_announcedTypes_arrival]

/-- The page that is set after all headers were replaced tells its type, not the text before. -/
theorem page_described :
    let text := Body.ofText "x"
    let page := Body.ofHtml "y"
    let steps := [.body text, .header .contentType "text/csv",
      .headers ⟨[(.accept, "text/csv")]⟩, .query "q", .body page]
    (∀ step ∈ steps, Step.isReadable step) ∧
      (built "/" steps .empty).2.body? (built "/" steps .empty).1.ticket = some page ∧
      (built "/" steps .empty).1.header? .contentType = some "text/html" := by
  intro text page steps
  have readable : ∀ step ∈ steps, step.isReadable := by decide +kernel
  obtain ⟨⟨carried, found, describes⟩, -⟩ := content_type_described "/" steps .empty readable
  obtain ⟨rfl, told⟩ := describes.single rfl page rfl
  exact ⟨readable, found, told⟩

/-- A type does not count that is stated after a body, nor that of a body that replaces another one,
nor that of the only body if all headers are replaced after it. -/
theorem first_announcement_counts :
    (¬∀ steps : List Step, (∀ step ∈ steps, step.isReadable) →
      ∀ value, (statedTypes steps).head? = some value →
        (built "/" steps .empty).1.header? .contentType = some value) ∧
      (¬∀ steps : List Step, (∀ step ∈ steps, step.isReadable) → statedTypes steps = [] →
        ∀ carried, (bodies steps).getLast? = some carried →
          (built "/" steps .empty).1.header? .contentType = some carried.mime.text) ∧
      ¬∀ steps : List Step, (∀ step ∈ steps, step.isReadable) → statedTypes steps = [] →
        ∀ carried, bodies steps = [carried] →
          (built "/" steps .empty).1.header? .contentType = some carried.mime.text := by
  refine ⟨fun always => ?_, fun always => ?_, fun always => ?_⟩
  · have stated := always [.body (.ofText "x"), .header .contentType "application/json"]
      (by decide +kernel) "application/json" rfl
    exact absurd stated (by decide +kernel)
  · have told := always [.body (.ofText "x"), .body (.ofHtml "y")] (by decide +kernel) rfl _ rfl
    exact absurd told (by decide +kernel)
  · have told := always [.body (.ofText "x"), .headers .empty] (by decide +kernel) rfl _ rfl
    exact absurd told (by decide +kernel)

end RequestDraft

end HttpDispatch
