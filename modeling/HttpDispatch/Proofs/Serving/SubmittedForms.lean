import HttpDispatch.Proofs.Form.LastValues
import HttpDispatch.Proofs.Form.RoundTrip
import HttpDispatch.Proofs.Serving.DeclaredSizes

/-!
Submitted forms. A request that is asked for its form takes its body and gives the last value of
each name, one in the query counting more than any in the body; so maps that were written as query
and body come back, the one laid over the other.
-/

namespace HttpDispatch

/-! ### Bodies as forms -/

namespace Body

variable {body : Body}

/-- Room for the declared size can be asked for, if any is asked for. -/
def IsReservable (body : Body) : Prop := body.source.IsStreamed → body.size.getD 0 ≤ maxReserve

theorem collect_of_held (held : ¬body.source.IsStreamed) : body.collect = body.source.collected := by
  obtain ⟨source, size, mime⟩ := body
  cases source with
  | empty | once => rfl
  | reader | producer => exact absurd trivial held

theorem collect_of_reservable (reservable : body.IsReservable) :
    body.collect = body.source.collected := by
  by_cases streamed : body.source.IsStreamed
  · have collected := collect_withSize streamed body.size
    rwa [if_neg (Nat.not_lt.mpr (reservable streamed))] at collected
  · exact collect_of_held streamed

theorem collect_of_not_reservable (overflowing : ¬body.IsReservable) :
    body.collect = .error (.panicked (.text "capacity overflow")) := by
  unfold IsReservable at overflowing
  rw [Classical.not_imp, Nat.not_le] at overflowing
  have collected := collect_withSize overflowing.1 body.size
  rwa [if_pos overflowing.2] at collected

/-- Collecting a body fails as its source does. -/
theorem collect_eq_failed_iff {fault : IoFault} :
    body.collect = .error (.failed fault) ↔
      body.IsReservable ∧ body.source.collected = .error (.failed fault) := by
  by_cases reservable : body.IsReservable
  · rw [collect_of_reservable reservable, and_iff_right reservable]
  · simp [collect_of_not_reservable reservable, reservable]

theorem collect_eq_panicked_iff {payload : PanicPayload} :
    body.collect = .error (.panicked payload) ↔
      body.IsReservable ∧ body.source.collected = .error (.panicked payload) ∨
        ¬body.IsReservable ∧ payload = .text "capacity overflow" := by
  by_cases reservable : body.IsReservable
  · simp [collect_of_reservable reservable, reservable]
  · simp [collect_of_not_reservable reservable, reservable, eq_comm]

theorem form_of_ok {bytes : Bytes} (collected : body.collect = .ok bytes) :
    body.form = .ok (.ofPairs (Form.decode bytes)) := by
  simp only [form, collectBody, collected]
  rfl

theorem form_of_error {stop : Stop IoFault} (failed : body.collect = .error stop) :
    body.form = .error (stop.map .io) := by
  simp only [form, collectBody_of_error failed]
  rfl

end Body

/-! ### Requests -/

namespace Request

variable {request : Request} {shelf : Shelf} {body : Body}

theorem form_of_gone (gone : shelf.body? request.ticket = none) :
    request.form shelf = (.error (.failed .consumed), shelf) := by
  have accessed := Access.perform_eq .urlencoded request shelf
  rwa [gone] at accessed

theorem form_of_ok {bytes : Bytes} (held : shelf.body? request.ticket = some body)
    (collected : body.collect = .ok bytes) :
    request.form shelf =
      (.ok ((TextMap.ofPairs (Form.decode bytes)).extend request.queryMap.entries),
        shelf.clear request.ticket) := by
  have accessed := Access.perform_eq .urlencoded request shelf
  rw [held] at accessed
  simp only [Access.reading, Body.form_of_ok collected] at accessed
  exact accessed

theorem form_of_error {stop : Stop IoFault} (held : shelf.body? request.ticket = some body)
    (failed : body.collect = .error stop) :
    request.form shelf = (.error (stop.map .io), shelf.clear request.ticket) := by
  have accessed := Access.perform_eq .urlencoded request shelf
  rw [held] at accessed
  simp only [Access.reading, Body.form_of_error failed] at accessed
  exact accessed

/-- A request fails to give its form only as its body fails to be collected. -/
theorem exists_of_form_error (held : shelf.body? request.ticket = some body)
    {stop : Stop BodyFault} (failed : (request.form shelf).1 = .error stop) :
    ∃ cause, body.collect = .error cause ∧ stop = cause.map .io := by
  cases collected : body.collect with
  | ok bytes =>
    rw [form_of_ok held collected] at failed
    cases failed
  | error cause =>
    rw [form_of_error held collected] at failed
    cases failed
    exact ⟨cause, rfl, rfl⟩

theorem form_eq_error_iff (held : shelf.body? request.ticket = some body) (cause : Stop IoFault) :
    (request.form shelf).1 = .error (cause.map .io) ↔ body.collect = .error cause := by
  constructor
  · intro failed
    obtain ⟨other, collected, same⟩ := exists_of_form_error held failed
    rw [collected]
    cases cause <;> cases other <;> cases same <;> rfl
  · intro collected
    rw [form_of_error held collected]

/-- The pairs in the text of a query, laid over those of a body. -/
theorem gives_merged (request : Request) (pairs : Form.Pairs) :
    ((TextMap.ofPairs pairs).extend request.queryMap.entries).Gives fun name =>
      (Form.lastValue? (Form.decode (Utf8.encode (request.query.getD ""))) name).or
        (Form.lastValue? pairs name) := by
  have query : request.queryMap.Gives
      (Form.lastValue? (Form.decode (Utf8.encode (request.query.getD "")))) :=
    TextMap.gives_ofPairs _
  have merged := (TextMap.gives_ofPairs pairs).extend request.queryMap.entries
  refine ⟨fun name => ?_, merged.once⟩
  rw [merged.values, query.lastValue?_entries]

/-- What becomes of a request and its body when it is asked for its form. -/
structure Merges (request : Request) (shelf : Shelf) : Prop where
  /-- From a body that can be read comes the last value of each name in the query, whatever its
  text, and of each other name in the body. -/
  merges : ∀ body bytes, shelf.body? request.ticket = some body → body.IsReservable →
    body.source.collected = .ok bytes → ∃ merged, (request.form shelf).1 = .ok merged ∧
      merged.Gives fun name =>
        (Form.lastValue? (Form.decode (Utf8.encode (request.query.getD ""))) name).or
          (Form.lastValue? (Form.decode bytes) name)
  consumed : (request.form shelf).1 = .error (.failed .consumed) ↔
    shelf.body? request.ticket = none
  unreadable : ∀ fault, (request.form shelf).1 = .error (.failed (.io fault)) ↔
    ∃ body, shelf.body? request.ticket = some body ∧ body.IsReservable ∧
      body.source.collected = .error (.failed fault)
  /-- There is no other way to fail: neither the query nor the body can be malformed. -/
  fails : ∀ fault, (request.form shelf).1 = .error (.failed fault) →
    fault = .consumed ∨ ∃ cause, fault = .io cause
  /-- Only reading the body panics. -/
  panics : ∀ payload, (request.form shelf).1 = .error (.panicked payload) ↔
    ∃ body, shelf.body? request.ticket = some body ∧
      (body.IsReservable ∧ body.source.collected = .error (.panicked payload) ∨
        ¬body.IsReservable ∧ payload = .text "capacity overflow")
  taken : (request.form shelf).2.body? request.ticket = none
  others : ∀ ticket, ticket ≠ request.ticket →
    (request.form shelf).2.body? ticket = shelf.body? ticket

theorem merges_of_gone (gone : shelf.body? request.ticket = none) : request.Merges shelf := by
  have outcome := form_of_gone gone
  constructor
  · intro body bytes held
    cases gone.symm.trans held
  · simp [outcome, gone]
  · simp [outcome, gone]
  · intro fault failed
    rw [outcome] at failed
    cases failed
    exact .inl rfl
  · simp [outcome, gone]
  · rwa [outcome]
  · intro ticket _
    rw [outcome]

theorem merges_of_held (held : shelf.body? request.ticket = some body) :
    request.Merges shelf := by
  have cleared : (request.form shelf).2 = shelf.clear request.ticket := by
    cases collected : body.collect with
    | ok bytes => rw [form_of_ok held collected]
    | error stop => rw [form_of_error held collected]
  constructor
  · intro other bytes again reservable collected
    cases held.symm.trans again
    rw [← Body.collect_of_reservable reservable] at collected
    exact ⟨_, congrArg Prod.fst (form_of_ok held collected), gives_merged request _⟩
  · refine iff_of_false (fun failed => ?_) (by simp [held])
    obtain ⟨cause | cause, -, same⟩ := exists_of_form_error held failed <;> cases same
  · intro fault
    have failed := form_eq_error_iff held (.failed fault)
    rw [Body.collect_eq_failed_iff] at failed
    simpa [held, Stop.map] using failed
  · intro fault failed
    obtain ⟨cause | cause, -, same⟩ := exists_of_form_error held failed
    · cases same
      exact .inr ⟨cause, rfl⟩
    · cases same
  · intro payload
    have panicked := form_eq_error_iff held (.panicked payload)
    rw [Body.collect_eq_panicked_iff] at panicked
    simpa [held, Stop.map] using panicked
  · rw [cleared, Shelf.body?_clear, if_pos rfl]
  · intro ticket other
    rw [cleared, Shelf.body?_clear, if_neg (Ne.symm other)]

/-- Whatever its query and its body, a request that is asked for its form merges them. -/
theorem form_merges (request : Request) (shelf : Shelf) : request.Merges shelf := by
  cases held : shelf.body? request.ticket with
  | none => exact merges_of_gone held
  | some body => exact merges_of_held held

end Request

/-- A request whose query names one thing twice and another by an escape that is none, with a value
that is not UTF-8, and whose body names the first of them, and a third. -/
def RequestDraft.malformed : RequestDraft :=
  ((ofPath "/").withQuery "a=1&&%4=%FF&a=2&=x").withBody (.ofText "a=3&b=%&b=+4")

/-- The last value in the query counts, then the last one in the body. -/
theorem malformed_merged :
    ∃ merged, ((RequestDraft.malformed.build .empty).1.form
        (RequestDraft.malformed.build .empty).2).1 = .ok merged ∧
      merged.get? "a" = some "2" ∧ merged.get? "%4" = some "\uFFFD" ∧ merged.get? "" = some "x" ∧
      merged.get? "b" = some " 4" ∧ merged.get? "c" = none := by
  obtain ⟨merged, same, gives⟩ := (Request.form_merges (RequestDraft.malformed.build .empty).1
    (RequestDraft.malformed.build .empty).2).merges (.ofText "a=3&b=%&b=+4")
      (Utf8.encode "a=3&b=%&b=+4") rfl (fun _ => by decide +kernel) rfl
  refine ⟨merged, same, ?_⟩
  simp only [gives.values]
  decide +kernel

/-! ### Maps there and back -/

theorem Body.collect_ofForm (pairs : Form.Pairs) :
    (Body.ofForm pairs).collect = .ok (Form.encode pairs) := by
  rw [ofForm]
  cases Form.encode pairs <;> rfl

theorem Request.decode_query {request : Request} {pairs : Form.Pairs}
    (asked : request.query = some (Form.text pairs)) :
    Form.decode (Utf8.encode (request.query.getD "")) = pairs := by
  rw [asked, Option.getD_some, Form.encode_text, Form.decode_encode]

/-- Maps that are written as the body and as the query of a request, in whatever order, are read
back: each by itself, and together the one in the query laid over the one in the body. -/
theorem forms_round_trip {submitted query : NameMap} {order asked : Form.Pairs}
    (written : Form.Lists order submitted) (queried : Form.Lists asked query) :
    (∃ read, (Body.ofForm order).form = .ok read ∧
        read.Gives fun name => submitted.lookup name) ∧
      ∀ draft : RequestDraft, draft.query = some (Form.text asked) →
        draft.body = some (Body.ofForm order) → ∀ shelf : Shelf,
        ((draft.build shelf).1.queryMap.Gives fun name => query.lookup name) ∧
          ∃ merged, ((draft.build shelf).1.form (draft.build shelf).2).1 = .ok merged ∧
            merged.Gives fun name => (query.lookup name).or (submitted.lookup name) := by
  have collected := Body.collect_ofForm order
  have inBody : Form.lastValue? (Form.decode (Form.encode order)) = fun name =>
      submitted.lookup name := by
    rw [Form.decode_encode]
    exact funext written.lastValue?_eq
  have inQuery : Form.lastValue? asked = fun name => query.lookup name :=
    funext queried.lastValue?_eq
  constructor
  · refine ⟨_, Body.form_of_ok collected, ?_⟩
    rw [← inBody]
    exact TextMap.gives_ofPairs _
  · intro draft given stored shelf
    have asks : Form.decode (Utf8.encode ((draft.build shelf).1.query.getD "")) = asked :=
      Request.decode_query given
    have held : (draft.build shelf).2.body? (draft.build shelf).1.ticket =
        some (Body.ofForm order) := by
      simp only [RequestDraft.build, Shelf.body?_put, stored, Option.getD_some]
    constructor
    · rw [← inQuery, ← asks]
      exact TextMap.gives_ofPairs _
    · have merged := Request.gives_merged (draft.build shelf).1 (Form.decode (Form.encode order))
      rw [inBody, asks, inQuery] at merged
      exact ⟨_, congrArg Prod.fst (Request.form_of_ok held collected), merged⟩

/-- Values with separators and signs that have a meaning, one of them without a name. -/
def NameMap.signs : NameMap := AList.insert "" "+%41 é" (AList.singleton "a&b" "1=2")

/-- A request with these values in its body, and with another one without a name in its query. -/
def RequestDraft.signs : RequestDraft :=
  ((ofPath "/").withQuery (Form.text [("", "=")])).withBody
    (.ofForm [("a&b", "1=2"), ("", "+%41 é")])

theorem signs_round_trip :
    Form.Lists [("a&b", "1=2"), ("", "+%41 é")] .signs ∧
      Form.Lists [("", "=")] (AList.singleton "" "=") ∧
      ∃ merged, ((RequestDraft.signs.build .empty).1.form (RequestDraft.signs.build .empty).2).1 =
          .ok merged ∧
        merged.get? "a&b" = some "1=2" ∧ merged.get? "" = some "=" := by
  have written : Form.Lists [("a&b", "1=2"), ("", "+%41 é")] .signs := by decide
  have queried : Form.Lists [("", "=")] (AList.singleton "" "=") := by decide
  obtain ⟨-, drafts⟩ := forms_round_trip written queried
  obtain ⟨-, merged, same, gives⟩ := drafts .signs rfl rfl .empty
  refine ⟨written, queried, merged, same, ?_, ?_⟩
  · rw [gives.values]
    decide
  · rw [gives.values]
    decide

end HttpDispatch
