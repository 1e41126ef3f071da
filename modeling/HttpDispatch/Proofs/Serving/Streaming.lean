import HttpDispatch.Proofs.Body.Streaming
import HttpDispatch.Proofs.Serving.Lifecycle
import HttpDispatch.Proofs.Serving.Matching

/-!
Responses whose bodies are streamed. A dispatch that streams the body of its response says what the
same dispatch says without streaming, and the frames of the streamed body are the bytes that reading
the body would give, with the failure, if there is one, after the last of them. What reading meets
and streaming does not tell is a panic of the reader.
-/

namespace HttpDispatch

open HttpDispatch.Flow

/-- A response that is streamed in the place of another response that is sent. -/
structure StreamedResponse.Streams (streamed : StreamedResponse) (sent : Response) : Prop where
  status : streamed.status = sent.status
  headers : streamed.headers = sent.headers
  polled : ∃ frames failure, sent.body.Sends frames failure ∧
    ∀ count, (streamed.body.polled count).poll.1 =
      (frames.map .ok ++ failure.toList.map .error)[count]?
  /-- Whatever order a producer and the thread that reads for the frames take their steps in. -/
  body : ∀ frames failure, sent.body.Sends frames failure → sent.body.SentAsRead frames failure
  /-- A length that is right for the body sent is right for the frames. -/
  length : sent.body.source.Fixed → ∀ bytes report, sent.body.Reads bytes report →
    streamed.headers.valuesOf .contentLength = [toString bytes.length] →
    ∀ frames failure, sent.body.Sends frames failure →
      streamed.headers.valuesOf .contentLength = [toString frames.flatten.length]

theorem Response.streamed_streams (sent : Response) : sent.streamed.Streams sent := by
  have body frames failure (sends : sent.body.Sends frames failure) := sends.sentAsRead
  refine ⟨rfl, rfl, ?_, body, ?_⟩
  · obtain ⟨frames, failure, sends, items⟩ := sent.body.exists_sends
    refine ⟨frames, failure, sends, fun count => ?_⟩
    rw [ChannelBody.poll_polled]
    exact congrArg (·[count]?) items
  · intro isFixed bytes report reads announced frames failure sends
    obtain ⟨rfl, -⟩ := (body frames failure sends).read isFixed bytes report reads
    exact announced

namespace Registry

variable {κ σ : Type} [DecidableEq κ] [ContextCatalog κ]

/-- Where a dispatch is answered, the one that streams is answered with the same response. -/
theorem dispatchStreamed_eq {registry : Registry κ σ} {verb : Verb} {path : String}
    {factory : RequestFactory σ} {world left : World σ} {sent : Response}
    (returned : registry.dispatch (.verb verb) path factory world = (.ok sent, left)) :
    registry.dispatchStreamed verb path factory world = (sent.streamed, left) := by
  simp only [dispatchStreamed, bind, StateT.bind, ExceptT.run, returned]
  rfl

/-- A dispatch that is answered is answered alike, does the same and is reported alike where the
body is streamed. -/
theorem dispatch_streams (registry : Registry κ σ) (verb : Verb) (path : String)
    (factory : RequestFactory σ) {world left : World σ} {sent : Response}
    (returned : registry.dispatch (.verb verb) path factory world = (.ok sent, left)) :
    ∃ streamed, registry.dispatchStreamed verb path factory world = (streamed, left) ∧
      streamed.Streams sent :=
  ⟨sent.streamed, dispatchStreamed_eq returned, sent.streamed_streams⟩

end Registry

/-! ### Bodies that fail -/

/-- A set with one endpoint, which answers with a body. -/
def EndpointSet.sending (body : Body) : EndpointSet Empty Unit where
  owner := "Sending"
  declarations := [.ofHandler .get "/" ⟨fun _ => pure (.ofBody body), false⟩]
  before context := pure ((), context)
  after context := pure ((), context)

def Registry.sending (body : Body) : Registry Empty Unit :=
  (Registry.empty {} .standard .errorPage (fun _ app => app) .empty).after
    [.register (.sending body)]

/-- The request for a path, with nothing but the captured segments. -/
def RequestFactory.bare (path : String) : RequestFactory Unit := .returning fun params world =>
  let (request, shelf) := ({ path, params } : RequestDraft).build world.shelf
  (request, { world with shelf })

/-- A request to a registry that sends this body is answered with the one response, and with the
other where the body is streamed. -/
def Body.IsAnswered (body : Body) (sent : Response) (streamed : StreamedResponse) : Prop :=
  ∃ left,
    (Registry.sending body).dispatch (.verb .get) "/" (.bare "/") ⟨.empty, ()⟩ =
      (.ok sent, left) ∧
    (Registry.sending body).dispatchStreamed .get "/" (.bare "/") ⟨.empty, ()⟩ = (streamed, left)

/-- A producer that pushes three bytes and panics. -/
def Flow.Producer.breaking : Producer :=
  .writeAll [1, 2] fun _ => .writeAll [3] fun _ => .panic (.text "no more")

/-- A reader that gives three bytes and panics. -/
def Body.crashing : Body := .ofReader none (.ok [.chunk [1, 2, 3], .panic (.text "no more")])

/-- A reader that is interrupted before it gives the rest. -/
def Body.interrupting : Body :=
  .ofReader (some 4) (.ok [.chunk [1, 2], .failure (.ofMessage .interrupted "again"),
    .chunk [3, 4]])

/-- The bytes pushed before the panic come in frames, and then the panic as a failure, although the
length was announced and is right. -/
theorem breaking_streamed :
    ∃ sent streamed, (Body.ofProducer (some 3) .breaking).IsAnswered sent streamed ∧
      streamed.Streams sent ∧ streamed.headers.valuesOf .contentLength = ["3"] ∧
      ∀ frames failure, sent.body.Sends frames failure →
        frames.flatten = [1, 2, 3] ∧ failure = some .producerPanicked := by
  have returned : ∃ sent left,
      (Registry.sending (.ofProducer (some 3) .breaking)).dispatch (.verb .get) "/" (.bare "/")
        ⟨.empty, ()⟩ = (.ok sent, left) ∧
      sent.body.source = .producer .breaking ∧ sent.headers.valuesOf .contentLength = ["3"] :=
    ⟨_, _, rfl, rfl, rfl⟩
  obtain ⟨sent, left, dispatched, source, length⟩ := returned
  obtain ⟨streamed, again, streams⟩ :=
    (Registry.sending (.ofProducer (some 3) .breaking)).dispatch_streams .get "/" (.bare "/")
      dispatched
  have pushes : Producer.breaking.Pushes [1, 2, 3] (.error (.panicked (.text "no more"))) :=
    .writeAll [1, 2] (.writeAll [3] (.panic _))
  refine ⟨sent, streamed, ⟨left, dispatched, again⟩, streams, by rw [streams.headers, length], ?_⟩
  intro frames failure sends
  have delivers := (streams.body frames failure sends).delivers
  rw [source] at delivers
  obtain ⟨ending, performs, rfl⟩ := delivers
  obtain ⟨whole, rfl⟩ := pushes.of_performs performs
  exact ⟨whole, rfl⟩

theorem Body.exists_answered_crashing :
    ∃ sent : Response, Body.crashing.IsAnswered sent sent.streamed ∧ sent.body = .crashing :=
  ⟨_, ⟨_, rfl, Registry.dispatchStreamed_eq rfl⟩, rfl⟩

theorem Body.exists_answered_interrupting :
    ∃ sent : Response, Body.interrupting.IsAnswered sent sent.streamed ∧
      sent.body = .interrupting :=
  ⟨_, ⟨_, rfl, Registry.dispatchStreamed_eq rfl⟩, rfl⟩

/-- Who reads a body meets the panic of its reader, but nobody is told of it where the body is
streamed; and an interruption, after which reading again comes to the end, fails a streamed body. -/
theorem streamed_unlike_read :
    (¬ ∀ (body : Body) (sent : Response) (streamed : StreamedResponse),
      body.IsAnswered sent streamed →
      ∀ sizes bytes report, sent.body.readThrough sizes = some (bytes, report) →
        report.Troubled → ∃ fault, .error fault ∈ streamed.body.items) ∧
    ¬ ∀ (body : Body) (sent : Response) (streamed : StreamedResponse),
      body.IsAnswered sent streamed →
      ∀ opened, sent.body.open = .ok opened → opened.readToEnd.1.stop = none →
        ∀ fault, .error fault ∉ streamed.body.items := by
  constructor
  · intro told
    obtain ⟨sent, answered, made⟩ := Body.exists_answered_crashing
    have met : sent.body.readThrough [3, 1] =
        some ([1, 2, 3], ⟨none, some (.panicked (.text "no more")), none⟩) := by
      rw [made]
      rfl
    obtain ⟨fault, sentOn⟩ := told _ _ _ answered _ _ _ met (.inr (.inl rfl))
    obtain ⟨frames, failure, sends, items⟩ := sent.body.exists_sends
    obtain ⟨rfl, -⟩ := sends.sentAsRead.untold (.text "no more") (made ▸ rfl)
    simp [Response.streamed, items] at sentOn
  · intro untold
    obtain ⟨sent, answered, made⟩ := Body.exists_answered_interrupting
    obtain ⟨supply, isOpen, ends⟩ : ∃ supply, sent.body.open = .ok (.stream supply) ∧
        supply.uninterrupted.stop? = none := by
      rw [made]
      exact ⟨_, rfl, rfl⟩
    obtain ⟨frames, failure, sends, items⟩ := sent.body.exists_sends
    have heard : failure = some (.ofMessage .interrupted "again") :=
      (made ▸ sends.delivers.1 : Body.interrupting.source.Delivers frames.flatten failure).2
    refine untold _ _ _ answered _ isOpen ?_ (.ofMessage .interrupted "again") ?_
    · rw [BodyReader.readToEnd_stream, ends]
    · simp [Response.streamed, items, heard]

end HttpDispatch
