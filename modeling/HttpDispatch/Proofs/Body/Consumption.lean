import HttpDispatch.Body.Channel
import HttpDispatch.Body.Delivery
import HttpDispatch.Proofs.Body.Reading
import HttpDispatch.Proofs.Flow.Interleaving

/-!
The ways of consuming a body. A body is made from a recipe, which says what bytes it has and how
it fails; written to a sink, collected, read piece by piece or polled for frames it always gives
these bytes and this failure.
-/

namespace HttpDispatch

open HttpDispatch.Flow

/-- What a body is made from. -/
inductive Recipe where
  | empty
  | memory (bytes : Bytes)
  | reader (opening : Except IoFault (List (Except IoFault Bytes)))
  | producer (script : List Producer.Push) (result : Except IoFault Unit)

/-- What goes wrong while a body is opened, read and closed. -/
structure Report where
  opening : Option (Stop IoFault)
  reading : Option (Stop IoFault)
  closing : Option IoFault

/-- The failures that are reported. A panic is not reported. -/
def Report.failures (report : Report) : List IoFault :=
  (report.opening.bind Stop.fault?).toList ++ (report.reading.bind Stop.fault?).toList ++
    report.closing.toList

/-- The failure that is met. -/
def Report.failure? (report : Report) : Option IoFault :=
  (report.opening.bind Stop.fault?).or ((report.reading.bind Stop.fault?).or report.closing)

namespace Recipe

def plain : Recipe → Body
  | empty => .empty
  | memory bytes => .ofBytes bytes
  | reader opening => .ofReader none ((opening.map Supply.scripted).mapError .failed)
  | producer script result => .ofProducer none (.scripted result script)

/-- The body made from a recipe, whatever size and media type it declares. -/
def body (recipe : Recipe) (size : Option Nat) (mime : Mime) : Body :=
  (recipe.plain.withSize size).withMime mime

/-- The bytes before the first end of the stream or failure. -/
def payload : Recipe → Bytes
  | empty | reader (.error _) => []
  | memory bytes => bytes
  | reader (.ok script) => (Supply.scripted script).payload
  | producer script _ => Producer.scriptedBytes script

/-- What is reported, and when. -/
def report : Recipe → Report
  | empty | memory _ => ⟨none, none, none⟩
  | reader (.error fault) => ⟨some (.failed fault), none, none⟩
  | reader (.ok script) => ⟨none, (Supply.scripted script).stop?, none⟩
  | producer _ (.error fault) => ⟨none, none, some fault⟩
  | producer _ (.ok ()) => ⟨none, none, none⟩

/-- The failure met after the payload, if there is one. -/
def failure? (recipe : Recipe) : Option IoFault := recipe.report.failure?

def outcome (recipe : Recipe) (value : α) : Except (Stop IoFault) α :=
  match recipe.failure? with
  | some fault => .error (.failed fault)
  | none => .ok value

/-- No read of a reader raises an interruption. -/
def Steady : Recipe → Prop
  | reader (.ok script) => (Supply.scripted script).Steady
  | _ => True

theorem outcome_map (recipe : Recipe) (value : α) (change : α → β) :
    (recipe.outcome value).map change = recipe.outcome (change value) := by
  unfold outcome
  cases recipe.failure? <;> rfl

end Recipe

namespace Body

/-- Reads a body with buffers of the given sizes until nothing more comes or a read fails or
panics, and closes it then. -/
def readThrough (body : Body) (sizes : List Nat) : Option (Bytes × Report) :=
  match body.open with
  | .error stop => some ([], ⟨some stop, none, none⟩)
  | .ok reader => (reader.readWith sizes).map fun came =>
    (came.1.bytes, ⟨none, came.1.stop, came.2.close⟩)

end Body

namespace Body

/-- The body has this payload, and this goes wrong while it is opened, read and closed. -/
def Gives (body : Body) (payload : Bytes) (report : Report) : Prop :=
  match body.open with
  | .error stop => payload = [] ∧ report = ⟨some stop, none, none⟩
  | .ok opened => report.opening = none ∧ opened.Yields payload report.reading report.closing

namespace Gives

variable {body : Body} {payload : Bytes} {report : Report} (gives : body.Gives payload report)

include gives

/-- What reading through a body gives once it comes to an end. -/
theorem readThrough_eq {sizes : List Nat} {came : Bytes × Report}
    (asked : ∀ most ∈ sizes, 0 < most) (done : body.readThrough sizes = some came) :
    came = (payload, report) := by
  unfold Gives at gives
  unfold readThrough at done
  split at done
  · rename_i failed
    rw [failed] at gives
    cases done
    rw [gives.1, gives.2]
  · rename_i got
    rw [got] at gives
    obtain ⟨⟨chunk, rest⟩, ended, rfl⟩ := Option.map_eq_some_iff.mp done
    obtain ⟨rfl, closed⟩ := gives.2.of_readWith asked ended
    rw [closed, ← gives.1]

theorem isSome_readThrough {sizes : List Nat} (asked : ∀ most ∈ sizes, 0 < most)
    (enough : payload.length < sizes.length) : (body.readThrough sizes).isSome := by
  unfold Gives at gives
  unfold readThrough
  split
  · rfl
  · rename_i got
    rw [got] at gives
    rw [Option.isSome_map]
    exact gives.2.isSome_readWith asked enough

theorem streamItems_eq :
    ∃ frames : List Bytes, (∀ frame ∈ frames, frame ≠ []) ∧ frames.flatten = payload ∧
      body.streamItems = frames.map .ok ++ report.failure?.toList.map .error := by
  unfold Gives at gives
  unfold streamItems Report.failure?
  split
  · rename_i stopped
    rw [stopped] at gives
    exact ⟨[], by simp, gives.1.symm, by simp [gives.2]⟩
  · rename_i got
    rw [got] at gives
    obtain ⟨whole, nonempty, ended, closed⟩ := gives.2.blocks_eq
    refine ⟨_, nonempty, whole, ?_⟩
    -- Closing is heard only if reading came to the end of the stream.
    rcases gives.2.none_or_none with none | none
    · simp [ended, closed, gives.1, none]
    · cases stop : report.reading <;> simp [ended, closed, gives.1, none, stop]

/-- The items that a body is polled for: its payload in frames that are not empty, and then the
failure. -/
theorem items_toChannel :
    ∃ frames : List Bytes, (∀ frame ∈ frames, frame ≠ []) ∧ frames.flatten = payload ∧
      body.toChannel.items = frames.map .ok ++ report.failure?.toList.map .error := by
  have streamed := gives.streamItems_eq
  obtain ⟨source, size, mime⟩ := body
  obtain ⟨opening, reading, closing⟩ := report
  cases source with
  | empty =>
    obtain ⟨rfl, rfl, rfl, rfl⟩ := gives
    exact ⟨[], by simp, rfl, rfl⟩
  | once bytes nonempty =>
    obtain ⟨rfl, rfl, rfl, rfl⟩ := gives
    exact ⟨[bytes], by simpa using nonempty, by simp, rfl⟩
  | reader opening => exact streamed
  | producer script => exact streamed

/-- At most one failure is reported. -/
theorem failures_eq : report.failures = report.failure?.toList := by
  unfold Gives at gives
  unfold Report.failures Report.failure?
  split at gives
  · rw [gives.2]
    simp
  · rw [gives.1]
    rcases gives.2.none_or_none with none | none
    · rw [none]
      rfl
    · rw [none, Option.or_none]
      simp

end Gives

end Body

theorem Body.foldl_length (blocks : List Bytes) (total : Nat) :
    blocks.foldl (fun total block => total + block.length) total =
      total + blocks.flatten.length := by
  induction blocks generalizing total with
  | nil => rfl
  | cons block rest ih => rw [List.foldl_cons, ih, List.flatten_cons, List.length_append,
      Nat.add_assoc]

namespace Recipe

variable (recipe : Recipe) (size : Option Nat) (mime : Mime)

theorem writeTo_unbounded (steady : recipe.Steady) :
    (recipe.body size mime).writeTo Sink.unbounded () =
      ⟨recipe.outcome recipe.payload.length, recipe.payload, ()⟩ := by
  match recipe with
  | empty => rfl
  | reader (.error fault) => rfl
  | memory bytes =>
    cases bytes with
    | nil => rfl
    | cons byte rest =>
      have source : ((memory (byte :: rest)).body size mime).source =
        .once (byte :: rest) (List.cons_ne_nil byte rest) := rfl
      rw [Body.writeTo, source, Body.transfer, Sink.writeAll_unbounded]
      rfl
  | reader (.ok script) =>
    obtain ⟨whole, ended, -⟩ := (Supply.scripted script).readAll_eq Pipe.blockSize_pos
      fun _ => steady
    have source : ((reader (.ok script)).body size mime).source =
      .reader (.ok (Supply.scripted script)) := rfl
    rw [Body.writeTo, source, Body.transfer, Body.copy, Sink.writeChunks_unbounded,
      Body.foldl_length, whole, ended]
    simp only [outcome, failure?, report, Report.failure?, Supply.stop?_scripted, payload,
      Nat.zero_add]
    cases (Supply.scripted script).failure? <;> rfl
  | producer script result =>
    have run := (Producer.pushes_scripted result script).run_counting 0
    have source : ((producer script result).body size mime).source =
      .producer (.scripted result script) := rfl
    rw [Body.writeTo, source, Body.transfer, run, Nat.zero_add]
    cases result <;> rfl

theorem collect_eq (steady : recipe.Steady) (reserved : size.getD 0 ≤ Body.maxReserve) :
    (recipe.body size mime).collect = recipe.outcome recipe.payload := by
  have written := recipe.writeTo_unbounded size mime steady
  have collected : (if Body.maxReserve < size.getD 0 then
      .error (.panicked (.text "capacity overflow"))
    else ((recipe.body size mime).writeTo Sink.unbounded ()).result.map fun _ =>
      ((recipe.body size mime).writeTo Sink.unbounded ()).taken) =
        recipe.outcome recipe.payload := by
    rw [if_neg (Nat.not_lt.mpr reserved), written, outcome_map]
  match recipe with
  | empty => rfl
  | memory bytes => cases bytes <;> rfl
  | reader opening => exact collected
  | producer script result => exact collected

/-- The body made from a recipe has the payload and the failure that the recipe says. -/
theorem gives : (recipe.body size mime).Gives recipe.payload recipe.report := by
  match recipe with
  | empty => exact ⟨rfl, rfl, rfl, rfl⟩
  | memory bytes => cases bytes <;> exact ⟨rfl, rfl, rfl, rfl⟩
  | reader (.error fault) => exact ⟨rfl, rfl⟩
  | reader (.ok script) => exact ⟨rfl, rfl, rfl, rfl⟩
  | producer script result =>
    have pushed := Pipe.gives_ofProducer (Producer.pushes_scripted result script)
    cases result with
    | ok => exact ⟨rfl, .of_gives pushed⟩
    | error fault => exact ⟨rfl, .of_gives pushed⟩

/-- Reading a producer's pipe and finishing with it, in whatever order the two threads take their
steps. -/
theorem threads_done (script : List Producer.Push) (result : Except IoFault Unit)
    {sizes : List Nat} (asked : ∀ most ∈ sizes, 0 < most) {state : Threads}
    (reached : Threads.Reachable (.scripted result script) (sizes.map .read ++ [.finish]) state)
    (done : state.IsDone) :
    state.reads.flatten ++ state.drained = (producer script result).payload ∧
      ([] ∈ state.reads → state.reads.flatten = (producer script result).payload) ∧
      state.finishes.filterMap id = (producer script result).report.failures := by
  have pushes := Producer.pushes_scripted result script
  obtain ⟨whole, emptied, finishes⟩ := reached.of_done pushes (Threads.readsFirst_map asked) done
  refine ⟨whole, emptied, ?_⟩
  rw [finishes]
  cases result <;> rfl

end Recipe

namespace ChannelBody

def polled : Nat → ChannelBody → ChannelBody
  | 0, channel => channel
  | count + 1, channel => polled count channel.poll.2

theorem poll_polled (count : Nat) (channel : ChannelBody) :
    (channel.polled count).poll.1 = channel.items[count]? := by
  induction count generalizing channel with
  | zero => rw [polled, channel.poll_eq.1, List.head?_eq_getElem?]
  | succ count ih => rw [polled, ih, channel.poll_eq.2, List.getElem?_tail]

end ChannelBody

/-- Every way of consuming a body gives the same payload and the same failure, whatever the body
declares: written to a sink that takes everything, collected in memory, read in whatever pieces
and closed, in whatever order a producer and its reader take their steps, or polled for frames. -/
theorem consumption_agrees (recipe : Recipe) (size : Option Nat) (mime : Mime) :
    (recipe.Steady → (recipe.body size mime).writeTo Sink.unbounded () =
        ⟨recipe.outcome recipe.payload.length, recipe.payload, ()⟩) ∧
      (recipe.Steady → size.getD 0 ≤ Body.maxReserve →
        (recipe.body size mime).collect = recipe.outcome recipe.payload) ∧
      (∀ sizes : List Nat, (∀ most ∈ sizes, 0 < most) →
        (∀ came, (recipe.body size mime).readThrough sizes = some came →
          came = (recipe.payload, recipe.report)) ∧
        (recipe.payload.length < sizes.length →
          ((recipe.body size mime).readThrough sizes).isSome)) ∧
      (∀ script result, recipe = .producer script result →
        ∀ sizes : List Nat, (∀ most ∈ sizes, 0 < most) → ∀ state : Threads,
          Threads.Reachable (.scripted result script) (sizes.map .read ++ [.finish]) state →
          state.IsDone →
          state.reads.flatten ++ state.drained = recipe.payload ∧
            ([] ∈ state.reads → state.reads.flatten = recipe.payload) ∧
            state.finishes.filterMap id = recipe.report.failures) ∧
      recipe.report.failures = recipe.failure?.toList ∧
      ∃ frames : List Bytes, (∀ frame ∈ frames, frame ≠ []) ∧ frames.flatten = recipe.payload ∧
        ∀ count, ((recipe.body size mime).toChannel.polled count).poll.1 =
          (frames.map .ok ++ recipe.failure?.toList.map .error)[count]? := by
  have gives := recipe.gives size mime
  refine ⟨recipe.writeTo_unbounded size mime, recipe.collect_eq size mime, fun sizes asked =>
    ⟨fun came => gives.readThrough_eq asked, gives.isSome_readThrough asked⟩,
    ?_, gives.failures_eq, ?_⟩
  · rintro script result rfl sizes asked state reached done
    exact Recipe.threads_done script result asked reached done
  obtain ⟨frames, nonempty, whole, items⟩ := gives.items_toChannel
  refine ⟨frames, nonempty, whole, ?_⟩
  intro count
  rw [ChannelBody.poll_polled, items]
  rfl

end HttpDispatch
