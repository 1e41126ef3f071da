import HttpDispatch.Proofs.Body.Consumption

/-!
The frames of a body that a transport polls for. However a producer and the thread that reads it
take their steps, the frames are not empty, they make up the payload, and after the end there is
only the end. The size hint is that of the whole payload: no frame lowers it, so it bounds what is
still to come only from above once something was yielded.
-/

namespace HttpDispatch

open HttpDispatch.Flow

namespace SizeHint

/-- The only number within the bounds, if they are equal. -/
def size? (hint : SizeHint) : Option Nat := hint.upper.filter (· = hint.lower)

def Contains (hint : SizeHint) (length : Nat) : Prop :=
  hint.lower ≤ length ∧ ∀ upper ∈ hint.upper, length ≤ upper

theorem contains_exactly {size length : Nat} : (exactly size).Contains length ↔ length = size := by
  simp only [Contains, exactly, Option.mem_def, Option.some.injEq, forall_eq']
  omega

theorem contains_unknown (length : Nat) : unknown.Contains length :=
  ⟨Nat.zero_le length, nofun⟩

end SizeHint

namespace ChannelBody

variable {channel : ChannelBody} {payload : Bytes} {length : Nat}

theorem size?_sizeHint (channel : ChannelBody) :
    channel.sizeHint.size? = channel.exactSize := by
  unfold sizeHint exactSize
  cases channel.size <;> simp [SizeHint.size?, SizeHint.exactly, SizeHint.unknown]

theorem upper_sizeHint (channel : ChannelBody) : channel.sizeHint.upper = channel.size := by
  unfold sizeHint
  cases channel.size <;> rfl

theorem contains_sizeHint :
    channel.sizeHint.Contains length ↔ ∀ size ∈ channel.size, length = size := by
  unfold sizeHint
  cases channel.size with
  | none => simp [SizeHint.contains_unknown]
  | some size => simp [SizeHint.contains_exactly]

/-- The bytes of what a poll came to. -/
def bytesOf : Option (Except IoFault Bytes) → Bytes
  | some (.ok bytes) => bytes
  | _ => []

/-- The bytes that so many polls yield. -/
def yielded : Nat → ChannelBody → Bytes
  | 0, _ => []
  | count + 1, channel => bytesOf channel.poll.1 ++ yielded count channel.poll.2

/-- The channel has exactly this payload to give, in frames that are not empty. -/
def Carries (channel : ChannelBody) (payload : Bytes) : Prop :=
  ∃ frames : List Bytes, (∀ frame ∈ frames, frame ≠ []) ∧ frames.flatten = payload ∧
    channel.items = frames.map .ok

theorem size_polled (count : Nat) (channel : ChannelBody) :
    (channel.polled count).size = channel.size := by
  have step (channel : ChannelBody) : channel.poll.2.size = channel.size := by
    unfold poll
    split <;> rfl
  induction count generalizing channel with
  | zero => rfl
  | succ count ih => rw [polled, ih, step]

theorem items_of_isEndStream (ended : channel.isEndStream = true) : channel.items = [] := by
  unfold isEndStream at ended
  unfold items
  split at ended
  · rename_i frames
    rw [frames]
    rfl
  · cases ended

/-- The end is yielded for ever. -/
theorem poll_polled_of_nil (nothing : channel.items = []) (more : Nat) :
    (channel.polled more).poll.1 = none := by
  rw [poll_polled, nothing, List.getElem?_nil]

/-- A poll yields the next bytes of the payload and leaves the others. -/
theorem Carries.poll (carries : channel.Carries payload) :
    ∃ rest, bytesOf channel.poll.1 ++ rest = payload ∧ channel.poll.2.Carries rest := by
  obtain ⟨frames, proper, whole, items⟩ := carries
  obtain ⟨polled, left⟩ := channel.poll_eq
  cases frames with
  | nil =>
    rw [items] at polled left
    exact ⟨[], by rw [polled, ← whole]; rfl, [], by simp, rfl, left⟩
  | cons frame frames =>
    rw [items] at polled left
    rw [List.forall_mem_cons] at proper
    exact ⟨frames.flatten, by rw [polled, ← whole]; rfl, frames, proper.2, rfl, left⟩

theorem Carries.polled (carries : channel.Carries payload) (count : Nat) :
    ∃ rest, channel.yielded count ++ rest = payload ∧ (channel.polled count).Carries rest := by
  induction count generalizing channel payload with
  | zero => exact ⟨payload, rfl, carries⟩
  | succ count ih =>
    obtain ⟨left, whole, carried⟩ := carries.poll
    obtain ⟨rest, later, after⟩ := ih carried
    refine ⟨rest, ?_, after⟩
    rw [yielded, List.append_assoc, later, whole]

theorem Carries.of_poll_none (carries : channel.Carries payload) (ended : channel.poll.1 = none) :
    payload = [] ∧ ∀ more, (channel.polled more).poll.1 = none := by
  obtain ⟨frames, -, whole, items⟩ := carries
  rw [channel.poll_eq.1, items] at ended
  cases frames with
  | nil => exact ⟨whole.symm, poll_polled_of_nil items⟩
  | cons frame frames => cases ended

theorem Carries.of_poll_some {item : Except IoFault Bytes} (carries : channel.Carries payload)
    (given : channel.poll.1 = some item) :
    ∃ frame, item = .ok frame ∧ frame ≠ [] ∧ frame <+: payload := by
  obtain ⟨frames, proper, whole, items⟩ := carries
  rw [channel.poll_eq.1, items] at given
  cases frames with
  | nil => cases given
  | cons frame frames =>
    cases given
    exact ⟨frame, rfl, proper frame (.head _), frames.flatten, whole⟩

end ChannelBody

/-! ### The channels of a body -/

/-- The channels that a body with this payload can be turned into if no failure of its source is
reported. A producer's bytes are cut into frames as its thread and the reading one take their steps:
the latter reads until it reads nothing and finishes with the pipe then. -/
inductive Body.Feeds (body : Body) (payload : Bytes) : ChannelBody → Prop where
  | alone {report : Report} (gives : body.Gives payload report) (fine : report.failure? = none) :
      Feeds body payload body.toChannel
  | together {script : Producer} {count : Nat} {frames : List Bytes} {state : Threads}
      (source : body.source = .producer script) (pushes : script.Pushes payload (.ok ()))
      (reached : Threads.Reachable script
        ((List.replicate count blockSize).map .read ++ [.finish]) state)
      (done : state.IsDone) (reads : state.reads = frames ++ [[]])
      (proper : ∀ frame ∈ frames, frame ≠ []) :
      Feeds body payload
        ⟨.stream (frames.map .ok ++ (state.finishes.filterMap id).map .error), body.size⟩

namespace Body.Feeds

variable {body : Body} {payload : Bytes} {channel : ChannelBody}

theorem size_eq (feeds : body.Feeds payload channel) : channel.size = body.size := by
  cases feeds <;> rfl

theorem carries (feeds : body.Feeds payload channel) : channel.Carries payload := by
  cases feeds with
  | alone gives fine =>
    obtain ⟨frames, proper, whole, items⟩ := gives.items_toChannel
    refine ⟨frames, proper, whole, ?_⟩
    rw [items, fine]
    exact List.append_nil _
  | @together script count frames state source pushes reached done reads proper =>
    have asked : ∀ most ∈ List.replicate count blockSize, 0 < most := by
      intro most member
      rw [List.eq_of_mem_replicate member]
      exact Pipe.blockSize_pos
    obtain ⟨-, emptied, finishes⟩ := reached.of_done pushes (Threads.readsFirst_map asked) done
    refine ⟨frames, proper, ?_, ?_⟩
    · rw [reads] at emptied
      simpa using emptied
    · rw [ChannelBody.items, finishes]
      exact List.append_nil _

end Body.Feeds

/-- Whatever a body without a failure is made from, its own channel is one of them. -/
theorem Recipe.feeds (recipe : Recipe) (size : Option Nat) (mime : Mime)
    (fine : recipe.failure? = none) :
    (recipe.body size mime).Feeds recipe.payload (recipe.body size mime).toChannel :=
  .alone (recipe.gives size mime) fine

/-- What is known of a channel from which some of the payload of a body was yielded. -/
structure Body.Framing (body : Body) (payload yielded : Bytes) (channel : ChannelBody) : Prop where
  front : yielded <+: payload
  /-- The hint stays as it was before the first poll. -/
  hint : channel.sizeHint.size? = body.size
  /-- It bounds what is still to come as long as nothing was yielded, or if it says nothing. -/
  bounds : channel.sizeHint.Contains (payload.length - yielded.length) ↔
    body.size = none ∨ yielded = []
  /-- From above it bounds that in any case. -/
  upper : ∀ upper ∈ channel.sizeHint.upper, payload.length - yielded.length ≤ upper
  ended : channel.isEndStream → ∀ more, (channel.polled more).poll.1 = none
  final : channel.poll.1 = none →
    yielded = payload ∧ ∀ more, (channel.polled more).poll.1 = none
  frames : ∀ item, channel.poll.1 = some item →
    ∃ frame, item = .ok frame ∧ frame ≠ [] ∧ yielded ++ frame <+: payload

/-- Of a body whose declared size is that of its payload, all but the size hint is right after any
number of polls. -/
theorem channel_framing {body : Body} {payload : Bytes} {channel : ChannelBody}
    (feeds : body.Feeds payload channel) (sized : ∀ size ∈ body.size, size = payload.length)
    (count : Nat) :
    body.Framing payload (channel.yielded count) (channel.polled count) := by
  have size : (channel.polled count).size = body.size :=
    (channel.size_polled count).trans feeds.size_eq
  obtain ⟨rest, whole, carries⟩ := feeds.carries.polled count
  generalize channel.yielded count = yielded at whole
  generalize channel.polled count = left at size carries
  have remaining : payload.length - yielded.length = rest.length := by
    rw [← whole, List.length_append, Nat.add_sub_cancel_left]
  have declares (declared : Nat) (known : declared ∈ body.size) :
      declared = yielded.length + rest.length := by
    rw [sized declared known, ← whole, List.length_append]
  constructor
  · exact ⟨rest, whole⟩
  · rw [ChannelBody.size?_sizeHint]
    exact size
  · rw [ChannelBody.contains_sizeHint, size, remaining]
    cases known : body.size with
    | none => simp
    | some declared =>
      have total := declares declared known
      simp only [Option.mem_def, Option.some.injEq, forall_eq', reduceCtorEq, false_or,
        ← List.length_eq_zero_iff]
      omega
  · intro upper known
    rw [ChannelBody.upper_sizeHint, size] at known
    have total := declares upper known
    omega
  · intro ended
    exact ChannelBody.poll_polled_of_nil (ChannelBody.items_of_isEndStream ended)
  · intro ended
    obtain ⟨nothing, final⟩ := carries.of_poll_none ended
    refine ⟨?_, final⟩
    rw [← whole, nothing, List.append_nil]
  · intro item given
    obtain ⟨frame, same, proper, front⟩ := carries.of_poll_some given
    refine ⟨frame, same, proper, ?_⟩
    rw [← whole]
    exact (List.prefix_append_right_inj yielded).mpr front

/-- Five bytes in memory. -/
def greeting : Recipe := .memory (Utf8.encode "hello")

theorem greeting_framing :
    (∀ size ∈ (greeting.body (some 5) .textPlain).size, size = greeting.payload.length) ∧
      (greeting.body (some 5) .textPlain).Feeds greeting.payload
        (greeting.body (some 5) .textPlain).toChannel ∧
      (greeting.body (some 5) .textPlain).Framing greeting.payload (Utf8.encode "hello")
        ((greeting.body (some 5) .textPlain).toChannel.polled 1) :=
  have sized : ∀ size ∈ (greeting.body (some 5) .textPlain).size,
      size = greeting.payload.length := by decide +kernel
  have feeds := greeting.feeds (some 5) .textPlain rfl
  ⟨sized, feeds, channel_framing feeds sized 1⟩

/-- The hint after the frame of a body in memory is still that of the whole payload. -/
theorem hint_exceeds_remaining :
    ¬ ∀ (body : Body) (payload : Bytes) (channel : ChannelBody), body.Feeds payload channel →
      (∀ size ∈ body.size, size = payload.length) → ∀ count,
        (channel.polled count).sizeHint.Contains
          (payload.length - (channel.yielded count).length) := by
  intro always
  have contains := always _ _ _ (greeting.feeds (some 5) .textPlain rfl) (by decide +kernel) 1
  exact absurd contains.1 (by decide +kernel)

end HttpDispatch
