import HttpDispatch.Flow.Pipe
import HttpDispatch.Proofs.Flow.RingStream
import Mathlib.Algebra.Group.Nat.Defs

/-!
Accesses to a ring by two threads. Whatever the writer and the reader do in whatever order, the
bytes that the ring accepts are delivered in their order, and closing it loses none of them.
-/

namespace HttpDispatch.Flow

namespace Ring

variable {capacity : Nat}

/-- Copying `count` bytes from a counter on, out of a buffer or into one, stays in the ring and in
the buffer. -/
structure CopiesWithin (capacity counter count buffer : Nat) : Prop where
  first : (spans capacity counter count).1.Within capacity
  second : (spans capacity counter count).2.Within capacity
  whole : (spans capacity counter count).1.length + (spans capacity counter count).2.length = count
  buffer : count ≤ buffer

theorem copiesWithin (room : 0 < capacity) {counter count buffer : Nat} (fits : count ≤ capacity)
    (inBuffer : count ≤ buffer) : CopiesWithin capacity counter count buffer := by
  obtain ⟨first, second, whole⟩ := spans_within room counter count fits
  exact ⟨first, second, whole, inBuffer⟩

/-- What a thread does at a ring. -/
inductive Access where
  | write (chunk : Bytes)
  | read (most : Nat)
  | close

/-- A ring with what came of the accesses to it: the parts of chunks that it accepted, and the
blocks that it gave. -/
structure History (capacity : Nat) where
  ring : Ring capacity
  accepted : List Bytes
  delivered : List Bytes

namespace History

/-- The history of a new ring. -/
def start : History capacity := ⟨.empty, [], []⟩

/-- One access. One that would have to wait changes nothing; it has its effect when it is made
again after the other thread ended the wait. -/
def step (history : History capacity) : Access → History capacity
  | .write chunk =>
    match history.ring.write chunk with
    | (.accepted count, ring) =>
      { history with ring, accepted := history.accepted ++ [chunk.take count] }
    | (.refused, ring) | (.waits, ring) => { history with ring }
  | .read most =>
    match history.ring.read most with
    | (.got bytes, ring) => { history with ring, delivered := history.delivered ++ [bytes] }
    | (.waits, ring) => { history with ring }
  | .close => { history with ring := history.ring.close }

/-- Accesses one after the other, by whichever thread. -/
def run (history : History capacity) (accesses : List Access) : History capacity :=
  accesses.foldl step history

/-- The ring carries what it accepted, and what it gave is the part of this that was taken. -/
structure Sound (history : History capacity) : Prop where
  carries : history.ring.Carries history.accepted.flatten
  delivered : history.delivered.flatten = history.accepted.flatten.take history.ring.taken

/-- What an access comes to. -/
inductive Effect (history : History capacity) : Access → History capacity → Prop where
  | accepts {chunk : Bytes} (bytes : Bytes) (fits : bytes.length ≤ history.ring.free)
    (isOpen : bytes ≠ [] → history.ring.isOpen = true) :
    Effect history (.write chunk)
      { history with ring := history.ring.push bytes, accepted := history.accepted ++ [bytes] }
  | gives {most : Nat} (count : Nat) (enough : count ≤ history.ring.available) :
    Effect history (.read most)
      { history with
        ring := { history.ring with taken := history.ring.taken + count }
        delivered := history.delivered ++ [history.ring.front count] }
  | closes : Effect history .close { history with ring := history.ring.close }
  | nothing {access : Access} (kept : access ≠ .close) : Effect history access history

theorem effect_step (history : History capacity) (access : Access) :
    Effect history access (history.step access) := by
  cases access with
  | close => exact .closes
  | write chunk =>
    rcases answered : history.ring.write chunk with ⟨reply, after⟩
    cases reply with
    | accepted count =>
      obtain ⟨count_eq, rfl, proper⟩ := write_accepted answered
      have fits : (chunk.take count).length ≤ history.ring.free := by
        rw [List.length_take]
        omega
      simp only [step, answered]
      refine .accepts _ fits fun some_taken => (proper ?_).2
      rintro rfl
      exact some_taken List.take_nil
    | refused =>
      obtain ⟨rfl, -⟩ := write_refused answered
      simp only [step, answered]
      exact .nothing (by simp)
    | waits =>
      obtain ⟨rfl, -⟩ := write_waits answered
      simp only [step, answered]
      exact .nothing (by simp)
  | read most =>
    rcases answered : history.ring.read most with ⟨reply, after⟩
    cases reply with
    | got bytes =>
      obtain ⟨rfl, rfl, -⟩ := read_got answered
      simp only [step, answered]
      exact .gives _ (Nat.min_le_left _ _)
    | waits =>
      obtain ⟨rfl, -⟩ := read_waits answered
      simp only [step, answered]
      exact .nothing (by simp)

namespace Sound

variable {history : History capacity}

theorem start : (History.start : History capacity).Sound := ⟨.empty, rfl⟩

theorem taken_le (sound : history.Sound) :
    history.ring.taken ≤ history.accepted.flatten.length :=
  sound.carries.written ▸ sound.carries.taken_le

theorem effect (room : 0 < capacity) (sound : history.Sound) {access : Access}
    {after : History capacity} (come : Effect history access after) : after.Sound := by
  obtain ⟨carries, delivered⟩ := sound
  cases come with
  | closes => exact ⟨carries.close, delivered⟩
  | nothing kept => exact ⟨carries, delivered⟩
  | accepts bytes fits isOpen =>
    refine ⟨by simpa using carries.push room fits, ?_⟩
    rw [List.flatten_append, delivered]
    exact (List.take_append_of_le_length (taken_le ⟨carries, delivered⟩)).symm
  | gives count enough =>
    refine ⟨carries.take enough, ?_⟩
    rw [List.flatten_append, delivered, carries.front_eq room enough, List.take_add]
    simp

/-- Whatever was done at a new ring, it carries what it accepted. -/
theorem run (room : 0 < capacity) (sound : history.Sound) (accesses : List Access) :
    (history.run accesses).Sound := by
  induction accesses generalizing history with
  | nil => exact sound
  | cons access rest ih => exact ih (sound.effect room (effect_step history access))

/-- What was delivered and what waits make up what was accepted. -/
theorem delivered_append (room : 0 < capacity) (sound : history.Sound) :
    history.delivered.flatten ++ history.ring.contents = history.accepted.flatten := by
  rw [sound.delivered, sound.carries.contents_eq room, List.take_append_drop]

example :
    let history : History 4 :=
      History.start.run [.write [1, 2, 3], .read 2, .write [4, 5, 6], .read 9]
    history.accepted = [[1, 2, 3], [4, 5, 6]] ∧ history.delivered = [[1, 2], [3, 4, 5, 6]] := by
  decide

/-- Once nothing waits, everything accepted was delivered. -/
theorem all_delivered (room : 0 < capacity) (sound : history.Sound)
    (none : history.ring.available = 0) :
    history.delivered.flatten = history.accepted.flatten := by
  have empty := List.eq_nil_of_length_eq_zero ((sound.carries.length_contents room).trans none)
  rw [← sound.delivered_append room, empty, List.append_nil]

theorem taken_eq (sound : history.Sound) :
    history.ring.taken = history.delivered.flatten.length := by
  have := sound.taken_le
  rw [sound.delivered, List.length_take]
  omega

end Sound

theorem Effect.isClosed_iff {history after : History capacity} {access : Access}
    (come : Effect history access after) :
    after.ring.isOpen = false ↔ history.ring.isOpen = false ∨ access = .close := by
  cases come with
  | accepts bytes fits isOpen => simp [push]
  | gives count enough => simp
  | closes => simp [Ring.close]
  | nothing kept => simp [kept]

/-- A ring is closed once it was closed. -/
theorem isClosed_run (history : History capacity) (accesses : List Access) :
    (history.run accesses).ring.isOpen = false ↔
      history.ring.isOpen = false ∨ .close ∈ accesses := by
  induction accesses generalizing history with
  | nil => simp [run]
  | cons access rest ih =>
    show ((history.step access).run rest).ring.isOpen = false ↔ _
    rw [ih, (effect_step history access).isClosed_iff, List.mem_cons, or_assoc,
      @eq_comm _ access]

theorem isClosed_run_start (accesses : List Access) :
    (start.run accesses : History capacity).ring.isOpen = false ↔ .close ∈ accesses := by
  rw [isClosed_run]
  exact or_iff_right Bool.noConfusion

/-- The ring is closed and nothing is left in it. -/
structure Ended (history : History capacity) : Prop where
  isClosed : history.ring.isOpen = false
  exhausted : history.ring.available = 0

/-- Nothing changes a ring that has ended. -/
theorem Ended.ring_eq {history after : History capacity} {access : Access}
    (ended : history.Ended) (come : Effect history access after) : after.ring = history.ring := by
  obtain ⟨isClosed, exhausted⟩ := ended
  cases come with
  | accepts bytes fits isOpen =>
    cases bytes with
    | nil => exact push_nil _
    | cons byte rest => simp [isClosed] at isOpen
  | gives count enough =>
    obtain rfl : count = 0 := by omega
    rfl
  | closes =>
    rw [close, ← isClosed]
  | nothing kept => rfl

theorem Ended.ring_run {history : History capacity} (ended : history.Ended)
    (accesses : List Access) : (history.run accesses).ring = history.ring := by
  induction accesses generalizing history with
  | nil => rfl
  | cons access rest ih =>
    have same := ended.ring_eq (effect_step history access)
    have still : (history.step access).Ended :=
      ⟨by rw [same, ended.isClosed], by rw [same, ended.exhausted]⟩
    exact (ih still).trans same

/-- A read of something that gave nothing was from a ring that had ended. -/
theorem Sound.ended (room : 0 < capacity) {history : History capacity} (sound : history.Sound)
    {most : Nat} {after : Ring capacity} (asked : 0 < most)
    (answered : history.ring.read most = (.got [], after)) : history.Ended := by
  obtain ⟨nothing, -, closing⟩ := read_got answered
  rw [sound.carries.front_min room] at nothing
  have empty : history.ring.contents = [] :=
    (List.take_eq_nil_iff.mp nothing.symm).resolve_left (by omega)
  have exhausted : history.ring.available = 0 := by
    rw [← sound.carries.length_contents room, empty, List.length_nil]
  exact ⟨closing asked exhausted, exhausted⟩

/-- A write that waits finds every slot taken. -/
theorem Sound.full (room : 0 < capacity) {history : History capacity} (sound : history.Sound)
    {chunk : Bytes} {after : Ring capacity}
    (answered : history.ring.write chunk = (.waits, after)) :
    history.ring.contents.length = capacity := by
  obtain ⟨-, -, full⟩ := write_waits answered
  have held := sound.carries.held_le
  rw [sound.carries.length_contents room]
  unfold free at full
  omega

end History

/-- What can be said of the ring of a pipe after accesses to it, in whatever order its two threads
made them. -/
structure Lossless (accesses : List Access) (history : History blockSize) : Prop where
  /-- The counters count the bytes accepted and the bytes delivered. -/
  counters : history.ring.written = history.accepted.flatten.length ∧
    history.ring.taken = history.delivered.flatten.length
  /-- A stream that 64 bits can count does not overflow them. -/
  counted : history.accepted.flatten.length < 2 ^ 64 →
    history.ring.written < 2 ^ 64 ∧ history.ring.taken < 2 ^ 64
  held : history.ring.taken ≤ history.ring.written ∧
    history.ring.written - history.ring.taken ≤ blockSize
  /-- Every byte accepted is delivered once, in order, or waits in the ring. -/
  inOrder : history.delivered.flatten ++ history.ring.contents = history.accepted.flatten
  /-- A write copies within bounds, and takes something of a chunk that is not empty. -/
  accepts : ∀ chunk count after, history.ring.write chunk = (.accepted count, after) →
    CopiesWithin blockSize history.ring.written count chunk.length ∧
      count = min history.ring.free chunk.length ∧ (chunk ≠ [] → 1 ≤ count)
  /-- A read copies within bounds, and gives what is next. -/
  gives : ∀ most bytes after, history.ring.read most = (.got bytes, after) →
    CopiesWithin blockSize history.ring.taken bytes.length most ∧
      bytes = history.ring.contents.take most
  /-- Threads wait only for each other. -/
  writeWaits : ∀ chunk after, history.ring.write chunk = (.waits, after) →
    .close ∉ accesses ∧ history.ring.contents.length = blockSize
  readWaits : ∀ most after, history.ring.read most = (.waits, after) →
    .close ∉ accesses ∧ history.delivered.flatten = history.accepted.flatten
  /-- The end of the stream is its end for good. -/
  ending : ∀ most after, 0 < most → history.ring.read most = (.got [], after) →
    .close ∈ accesses ∧ history.delivered.flatten = history.accepted.flatten ∧
      ∀ later again, ((history.run later).ring.read again).1 = .got []
  /-- A closed ring takes nothing more and still gives what is in it. -/
  closed : .close ∈ accesses →
    (∀ chunk, chunk ≠ [] → Pipe.tryWrite history.ring chunk =
      some (.error (.ofMessage .brokenPipe "stream closed"), history.ring)) ∧
    ∀ most, (history.ring.read most).1 = .got (history.ring.contents.take most)

theorem lossless_run (accesses : List Access) :
    Lossless accesses (History.start.run accesses) := by
  have room : 0 < blockSize := by decide
  have sound : (History.start.run accesses : History blockSize).Sound := .run room .start accesses
  have isClosed : (History.start.run accesses : History blockSize).ring.isOpen = false ↔
    .close ∈ accesses := History.isClosed_run_start accesses
  generalize (History.start.run accesses : History blockSize) = history at sound isClosed
  -- From here on only the invariant counts, and not the accesses that led to it.
  have carries := sound.carries
  refine ⟨⟨carries.written, sound.taken_eq⟩, ?_, ⟨carries.taken_le, carries.held_le⟩,
    sound.delivered_append room, ?_, ?_, ?_, ?_, ?_, ?_⟩
  · intro counted
    have := carries.written
    have := carries.taken_le
    omega
  · intro chunk count after answered
    obtain ⟨count_eq, -, proper⟩ := write_accepted answered
    have : history.ring.free ≤ blockSize := Nat.sub_le _ _
    exact ⟨copiesWithin room (by omega) (by omega), count_eq,
      fun nonempty => (proper nonempty).1⟩
  · intro most bytes after answered
    obtain ⟨rfl, -⟩ := read_got answered
    have fits := Nat.le_trans (Nat.min_le_left history.ring.available most) carries.held_le
    rw [length_front room _ fits]
    exact ⟨copiesWithin room fits (Nat.min_le_right _ _), carries.front_min room most⟩
  · intro chunk after answered
    obtain ⟨-, still, -⟩ := write_waits answered
    constructor
    · intro here
      simp [isClosed.mpr here] at still
    · exact sound.full room answered
  · intro most after answered
    obtain ⟨-, -, none, still⟩ := read_waits answered
    constructor
    · intro here
      simp [isClosed.mpr here] at still
    · exact sound.all_delivered room none
  · intro most after asked answered
    have ended := sound.ended room asked answered
    refine ⟨isClosed.mp ended.isClosed, sound.all_delivered room ended.exhausted, ?_⟩
    intro later again
    have empty := (carries.length_contents room).trans ended.exhausted
    rw [ended.ring_run, carries.read_closed room ended.isClosed,
      List.eq_nil_of_length_eq_zero empty, List.take_nil]
  · intro here
    constructor
    · intro chunk nonempty
      rw [Pipe.tryWrite, write_closed (isClosed.mpr here) nonempty]
      rfl
    · exact carries.read_closed room (isClosed.mpr here)

end Ring

end HttpDispatch.Flow
