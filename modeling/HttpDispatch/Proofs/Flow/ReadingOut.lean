import HttpDispatch.Proofs.Flow.Closing

/-!
Reading a pipe out: reading it until nothing more comes, and finishing with it then. In every run of
the two threads the pieces read are what was taken of the producer's writes, and finishing says how
the producer ended. A producer that goes on from wherever its writes were left comes to the same
bytes and the same end in all of them.
-/

namespace HttpDispatch.Flow

/-- A producer that pushes the same however much is taken of its writes performs nothing else. -/
theorem Producer.Pushes.of_performs {script : Producer} {payload bytes : Bytes}
    {ending outcome : Ending} (pushes : script.Pushes payload outcome)
    (performs : script.Performs bytes ending) : bytes = payload ∧ ending = outcome := by
  induction pushes generalizing bytes with
  | finish result | panic cause =>
    cases performs
    exact ⟨rfl, rfl⟩
  | flush later ih =>
    cases performs with
    | flush later => exact ih later
  | writeAll chunk later ih =>
    cases performs with
    | writeAll chunk later =>
      obtain ⟨rfl, same⟩ := ih later
      exact ⟨rfl, same⟩
  | write first later ih =>
    cases performs with
    | write most proper rest =>
      obtain ⟨rfl, same⟩ := ih _ most proper rest
      refine ⟨?_, same⟩
      rw [List.prefix_iff_eq_take.mp first, List.take_take, Nat.min_eq_left most]
      exact List.take_append_drop _ _

/-- A ring of which a read gives nothing is exhausted. -/
theorem Ring.exhausted_of_nil {ring after : Ring blockSize} {most : Nat} {bytes : Bytes}
    (asked : 0 < most) (answered : ring.read most = (.got bytes, after)) (nothing : bytes = []) :
    after.Exhausted := by
  obtain ⟨front, rfl, closing⟩ := Ring.read_got answered
  have none := Ring.eq_zero_of_front Pipe.blockSize_pos _ (front.symm.trans nothing)
  have empty : ring.available = 0 := by omega
  rw [none]
  exact ⟨empty, closing asked empty⟩

/-- An exhausted ring has nothing to give and stays exhausted. -/
theorem Ring.Exhausted.of_read {ring after : Ring blockSize} {most : Nat} {bytes : Bytes}
    (answered : ring.read most = (.got bytes, after)) (exhausted : ring.Exhausted) :
    after.Exhausted ∧ bytes = [] := by
  obtain ⟨front, rfl, -⟩ := Ring.read_got answered
  rw [exhausted.1, Nat.zero_min] at front ⊢
  exact ⟨exhausted, front.trans (Ring.front_zero _)⟩

namespace Threads

variable {state after : Threads} {script : Producer} {sizes : List Nat} {pieces : List Bytes}
variable {again : Nat} {parts : List Bytes}

/-- The threads of a pipe once the reading one read these pieces with buffers of these sizes, found
nothing more with the last of them, and finished with the pipe. Threads may be woken for no
reason. -/
structure ReadOut (script : Producer) (sizes : List Nat) (pieces : List Bytes) (state : Threads) :
    Prop where
  happened : Relation.ReflTransGen Happens (start script (sizes.map .read ++ [.finish])) state
  done : state.IsDone
  asked : ∀ most ∈ sizes, 0 < most
  reads : state.reads = pieces ++ [[]]
  proper : ∀ piece ∈ pieces, piece ≠ []

/-- The reading thread always asks for something, and a read that gave nothing found all that was
written taken, so that finishing has nothing to drain. -/
structure Emptied (state : Threads) : Prop where
  asked : ∀ most, .read most ∈ state.demands → 0 < most
  ended : [] ∈ state.reads → state.ring.Exhausted ∧ state.drained = []

namespace Emptied

/-- A ring that is exhausted is closed, so its producer ended and does no more. -/
theorem writerMove (emptied : state.Emptied) (live : state.Live) (made : WriterMove state after) :
    after.Emptied := by
  have absent {script : Producer} (running : state.writer = .working script)
      (nothing : [] ∈ state.reads) : False := by
    have isOpen := live.isOpen_of_working running
    rw [(emptied.ended nothing).1.2] at isOpen
    cases isOpen
  cases made with
  | waits running | goesOn running | fills running | ends running =>
    exact ⟨emptied.asked, fun nothing => (absent running nothing).elim⟩

theorem readOnce (emptied : state.Emptied) {most : Nat} (some_asked : 0 < most)
    {take : Threads → Bytes → Threads}
    (taking : ∀ ring bytes, (bytes = [] → ring.Exhausted) →
      (state.ring.Exhausted → ring.Exhausted ∧ bytes = []) →
      (take { state with ring } bytes).Emptied) :
    (state.readOnce most take).Emptied := by
  rcases answered : state.ring.read most with ⟨reply, ring⟩
  unfold Threads.readOnce
  rw [answered]
  cases reply with
  | waits => exact ⟨emptied.asked, emptied.ended⟩
  | got bytes =>
    have kept := taking _ _ (Ring.exhausted_of_nil some_asked answered)
      (Ring.Exhausted.of_read answered)
    simp only
    split
    · exact kept
    · exact ⟨kept.asked, kept.ended⟩

theorem readerMove (emptied : state.Emptied) (keeps : Keeps script again state parts)
    (made : ReaderMove state after) : after.Emptied := by
  obtain ⟨asked, ended⟩ := id emptied
  have later {demand : Demand} {rest : List Demand} (demands : state.demands = demand :: rest) :
      ∀ most, .read most ∈ rest → 0 < most := by
    intro most member
    exact asked most (demands ▸ List.mem_cons_of_mem _ member)
  cases made with
  | read task demanded =>
    have drained := (keeps.asking task demanded).2.1
    apply emptied.readOnce (asked _ (demanded ▸ List.mem_cons_self))
    intro ring bytes exhausts stays
    refine ⟨later demanded, ?_⟩
    intro nothing
    rcases List.mem_append.mp nothing with before | now
    · exact ⟨(stays (ended before).1).1, drained⟩
    · exact ⟨exhausts (List.mem_singleton.mp now).symm, drained⟩
  | finish task demanded isAttached => exact ⟨asked, ended⟩
  | again task demanded isAttached => exact ⟨later demanded, ended⟩
  | drain task =>
    apply emptied.readOnce (by decide)
    intro ring bytes exhausts stays
    unfold Threads.drain
    split
    · exact ⟨asked, fun nothing => ⟨(stays (ended nothing).1).1, (ended nothing).2⟩⟩
    · rename_i proper
      exact ⟨asked, fun nothing => absurd (stays (ended nothing).1).2 proper⟩
  | join task demanded joined => exact ⟨later demanded, ended⟩

end Emptied

theorem emptied_of_happened (asked : ∀ most ∈ sizes, 0 < most)
    (happened : Relation.ReflTransGen Happens (start script (sizes.map .read ++ [.finish])) state) :
    state.Emptied := by
  induction happened with
  | refl =>
    refine ⟨?_, nofun⟩
    intro most member
    simpa [start] using asked most (by simpa [start] using member)
  | @tail state after before last ih =>
    have live : state.Live := (Live.start script (by simp)).happens before
    obtain ⟨parts, keeps⟩ : ∃ parts, Keeps script 0 state parts := exists_keeps before
    cases last with
    | step made =>
      cases made with
      | writer made => exact ih.writerMove live (writerMove_of_step made)
      | reader made => exact ih.readerMove keeps (readerMove_of_step made)
    | wakesWriter | wakesReader => exact ⟨ih.asked, ih.ended⟩

theorem Reports.eq_failureOf {ending : Ending} {report : Option IoFault}
    (reports : Reports ending report) : report = Pipe.failureOf ending := by
  rcases ending with (fault | cause) | ⟨⟩
  · exact reports.failed fault rfl
  · exact reports.panicked cause rfl
  · exact reports.succeeded.mpr rfl

/-- The producer of a pipe that is read out is heard out: the pieces are what was taken of its
writes, and finishing reported how it ended. -/
theorem ReadOut.heard (out : ReadOut script sizes pieces state) :
    ∃ (parts : List Bytes) (ending : Ending), state.writes = parts.map .ok ∧
      pieces.flatten = parts.flatten ∧ script.Performs parts.flatten ending ∧
      state.finishes = [Pipe.failureOf ending] := by
  obtain ⟨happened, done, asked, reads, proper⟩ := out
  have live : state.Live := (Live.start script (by simp)).happens happened
  obtain ⟨parts, keeps⟩ : ∃ parts, Keeps script 0 state parts := exists_keeps happened
  have one := keeps.length_finishes done
  obtain ⟨ending, report, closed⟩ := keeps.closed live (List.ne_nil_of_length_eq_add_one one)
  obtain ⟨met, finishes⟩ := closed.answers
  rw [finishes, List.length_cons, List.length_replicate, Nat.add_right_cancel_iff] at one
  have drained := ((emptied_of_happened asked happened).ended (by simp [reads])).2
  have whole := closed.whole
  rw [reads, drained, List.append_nil, List.flatten_append] at whole
  refine ⟨parts, ending, keeps.writes, by simpa using whole, closed.performed, ?_⟩
  rw [finishes, one, closed.reports.eq_failureOf]
  rfl

end Threads

end HttpDispatch.Flow
