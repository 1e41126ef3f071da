import HttpDispatch.Flow.Supply

/-!
What a supply supplies. Reading it gives the same bytes and comes to the same end whatever the
sizes of the reads; only reading on after the end could give more.
-/

namespace HttpDispatch.Flow.Supply

/-- The bytes before the first end of the stream, failure or panic. -/
def payload : Supply → Bytes
  | [] | .failure _ :: _ | .panic _ :: _ | .chunk [] :: _ => []
  | .chunk (byte :: bytes) :: rest => byte :: bytes ++ payload rest

/-- The failure or panic met after these bytes, unless they are followed by an end of the stream. -/
def stop? : Supply → Option (Stop IoFault)
  | [] | .chunk [] :: _ => none
  | .failure fault :: _ => some (.failed fault)
  | .panic cause :: _ => some (.panicked cause)
  | .chunk (_ :: _) :: rest => stop? rest

theorem payload_chunk {bytes : Bytes} (nonempty : bytes ≠ []) (rest : Supply) :
    payload (.chunk bytes :: rest) = bytes ++ payload rest := by
  cases bytes with
  | nil => exact absurd rfl nonempty
  | cons byte bytes => rw [payload]

theorem stop?_chunk {bytes : Bytes} (nonempty : bytes ≠ []) (rest : Supply) :
    stop? (.chunk bytes :: rest) = stop? rest := by
  cases bytes with
  | nil => exact absurd rfl nonempty
  | cons byte bytes => rw [stop?]

variable {most : Nat} {supply rest : Supply}

theorem of_read_nil (asked : 0 < most) (got : supply.read most = (.ok [], rest)) :
    supply.payload = [] ∧ supply.stop? = none := by
  rcases supply with _ | ⟨bytes | _ | _, later⟩
  · exact ⟨rfl, rfl⟩
  · simp only [read, Prod.mk.injEq, Except.ok.injEq, List.take_eq_nil_iff] at got
    obtain rfl : bytes = [] := got.1.resolve_left (by omega)
    exact ⟨rfl, rfl⟩
  · simp [read] at got
  · simp [read] at got

theorem of_read_error {stop : Stop IoFault} (stopped : supply.read most = (.error stop, rest)) :
    supply.payload = [] ∧ supply.stop? = some stop := by
  rcases supply with _ | ⟨_ | fault | cause, later⟩
  · simp [read] at stopped
  · simp [read] at stopped
  · simp only [read, Prod.mk.injEq, Except.error.injEq] at stopped
    obtain ⟨rfl, -⟩ := stopped
    exact ⟨rfl, rfl⟩
  · simp only [read, Prod.mk.injEq, Except.error.injEq] at stopped
    obtain ⟨rfl, -⟩ := stopped
    exact ⟨rfl, rfl⟩

theorem of_read_cons {byte : UInt8} {bytes : Bytes}
    (got : supply.read most = (.ok (byte :: bytes), rest)) :
    supply.payload = byte :: bytes ++ rest.payload ∧ supply.stop? = rest.stop? := by
  rcases supply with _ | ⟨chunk | _ | _, later⟩
  · simp [read] at got
  · simp only [read, Prod.mk.injEq, Except.ok.injEq] at got
    obtain ⟨taken, rfl⟩ := got
    have nonempty : chunk ≠ [] := by
      rintro rfl
      simp at taken
    rw [payload_chunk nonempty, stop?_chunk nonempty, ← taken]
    split
    · rename_i whole
      rw [List.isEmpty_iff] at whole
      have split := List.take_append_drop most chunk
      rw [whole, List.append_nil] at split
      exact ⟨by rw [split], rfl⟩
    · rename_i part
      rw [List.isEmpty_iff] at part
      rw [payload_chunk part, stop?_chunk part, ← List.append_assoc, List.take_append_drop]
      exact ⟨rfl, rfl⟩
  · simp [read] at got
  · simp [read] at got

variable {persistent : Bool}

theorem readAll_of_nil (got : supply.read most = (.ok [], rest)) :
    supply.readAll most persistent = ⟨[], none, rest⟩ := by
  rw [readAll]
  split <;> simp_all

theorem readAll_of_cons {byte : UInt8} {bytes : Bytes}
    (got : supply.read most = (.ok (byte :: bytes), rest)) :
    supply.readAll most persistent =
      { rest.readAll most persistent with
        blocks := (byte :: bytes) :: (rest.readAll most persistent).blocks } := by
  rw [readAll]
  split
  · simp_all
  · rename_i same
    obtain ⟨taken, rfl⟩ := Prod.mk.inj (same.symm.trans got)
    cases taken
    rfl
  · simp_all

theorem readAll_of_error {stop : Stop IoFault} (stopped : supply.read most = (.error stop, rest))
    (final : persistent = true → stop.isInterruption = false) :
    supply.readAll most persistent = ⟨[], some stop, rest⟩ := by
  rw [readAll]
  split
  · simp_all
  · simp_all
  · rename_i same
    obtain ⟨met, rfl⟩ := Prod.mk.inj (same.symm.trans stopped)
    cases met
    exact if_neg (by simpa using final)

theorem readAll_of_interrupted {stop : Stop IoFault}
    (stopped : supply.read most = (.error stop, rest)) (again : stop.isInterruption = true) :
    supply.readAll most true = rest.readAll most true := by
  rw [readAll]
  split <;> simp_all

/-- No failure that reading meets asks for the read to be made again. -/
def Steady (supply : Supply) : Prop :=
  ∀ stop, supply.stop? = some stop → stop.isInterruption = false

/-- Reading to the end gives everything, in blocks that are not empty. -/
theorem readAll_eq (supply : Supply) (asked : 0 < most)
    (steady : persistent = true → supply.Steady) :
    (supply.readAll most persistent).blocks.flatten = supply.payload ∧
      (supply.readAll most persistent).stop = supply.stop? ∧
      ∀ block ∈ (supply.readAll most persistent).blocks, block ≠ [] := by
  induction supply using readAll.induct most persistent with
  | case1 supply rest got =>
    obtain ⟨none, ended⟩ := of_read_nil asked got
    simp [readAll_of_nil got, none, ended]
  | case2 supply byte bytes rest got less ih =>
    obtain ⟨whole, ended⟩ := of_read_cons got
    obtain ⟨blocks, stopped, nonempty⟩ := ih fun again => by
      simpa [Steady, ended] using steady again
    rw [readAll_of_cons got]
    refine ⟨by simp [whole, blocks], by simp [ended, stopped], ?_⟩
    simpa using nonempty
  | case3 supply stop rest stopped less again ih =>
    obtain ⟨-, ended⟩ := of_read_error stopped
    -- An interruption, which a steady supply does not raise.
    rw [Bool.and_eq_true] at again
    exact absurd again.2 (Bool.not_eq_true _ ▸ steady again.1 stop ended)
  | case4 supply stop rest stopped less final =>
    obtain ⟨none, ended⟩ := of_read_error stopped
    rw [readAll_of_error stopped (by simpa using final)]
    simp [none, ended]

/-! ### Scripts -/

/-- The supply whose reads come to what a script says: bytes, or a failure. -/
def scripted : List (Except IoFault Bytes) → Supply
  | [] => []
  | .ok bytes :: rest => .chunk bytes :: scripted rest
  | .error fault :: rest => .failure fault :: scripted rest

/-- The failure met after the payload. A panic is none. -/
def failure? (supply : Supply) : Option IoFault := supply.stop?.bind Stop.fault?

/-- What a script says does not panic. -/
theorem stop?_scripted (script : List (Except IoFault Bytes)) :
    (scripted script).stop? = (scripted script).failure?.map .failed := by
  unfold failure?
  induction script with
  | nil => rfl
  | cons answer rest ih =>
    rcases answer with fault | _ | ⟨byte, bytes⟩
    · rfl
    · rfl
    · exact ih

/-! ### Interruptions -/

/-- The supply without its interruptions. -/
def uninterrupted : Supply → Supply
  | [] => []
  | .chunk bytes :: rest => .chunk bytes :: uninterrupted rest
  | .panic cause :: rest => .panic cause :: uninterrupted rest
  | .failure fault :: rest =>
    if fault.kind = .interrupted then uninterrupted rest else .failure fault :: uninterrupted rest

theorem uninterrupted_of_read {bytes : Bytes} (got : supply.read most = (.ok bytes, rest)) :
    supply.uninterrupted.read most = (.ok bytes, rest.uninterrupted) := by
  rcases supply with _ | ⟨chunk | fault | cause, later⟩
  · cases got
    rfl
  · simp only [read, Prod.mk.injEq, Except.ok.injEq] at got
    obtain ⟨rfl, rfl⟩ := got
    rw [uninterrupted, read]
    split <;> rfl
  · simp [read] at got
  · simp [read] at got

/-- An interruption is left out; everything else that stops a read stays. -/
theorem uninterrupted_of_read_error {stop : Stop IoFault}
    (stopped : supply.read most = (.error stop, rest)) :
    (stop.isInterruption = true → supply.uninterrupted = rest.uninterrupted) ∧
      (stop.isInterruption = false →
        supply.uninterrupted.read most = (.error stop, rest.uninterrupted)) := by
  rcases supply with _ | ⟨chunk | fault | cause, later⟩
  · simp [read] at stopped
  · simp [read] at stopped
  · simp only [read, Prod.mk.injEq, Except.error.injEq] at stopped
    obtain ⟨rfl, rfl⟩ := stopped
    by_cases again : fault.kind = .interrupted <;>
      simp [Stop.isInterruption, uninterrupted, read, again]
  · simp only [read, Prod.mk.injEq, Except.error.injEq] at stopped
    obtain ⟨rfl, rfl⟩ := stopped
    simp [Stop.isInterruption, uninterrupted, read]

/-- Without its interruptions a supply has at least as many bytes. -/
theorem payload_uninterrupted (supply : Supply) :
    supply.payload <+: supply.uninterrupted.payload := by
  induction supply with
  | nil => exact List.nil_prefix
  | cons event rest ih =>
    rcases event with (_ | ⟨byte, bytes⟩) | fault | cause
    · exact List.nil_prefix
    · exact (List.prefix_append_right_inj (byte :: bytes)).mpr ih
    · exact List.nil_prefix
    · exact List.nil_prefix

/-- A supply that meets no interruption is none the different without them. -/
theorem Steady.uninterrupted (steady : supply.Steady) :
    supply.uninterrupted.payload = supply.payload ∧ supply.uninterrupted.stop? = supply.stop? := by
  induction supply with
  | nil => exact ⟨rfl, rfl⟩
  | cons event rest ih =>
    rcases event with (_ | ⟨byte, bytes⟩) | fault | cause
    · exact ⟨rfl, rfl⟩
    · obtain ⟨whole, stopped⟩ := ih steady
      exact ⟨congrArg (byte :: bytes ++ ·) whole, stopped⟩
    · have lasts : fault.kind ≠ .interrupted := by simpa [Stop.isInterruption] using steady _ rfl
      rw [Supply.uninterrupted, if_neg lasts]
      exact ⟨rfl, rfl⟩
    · exact ⟨rfl, rfl⟩

/-- To read again after each interruption is to read as if there were none. -/
theorem readAll_persistent (supply : Supply) (most : Nat) :
    (supply.readAll most true).blocks = (supply.uninterrupted.readAll most false).blocks ∧
      (supply.readAll most true).stop = (supply.uninterrupted.readAll most false).stop := by
  induction supply using readAll.induct most true with
  | case1 supply rest got =>
    rw [readAll_of_nil got, readAll_of_nil (uninterrupted_of_read got)]
    exact ⟨rfl, rfl⟩
  | case2 supply byte bytes rest got less ih =>
    rw [readAll_of_cons got, readAll_of_cons (uninterrupted_of_read got)]
    exact ⟨congrArg (List.cons _) ih.1, ih.2⟩
  | case3 supply stop rest stopped less again ih =>
    have interrupts : stop.isInterruption = true := by simpa using again
    rw [readAll_of_interrupted stopped interrupts,
      (uninterrupted_of_read_error stopped).1 interrupts]
    exact ih
  | case4 supply stop rest stopped less final =>
    have lasts : stop.isInterruption = false := by simpa using final
    have again := (uninterrupted_of_read_error stopped).2 lasts
    have unasked : false = true → stop.isInterruption = false := nofun
    rw [readAll_of_error stopped fun _ => lasts, readAll_of_error again unasked]
    exact ⟨rfl, rfl⟩

/-- Reading again after each interruption comes to the end, or to the first other failure or a
panic. -/
theorem readAll_uninterrupted (supply : Supply) (asked : 0 < most) :
    (supply.readAll most true).blocks.flatten = supply.uninterrupted.payload ∧
      (supply.readAll most true).stop = supply.uninterrupted.stop? := by
  obtain ⟨blocks, stopped⟩ := readAll_persistent supply most
  have steady : false = true → supply.uninterrupted.Steady := nofun
  obtain ⟨whole, ended, -⟩ := supply.uninterrupted.readAll_eq asked steady
  exact ⟨by rw [blocks, whole], by rw [stopped, ended]⟩

end HttpDispatch.Flow.Supply
