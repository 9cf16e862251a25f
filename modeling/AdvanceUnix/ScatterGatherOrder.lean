import AdvanceUnix.ScatterGather

namespace AdvanceUnix.FileIo

open CallTree

/-!
# Bytes move once and in order

The invariant of `transfer_iovecs` is that the addresses moved so far,
followed by those of the remaining vectors, are the addresses of the original
vectors.  The round trip through a file needs no more than that.
-/

/-- Skipping empty vectors skips no byte. -/
theorem spans_skipEmpty (vectors : List IoVec) :
    spans (skipEmpty vectors) = spans vectors := by
  induction vectors with
  | nil =>
      rfl
  | cons vector rest inductionHypothesis =>
      unfold skipEmpty
      split
      · rename_i empty
        simpa [spans, IoVec.span, empty] using inductionHypothesis
      · rfl

/-- What skipping leaves at the head is not empty. -/
theorem spans_ne_nil_of_skipEmpty
    {vectors rest : List IoVec}
    {vector : IoVec}
    (skipped : skipEmpty vectors = vector :: rest) :
    spans (vector :: rest) ≠ [] := by
  induction vectors with
  | nil =>
      cases skipped
  | cons head tail inductionHypothesis =>
      unfold skipEmpty at skipped
      split at skipped
      · exact inductionHypothesis skipped
      · rename_i nonempty
        cases skipped
        intro empty
        simp [spans, IoVec.span, nonempty] at empty

/-- Advancing a vector drops the addresses it advanced over. -/
theorem span_advance
    (vector : IoVec)
    (count : Nat) :
    (vector.advance count).span = vector.span.drop count := by
  simp [IoVec.span, IoVec.advance, List.drop_range']

/--
A count within the remaining vectors is used up exactly, and drops as many
addresses.
-/
theorem consume_spec
    {vectors : List IoVec}
    {count : Nat}
    (within : count ≤ (spans vectors).length) :
    spans (consume vectors count).1 = (spans vectors).drop count ∧
      (consume vectors count).2 = 0 := by
  induction vectors generalizing count with
  | nil =>
      have none : count = 0 := by
        simpa [spans] using within
      subst none
      exact ⟨rfl, rfl⟩
  | cons vector rest inductionHypothesis =>
      have headLength : vector.span.length = vector.len := by
        simp [IoVec.span]
      have splitSpans :
          spans (vector :: rest) = vector.span ++ spans rest :=
        List.flatMap_cons
      unfold consume
      by_cases none : count = 0
      · simp [none]
      by_cases covers : vector.len ≤ count
      · have restWithin : count - vector.len ≤ (spans rest).length := by
          rw [splitSpans, List.length_append, headLength] at within
          omega
        have continued := inductionHypothesis restWithin
        simp only [none, covers, ↓reduceIte]
        refine ⟨?_, continued.2⟩
        have headDropped : vector.span.drop count = [] :=
          List.drop_of_length_le (by omega)
        rw [continued.1, splitSpans, List.drop_append, headDropped,
          headLength, List.nil_append]
      · have nothingMore : count - vector.span.length = 0 := by
          omega
        simp only [none, covers, ↓reduceIte, and_true]
        rw [splitSpans, List.drop_append, nothingMore, List.drop_zero]
        simp [spans, span_advance]

/-- What is left of the addresses and of the count makes up for the count. -/
theorem consume_conserves
    (vectors : List IoVec)
    (count : Nat) :
    (spans (consume vectors count).1).length + count =
      (spans vectors).length + (consume vectors count).2 := by
  induction vectors generalizing count with
  | nil => rfl
  | cons vector rest inductionHypothesis =>
      have splitSpans :
          spans (vector :: rest) = vector.span ++ spans rest :=
        List.flatMap_cons
      unfold consume
      by_cases none : count = 0
      · simp [none]
      by_cases covers : vector.len ≤ count
      · have continued := inductionHypothesis (count - vector.len)
        simp only [none, covers, ↓reduceIte]
        rw [splitSpans, List.length_append, IoVec.span, List.length_range']
        omega
      · simp only [none, covers, ↓reduceIte]
        simp only [spans, List.flatMap_cons, IoVec.span, IoVec.advance,
          List.length_append, List.length_range']
        omega

/-- The offered vectors are the first of the remaining ones. -/
theorem spans_offered_isPrefix (vectors : List IoVec) :
    spans (offered vectors) <+: spans vectors := by
  refine ⟨spans (vectors.drop (remaining vectors).toNat), ?_⟩
  rw [offered, spans, spans, ← List.flatMap_append,
    List.take_append_drop, spans]

/-- The addresses that one answered call moved. -/
def movedBy (event : Event Answer) : List Nat :=
  match event with
  | ⟨.writev _ vectors, .ok count⟩ => (spans vectors).take count
  | ⟨.readv _ vectors, .ok count⟩ => (spans vectors).take count
  | _ => []

/-- The addresses that a run has moved, in order. -/
def moved (events : Events) : List Nat :=
  events.flatMap movedBy

/-- A call that failed for good or moved nothing. -/
def stops (event : Event Answer) : Bool :=
  match event with
  | ⟨.writev _ _, .ok count⟩ => count == 0
  | ⟨.readv _ _, .ok count⟩ => count == 0
  | ⟨.writev _ _, .error error⟩ => error != .eintr
  | ⟨.readv _ _, .error error⟩ => error != .eintr
  | _ => false

/-- What a run has moved so far, and whether a call has stopped it. -/
structure Progress where
  moved : List Nat
  stopped : Bool

/-- Nothing moved yet. -/
def Progress.start : Progress where
  moved := []
  stopped := false

/-- A count never exceeds the bytes that the call was offered. -/
def kernelCounts : (call : Syscall) → Answer call → Prop
  | .writev _ vectors, .ok count => count ≤ (spans vectors).length
  | .readv _ vectors, .ok count => count ≤ (spans vectors).length
  | _, _ => True

/--
A call made at `progress` towards `total`: nothing has stopped the transfer,
some addresses are left, and those offered come next.
-/
def OffersNext
    (total : List Nat)
    (progress : Progress)
    (vectors : List IoVec) : Prop :=
  progress.stopped = false ∧
    progress.moved.length < total.length ∧
    progress.moved ++ spans vectors <+: total

/-- The call that a transfer makes, by direction. -/
def requested
    (fd : Fd)
    (writing : Bool)
    (vectors : List IoVec) : Syscall :=
  if writing then .writev fd vectors else .readv fd vectors

/-- The monitor of a transfer of `total` addresses in one direction. -/
def transferMonitor
    (fd : Fd)
    (writing : Bool)
    (total : List Nat) : Monitor Answer Progress where
  next := fun progress call answer =>
    { moved := progress.moved ++ movedBy ⟨call, answer⟩
      stopped := progress.stopped || stops ⟨call, answer⟩ }
  allows := fun _ => kernelCounts
  safe := fun progress call =>
    ∃ vectors,
      call = requested fd writing vectors ∧
        OffersNext total progress vectors

section Monitored

variable {fd : Fd} {writing : Bool} {total : List Nat}

/-- The monitor's state is what the events moved and whether they stopped. -/
theorem transferMonitor_after
    (progress : Progress)
    (events : Events) :
    (transferMonitor fd writing total).after progress events =
      { moved := progress.moved ++ moved events
        stopped := progress.stopped || events.any stops } := by
  induction events generalizing progress with
  | nil =>
      simp [Monitor.after, moved]
  | cons event rest inductionHypothesis =>
      rw [Monitor.after, inductionHypothesis]
      simp [transferMonitor, moved, Bool.or_assoc]

/-- What a requested call moves is within what it was offered. -/
theorem movedBy_isPrefix
    {vectors : List IoVec}
    {call : Syscall}
    {answer : Answer call}
    (request : call = requested fd writing vectors) :
    movedBy ⟨call, answer⟩ <+: spans vectors := by
  subst request
  cases writing with
  | false =>
      cases answer with
      | error error => exact List.nil_prefix
      | ok count => exact List.take_prefix count _
  | true =>
      cases answer with
      | error error => exact List.nil_prefix
      | ok count => exact List.take_prefix count _

/-- Safe calls move a prefix of the whole, also when the run goes on. -/
theorem moved_isPrefix
    {events : Events}
    {progress : Progress}
    (soFar : progress.moved <+: total)
    (safe : (transferMonitor fd writing total).Safe progress events) :
    progress.moved ++ moved events <+: total := by
  induction events generalizing progress with
  | nil =>
      simpa [moved] using soFar
  | cons event rest inductionHypothesis =>
      obtain ⟨⟨vectors, request, offers⟩, laterSafe⟩ := safe
      have extended : progress.moved ++ movedBy event <+: total :=
        ((List.prefix_append_right_inj _).mpr
          (movedBy_isPrefix request)).trans offers.2.2
      have continued := inductionHypothesis extended laterSafe
      simpa [transferMonitor, moved] using continued

/-- What the transfer's exits say about what was moved. -/
def Concluded
    (total : List Nat) : TransferExit → Progress → Prop
  | .complete, progress =>
      progress.moved = total ∧ progress.stopped = false
  | .failed _, progress =>
      progress.moved.length < total.length ∧ progress.stopped = true
  | .noProgress, progress =>
      progress.moved.length < total.length ∧ progress.stopped = true
  | .ranOut, _ => False

/-- The rule for one call of either direction. -/
theorem transferCall_ensures
    {vectors : List IoVec}
    {post : Result Nat → Progress → Prop}
    {progress : Progress}
    (offers : OffersNext total progress vectors)
    (failed :
      ∀ error,
        post (.error error)
          { moved := progress.moved, stopped := error != .eintr })
    (counted :
      ∀ count,
        count ≤ (spans vectors).length →
        post (.ok count)
          { moved := progress.moved ++ (spans vectors).take count
            stopped := count == 0 }) :
    (transferCall fd writing vectors).Ensures
      (transferMonitor fd writing total) post progress := by
  have running := offers.1
  cases writing with
  | false =>
      refine .request ⟨vectors, rfl, offers⟩ ?_
      intro answer allowed
      cases answer with
      | error error =>
          simpa [transferMonitor, movedBy, stops, running] using
            failed error
      | ok count =>
          simpa [transferMonitor, movedBy, stops, running] using
            counted count allowed
  | true =>
      refine .request ⟨vectors, rfl, offers⟩ ?_
      intro answer allowed
      cases answer with
      | error error =>
          simpa [transferMonitor, movedBy, stops, running] using
            failed error
      | ok count =>
          simpa [transferMonitor, movedBy, stops, running] using
            counted count allowed

/--
The loop invariant: what was moved and what remains make up the whole, and no
call has stopped the transfer.
-/
structure Pending
    (total : List Nat)
    (current : List IoVec)
    (progress : Progress) : Prop where
  whole : progress.moved ++ spans current = total
  running : progress.stopped = false

/-- An iteration with vectors left, after the empty ones were skipped. -/
theorem attempt_ensures
    {pending : List IoVec}
    {progress : Progress}
    (nonempty : spans pending ≠ [])
    (holds : Pending total pending progress) :
    (retryEintr (transferCall fd writing (offered pending))).Ensures
      (transferMonitor fd writing total)
      (fun result =>
        (transferred pending result).Meets (Pending total)
          (Concluded total))
      progress := by
  have lengths :
      progress.moved.length + (spans pending).length = total.length := by
    rw [← holds.whole, List.length_append]
  have bytesLeft : progress.moved.length < total.length := by
    have := List.length_pos_iff.mpr nonempty
    omega
  have offers : OffersNext total progress (offered pending) := by
    refine ⟨holds.running, bytesLeft, ?_⟩
    rw [← holds.whole]
    exact (List.prefix_append_right_inj _).mpr
      (spans_offered_isPrefix pending)
  -- An interrupted call leaves the progress where it was.
  refine retryEintr_ensures (fun state => state = progress) ?_ rfl
  rintro state rfl
  refine transferCall_ensures offers ?_ ?_
  · intro error
    refine ⟨?_, ?_⟩
    · rintro rfl
      simp [← holds.running]
    · intro permanent
      exact ⟨bytesLeft, by simp [permanent]⟩
  · intro count within
    cases count with
    | zero =>
        exact ⟨by simpa using bytesLeft, rfl⟩
    | succ earlier =>
        obtain ⟨tail, offeredFirst⟩ := spans_offered_isPrefix pending
        have withinPending : earlier + 1 ≤ (spans pending).length := by
          rw [← offeredFirst, List.length_append]
          omega
        have sameBytes :
            (spans (offered pending)).take (earlier + 1) =
              (spans pending).take (earlier + 1) := by
          rw [← offeredFirst, List.take_append_of_le_length within]
        obtain ⟨dropped, usedUp⟩ := consume_spec withinPending
        have split :
            consume pending (earlier + 1) =
              ((consume pending (earlier + 1)).1, 0) :=
          Prod.ext rfl usedUp
        simp only [transferred]
        rw [split]
        refine ⟨?_, rfl⟩
        rw [sameBytes, dropped, List.append_assoc,
          List.take_append_drop]
        exact holds.whole

end Monitored

/-- Every run of the transfer offers the next bytes and concludes. -/
theorem transferExit_ensures
    (fd : Fd)
    (vectors : List IoVec)
    (writing : Bool) :
    (transferExit fd vectors writing).Ensures
      (transferMonitor fd writing (spans vectors))
      (Concluded (spans vectors)) .start := by
  refine .iterate (Pending (spans vectors)) ?_ ⟨rfl, rfl⟩
  intro current progress holds
  cases skipped : skipEmpty current with
  | nil =>
      have nothingLeft : spans current = [] := by
        rw [← spans_skipEmpty, skipped]
        rfl
      refine .pure ⟨?_, holds.running⟩
      rw [← holds.whole, nothingLeft, List.append_nil]
  | cons vector rest =>
      have sameSpans : spans (vector :: rest) = spans current := by
        rw [← skipped, spans_skipEmpty]
      refine .bind ((attempt_ensures
        (spans_ne_nil_of_skipEmpty skipped)
        ⟨by rw [sameSpans]; exact holds.whole, holds.running⟩).mono ?_)
      intro result after decided
      exact .pure decided

section Return

variable {script : Script Answer}

/-- An iteration that asks for another has moved something. -/
theorem transferred_again
    {pending next : List IoVec}
    {result : Result Nat}
    (again : transferred pending result = .again next) :
    (spans next).length < (spans pending).length := by
  cases result with
  | error error => cases again
  | ok count =>
      cases count with
      | zero => cases again
      | succ count =>
          have conserved := consume_conserves pending (count + 1)
          simp only [transferred] at again
          split at again
          · next rest split =>
              cases again
              rw [split] at conserved
              dsimp only at conserved
              omega
          · cases again

/-- Retrying the one call ends, in either direction. -/
theorem transferCall_returns
    (fd : Fd)
    (writing : Bool)
    (vectors : List IoVec)
    (ceasing : script.Ceasing Interrupted)
    (index : Nat) :
    (retryEintr (transferCall fd writing vectors)).Returns script
      (fun _ _ => True) index := by
  cases writing with
  | false =>
      exact retryEintr_returns (.readv fd vectors)
        (fun current => script current (.readv fd vectors))
        (Syscall.invoke_returns (.readv fd vectors))
        (fun _ given => ⟨Nat, heq_of_eq given⟩) ceasing
        fun _ _ _ _ => trivial
  | true =>
      exact retryEintr_returns (.writev fd vectors)
        (fun current => script current (.writev fd vectors))
        (Syscall.invoke_returns (.writev fd vectors))
        (fun _ given => ⟨Nat, heq_of_eq given⟩) ceasing
        fun _ _ _ _ => trivial

/-- The loop ends: the addresses left are fewer with every iteration. -/
theorem transferExit_returns
    (fd : Fd)
    (vectors : List IoVec)
    (writing : Bool)
    (ceasing : script.Ceasing Interrupted)
    (index : Nat) :
    (transferExit fd vectors writing).Returns script
      (fun _ _ => True) index := by
  refine .iterate (fun _ _ => True) (fun current _ => (spans current).length)
    ?_ trivial
  intro current index _
  cases skipped : skipEmpty current with
  | nil => exact .pure trivial
  | cons vector rest =>
      have sameSpans : spans (vector :: rest) = spans current := by
        rw [← skipped, spans_skipEmpty]
      refine .bind ((transferCall_returns fd writing _ ceasing index).mono ?_)
      intro result after _
      refine .pure ?_
      cases decided : transferred (vector :: rest) result with
      | done exit => trivial
      | again next =>
          have fewer := transferred_again decided
          rw [sameSpans] at fewer
          exact ⟨trivial, fewer⟩

/-- The function returns, unless its call is interrupted for ever. -/
theorem transferIovecs_returns
    (fd : Fd)
    (vectors : List IoVec)
    (writing : Bool)
    (ceasing : script.Ceasing Interrupted) :
    (transferIovecs fd vectors writing).Halts script :=
  .bind ((transferExit_returns fd vectors writing ceasing 0).mono
    fun _ _ _ => .pure trivial)

end Return

end AdvanceUnix.FileIo
