import AdvanceUnix.FullTransferAgreement

namespace AdvanceUnix.FullTransfer

open CallTree

/-!
# The loops over buffers refine the loops over results

A loop on the level of C does what `writeLoop` or `readLoop` does over the
system calls, where a failed call is an error and the bytes are a list: every
completed run of the one is, call by call, a run of the other.
-/

/-- The error that an `errno` stands for; no failing call sets it to 0. -/
def errorOf (errno : Nat) : Errno :=
  if positive : 0 < errno then ⟨errno, positive⟩ else .eio

/-- The result of a call that writes. -/
def KernelAnswer.written : KernelAnswer → Result Nat
  | .failed errno => .error (errorOf errno)
  | .moved count _ => .ok count

/-- The result of a call that reads. -/
def KernelAnswer.bytes : KernelAnswer → Result (List UInt8)
  | .failed errno => .error (errorOf errno)
  | .moved count data => .ok ((List.range count).map data)

/-- The result of a loop. -/
def Returned.result (returned : Returned) : Result Unit :=
  if returned.value = 0 then .ok () else .error (errorOf returned.errno)

/-- The bytes at the start of a buffer. -/
def contents (buffer : Nat → UInt8) (length : Nat) : List UInt8 :=
  (List.range length).map buffer

/-- A call that writes, with the bytes from its position on. -/
def seenWrite
    (bytes : List UInt8)
    (event : Event fun _ : Request => KernelAnswer) : Event Answer :=
  ⟨.write event.call.fd (bytes.drop event.call.position),
    event.answer.written⟩

/-- A call that reads. -/
def seenRead
    (event : Event fun _ : Request => KernelAnswer) : Event Answer :=
  ⟨.read event.call.fd event.call.count, event.answer.bytes⟩

/-- Only `EINTR` stands for an interruption. -/
theorem errorOf_eq_eintr (errno : Nat) :
    errorOf errno = .eintr ↔ errno = eintr := by
  constructor
  · intro same
    unfold errorOf at same
    split at same
    · exact congrArg Errno.code same
    · cases same
  · rintro rfl
    rfl

/-- The stored bytes follow those that were there. -/
theorem contents_store
    (buffer data : Nat → UInt8)
    (position count : Nat) :
    contents ((KernelAnswer.moved count data).store buffer position)
        (position + count) =
      contents buffer position ++ (List.range count).map data := by
  unfold contents
  rw [List.range_add, List.map_append, List.map_map]
  congr 1
  · refine List.map_congr_left fun index member => ?_
    have before := List.mem_range.mp member
    have outside : ¬ (position ≤ index ∧ index < position + count) := by
      omega
    exact if_neg outside
  · refine List.map_congr_left fun index member => ?_
    have inside := List.mem_range.mp member
    have here :
        position ≤ position + index ∧
          position + index < position + count := by
      omega
    exact (if_pos here).trans (congrArg data (Nat.add_sub_cancel_left _ _))

/-- A system call with an answer, and a run of what follows it. -/
theorem invoke_bind_run
    {β : Type}
    (call : Syscall)
    {continuation : Answer call → Sys β}
    {fuel : Nat}
    {events : Events}
    {outcome : Option β}
    (answer : Answer call)
    (later : (continuation answer fuel).Run events outcome) :
    ((call.invoke >>= continuation) fuel).Run (⟨call, answer⟩ :: events)
      outcome :=
  .call answer later

section Iterations

variable {call : TransferCall} {fd : Fd} {length : Nat}
variable {answered : Progress → Int → LoopStep Progress Returned}
variable {progress : Progress}
variable {events : List (Event fun _ : Request => KernelAnswer)}
variable {decision : LoopStep Progress Returned}

/-- An iteration makes one call, or none once everything is transferred. -/
theorem iteration_run
    (run :
      (iteration call fd length answered progress).Run events
        (some decision)) :
    (progress.completed < length ∧
        ∃ answer,
          events = [progress.calls call fd length answer] ∧
            decision =
              answered (progress.called call answer) answer.count) ∨
      (¬ progress.completed < length ∧ events = [] ∧
        decision = .done (progress.returned 0)) := by
  unfold iteration at run
  by_cases more : progress.completed < length
  · rw [if_pos more] at run
    cases run with
    | call answer later =>
        cases later with
        | ret => exact .inl ⟨more, answer, rfl, rfl⟩
  · rw [if_neg more] at run
    cases run with
    | ret => exact .inr ⟨more, rfl, rfl⟩

/-- A failed call: an interruption or the end. -/
theorem positiveFirst_failed (zeroErrno : Nat) (progress : Progress) :
    positiveFirst zeroErrno progress (-1) =
      if progress.errno = eintr then
        .again progress
      else
        .done (progress.returned (-1)) := by
  simp [positiveFirst]

/-- A call that has moved something. -/
theorem positiveFirst_moved
    (zeroErrno : Nat)
    (progress : Progress)
    (count : Nat) :
    positiveFirst zeroErrno progress ((count + 1 : Nat) : Int) =
      .again (progress.advance ((count + 1 : Nat) : Int)) := by
  refine if_pos ?_
  exact Int.natCast_pos.mpr (Nat.succ_pos count)

/-- An answer to a call that writes is looked at in the same way. -/
theorem writeAnswered_related
    (call : TransferCall)
    (zeroErrno : Nat)
    (progress : Progress)
    (answer : KernelAnswer) :
    LoopStep.Related (fun next written => next.completed = written)
      (fun returned result => result = Returned.result returned)
      (positiveFirst zeroErrno (progress.called call answer) answer.count)
      (writeAnswered (errorOf zeroErrno) progress.completed
        answer.written) := by
  cases answer with
  | failed errno =>
      rw [KernelAnswer.count, positiveFirst_failed]
      by_cases interrupted : errno = eintr
      · subst interrupted
        exact rfl
      · have rawPermanent :
            ¬ (progress.called call (.failed errno)).errno = eintr :=
          interrupted
        have permanent : ¬ errorOf errno = .eintr :=
          fun same => interrupted ((errorOf_eq_eintr errno).mp same)
        rw [if_neg rawPermanent]
        simp only [KernelAnswer.written, writeAnswered, permanent,
          ↓reduceIte]
        rfl
  | moved count data =>
      cases count with
      | zero => rfl
      | succ count =>
          rw [KernelAnswer.count, positiveFirst_moved]
          rfl

/-- The bytes that a loop has received are at the start of its buffer. -/
def Fills (progress : Progress) (received : List UInt8) : Prop :=
  received = contents progress.buffer progress.completed

/-- It leaves them there when it returns. -/
def Leaves
    (returned : Returned)
    (result : Result Unit × List UInt8) : Prop :=
  result.1 = returned.result ∧
    result.2 = contents returned.buffer result.2.length

/-- What a loop has received is as long as it has completed. -/
theorem Fills.leaves
    {received : List UInt8}
    {value : Int}
    {result : Result Unit}
    (fills : Fills progress received)
    (told : result = (progress.returned value).result) :
    Leaves (progress.returned value) (result, received) := by
  refine ⟨told, ?_⟩
  have whole : received.length = progress.completed := by
    rw [fills]
    simp [contents]
  show received = contents progress.buffer received.length
  rw [whole]
  exact fills

/-- An answer to a call that reads is looked at in the same way. -/
theorem readAnswered_related
    (stores : call.Stores)
    (zeroErrno : Nat)
    {received : List UInt8}
    (fills : Fills progress received)
    (answer : KernelAnswer) :
    LoopStep.Related Fills Leaves
      (positiveFirst zeroErrno (progress.called call answer) answer.count)
      (readAnswered (errorOf zeroErrno) received answer.bytes) := by
  cases answer with
  | failed errno =>
      have same :
          Fills (progress.called call (.failed errno)) received := by
        simpa [Fills, Progress.called, KernelAnswer.store] using fills
      rw [KernelAnswer.count, positiveFirst_failed]
      by_cases interrupted : errno = eintr
      · subst interrupted
        exact same
      · have rawPermanent :
            ¬ (progress.called call (.failed errno)).errno = eintr :=
          interrupted
        have permanent : ¬ errorOf errno = .eintr :=
          fun same => interrupted ((errorOf_eq_eintr errno).mp same)
        rw [if_neg rawPermanent]
        simp only [KernelAnswer.bytes, readAnswered, permanent, ↓reduceIte]
        exact same.leaves rfl
  | moved count data =>
      have stored :
          contents (progress.called call (.moved count data)).buffer
              (progress.completed + count) =
            received ++ (List.range count).map data := by
        rw [fills, ← contents_store, Progress.called, if_pos stores]
      cases count with
      | zero =>
          have same :
              Fills
                ((progress.called call (.moved 0 data)).setErrno zeroErrno)
                received :=
            (stored.trans (List.append_nil received)).symm
          exact same.leaves rfl
      | succ count =>
          rw [KernelAnswer.count, positiveFirst_moved, KernelAnswer.bytes,
            readAnswered_bytes _ _ (by simp)]
          exact stored.symm

end Iterations

section Families

variable {fd : Fd} {length errno : Nat} {buffer : Nat → UInt8}
variable {events : List (Event fun _ : Request => KernelAnswer)}
variable {returned : Returned}

/-- A loop that looks for a positive count refines `writeLoop`. -/
theorem transferLoop_refines_write
    {call : TransferCall}
    {zeroErrno : Nat}
    (run :
      (transferLoop call fd length (positiveFirst zeroErrno)
        (.start errno buffer)).Run events (some returned)) :
    (writeLoop (errorOf zeroErrno) fd (contents buffer length)).Run
      (events.map (seenWrite (contents buffer length)))
      (some returned.result) := by
  obtain ⟨fuel, unrolling⟩ := run
  rw [transferLoop_eq] at unrolling
  have whole : (contents buffer length).length = length := by
    simp [contents]
  refine ⟨fuel, ?_⟩
  suffices simulated :
      ∃ result,
        (writeLoop (errorOf zeroErrno) fd (contents buffer length)
            fuel).Run
          (events.map (seenWrite (contents buffer length)))
          (some result) ∧
          result = returned.result by
    obtain ⟨result, image, rfl⟩ := simulated
    exact image
  unfold writeLoop Program.iterate
  refine Tree.Run.iterate_related (seenWrite (contents buffer length))
    (fun progress written => progress.completed = written)
    (fun returned result => result = Returned.result returned)
    ?_ rfl unrolling
  rintro progress written events decision rfl iterated
  rcases iteration_run iterated with
    ⟨more, answer, rfl, rfl⟩ | ⟨complete, rfl, rfl⟩
  · simp only [whole, more, ↓reduceIte]
    refine ⟨_, ?_, writeAnswered_related call zeroErrno progress answer⟩
    exact invoke_bind_run (.write fd _) answer.written (.ret _)
  · simp only [whole, complete, ↓reduceIte]
    exact ⟨_, .ret _, rfl⟩

/-- One that stores into its buffer refines `readLoop`. -/
theorem transferLoop_refines_read
    {call : TransferCall}
    (stores : call.Stores)
    {zeroErrno : Nat}
    (run :
      (transferLoop call fd length (positiveFirst zeroErrno)
        (.start errno buffer)).Run events (some returned)) :
    ∃ received,
      (readLoop (errorOf zeroErrno) fd length).Run (events.map seenRead)
          (some (returned.result, received)) ∧
        received = contents returned.buffer received.length := by
  obtain ⟨fuel, unrolling⟩ := run
  rw [transferLoop_eq] at unrolling
  suffices simulated :
      ∃ result,
        (readLoop (errorOf zeroErrno) fd length fuel).Run
            (events.map seenRead) (some result) ∧
          Leaves returned result by
    obtain ⟨⟨result, received⟩, image, rfl, left⟩ := simulated
    exact ⟨received, ⟨fuel, image⟩, left⟩
  unfold readLoop Program.iterate
  have start : Fills (.start errno buffer) [] := rfl
  refine Tree.Run.iterate_related seenRead Fills Leaves ?_ start unrolling
  intro progress received events decision fills iterated
  have filled : received.length = progress.completed := by
    rw [fills]
    simp [contents]
  rcases iteration_run iterated with
    ⟨more, answer, rfl, rfl⟩ | ⟨complete, rfl, rfl⟩
  · simp only [filled, more, ↓reduceIte]
    refine ⟨_, ?_, readAnswered_related stores zeroErrno fills answer⟩
    exact invoke_bind_run (.read fd _) answer.bytes (.ret _)
  · simp only [filled, complete, ↓reduceIte]
    exact ⟨_, .ret _, fills.leaves rfl⟩

/-- Every loop that writes refines `writeLoop`. -/
theorem Writer.refines
    (writer : Writer)
    (run :
      (writer.loop fd length errno buffer).Run events (some returned)) :
    (writeLoop .eio fd (contents buffer length)).Run
      (events.map (seenWrite (contents buffer length)))
      (some returned.result) := by
  rw [writer.loop_eq] at run
  exact transferLoop_refines_write run

/-- Every loop that reads refines `readLoop`, with an error of its own. -/
theorem Reader.refines
    (reader : Reader)
    (run :
      (reader.loop fd length errno buffer).Run events (some returned)) :
    ∃ received,
      (readLoop (errorOf reader.zeroErrno) fd length).Run
          (events.map seenRead) (some (returned.result, received)) ∧
        received = contents returned.buffer received.length := by
  rw [reader.loop_eq] at run
  refine transferLoop_refines_read ?_ run
  cases reader <;> exact trivial

end Families

end AdvanceUnix.FullTransfer
