import AdvanceUnix.FilledStreams
import AdvanceUnix.TransferLoop

namespace AdvanceUnix

open CallTree PositionedIo

/-!
# Rules for the loops that transfer a whole buffer

What `write_all` and `read_all` establish if each of their calls moves bytes
that come next.
-/

section Rules

variable {State : Type} {monitor : Monitor Answer State} {state : State}
  {zeroError : Errno} {fd : Fd}

/-- What an iteration of `write_all` does is what a writing loop does. -/
theorem writeAnswered_eq (zeroError : Errno) :
    writeAnswered zeroError =
      Program.writeStep (· = Errno.eintr) zeroError := by
  funext written answer
  cases answer with
  | error error => rfl
  | ok count =>
      cases count with
      | zero => rfl
      | succ count => rfl

/-- `write_all` is a writing loop. -/
theorem writeLoop_eq (bytes : List UInt8) :
    writeLoop zeroError fd bytes =
      Program.writing (· = Errno.eintr) zeroError
        (fun _ rest => write fd rest) bytes := by
  unfold writeLoop
  rw [writeAnswered_eq]
  rfl

/-- `write_all` fills a stream with everything, or it has failed. -/
theorem writeLoop_fills
    (fill : List UInt8 → State)
    (lost : State → Prop)
    {bytes : List UInt8}
    (attempted :
      ∀ content rest,
        content ++ rest = bytes →
        (write fd rest).Ensures monitor
          (FillAnswered (· = Errno.eintr) fill lost content rest)
          (fill content)) :
    (writeLoop zeroError fd bytes).Ensures monitor
      (WriteOutcome bytes.length
        (fun written after => after = fill (bytes.take written))
        (fun _ => lost))
      (fill []) := by
  rw [writeLoop_eq]
  exact .filling fill lost attempted

/-- The rule for `read_all` where enough bytes are available. -/
theorem readLoop_ensures
    {available : List UInt8}
    {size : Nat}
    {invariant : Nat → State → Prop}
    {failed : Errno → State → Prop}
    (enough : size ≤ available.length)
    (attempted :
      ∀ received state,
        received < size →
        invariant received state →
        (read fd (size - received)).Ensures monitor
          (ReadAnswered (· = Errno.eintr) (available.drop received)
            (size - received) (fun count => invariant (received + count))
            failed)
          state)
    (initially : invariant 0 state) :
    (readLoop zeroError fd size).Ensures monitor
      (fun result after =>
        result.1.Meets (fun error => failed error after)
          (fun _ =>
            result.2 = available.take size ∧ invariant size after))
      state := by
  refine .iterate
    (fun received current =>
      (received <+: available ∧ received.length ≤ size) ∧
        invariant received.length current) ?_
    ⟨⟨List.nil_prefix, Nat.zero_le _⟩, initially⟩
  rintro received current ⟨⟨isPrefix, bounded⟩, holds⟩
  have split : received = available.take received.length :=
    List.prefix_iff_eq_take.mp isPrefix
  by_cases missing : received.length < size
  · simp only [missing, ↓reduceIte]
    refine .bind ((attempted received.length current missing holds).mono ?_)
    intro answer after answered
    refine .pure ?_
    cases answer with
    | error error =>
        by_cases interrupted : error = .eintr
        · simp only [readAnswered, interrupted, ↓reduceIte]
          exact ⟨⟨isPrefix, bounded⟩, answered.1 interrupted⟩
        · simp only [readAnswered, interrupted, ↓reduceIte]
          exact answered.2 interrupted
    | ok bytes =>
        obtain ⟨reads, holdsAfter⟩ := answered
        rw [← List.length_append] at holdsAfter
        have nonempty : bytes ≠ [] := by
          intro nothing
          rcases reads.none nothing with unwanted | exhausted
          · exact Nat.sub_ne_zero_of_lt missing unwanted
          · have short := List.drop_eq_nil_iff.mp exhausted
            omega
        rw [readAnswered_bytes _ _ nonempty]
        refine ⟨⟨?_, ?_⟩, holdsAfter⟩
        · obtain ⟨later, continued⟩ := reads.next
          refine ⟨later, ?_⟩
          have whole := List.take_append_drop received.length available
          rw [← split] at whole
          rw [List.append_assoc, continued, whole]
        · have bounded := reads.bounded
          rw [List.length_append]
          omega
  · simp only [missing, ↓reduceIte]
    have whole : received.length = size := by omega
    subst whole
    exact .pure ⟨split, holds⟩

/-- `read_all` drains a stream of everything, or it has failed. -/
theorem readLoop_drains
    (fill : List UInt8 → State)
    (lost : State → Prop)
    {bytes : List UInt8}
    (attempted :
      ∀ received,
        received < bytes.length →
        (read fd (bytes.length - received)).Ensures monitor
          (DrainAnswered (· = Errno.eintr) fill lost (bytes.drop received)
            (bytes.length - received))
          (fill (bytes.drop received))) :
    (readLoop zeroError fd bytes.length).Ensures monitor
      (fun result after =>
        result.1.Meets (fun _ => lost after)
          (fun _ => result.2 = bytes ∧ after = fill []))
      (fill bytes) := by
  have reading :=
    @readLoop_ensures State monitor (fill bytes) zeroError fd bytes
      bytes.length (fun count after => after = fill (bytes.drop count))
      (fun _ => lost) (Nat.le_refl _) (by
        rintro received _ unfinished rfl
        exact (attempted received unfinished).mono fun _ _ drained =>
          drained.reads id) rfl
  rw [List.take_length, List.drop_length] at reading
  exact reading

end Rules

end AdvanceUnix
