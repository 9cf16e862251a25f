import AdvanceUnix.PositionedIo

namespace CallTree

/-!
# Streams that are filled and drained

A state holds a stream that one loop fills and another one drains, some
elements at a time.  What the loops do together is said once for every way in
which the state holds the stream.
-/

open PositionedIo

variable {Call : Type} {Answer : Call → Type} {State ε α : Type}

/-- What an attempt to fill the stream leaves: it moves some of the rest. -/
def FillAnswered
    (passing : ε → Prop)
    (fill : List α → State)
    (failed : State → Prop)
    (content rest : List α) : Except ε Nat → State → Prop
  | .error error => fun after =>
      (passing error → after = fill content) ∧
        (¬ passing error → failed after)
  | .ok 0 => failed
  | .ok (count + 1) => fun after =>
      count + 1 ≤ rest.length ∧
        after = fill (content ++ rest.take (count + 1))

/-- What an attempt to drain the stream leaves: it takes some that are next. -/
def DrainAnswered
    (passing : ε → Prop)
    (fill : List α → State)
    (failed : State → Prop)
    (content : List α)
    (wanted : Nat) : Except ε (List α) → State → Prop
  | .error error => fun after =>
      (passing error → after = fill content) ∧
        (¬ passing error → failed after)
  | .ok answer => fun after =>
      Reads content wanted answer ∧
        after = fill (content.drop answer.length)

section Rules

variable {monitor : Monitor Answer State} {passing : ε → Prop}
  {elements : List α}

/-- One attempt of a reading loop that drains the stream. -/
theorem DrainAnswered.reads
    {fill : List α → State}
    {failed : State → Prop}
    {error : ε → State → Prop}
    {received : Nat}
    {answer : Except ε (List α)}
    {after : State}
    (fails : ∀ {code state}, failed state → error code state)
    (drained :
      DrainAnswered passing fill failed (elements.drop received)
        (elements.length - received) answer after) :
    ReadAnswered passing (elements.drop received)
      (elements.length - received)
      (fun count state => state = fill (elements.drop (received + count)))
      error answer after := by
  cases answer with
  | error code => exact ⟨drained.1, fun hard => fails (drained.2 hard)⟩
  | ok bytes =>
      obtain ⟨reads, state⟩ := drained
      rw [List.drop_drop] at state
      exact ⟨reads, state⟩

variable [DecidablePred passing]

/-- A writing loop fills the stream with everything, or it has failed. -/
theorem Program.Ensures.filling
    (fill : List α → State)
    (failed : State → Prop)
    {atZero : ε}
    {attempt : Nat → List α → Program Answer (Except ε Nat)}
    (attempted :
      ∀ content rest,
        content ++ rest = elements →
        (attempt content.length rest).Ensures monitor
          (FillAnswered passing fill failed content rest) (fill content)) :
    (Program.writing passing atZero attempt elements).Ensures monitor
      (WriteOutcome elements.length
        (fun written after => after = fill (elements.take written))
        (fun _ => failed))
      (fill []) := by
  refine .writing ?_ rfl
  rintro written _ unfinished rfl
  have length : (elements.take written).length = written :=
    List.length_take_of_le (Nat.le_of_lt unfinished)
  have attempting :=
    attempted (elements.take written) (elements.drop written)
      (List.take_append_drop written elements)
  rw [length] at attempting
  refine attempting.mono ?_
  intro answer after filled
  cases answer with
  | error error => exact filled
  | ok count =>
      cases count with
      | zero => exact filled
      | succ count =>
          obtain ⟨within, state⟩ := filled
          rw [← List.take_add] at state
          exact ⟨le_of_le_of_eq within List.length_drop, state⟩

/-- A reading loop drains the stream of everything, or it has failed. -/
theorem Program.Ensures.draining
    (fill : List α → State)
    (failed : State → Prop)
    {atEnd : List α → Except ε (List α)}
    {attempt : Nat → Nat → Program Answer (Except ε (List α))}
    (attempted :
      ∀ received,
        received < elements.length →
        (attempt received (elements.length - received)).Ensures monitor
          (DrainAnswered passing fill failed (elements.drop received)
            (elements.length - received))
          (fill (elements.drop received))) :
    (Program.reading passing atEnd attempt elements.length).Ensures monitor
      (fun result after =>
        match result with
        | .error _ => failed after
        | .ok received => received = elements ∧ after = fill [])
      (fill elements) := by
  have reading :
      (Program.reading passing atEnd attempt elements.length).Ensures monitor
        (ReadOutcome elements elements.length atEnd
          (fun count after => after = fill (elements.drop count))
          (fun _ => failed))
        (fill elements) := by
    refine .reading ?_ rfl
    rintro received _ unfinished _ rfl
    exact (attempted received unfinished).mono fun _ _ drained =>
      drained.reads id
  refine reading.mono ?_
  intro result after outcome
  cases outcome with
  | complete enough holds =>
      rw [List.drop_length] at holds
      exact ⟨List.take_length, holds⟩
  | ended short _ => exact (Nat.lt_irrefl _ short).elim
  | failed error failure => exact failure

end Rules

end CallTree
