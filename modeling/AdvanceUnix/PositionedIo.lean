import AdvanceUnix.CallIdioms

namespace CallTree

/-!
# Positioned reads and writes

A file is a list of elements that is read and overwritten from a position on.
A call moves as many elements as it likes, and a loop repeats it until all of
them are moved; what one call moves after another adds up.
-/

namespace PositionedIo

variable {α : Type}

/-- What is stored from a position on, at most so many elements. -/
def slice (content : List α) (position count : Nat) : List α :=
  (content.drop position).take count

/-- Store elements from a position on that is not behind the end. -/
def overwrite
    (content : List α)
    (position : Nat)
    (elements : List α) : List α :=
  content.take position ++ elements ++
    content.drop (position + elements.length)

/-- A content that reaches up to a position, with blanks where it did not. -/
def padded (blank : α) (content : List α) (position : Nat) : List α :=
  content ++ List.replicate (position - content.length) blank

/-- What a write leaves: one that moves nothing changes nothing. -/
def stored
    [DecidableEq α]
    (blank : α)
    (content : List α)
    (position : Nat)
    (elements : List α) : List α :=
  if elements = [] then
    content
  else
    overwrite (padded blank content position) position elements

/-- Nothing is stored by an empty write. -/
theorem overwrite_nil (content : List α) (position : Nat) :
    overwrite content position [] = content := by
  simp [overwrite]

/-- An overwritten file is as long as before, or ends with what is new. -/
theorem length_overwrite
    {content : List α}
    {position : Nat}
    (inside : position ≤ content.length)
    (elements : List α) :
    (overwrite content position elements).length =
      max content.length (position + elements.length) := by
  simp [overwrite]
  omega

/-- What is written is there. -/
theorem slice_overwrite
    {content : List α}
    {position : Nat}
    (inside : position ≤ content.length)
    (elements : List α) :
    slice (overwrite content position elements) position elements.length =
      elements := by
  have before : (content.take position).length = position := by
    simp [inside]
  rw [slice, overwrite, List.append_assoc, List.drop_append_of_le_length
    (Nat.le_of_eq before.symm)]
  rw [List.drop_eq_nil_of_le (Nat.le_of_eq before), List.nil_append,
    List.take_left]

/-- A write that continues another. -/
theorem overwrite_overwrite
    {content : List α}
    {position : Nat}
    (inside : position ≤ content.length)
    (first second : List α) :
    overwrite (overwrite content position first)
        (position + first.length) second =
      overwrite content position (first ++ second) := by
  have front :
      (content.take position ++ first).length =
        position + first.length := by
    simp [inside]
  rw [overwrite, overwrite, List.take_left' front, overwrite,
    ← List.append_assoc (List.take _ _), List.length_append,
    ← Nat.add_assoc]
  congr 1
  rw [List.drop_append, List.drop_eq_nil_of_le (by omega),
    List.nil_append, List.drop_drop, front]
  congr 1
  omega

/-- A write at the end appends. -/
theorem overwrite_end (content elements : List α) :
    overwrite content content.length elements = content ++ elements := by
  simp [overwrite]

/-- Within the content a write overwrites. -/
theorem stored_inside
    [DecidableEq α]
    {blank : α}
    {content : List α}
    {position : Nat}
    (inside : position ≤ content.length)
    (elements : List α) :
    stored blank content position elements =
      overwrite content position elements := by
  unfold stored
  split
  · rename_i nothing
    rw [nothing, overwrite_nil]
  · rw [padded, Nat.sub_eq_zero_of_le inside, List.replicate_zero,
      List.append_nil]

end PositionedIo

namespace Program

variable {Call : Type} {Answer : Call → Type} {State ε α : Type}

/-- What a reading loop makes of one answer. -/
def readStep
    (passing : ε → Prop)
    [DecidablePred passing]
    (atEnd : List α → Except ε (List α))
    (received : List α) :
    Except ε (List α) → LoopStep (List α) (Except ε (List α))
  | .ok [] => .done (atEnd received)
  | .ok (first :: rest) => .again (received ++ first :: rest)
  | .error error =>
      if passing error then .again received else .done (.error error)

/--
Read until so many elements are there.  An attempt is told how many there are
and how many are missing.
-/
def reading
    (passing : ε → Prop)
    [DecidablePred passing]
    (atEnd : List α → Except ε (List α))
    (attempt : Nat → Nat → Program Answer (Except ε (List α)))
    (size : Nat) : Program Answer (Except ε (List α)) :=
  Program.iterate (fun received => do
    if received.length < size then
      let answer ← attempt received.length (size - received.length)
      return readStep passing atEnd received answer
    else
      return .done (.ok received)) []

/-- What a writing loop makes of one answer. -/
def writeStep
    (passing : ε → Prop)
    [DecidablePred passing]
    (atZero : ε)
    (written : Nat) : Except ε Nat → LoopStep Nat (Except ε Unit)
  | .ok 0 => .done (.error atZero)
  | .ok (count + 1) => .again (written + (count + 1))
  | .error error =>
      if passing error then .again written else .done (.error error)

/-- Write all elements; an attempt is told how many are written already. -/
def writing
    (passing : ε → Prop)
    [DecidablePred passing]
    (atZero : ε)
    (attempt : Nat → List α → Program Answer (Except ε Nat))
    (elements : List α) : Program Answer (Except ε Unit) :=
  Program.iterate (fun written => do
    if written < elements.length then
      let answer ← attempt written (elements.drop written)
      return writeStep passing atZero written answer
    else
      return .done (.ok ())) 0

end Program

section Rules

variable {Call : Type} {Answer : Call → Type} {State ε α : Type}
  {monitor : Monitor Answer State} {passing : ε → Prop}
  [DecidablePred passing]

/-- One call reads elements that come next, and none only at the end. -/
structure Reads (available : List α) (wanted : Nat) (answer : List α) :
    Prop where
  next : answer <+: available
  bounded : answer.length ≤ wanted
  none : answer = [] → wanted = 0 ∨ available = []

/-- What one attempt to read answers, and how many elements it has moved. -/
def ReadAnswered
    (passing : ε → Prop)
    (available : List α)
    (wanted : Nat)
    (invariant : Nat → State → Prop)
    (failed : ε → State → Prop) :
    Except ε (List α) → State → Prop
  | .error error => fun after =>
      (passing error → invariant 0 after) ∧
        (¬ passing error → failed error after)
  | .ok answer => fun after =>
      Reads available wanted answer ∧ invariant answer.length after

/-- What a reading loop returns. -/
inductive ReadOutcome
    (available : List α)
    (size : Nat)
    (atEnd : List α → Except ε (List α))
    (invariant : Nat → State → Prop)
    (failed : ε → State → Prop) :
    Except ε (List α) → State → Prop where
  | complete
      {after : State}
      (enough : size ≤ available.length)
      (holds : invariant size after) :
      ReadOutcome available size atEnd invariant failed
        (.ok (available.take size)) after
  | ended
      {after : State}
      (short : available.length < size)
      (holds : invariant available.length after) :
      ReadOutcome available size atEnd invariant failed
        (atEnd available) after
  | failed
      {after : State}
      (error : ε)
      (failure : failed error after) :
      ReadOutcome available size atEnd invariant failed (.error error)
        after

/--
The rule for a reading loop: it returns the first of the elements that are
available, or all of them if they are too few, or it has failed.
-/
theorem Program.Ensures.reading
    {atEnd : List α → Except ε (List α)}
    {attempt : Nat → Nat → Program Answer (Except ε (List α))}
    {size : Nat}
    {available : List α}
    {invariant : Nat → State → Prop}
    {failed : ε → State → Prop}
    (attempted :
      ∀ received state,
        received < size →
        received ≤ available.length →
        invariant received state →
        (attempt received (size - received)).Ensures monitor
          (ReadAnswered passing (available.drop received)
            (size - received) (fun count => invariant (received + count))
            failed)
          state)
    {state : State}
    (initially : invariant 0 state) :
    (Program.reading passing atEnd attempt size).Ensures monitor
      (ReadOutcome available size atEnd invariant failed) state := by
  refine .iterate
    (fun received current =>
      (received <+: available ∧ received.length ≤ size) ∧
        invariant received.length current) ?_
    ⟨⟨List.nil_prefix, Nat.zero_le _⟩, initially⟩
  rintro received current ⟨⟨isPrefix, bounded⟩, holds⟩
  have split : received = available.take received.length :=
    List.prefix_iff_eq_take.mp isPrefix
  by_cases missing : received.length < size
  · simp only [missing, ↓reduceIte]
    refine .bind ((attempted received.length current missing
      isPrefix.length_le holds).mono ?_)
    intro answer after answered
    refine .pure ?_
    cases answer with
    | error error =>
        by_cases passes : passing error
        · simp only [Program.readStep, passes, ↓reduceIte]
          exact ⟨⟨isPrefix, bounded⟩, answered.1 passes⟩
        · simp only [Program.readStep, passes, ↓reduceIte]
          exact .failed error (answered.2 passes)
    | ok elements =>
        obtain ⟨reads, holdsAfter⟩ := answered
        rw [← List.length_append] at holdsAfter
        cases elements with
        | nil =>
            have nothing : available.drop received.length = [] :=
              (reads.none rfl).resolve_left (Nat.sub_ne_zero_of_lt missing)
            have exhausted := List.drop_eq_nil_iff.mp nothing
            have all : received = available := by
              rw [split, List.take_of_length_le exhausted]
            subst all
            rw [List.append_nil] at holdsAfter
            exact .ended missing holdsAfter
        | cons first rest =>
            refine ⟨⟨?_, ?_⟩, holdsAfter⟩
            · obtain ⟨later, continued⟩ := reads.next
              refine ⟨later, ?_⟩
              rw [List.append_assoc, continued]
              have whole := List.take_append_drop received.length available
              rwa [← split] at whole
            · have bounded := reads.bounded
              rw [List.length_append]
              omega
  · simp only [missing, ↓reduceIte]
    have whole : received.length = size := by omega
    subst whole
    have returned :
        ReadOutcome available received.length atEnd invariant failed
          (.ok (available.take received.length)) current :=
      .complete isPrefix.length_le holds
    rw [← split] at returned
    exact .pure returned

/-- What one attempt to write answers: how many of the elements it moved. -/
def WriteAnswered
    (passing : ε → Prop)
    (atZero : ε)
    (written available : Nat)
    (invariant : Nat → State → Prop)
    (failed : ε → State → Prop) : Except ε Nat → State → Prop
  | .error error => fun after =>
      (passing error → invariant written after) ∧
        (¬ passing error → failed error after)
  | .ok 0 => fun after => failed atZero after
  | .ok (count + 1) => fun after =>
      count + 1 ≤ available ∧ invariant (written + (count + 1)) after

/-- What a writing loop returns. -/
def WriteOutcome
    (size : Nat)
    (invariant : Nat → State → Prop)
    (failed : ε → State → Prop) : Except ε Unit → State → Prop
  | .error error => failed error
  | .ok _ => invariant size

/--
The rule for a writing loop: it returns when everything is written, or it has
failed.
-/
theorem Program.Ensures.writing
    {atZero : ε}
    {attempt : Nat → List α → Program Answer (Except ε Nat)}
    {elements : List α}
    {invariant : Nat → State → Prop}
    {failed : ε → State → Prop}
    (attempted :
      ∀ written state,
        written < elements.length →
        invariant written state →
        (attempt written (elements.drop written)).Ensures monitor
          (WriteAnswered passing atZero written
            (elements.length - written) invariant failed)
          state)
    {state : State}
    (initially : invariant 0 state) :
    (Program.writing passing atZero attempt elements).Ensures monitor
      (WriteOutcome elements.length invariant failed) state := by
  refine .iterate
    (fun written current =>
      written ≤ elements.length ∧ invariant written current) ?_
    ⟨Nat.zero_le _, initially⟩
  rintro written current ⟨bounded, holds⟩
  by_cases unfinished : written < elements.length
  · simp only [unfinished, ↓reduceIte]
    refine .bind ((attempted written current unfinished holds).mono ?_)
    intro answer after answered
    refine .pure ?_
    cases answer with
    | error error =>
        by_cases passes : passing error
        · simp only [Program.writeStep, passes, ↓reduceIte]
          exact ⟨bounded, answered.1 passes⟩
        · simp only [Program.writeStep, passes, ↓reduceIte]
          exact answered.2 passes
    | ok count =>
        cases count with
        | zero => exact answered
        | succ count =>
            obtain ⟨within, holdsAfter⟩ := answered
            exact ⟨by omega, holdsAfter⟩
  · simp only [unfinished, ↓reduceIte]
    have whole : written = elements.length := by omega
    subst whole
    exact .pure holds

end Rules

end CallTree
