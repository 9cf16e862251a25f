import AdvanceUnix.FullTransfer
import Mathlib.Algebra.Ring.Nat

namespace AdvanceUnix.FullTransfer

open CallTree

/-!
# The transferring loops agree

The three ways to look at a count decide the same.  So two loops that read, or
two that write, follow each other through every sequence of answers, and only
what they report for a count of zero may differ.  They return unless they are
interrupted for ever.
-/

/-- A call returns -1 or a count. -/
theorem KernelAnswer.count_ge (answer : KernelAnswer) :
    -1 ≤ answer.count := by
  cases answer with
  | failed errno => exact Int.le_refl (-1)
  | moved count data =>
      exact Int.le_trans (by decide) (Int.natCast_nonneg count)

/-- Looking for a negative count first decides the same. -/
theorem negativeFirst_eq
    (zeroErrno : Nat)
    (progress : Progress)
    (count : Int) :
    negativeFirst zeroErrno progress count =
      positiveFirst zeroErrno progress count := by
  unfold negativeFirst positiveFirst
  rcases Int.lt_trichotomy count 0 with negative | rfl | positive
  · have notPositive : ¬ count > 0 := by omega
    have notZero : count ≠ 0 := by omega
    simp [negative, notPositive, notZero]
  · simp
  · have notNegative : ¬ count < 0 := by omega
    have notZero : count ≠ 0 := by omega
    simp [positive, notNegative, notZero]

/-- The chain of alternatives decides the same. -/
theorem elseChain_eq
    (zeroErrno : Nat)
    (progress : Progress)
    {count : Int}
    (atLeast : -1 ≤ count) :
    elseChain zeroErrno progress count =
      positiveFirst zeroErrno progress count := by
  have failed : count = -1 ↔ count < 0 := by omega
  simp only [elseChain, positiveFirst, failed]

/-- What a loop does with a sequence of answers, up to a number of calls. -/
def follow
    (answers : Nat → KernelAnswer)
    (calls : Nat)
    (loop : Loop) :
    List (Event fun _ : Request => KernelAnswer) × Option Returned :=
  loop.exec (fun index _ => answers index) calls

section Unrolling

variable {call : TransferCall} {fd : Fd} {length : Nat}
variable {answered : Progress → Int → LoopStep Progress Returned}

/-- One iteration of a loop. -/
def iteration
    (call : TransferCall)
    (fd : Fd)
    (length : Nat)
    (answered : Progress → Int → LoopStep Progress Returned)
    (progress : Progress) :
    Tree (fun _ : Request => KernelAnswer) (LoopStep Progress Returned) :=
  if progress.completed < length then
    .call
      { call := call
        fd := fd
        position := progress.completed
        count := length - progress.completed }
      fun answer =>
        .ret (answered (progress.called call answer) answer.count)
  else
    .ret (.done (progress.returned 0))

/-- The loop is its iterations. -/
theorem transferLoop_eq (start : Progress) (calls : Nat) :
    transferLoop call fd length answered start calls =
      Tree.iterate (iteration call fd length answered) calls start := by
  unfold transferLoop Program.iterate
  congr 1
  funext progress
  by_cases more : progress.completed < length
  · simp only [iteration, more, ↓reduceIte]
    rfl
  · simp only [iteration, more, ↓reduceIte]
    rfl

variable {answers : Nat → KernelAnswer} {progress next : Progress}
variable {returned : Returned}

/-- The call of an iteration, with an answer. -/
def Progress.calls
    (progress : Progress)
    (call : TransferCall)
    (fd : Fd)
    (length : Nat)
    (answer : KernelAnswer) : Event fun _ : Request => KernelAnswer where
  call :=
    { call := call
      fd := fd
      position := progress.completed
      count := length - progress.completed }
  answer := answer

/-- What a loop does from some progress on. -/
def followFrom
    (call : TransferCall)
    (fd : Fd)
    (length : Nat)
    (answered : Progress → Int → LoopStep Progress Returned)
    (answers : Nat → KernelAnswer)
    (index calls : Nat)
    (progress : Progress) :
    List (Event fun _ : Request => KernelAnswer) × Option Returned :=
  (Tree.iterate (iteration call fd length answered) calls progress).exec
    (fun index _ => answers index) index

/-- A loop that has transferred everything returns. -/
theorem followFrom_complete
    (complete : ¬ progress.completed < length)
    (index calls : Nat) :
    followFrom call fd length answered answers index (calls + 1) progress =
      ([], some (progress.returned 0)) := by
  simp only [followFrom, Tree.iterate, iteration, complete, ↓reduceIte,
    Tree.bind]
  rfl

/-- A loop that has not may go on after its call. -/
theorem followFrom_again
    (more : progress.completed < length)
    (index calls : Nat)
    (again :
      answered (progress.called call (answers index))
          (answers index).count =
        .again next) :
    followFrom call fd length answered answers index (calls + 1) progress =
      (progress.calls call fd length (answers index) ::
          (followFrom call fd length answered answers (index + 1) calls
            next).1,
        (followFrom call fd length answered answers (index + 1) calls
          next).2) := by
  simp only [followFrom, Tree.iterate, iteration, more, ↓reduceIte,
    Tree.bind, Tree.exec, again]
  rfl

/-- Or it returns after its call. -/
theorem followFrom_done
    (more : progress.completed < length)
    (index calls : Nat)
    (done :
      answered (progress.called call (answers index))
          (answers index).count =
        .done returned) :
    followFrom call fd length answered answers index (calls + 1) progress =
      ([progress.calls call fd length (answers index)], some returned) := by
  simp only [followFrom, Tree.iterate, iteration, more, ↓reduceIte,
    Tree.bind, Tree.exec, done]
  rfl

end Unrolling

/-- What a loop has done: its calls with their answers, and its return. -/
abbrev Trace :=
  List (Event fun _ : Request => KernelAnswer) × Option Returned

/-- The position and the count of each call. -/
def Trace.requests (trace : Trace) : List (Nat × Nat) :=
  trace.1.map fun event => (event.call.position, event.call.count)

/-- Some call was answered with zero. -/
def Trace.AnsweredZero (trace : Trace) : Prop :=
  ∃ event ∈ trace.1, event.answer.count = 0

/--
Two loops have done the same, and a count of zero has left in `errno` what
each of them sets it to.
-/
structure Trace.Agrees
    (zeroErrno otherErrno : Nat)
    (trace other : Trace) : Prop where
  requests : trace.requests = other.requests
  values : trace.2.map Returned.value = other.2.map Returned.value
  buffers : trace.2.map Returned.buffer = other.2.map Returned.buffer
  sameErrno :
    ¬ trace.AnsweredZero →
    trace.2.map Returned.errno = other.2.map Returned.errno
  ownErrno :
    trace.AnsweredZero →
    trace.2.map Returned.errno = some zeroErrno ∧
      other.2.map Returned.errno = some otherErrno

/-- A call before what agrees. -/
theorem Trace.Agrees.cons
    {zeroErrno otherErrno : Nat}
    {trace other : Trace}
    {event otherEvent : Event fun _ : Request => KernelAnswer}
    (agrees : trace.Agrees zeroErrno otherErrno other)
    (position : event.call.position = otherEvent.call.position)
    (count : event.call.count = otherEvent.call.count)
    (notZero : event.answer.count ≠ 0) :
    Trace.Agrees zeroErrno otherErrno (event :: trace.1, trace.2)
      (otherEvent :: other.1, other.2) := by
  have earlier :
      Trace.AnsweredZero (event :: trace.1, trace.2) ↔
        trace.AnsweredZero := by
    simp [Trace.AnsweredZero, notZero]
  constructor
  case requests =>
    have rest := agrees.requests
    unfold Trace.requests at rest ⊢
    rw [List.map_cons, List.map_cons, rest, position, count]
  case values => exact agrees.values
  case buffers => exact agrees.buffers
  case sameErrno =>
    rw [earlier]
    exact agrees.sameErrno
  case ownErrno =>
    rw [earlier]
    exact agrees.ownErrno

/-- A positive count and an interruption go on, whatever zero means. -/
theorem positiveFirst_cases (progress : Progress) (count : Int) :
    (count ≠ 0 ∧
        ∃ next, ∀ zeroErrno,
          positiveFirst zeroErrno progress count = .again next) ∨
      (count ≠ 0 ∧
        ∀ zeroErrno,
          positiveFirst zeroErrno progress count =
            .done (progress.returned (-1))) ∨
      (count = 0 ∧
        ∀ zeroErrno,
          positiveFirst zeroErrno progress count =
            .done ((progress.setErrno zeroErrno).returned (-1))) := by
  unfold positiveFirst
  by_cases positive : count > 0
  · exact Or.inl ⟨Int.ne_of_gt positive, _, fun _ => if_pos positive⟩
  by_cases interrupted : count < 0 ∧ progress.errno = eintr
  · refine Or.inl ⟨Int.ne_of_lt interrupted.1, progress, fun _ => ?_⟩
    simp [positive, interrupted]
  by_cases zero : count = 0
  · refine Or.inr (Or.inr ⟨zero, fun _ => ?_⟩)
    simp [zero]
  · refine Or.inr (Or.inl ⟨zero, fun _ => ?_⟩)
    simp [positive, interrupted, zero]

section Agreement

variable {call otherCall : TransferCall} {answers : Nat → KernelAnswer}

/-- Two loops that store, or two that do not, follow each other. -/
theorem followFrom_agrees
    (stores : call.Stores ↔ otherCall.Stores)
    (fd : Fd)
    (length zeroErrno otherErrno index calls : Nat)
    (progress : Progress) :
    Trace.Agrees zeroErrno otherErrno
      (followFrom call fd length (positiveFirst zeroErrno) answers index
        calls progress)
      (followFrom otherCall fd length (positiveFirst otherErrno) answers
        index calls progress) := by
  induction calls generalizing index progress with
  | zero =>
      refine ⟨rfl, rfl, rfl, fun _ => rfl, ?_⟩
      rintro ⟨event, member, _⟩
      cases member
  | succ calls inductionHypothesis =>
      by_cases more : progress.completed < length
      · have called :
            progress.called otherCall (answers index) =
              progress.called call (answers index) := by
          simp only [Progress.called, stores]
        rcases positiveFirst_cases (progress.called call (answers index))
            (answers index).count with
          ⟨notZero, next, again⟩ | ⟨notZero, done⟩ | ⟨zero, done⟩
        · rw [followFrom_again more index calls (again _),
            followFrom_again more index calls
              (called ▸ again otherErrno)]
          exact (inductionHypothesis _ _).cons rfl rfl notZero
        · rw [followFrom_done more index calls (done _),
            followFrom_done more index calls (called ▸ done otherErrno),
            called]
          refine ⟨rfl, rfl, rfl, fun _ => rfl, ?_⟩
          rintro ⟨event, member, zero⟩
          obtain rfl := List.mem_singleton.mp member
          exact absurd zero notZero
        · rw [followFrom_done more index calls (done _),
            followFrom_done more index calls (called ▸ done otherErrno),
            called]
          refine ⟨rfl, rfl, rfl, ?_, fun _ => ⟨rfl, rfl⟩⟩
          exact fun never =>
            (never ⟨_, List.mem_singleton_self _, zero⟩).elim
      · rw [followFrom_complete more, followFrom_complete more]
        refine ⟨rfl, rfl, rfl, fun _ => rfl, ?_⟩
        rintro ⟨event, member, _⟩
        cases member

end Agreement

/-- What the answers of a trace add up to; a failure adds nothing. -/
def Trace.moved (trace : Trace) : Nat :=
  (trace.1.map fun event => event.answer.count.toNat).sum

/-- No answer is more than what was asked for. -/
def Trace.Legal (trace : Trace) : Prop :=
  ∀ event ∈ trace.1, event.answer.count ≤ event.call.count

/-- A loop returns 0 iff the answers add up to the length. -/
def Trace.Completes (length : Nat) (trace : Trace) : Prop :=
  trace.Legal →
  ∀ returned,
    trace.2 = some returned →
    (returned.value = 0 ↔ trace.moved = length)

section Completion

variable {call : TransferCall} {fd : Fd} {length zeroErrno : Nat}
variable {answers : Nat → KernelAnswer}

/-- A loop that goes on has been advanced by what was moved. -/
theorem positiveFirst_again
    {progress next : Progress}
    {count : Int}
    (again : positiveFirst zeroErrno progress count = .again next) :
    next.completed = progress.completed + count.toNat := by
  unfold positiveFirst at again
  by_cases positive : count > 0
  · rw [if_pos positive] at again
    cases again
    rfl
  · rw [if_neg positive] at again
    split at again
    · cases again
      rw [Int.toNat_of_nonpos (Int.not_lt.mp positive)]
      rfl
    · cases again

/-- A loop that gives up after a call returns -1, and nothing was moved. -/
theorem positiveFirst_done
    {progress : Progress}
    {count : Int}
    {returned : Returned}
    (done : positiveFirst zeroErrno progress count = .done returned) :
    returned.value = -1 ∧ count.toNat = 0 := by
  unfold positiveFirst at done
  by_cases positive : count > 0
  · rw [if_pos positive] at done
    cases done
  · rw [if_neg positive] at done
    split at done
    · cases done
    · cases done
      exact ⟨rfl, Int.toNat_of_nonpos (Int.not_lt.mp positive)⟩

/-- From any progress on: 0 is returned iff the rest has been moved. -/
theorem followFrom_completes
    (index calls : Nat)
    {progress : Progress}
    (bound : progress.completed ≤ length)
    {returned : Returned}
    (ended :
      (followFrom call fd length (positiveFirst zeroErrno) answers index
        calls progress).2 = some returned)
    (legal :
      Trace.Legal
        (followFrom call fd length (positiveFirst zeroErrno) answers index
          calls progress)) :
    returned.value = 0 ↔
      progress.completed +
          Trace.moved
            (followFrom call fd length (positiveFirst zeroErrno) answers
              index calls progress) =
        length := by
  induction calls generalizing index progress with
  | zero => cases ended
  | succ calls inductionHypothesis =>
      by_cases more : progress.completed < length
      · cases decided :
            positiveFirst zeroErrno
              (progress.called call (answers index))
              (answers index).count with
        | again next =>
            have advanced := positiveFirst_again decided
            rw [followFrom_again more index calls decided] at ended legal ⊢
            have here := legal _ List.mem_cons_self
            have within : next.completed ≤ length := by
              simp only [Progress.calls] at here
              simp only [Progress.called] at advanced
              omega
            rw [inductionHypothesis (index + 1) within ended
              fun event member =>
                legal event (List.mem_cons_of_mem _ member)]
            rw [advanced]
            simp only [Trace.moved, List.map_cons, List.sum_cons,
              Progress.calls, Progress.called, Nat.add_assoc]
        | done stopped =>
            obtain ⟨failed, nothing⟩ := positiveFirst_done decided
            rw [followFrom_done more index calls decided] at ended ⊢
            obtain rfl := Option.some.inj ended
            simp [Trace.moved, Progress.calls, failed, nothing,
              Nat.ne_of_lt more]
      · rw [followFrom_complete more] at ended ⊢
        obtain rfl := Option.some.inj ended
        have complete := Nat.le_antisymm bound (Nat.not_lt.mp more)
        simp [Trace.moved, Progress.returned, complete]

end Completion

/-- An interruption, after which a loop makes the same call again. -/
def KernelAnswer.Interrupts : KernelAnswer → Prop
  | .failed errno => errno = eintr
  | .moved _ _ => False

/-- From every call on there is one that is not interrupted. -/
def Ceasing (answers : Nat → KernelAnswer) : Prop :=
  ∀ index, ∃ gap, ¬ (answers (index + gap)).Interrupts

/-- A loop returns, however much longer it is followed. -/
def Returns (traces : Nat → Trace) : Prop :=
  ∃ enough returned,
    ∀ calls, enough ≤ calls → (traces calls).2 = some returned

section Return

variable {call : TransferCall} {fd : Fd} {length zeroErrno index : Nat}
variable {answers : Nat → KernelAnswer} {progress : Progress}

/-- Only after an interruption does a loop go on with nothing moved. -/
theorem positiveFirst_moves
    {next : Progress}
    {answer : KernelAnswer}
    (again :
      positiveFirst zeroErrno (progress.called call answer) answer.count =
        .again next)
    (genuine : ¬ answer.Interrupts) :
    progress.completed < next.completed := by
  have advanced := positiveFirst_again again
  cases answer with
  | failed errno =>
      have permanent : errno ≠ eintr := genuine
      simp [positiveFirst, KernelAnswer.count, Progress.called,
        KernelAnswer.errno, permanent] at again
  | moved count data =>
      cases count with
      | zero => cases again
      | succ count =>
          rw [advanced]
          exact Nat.lt_add_of_pos_right (Nat.succ_pos count)

/--
A loop that is not interrupted for ever returns: what is missing gets less
with every answer that is no interruption.
-/
theorem transferLoop_returns
    (ceasing : Ceasing answers)
    (progress : Progress) :
    (transferLoop call fd length (positiveFirst zeroErrno) progress).Returns
      (fun index _ => answers index) (fun _ _ => True) index := by
  have ceases :
      Script.Ceasing (fun _ answer => KernelAnswer.Interrupts answer)
        (fun index (_ : Request) => answers index) :=
    fun _ index => ceasing index
  refine .iterate_ceasing ceases
    (fun progress =>
      { call := call
        fd := fd
        position := progress.completed
        count := length - progress.completed })
    (fun progress => length - progress.completed) ?_ progress
  intro progress index
  by_cases more : progress.completed < length
  · simp only [more, ↓reduceIte]
    refine .request_bind (.pure ?_)
    cases decided :
        positiveFirst zeroErrno (progress.called call (answers index))
          (answers index).count with
    | done returned => trivial
    | again next =>
        have advanced := positiveFirst_again decided
        by_cases genuine : (answers index).Interrupts
        · have nothing : (answers index).count.toNat = 0 := by
            cases given : answers index with
            | failed errno => rfl
            | moved count data => exact (given ▸ genuine).elim
          have same : next.completed = progress.completed := by
            rw [advanced, nothing, Progress.called, Nat.add_zero]
          exact .inr ⟨⟨by rw [same], by rw [same], rfl⟩, genuine⟩
        · have moved := positiveFirst_moves decided genuine
          exact .inl (by omega)
  · simp only [more, ↓reduceIte]
    exact .pure trivial

end Return

/-- The loops that write. -/
inductive Writer where
  | fdPassing
  | zeroCopy
  | tcpSockets
  | terminal
  deriving DecidableEq, Repr

/-- The loops that read. -/
inductive Reader where
  | fdPassing
  | zeroCopy
  | tcpSockets
  | terminal
  deriving DecidableEq, Repr

/-- The call that a loop writes with. -/
def Writer.call : Writer → TransferCall
  | .fdPassing => .write
  | .zeroCopy => .write
  | .tcpSockets => .send
  | .terminal => .write

/-- The call that a loop reads with. -/
def Reader.call : Reader → TransferCall
  | .fdPassing => .read
  | .zeroCopy => .read
  | .tcpSockets => .recv
  | .terminal => .read

/-- What a loop that reads reports for a count of zero. -/
def Reader.zeroErrno : Reader → Nat
  | .fdPassing => epipe
  | .zeroCopy => eio
  | .tcpSockets => econnreset
  | .terminal => eio

section Families

variable (fd : Fd) (length errno : Nat) (buffer : Nat → UInt8)

/-- Each loop that writes. -/
def Writer.loop : Writer → Loop
  | .fdPassing => FdPassing.writeAll fd length errno buffer
  | .zeroCopy => ZeroCopy.writeAll fd length errno buffer
  | .tcpSockets => TcpSockets.sendAll fd length errno buffer
  | .terminal => Terminal.transferAll fd length errno buffer true

/-- Each loop that reads. -/
def Reader.loop : Reader → Loop
  | .fdPassing => FdPassing.readAll fd length errno buffer
  | .zeroCopy => ZeroCopy.readAll fd length errno buffer
  | .tcpSockets => TcpSockets.receiveAll fd length errno buffer
  | .terminal => Terminal.transferAll fd length errno buffer false

/-- Loops that decide the same for each answer are the same. -/
theorem transferLoop_congr
    {call : TransferCall}
    {answered otherwise : Progress → Int → LoopStep Progress Returned}
    (same :
      ∀ progress (answer : KernelAnswer),
        answered progress answer.count = otherwise progress answer.count)
    (start : Progress) :
    transferLoop call fd length answered start =
      transferLoop call fd length otherwise start := by
  unfold transferLoop
  simp only [same]

/-- Every loop that writes is the one that looks for a positive count. -/
theorem Writer.loop_eq (writer : Writer) :
    writer.loop fd length errno buffer =
      transferLoop writer.call fd length (positiveFirst eio)
        (.start errno buffer) := by
  cases writer with
  | fdPassing => rfl
  | zeroCopy | terminal =>
      refine transferLoop_congr fd length (fun progress answer => ?_) _
      exact negativeFirst_eq eio progress answer.count
  | tcpSockets =>
      refine transferLoop_congr fd length (fun progress answer => ?_) _
      exact elseChain_eq eio progress answer.count_ge

/-- And so is every loop that reads. -/
theorem Reader.loop_eq (reader : Reader) :
    reader.loop fd length errno buffer =
      transferLoop reader.call fd length (positiveFirst reader.zeroErrno)
        (.start errno buffer) := by
  cases reader with
  | fdPassing => rfl
  | zeroCopy | terminal =>
      refine transferLoop_congr fd length (fun progress answer => ?_) _
      exact negativeFirst_eq eio progress answer.count
  | tcpSockets =>
      refine transferLoop_congr fd length (fun progress answer => ?_) _
      exact elseChain_eq econnreset progress answer.count_ge

/-- Following a loop is following it from its start. -/
theorem follow_eq
    (answers : Nat → KernelAnswer)
    (calls : Nat)
    (call : TransferCall)
    (answered : Progress → Int → LoopStep Progress Returned)
    (start : Progress) :
    follow answers calls (transferLoop call fd length answered start) =
      followFrom call fd length answered answers 0 calls start := by
  unfold follow Program.exec followFrom
  rw [transferLoop_eq]

end Families

/-- Loops that write have done the same, with the same outcome. -/
structure Trace.Same (trace other : Trace) : Prop where
  requests : trace.requests = other.requests
  returned : trace.2 = other.2

/-- Loops that report the same for a count of zero agree in everything. -/
theorem Trace.Agrees.same
    {zeroErrno : Nat}
    {trace other : Trace}
    (agrees : trace.Agrees zeroErrno zeroErrno other) :
    trace.Same other := by
  have errnos :
      trace.2.map Returned.errno = other.2.map Returned.errno := by
    by_cases zero : trace.AnsweredZero
    · exact (agrees.ownErrno zero).1.trans (agrees.ownErrno zero).2.symm
    · exact agrees.sameErrno zero
  refine ⟨agrees.requests, ?_⟩
  have values := agrees.values
  have buffers := agrees.buffers
  cases first : trace.2 with
  | none =>
      cases second : other.2 with
      | none => rfl
      | some returned => simp [first, second] at values
  | some returned =>
      cases second : other.2 with
      | none => simp [first, second] at values
      | some otherReturned =>
          simp only [first, second, Option.map_some, Option.some.injEq]
            at values errnos buffers ⊢
          exact Returned.ext values errnos buffers

/-- What a caller relies on: when a loop returns 0, and that it returns. -/
structure Transfers
    (length : Nat)
    (answers : Nat → KernelAnswer)
    (loop : Loop) : Prop where
  completes :
    ∀ calls, Trace.Completes length (follow answers calls loop)
  returns :
    Ceasing answers → Returns fun calls => follow answers calls loop

/-- The loop that looks for a positive count can be relied on. -/
theorem positiveFirst_transfers
    (call : TransferCall)
    (fd : Fd)
    (length zeroErrno errno : Nat)
    (buffer : Nat → UInt8)
    (answers : Nat → KernelAnswer) :
    Transfers length answers
      (transferLoop call fd length (positiveFirst zeroErrno)
        (.start errno buffer)) := by
  constructor
  case completes =>
    intro calls legal returned ended
    rw [follow_eq] at legal ended ⊢
    simpa [Progress.start] using
      followFrom_completes 0 calls (Nat.zero_le length) ended legal
  case returns =>
    intro ceasing
    obtain ⟨events, returned, _, enough, ended⟩ :=
      transferLoop_returns ceasing (.start errno buffer)
    exact ⟨enough, returned, fun calls long =>
      congrArg Prod.snd (ended calls long)⟩

/--
Through every sequence of answers the four loops that write make the same
requests and return the same, and the four that read also leave the same
buffer.  Each of the eight returns unless it is interrupted for ever, and it
returns 0 iff the answers add up to the length.
-/
theorem full_transfer_agreement
    (fd : Fd)
    (length errno : Nat)
    (buffer : Nat → UInt8)
    (answers : Nat → KernelAnswer) :
    (∀ (calls : Nat) (writer other : Writer),
      Trace.Same
        (follow answers calls (writer.loop fd length errno buffer))
        (follow answers calls (other.loop fd length errno buffer))) ∧
      (∀ (calls : Nat) (reader other : Reader),
        Trace.Agrees reader.zeroErrno other.zeroErrno
          (follow answers calls (reader.loop fd length errno buffer))
          (follow answers calls (other.loop fd length errno buffer))) ∧
      (∀ writer : Writer,
        Transfers length answers (writer.loop fd length errno buffer)) ∧
      ∀ reader : Reader,
        Transfers length answers (reader.loop fd length errno buffer) := by
  refine ⟨?_, ?_, ?_, ?_⟩
  · intro calls writer other
    rw [writer.loop_eq, other.loop_eq, follow_eq, follow_eq]
    have stores : writer.call.Stores ↔ other.call.Stores := by
      cases writer <;> cases other <;> exact Iff.rfl
    exact (followFrom_agrees stores fd length eio eio 0 calls _).same
  · intro calls reader other
    rw [reader.loop_eq, other.loop_eq, follow_eq, follow_eq]
    have stores : reader.call.Stores ↔ other.call.Stores := by
      cases reader <;> cases other <;> exact Iff.rfl
    exact followFrom_agrees stores fd length _ _ 0 calls _
  · intro writer
    rw [writer.loop_eq]
    exact positiveFirst_transfers writer.call fd length eio errno buffer
      answers
  · intro reader
    rw [reader.loop_eq]
    exact positiveFirst_transfers reader.call fd length reader.zeroErrno
      errno buffer answers

/-- A short read and an end of file, as `receive_all` reports them. -/
example :
    (follow
          (fun index => .moved (1 - index) fun _ => 7)
          5
          (Reader.tcpSockets.loop 3 2 0 fun _ => 0)).2.map
        (fun returned => (returned.value, returned.errno)) =
      some (-1, econnreset) := by
  decide

end AdvanceUnix.FullTransfer
