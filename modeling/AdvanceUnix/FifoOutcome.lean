import AdvanceUnix.FifoProtocol

namespace AdvanceUnix.Fifo.Handover

open CallTree ChildProcess Processes
open FdPassing.Handover (ChildLife)

/-!
# What comes out of the FIFO

The contract of the two processes, read off in every state that they reach:
a child that exits with 0 has left the whole message, the parent then gets
exactly that without waiting, and neither process waits for the other for good.
-/

variable {setting : Setting} {state : State}

/-- An interrupted call is made again. -/
def Interrupted : (request : Syscall) → Answer request → Prop
  | .write _ _, answer => (answer : Result Nat) = .error .eintr
  | _, _ => False

/-- The child can go on, or this unrolling of its program has ended. -/
def ChildProceeds (setting : Setting) (state : State) : Prop :=
  state.rest .child = .cut ∨
    ∃ request next answer after,
      state.rest .child = .call request next ∧
        Answered setting state.kernel .child request answer after ∧
        ¬ Interrupted request answer

/-- Nothing that the parent did has failed. -/
def NothingFailed (events : Events) : Prop :=
  ∀ event ∈ events, Fails event.call event.answer = false

/-- The hand-over in a state that was reached. -/
structure FifoHandover (setting : Setting) (state : State) : Prop where
  complete :
    ∀ before,
      state.events .parent =
        before ++ [⟨.waitpid setting.child, .ok (.exited 0)⟩] →
      state.kernel.fifo = setting.message
  received :
    ∀ before middle later result,
      state.events .parent = before ++ (middle ++ later) →
      (waitForChild setting.child).Run before (some (.ok (.exited 0))) →
      (readExactWithPoll setting.held.readDescriptor
          setting.message.length).Run middle (some result) →
      NothingFailed middle →
      result = .ok setting.message
  noTimeout :
    ∀ fd timeout,
      ⟨.poll fd timeout, .ok .timedOut⟩ ∉ state.events .parent
  noEnd :
    ∀ fd size, ⟨.read fd size, .ok []⟩ ∉ state.events .parent
  noAgain :
    ∀ fd size, ⟨.read fd size, .error .eagain⟩ ∉ state.events .parent
  neverPolls :
    state.kernel.life ≠ .ended (.exited 0) →
    ∀ event ∈ state.events .parent,
      ∀ fd timeout, event.call ≠ .poll fd timeout
  pollsData :
    ∀ fd timeout next,
      state.rest .parent = .call (.poll fd timeout) next →
      state.kernel.fifo ≠ []
  readsData :
    ∀ fd size next,
      state.rest .parent = .call (.read fd size) next →
      state.kernel.fifo ≠ []
  waits :
    ∀ child next,
      state.rest .parent = .call (.waitpid child) next →
      (state.kernel.life = .running → ChildProceeds setting state) ∧
        ∀ status,
          state.kernel.life = .ended status →
          Answered setting state.kernel .parent (.waitpid child)
            (.ok status) state.kernel
  payload :
    ∀ result,
      state.rest .parent = .ret result →
      state.kernel.life = .ended (.exited 0) →
      NothingFailed (state.events .parent) →
      result = .success

/-- Where nothing fails no failure is on the record. -/
theorem NothingFailed.recorded
    {receiving : Receiving}
    {events : Events}
    (nothing : NothingFailed events)
    (before : receiving.failed = false) :
    ((monitor setting .parent).after receiving events).failed = false :=
  (monitor setting .parent).unraised Receiving.failed
    (fun event => Fails event.call event.answer) rfl before nothing

/-- What the parent has been told of the child's end. -/
theorem Receiving.reaped_next
    {receiving : Receiving}
    {request : Syscall}
    {answer : Answer request} :
    (receiving.next request answer).reaped =
      (reportedBy ⟨request, answer⟩).or receiving.reaped := by
  cases request <;> rfl

/-- It waits only until it has been told. -/
theorem Receiving.Safe.unreaped
    {receiving : Receiving}
    {request : Syscall}
    {answer : Answer request}
    {status : WaitStatus}
    (safe : receiving.Safe setting request)
    (reports : reportedBy ⟨request, answer⟩ = some status) :
    receiving.reaped = none := by
  cases request with
  | waitpid child => exact safe.2.1
  | _ => cases reports

/-- The whole message is in the FIFO when the success is reported. -/
theorem Contract.complete
    (contract : Contract setting state)
    {before : Events}
    (events :
      state.events .parent =
        before ++ [⟨.waitpid setting.child, .ok (.exited 0)⟩]) :
    state.kernel.fifo = setting.message := by
  have joint := contract.holds
  have safe := contract.history .parent
  rw [events] at safe
  obtain ⟨_, _, received⟩ := (monitor setting .parent).safe_at safe
  have told :
      watched (monitor setting) watchStart state.events .parent =
        { (monitor setting .parent).after (watchStart .parent) before with
          reaped := some (.exited 0) } := by
    rw [watched, events, Monitor.after_append]
    simp [Monitor.after, monitor, Receiving.next, Fails, Except.toOption]
  have ended := joint.reaped (.exited 0) (by rw [told])
  have contents := joint.contents
  rw [joint.succeeded ended, if_pos rfl, told, received] at contents
  exact contents

/-- The child runs on while the parent waits for it. -/
theorem Contract.childProceeds
    (contract : Contract setting state)
    (running : state.kernel.life = .running) :
    ChildProceeds setting state := by
  cases position : state.rest .child with
  | ret value =>
      have exited := contract.returned position
      exact (contract.holds.exited exited running).elim
  | cut => exact .inl position
  | call request next =>
      refine .inr ?_
      have safe := contract.safe position
      cases request with
      | close fd =>
          exact ⟨_, next, _, _, position, .childClose running (.ok ()), id⟩
      | openWriter path =>
          exact ⟨_, next, _, _, position, .openWriter running 3, id⟩
      | write fd bytes =>
          refine ⟨_, next, _, _, position, .writeFailed running .eagain, ?_⟩
          intro interrupted
          exact absurd (Except.error.inj interrupted) (by decide)
      | exit status =>
          exact ⟨_, next, _, _, position, .exit running, id⟩
      | _ => exact safe.elim

/-- `read_exact_with_poll` returns the message unless a call of it fails. -/
theorem received_of_legal
    {before middle later : Events}
    {result : Result (List UInt8)}
    (legal :
      (monitor setting .parent).Legal {} (before ++ (middle ++ later)))
    (waited :
      (waitForChild setting.child).Run before (some (.ok (.exited 0))))
    (reads :
      (readExactWithPoll setting.held.readDescriptor
        setting.message.length).Run middle (some result))
    (nothing : NothingFailed middle) :
    result = .ok setting.message := by
  obtain ⟨beforeLegal, restLegal⟩ :=
    (monitor setting .parent).legal_append.mp legal
  obtain ⟨middleLegal, _⟩ :=
    (monitor setting .parent).legal_append.mp restLegal
  have told : Receiving.mk (some (.exited 0)) [] false =
      (monitor setting .parent).after {} before :=
    (((waitForChild_ensures rfl rfl).sound waited beforeLegal).2 _ rfl).symm
  rw [← told] at middleLegal
  rcases ((readExactWithPoll_ensures rfl rfl).sound reads middleLegal).2 _ rfl
    with ⟨whole, _⟩ | failed
  · exact whole
  · rw [nothing.recorded rfl] at failed
    cases failed

/-- What is on the parent's record was allowed where it was answered. -/
theorem allowed_of_mem
    {fuel : Nat}
    (reaches : Reaches (rules setting) (start setting fuel) state)
    {event : Event Answer}
    (member : event ∈ state.events .parent) :
    ∃ receiving : Receiving,
      receiving.Allows setting event.call event.answer := by
  obtain ⟨before, later, split⟩ := List.append_of_mem member
  have legal := Contract.legal reaches .parent
  rw [split] at legal
  exact ⟨_, ((monitor setting .parent).legal_append.mp legal).2.1⟩

/-- A poll means that the child has exited with 0. -/
theorem Contract.polled
    (contract : Contract setting state)
    {event : Event Answer}
    (member : event ∈ state.events .parent)
    {fd : Fd}
    {timeout : Nat}
    (polls : event.call = .poll fd timeout) :
    state.kernel.life = .ended (.exited 0) := by
  apply contract.holds.reaped
  have safe := contract.history .parent
  obtain ⟨before, later, split⟩ := List.append_of_mem member
  rw [split] at safe
  have expects := (monitor setting .parent).safe_at safe
  rw [polls] at expects
  have rest := ((monitor setting .parent).safe_append.mp safe).2
  rw [watched, split, Monitor.after_append]
  exact (monitor setting .parent).learned Receiving.reaped reportedBy
    Receiving.reaped_next Receiving.Safe.unreaped expects.2.exited rest

/--
Whatever the schedule: a child that exits with 0 has left the whole message,
the parent gets exactly that without waiting for it, and neither process waits
for the other for good.
-/
theorem fifo_handover
    {setting : Setting}
    {fuel : Nat}
    {state : State}
    (reaches : Reaches (rules setting) (start setting fuel) state) :
    FifoHandover setting state := by
  have contract := Contract.reaches reaches
  constructor
  · exact fun before events => contract.complete events
  · intro before middle later result events waited reads nothing
    have legal := Contract.legal reaches .parent
    rw [events] at legal
    exact received_of_legal legal waited reads nothing
  · intro fd timeout member
    obtain ⟨_, allowed⟩ := allowed_of_mem reaches member
    exact allowed rfl
  · intro fd size member
    obtain ⟨_, allowed⟩ := allowed_of_mem reaches member
    exact allowed.1 rfl
  · intro fd size member
    obtain ⟨_, allowed⟩ := allowed_of_mem reaches member
    exact allowed rfl
  · intro notExited event member fd timeout polls
    exact notExited (contract.polled member polls)
  · intro fd timeout next position
    exact (contract.holds.expected (contract.safe position).2).2.1
  · intro fd size next position
    exact (contract.holds.expected (contract.safe position).2.2).2.1
  · intro child next position
    obtain ⟨rfl, _⟩ := contract.safe position
    exact ⟨contract.childProceeds, fun status ended => .wait ended⟩
  · intro result position exited nothing
    obtain ⟨status, reaped, succeeds⟩ :=
      contract.returned position (nothing.recorded rfl)
    have ended := contract.holds.reaped status reaped
    rw [exited] at ended
    exact succeeds (ChildLife.ended.inj ended).symm

/-- One byte through a FIFO for four, with the child 401. -/
def oneByte : Setting where
  message := [104]
  held :=
    { directory := some "d"
      fifoPath := "d/channel"
      fifoCreated := true
      readDescriptor := 3 }
  child := ⟨401, Nat.succ_pos 400⟩
  pipeBuf := 4
  capacity := 4
  atomic := by decide
  fits := by decide

/-- The byte arrives, and the parent returns with success. -/
theorem fifo_handover_oneByte :
    ∃ state,
      Reaches (rules oneByte) (start oneByte 2) state ∧
        state.rest .parent = .ret .success ∧
        FifoHandover oneByte state := by
  have start : Reaches (rules oneByte) (start oneByte 2) (start oneByte 2) :=
    .refl
  have closed := start.call .child rfl (.ok ()) (.childClose rfl _)
  have opened := closed.call .child rfl (.ok 5) (.openWriter rfl 5)
  have wrote :=
    opened.call .child rfl (.ok 1)
      (.write rfl rfl (by decide) (fun _ => rfl) (by decide))
  have closedWriter := wrote.call .child rfl (.ok ()) (.childClose rfl _)
  have exited := closedWriter.call .child rfl () (.exit rfl)
  have reaped := exited.call .parent rfl (.ok (.exited 0)) (.wait rfl)
  have polled :=
    reaped.call .parent rfl (.ok (.ready ⟨true, false, true, false⟩))
      (.pollReady (.inr rfl) ⟨by decide, by decide⟩)
  have read :=
    polled.call .parent rfl (.ok [104])
      (.read rfl (by decide) (fun nothing => by cases nothing))
  have released := read.call .parent rfl (.ok ()) (.close _)
  have unlinked := released.call .parent rfl (.ok ()) (.unlink _)
  have removed := unlinked.call .parent rfl (.ok ()) (.rmdir _)
  exact ⟨_, removed, rfl, fifo_handover removed⟩

end AdvanceUnix.Fifo.Handover
