import AdvanceUnix.SysvProtocol

namespace AdvanceUnix.SysvMessageQueue.Handover

open CallTree ChildProcess Processes
open FdPassing.Handover (ChildLife)

/-!
# What comes out of the message queue

The contract of the two processes, read off in every state that they reach:
the one message is neither lost nor doubled, both counts that the parent checks
are what it expects, and the queue is gone when the parent returns.
-/

variable {setting : Setting} {state : State}

/-- The texts that an answered call has received. -/
def receivedBy : Event Answers → List (List UInt8)
  | ⟨.inl (.msgrcv _), answer⟩ =>
      (answer : Result (List UInt8)).toOption.toList
  | _ => []

/-- The texts that were received, in order. -/
def receivedIn (events : List (Event Answers)) : List (List UInt8) :=
  events.flatMap receivedBy

/-- A call that asks to remove the queue. -/
def asksRemoval : Event Answers → Bool
  | ⟨.inl (.msgctlRmid _), _⟩ => true
  | _ => false

/-- A call of the parent that has failed, among all calls. -/
def failsIn : Event Answers → Bool
  | ⟨.inl call, answer⟩ => Fails call answer
  | ⟨.inr _, _⟩ => false

/-- Nothing that the parent did has failed. -/
def NothingFailed (events : List (Event Answers)) : Prop :=
  ∀ event ∈ events, failsIn event = false

/-- An interrupted call is made again. -/
def Interrupted : (request : Request) → Answers request → Prop
  | .inr (.msgsnd _ _), answer => (answer : Result Unit) = .error .eintr
  | _, _ => False

/-- The child can go on, or this unrolling of its program has ended. -/
def ChildProceeds (setting : Setting) (state : State) : Prop :=
  state.rest .child = .cut ∨
    ∃ request next answer after,
      state.rest .child = .call request next ∧
        Answered setting state.kernel .child request answer after ∧
        ¬ Interrupted request answer

/-- The hand-over in a state that was reached. -/
structure SysvHandover (setting : Setting) (state : State) : Prop where
  single :
    state.kernel.messages = [] ∨ state.kernel.messages = [setting.message]
  complete :
    ∀ before,
      state.events .parent =
        before ++ [⟨.inl (.waitpid setting.child), .ok (.exited 0)⟩] →
      before.countP asksRemoval = 0 →
      state.kernel.messages = [setting.message]
  unsent :
    ∀ code,
      state.kernel.life = .ended (.exited code) →
      code ≠ 0 →
      state.kernel.messages = []
  received :
    receivedIn (state.events .parent) = [] ∨
      receivedIn (state.events .parent) = [setting.text]
  counted :
    ∀ before queue count later,
      state.events .parent =
        before ++ ⟨.inl (.msgctlStat queue), .ok count⟩ :: later →
      (receivedIn before).length + count = 1
  found :
    ∀ queue,
      ⟨.inl (.msgrcv queue), .error enomsg⟩ ∉ state.events .parent
  neverEarly :
    state.kernel.life ≠ .ended (.exited 0) →
    ∀ event ∈ state.events .parent,
      ∀ queue,
        event.call ≠ .inl (.msgctlStat queue) ∧
          event.call ≠ .inl (.msgrcv queue)
  waits :
    ∀ child next,
      state.rest .parent = .call (.inl (.waitpid child)) next →
      (state.kernel.life = .running → ChildProceeds setting state) ∧
        ∀ status,
          state.kernel.life = .ended status →
          Answered setting state.kernel .parent (.inl (.waitpid child))
            (.ok status) state.kernel
  removedOnce :
    ∀ result,
      state.rest .parent = .ret result →
      (state.events .parent).countP asksRemoval = 1
  success :
    state.rest .parent = .ret .success →
    state.kernel.life = .ended (.exited 0) ∧
      receivedIn (state.events .parent) = [setting.text] ∧
      state.kernel.removed = true ∧ state.kernel.messages = []
  payload :
    ∀ result,
      state.rest .parent = .ret result →
      state.kernel.life = .ended (.exited 0) →
      NothingFailed (state.events .parent) →
      result = .success

/-- What the parent has received is on its record. -/
theorem received_after (events : List (Event Answers)) :
    ((monitor setting .parent).after {} events).received =
      receivedIn events := by
  have collected :=
    (monitor setting .parent).collected Receiving.received receivedBy
      (fun {receiving request answer} => ?_) {} events
  · exact collected
  · cases request with
    | inl call =>
        cases call with
        | msgrcv queue => rfl
        | _ => exact (List.append_nil _).symm
    | inr call => exact (List.append_nil _).symm

/-- How often it has asked for the removal is on its record. -/
theorem removals_after (events : List (Event Answers)) :
    ((monitor setting .parent).after {} events).removals =
      events.countP asksRemoval := by
  have counted :=
    (monitor setting .parent).counted Receiving.removals asksRemoval
      (fun {receiving request answer} => ?_) {} events
  · exact counted.trans (Nat.zero_add _)
  · cases request with
    | inl call =>
        cases call with
        | _ => rfl
    | inr call => rfl

/-- Where nothing fails no failure is on the record. -/
theorem NothingFailed.recorded
    {receiving : Receiving}
    {events : List (Event Answers)}
    (nothing : NothingFailed events)
    (before : receiving.failed = false) :
    ((monitor setting .parent).after receiving events).failed = false := by
  refine (monitor setting .parent).unraised Receiving.failed failsIn ?_
    before nothing
  rintro state (call | call) answer
  · rfl
  · exact (Bool.or_false _).symm

/-- The end of the child that an answered call among all calls reports. -/
def reportedIn : Event Answers → Option WaitStatus
  | ⟨.inl call, answer⟩ => reportedBy ⟨call, answer⟩
  | ⟨.inr _, _⟩ => none

/-- A reported end stays reported: the parent does not wait again. -/
theorem reaped_stays
    {receiving : Receiving}
    {status : WaitStatus}
    {events : List (Event Answers)}
    (reaped : receiving.reaped = some status)
    (safe : (monitor setting .parent).Safe receiving events) :
    ((monitor setting .parent).after receiving events).reaped =
      some status := by
  refine (monitor setting .parent).learned Receiving.reaped reportedIn
    ?_ ?_ reaped safe
  · rintro state (call | call) answer
    · cases call <;> rfl
    · rfl
  · rintro state (call | call) answer status safe reports
    · cases call with
      | waitpid child => exact safe.2.1
      | _ => cases reports
    · cases reports

/-- A parent that looks into the queue has been told of the exit with 0. -/
theorem Contract.exited
    (contract : Contract setting state)
    {event : Event Answers}
    (member : event ∈ state.events .parent)
    (expects :
      ∀ receiving : Receiving,
        (monitor setting .parent).safe receiving event.call →
        receiving.Expects) :
    state.kernel.life = .ended (.exited 0) := by
  apply contract.holds.reaped
  have safe := contract.history .parent
  obtain ⟨before, later, split⟩ := List.append_of_mem member
  rw [split] at safe
  have here := expects _ ((monitor setting .parent).safe_at safe)
  have rest := ((monitor setting .parent).safe_append.mp safe).2
  rw [watched, split, Monitor.after_append]
  exact reaped_stays here.exited rest

/-- The message is in the queue when the success is reported. -/
theorem Contract.complete
    (contract : Contract setting state)
    {before : List (Event Answers)}
    (events :
      state.events .parent =
        before ++ [⟨.inl (.waitpid setting.child), .ok (.exited 0)⟩])
    (unasked : before.countP asksRemoval = 0) :
    state.kernel.messages = [setting.message] := by
  have safe := contract.history .parent
  rw [events] at safe
  obtain ⟨_, _, nothing⟩ := (monitor setting .parent).safe_at safe
  have told :
      watched (monitor setting) watchStart state.events .parent =
        (monitor setting .parent).next
          ((monitor setting .parent).after {} before)
          (.inl (.waitpid setting.child)) (.ok (.exited 0)) := by
    rw [watched, events, Monitor.after_append]
    rfl
  have expects :
      Receiving.Expects
        (watched (monitor setting) watchStart state.events .parent) := by
    rw [told]
    exact ⟨rfl, (removals_after before).trans unasked⟩
  have contents := (contract.holds.expected expects).2
  have received :
      (watched (monitor setting) watchStart state.events .parent).received =
        [] := by
    rw [told]
    exact nothing
  rwa [received, List.map_nil, List.nil_append] at contents

/-- The queue holds the one message or nothing. -/
theorem Contract.single
    (contract : Contract setting state) :
    state.kernel.messages = [] ∨
      state.kernel.messages = [setting.message] := by
  have joint := contract.holds
  cases removed : state.kernel.removed with
  | true => exact .inl (joint.emptied removed)
  | false =>
      have contents := joint.contents removed
      split at contents
      · rcases joint.received with nothing | received
        · rw [nothing] at contents
          exact .inr contents
        · rw [received] at contents
          exact .inl (List.cons.inj contents).2
      · exact .inl (List.append_eq_nil_iff.mp contents).2

/-- A child that exits with another code has left nothing. -/
theorem Contract.unsent
    (contract : Contract setting state)
    {code : Nat}
    (ended : state.kernel.life = .ended (.exited code))
    (nonzero : code ≠ 0) :
    state.kernel.messages = [] := by
  have joint := contract.holds
  cases removed : state.kernel.removed with
  | true => exact joint.emptied removed
  | false =>
      have contents := joint.contents removed
      have unsent :
          (watched (monitor setting) watchStart state.events
              .child).sent ≠ true :=
        fun sent => nonzero ((joint.exitCode code ended).mpr sent)
      rw [if_neg unsent] at contents
      exact (List.append_eq_nil_iff.mp contents).2

/-- The child runs on while the parent waits for it. -/
theorem Contract.childProceeds
    (contract : Contract setting state)
    (running : state.kernel.life = .running) :
    ChildProceeds setting state := by
  cases position : state.rest .child with
  | ret value =>
      have exited := contract.returned position
      exact (contract.holds.exited exited running).elim
  | cut => exact .inl position
  | call request next =>
      refine .inr ?_
      have safe := contract.safe position
      cases request with
      | inl call =>
          cases call with
          | exit status =>
              exact ⟨_, next, _, _, position, .exit running, id⟩
          | _ => exact safe.elim
      | inr call =>
          cases call with
          | msgsnd queue message =>
              refine ⟨_, next, _, _, position,
                .sendFailed running .eagain, ?_⟩
              intro interrupted
              exact absurd (Except.error.inj interrupted) (by decide)

/-- What is on the parent's record was allowed where it was answered. -/
theorem allowed_at
    {fuel : Nat}
    (reaches : Reaches (rules setting) (start setting fuel) state)
    {before later : List (Event Answers)}
    {event : Event Answers}
    (split : state.events .parent = before ++ event :: later) :
    (monitor setting .parent).allows
      ((monitor setting .parent).after {} before) event.call
      event.answer := by
  have legal := Contract.legal reaches .parent
  rw [split] at legal
  exact ((monitor setting .parent).legal_append.mp legal).2.1

/--
Whatever the schedule: the message is sent at most once, received at most once
and whole, both counts are what the parent expects, the parent removes the
queue once, and neither process waits for the other for good.
-/
theorem sysv_handover
    {setting : Setting}
    {fuel : Nat}
    {state : State}
    (reaches : Reaches (rules setting) (start setting fuel) state) :
    SysvHandover setting state := by
  have contract := Contract.reaches reaches
  have recorded :
      receivedIn (state.events .parent) =
        (watched (monitor setting) watchStart state.events
          .parent).received :=
    (received_after _).symm
  constructor
  case single => exact contract.single
  case complete => exact fun before => contract.complete
  case unsent => exact fun code => contract.unsent
  case received =>
    rw [recorded]
    exact contract.holds.received
  case counted =>
    intro before queue count later split
    rw [← received_after before]
    exact allowed_at reaches split count rfl
  case found =>
    intro queue member
    obtain ⟨before, later, split⟩ := List.append_of_mem member
    exact allowed_at reaches split rfl
  case neverEarly =>
    rintro notExited ⟨request, answer⟩ member queue
    constructor
    · rintro rfl
      exact notExited (contract.exited member fun _ safe => safe.2)
    · rintro rfl
      exact notExited (contract.exited member fun _ safe => safe.2.1)
  case waits =>
    intro child next position
    obtain ⟨rfl, _⟩ := contract.safe position
    exact ⟨contract.childProceeds, fun status ended => .wait ended⟩
  case removedOnce =>
    intro result position
    rw [← removals_after]
    exact (contract.returned position).removals
  case success =>
    intro position
    obtain ⟨reaped, received, removed⟩ :=
      (contract.returned position).success rfl
    have gone := contract.holds.removed.trans removed
    exact ⟨contract.holds.reaped _ reaped, recorded.trans received, gone,
      contract.holds.emptied gone⟩
  case payload =>
    intro result position exited nothing
    obtain ⟨status, reaped, succeeds⟩ :=
      (contract.returned position).nothingFailed (nothing.recorded rfl)
    have ended := contract.holds.reaped status reaped
    rw [exited] at ended
    exact succeeds (ChildLife.ended.inj ended).symm

/-- One byte through the queue 5, with the child 731. -/
def oneByte : Setting where
  text := [104]
  queueId := 5
  child := ⟨731, Nat.succ_pos 730⟩
  created := by decide
  fits := by decide

/-- The byte arrives, and the parent returns with success. -/
theorem sysv_handover_oneByte :
    ∃ state,
      Reaches (rules oneByte) (start oneByte 2) state ∧
        state.rest .parent = .ret .success ∧
        SysvHandover oneByte state := by
  have start : Reaches (rules oneByte) (start oneByte 2) (start oneByte 2) :=
    .refl
  have interrupted :=
    start.call .child rfl (.error .eintr) (.sendFailed rfl .eintr)
  have sent := interrupted.call .child rfl (.ok ()) (.send rfl rfl)
  have exited := sent.call .child rfl () (.exit rfl)
  have reaped := exited.call .parent rfl (.ok (.exited 0)) (.wait rfl)
  have counted := reaped.call .parent rfl (.ok 1) (.stat rfl)
  have received :=
    counted.call .parent rfl (.ok [104])
      (.receive rfl ⟨[], [], rfl, rfl, nofun⟩ (by decide))
  have emptied := received.call .parent rfl (.ok 0) (.stat rfl)
  have removed := emptied.call .parent rfl (.ok ()) (.remove rfl)
  exact ⟨_, removed, rfl, sysv_handover removed⟩

end AdvanceUnix.SysvMessageQueue.Handover
