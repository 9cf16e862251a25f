import AdvanceUnix.SharedHandover

namespace AdvanceUnix.SharedMemory.Handover

open CallTree ChildProcess Processes
open FdPassing.Handover (ChildLife)

/-!
# The hand-over through the shared memory

The semaphore hands the structure to the child: what it holds and what the
child has taken from it add up to what the parent has posted.  The end of the
child hands the structure back.
-/

/-- A call of the parent that has failed. -/
def Fails : (request : Syscall) → Answer request → Bool
  | .semPost, answer => (answer : Result Unit).toOption.isNone
  | .waitpid _, answer =>
      FailsFor (fun _ => true) (answer : Result WaitStatus)
  | .semDestroy, answer => (answer : Result Unit).toOption.isNone
  | .munmap, answer => (answer : Result Unit).toOption.isNone
  | _, _ => false

/-- What the parent has done and been told. -/
structure Posting where
  posted : Bool := false
  signalled : Bool := false
  reaped : Option WaitStatus := none
  loaded : List Int := []
  waitFailed : Bool := false
  failed : Bool := false

/-- Follow one answered call of the parent. -/
def Posting.next
    (posting : Posting) : (request : Syscall) → Answer request → Posting
  | .semPost, answer =>
      { posting with
        posted := posting.posted || (answer : Result Unit).toOption.isSome
        failed := posting.failed || Fails .semPost answer }
  | .kill _ _, _ => { posting with signalled := true }
  | .waitpid child, answer =>
      { posting with
        reaped := (answer : Result WaitStatus).toOption.or posting.reaped
        waitFailed := posting.waitFailed || Fails (.waitpid child) answer
        failed := posting.failed || Fails (.waitpid child) answer }
  | .loadOutput, answer =>
      { posting with loaded := posting.loaded ++ [(answer : Int)] }
  | request, answer =>
      { posting with failed := posting.failed || Fails request answer }

variable (childPid : Pid)

/-- The child does not use the structure any more, as far as can be known. -/
def Posting.Settled (posting : Posting) : Prop :=
  posting.reaped ≠ none ∨ posting.waitFailed = true

/--
When the parent may do what: it waits only for a child that has got its post or
a signal, and uses the structure only after that.
-/
def Posting.Safe (posting : Posting) : Syscall → Prop
  | .semPost => posting.posted = false ∧ posting.reaped = none
  | .kill child signal =>
      child = childPid ∧ signal = .sigkill ∧ posting.reaped = none
  | .waitpid child =>
      child = childPid ∧ posting.reaped = none ∧
        (posting.posted = true ∨ posting.signalled = true)
  | .loadOutput => posting.reaped ≠ none
  | .semDestroy => posting.Settled
  | .munmap => posting.Settled
  | _ => False

/-- What the parent may then be answered. -/
def Posting.Allows
    (posting : Posting) : (request : Syscall) → Answer request → Prop
  | .loadOutput, answer =>
      posting.reaped = some (.exited 0) → (answer : Int) = 42
  | _, _ => True

/-- What the child has done. -/
structure Computing where
  waited : Bool := false
  stored : Bool := false
  exited : Bool := false

/-- Follow one answered call of the child. -/
def Computing.next
    (computing : Computing) :
    (request : Request) → Answers request → Computing
  | .inr .semWait, answer =>
      { computing with
        waited := computing.waited || (answer : Result Unit).toOption.isSome }
  | .inr (.storeOutput _), _ => { computing with stored := true }
  | .inl (.exit _), _ => { computing with exited := true }
  | _, _ => computing

/--
The child uses the structure only after it has waited, and exits with 0 exactly
if it has stored the product.
-/
def Computing.Safe (computing : Computing) : Request → Prop
  | .inr .semWait => computing.waited = false
  | .inr .loadInput => computing.waited = true
  | .inr (.storeOutput value) => computing.waited = true ∧ value = 42
  | .inl .munmap => True
  | .inl (.exit status) => status = 0 ↔ computing.stored = true
  | _ => False

/-- What the child is answered. -/
def Computing.Allows : (request : Request) → Answers request → Prop
  | .inr .loadInput, answer => (answer : Int) = 21
  | _, _ => True

/-- The state of each monitor. -/
@[reducible] def Watch : Role → Type
  | .parent => Posting
  | .child => Computing

/-- The monitor of the parent. -/
def postingMonitor : Monitor Answer Posting :=
  ⟨Posting.next, Posting.Allows, Posting.Safe childPid⟩

/-- The monitors of both processes. -/
def monitor : (role : Role) → Monitor Answers (Watch role)
  | .parent => (postingMonitor childPid).extended ChildAnswer
  | .child => ⟨Computing.next, fun _ => Computing.Allows, Computing.Safe⟩

/-- Both monitors at `fork`. -/
def watchStart : (role : Role) → Watch role
  | .parent => {}
  | .child => {}

/-- What the parent knows when it returns. -/
structure Returned (result : Exit) (posting : Posting) : Prop where
  verdict :
    result = .success ↔
      posting.reaped = some (.exited 0) ∧ posting.failed = false
  reaped : posting.failed = false → posting.reaped ≠ none
  posted : result = .success → posting.posted = true

/-- What the processes establish when they return. -/
def post : (role : Role) → Outcome role → Watch role → Prop
  | .parent => Returned
  | .child => fun _ computing => computing.exited = true

/-- The kernel and what the processes know. -/
structure Joint
    (kernel : Kernel)
    (watch : (role : Role) → Watch role) : Prop where
  input : kernel.input = 21
  tokens :
    kernel.valueReady + (watch .child).waited.toNat =
      (watch .parent).posted.toNat
  output : kernel.output = if (watch .child).stored then 42 else 0
  signalled : (watch .parent).signalled = true → kernel.life ≠ .running
  reaped :
    ∀ status,
      (watch .parent).reaped = some status →
      kernel.life = .ended status
  loaded :
    ∀ value ∈ (watch .parent).loaded,
      value = kernel.output ∧ kernel.life ≠ .running
  exitCode :
    ∀ code,
      kernel.life = .ended (.exited code) →
      (code = 0 ↔ (watch .child).stored = true)
  exited : (watch .child).exited = true → kernel.life ≠ .running

section Child

variable {childPid : Pid}

/-- The child has waited, or waiting has failed. -/
theorem waitForSemaphore_ensures :
    waitForSemaphore.Ensures (monitor childPid .child)
      (fun result after => after = { waited := result.toOption.isSome })
      {} := by
  refine .retry (fun current => current = {}) ?_ rfl
  rintro _ rfl
  refine .request rfl ?_
  intro answer _
  cases answer with
  | error error => exact ⟨fun _ => rfl, fun _ => rfl⟩
  | ok done => exact rfl

/-- The child keeps its side. -/
theorem child_ensures :
    child.Ensures (monitor childPid .child) (post .child) {} := by
  refine .bind (waitForSemaphore_ensures.mono ?_)
  rintro (error | done) _ rfl
  · refine .request ?_ fun _ _ => rfl
    exact iff_of_false (by decide) Bool.false_ne_true
  refine .request_bind rfl ?_
  intro input loaded
  obtain rfl : input = 21 := loaded
  refine .request_bind ⟨rfl, rfl⟩ ?_
  intro stored _
  refine .request_bind trivial ?_
  intro unmapped _
  exact .request (iff_of_true rfl rfl) fun _ _ => rfl

end Child

section Parent

variable {childPid : Pid} {posting : Posting}

/-- Waiting reports a status, or fails. -/
theorem waitForChild_ensures
    (reaped : posting.reaped = none)
    (woken : posting.posted = true ∨ posting.signalled = true) :
    (waitForChild childPid).Ensures (postingMonitor childPid)
      (fun result after =>
        result.Meets
          (fun _ =>
            after = { posting with waitFailed := true, failed := true })
          (fun status => after = { posting with reaped := some status }))
      posting := by
  refine retryEintr_ensures (fun current => current = posting) ?_ rfl
  rintro current rfl
  refine .request ⟨rfl, reaped, woken⟩ ?_
  intro answer _
  cases answer with
  | error error =>
      refine ⟨?_, ?_⟩
      · rintro rfl
        simp [postingMonitor, Posting.next, Fails, FailsFor,
          Except.toOption]
      · intro permanent
        simp [postingMonitor, Posting.next, Fails, FailsFor,
          Except.toOption, Result.Meets, permanent]
  | ok status =>
      simp [postingMonitor, Posting.next, Fails, FailsFor, Except.toOption,
        Result.Meets]

/-- The child is killed and waited for; it does not matter how that ends. -/
theorem terminateAndReap_ensures
    (reaped : posting.reaped = none)
    (failed : posting.failed = true) :
    (terminateAndReap childPid).Ensures (postingMonitor childPid)
      (fun _ after => after.Settled ∧ after.failed = true) posting := by
  refine .request_bind ⟨rfl, rfl, reaped⟩ ?_
  intro killed _
  refine .bind (.mono (waitForChild_ensures reaped (.inr rfl)) ?_)
  rintro (error | status) after waited
  · obtain rfl := waited
    exact .pure ⟨.inr rfl, rfl⟩
  · obtain rfl := waited
    exact .pure ⟨.inl nofun, failed⟩

/-- A release of the structure after a failure. -/
theorem giveUp_ensures
    (settled : posting.Settled)
    (failed : posting.failed = true) :
    giveUp.Ensures (postingMonitor childPid) Returned posting := by
  refine .request_bind settled ?_
  intro destroyed _
  refine .request_bind settled ?_
  intro unmapped _
  have stays :
      (posting.failed || Fails .semDestroy destroyed ||
        Fails .munmap unmapped) = true := by
    rw [failed]
    rfl
  refine .pure ⟨iff_of_false nofun ?_, ?_, nofun⟩
  · rintro ⟨_, fine⟩
    exact Bool.noConfusion (stays.symm.trans fine)
  · exact fun fine => Bool.noConfusion (stays.symm.trans fine)

/-- The parent of a child that it has waited for. -/
theorem verify_ensures
    {status : WaitStatus}
    (posted : posting.posted = true)
    (reaped : posting.reaped = some status)
    (failed : posting.failed = false) :
    (verify status).Ensures (postingMonitor childPid) Returned posting := by
  have isReaped : posting.reaped ≠ none := by
    rw [reaped]
    exact nofun
  have settled : posting.Settled := .inl isReaped
  refine .request_bind isReaped ?_
  intro output loaded
  refine .request_bind settled ?_
  rintro (error | ⟨⟩) _
  · refine .request_bind settled ?_
    intro unmapped _
    refine .pure ⟨iff_of_false nofun ?_, ?_, nofun⟩
    · rintro ⟨_, fine⟩
      simp [postingMonitor, Posting.next, Fails, Except.toOption] at fine
    · intro fine
      simp [postingMonitor, Posting.next, Fails, Except.toOption] at fine
  refine .request_bind settled ?_
  rintro (error | ⟨⟩) _
  · refine .pure ⟨iff_of_false nofun ?_, ?_, nofun⟩
    · rintro ⟨_, fine⟩
      simp [postingMonitor, Posting.next, Fails, Except.toOption] at fine
    · intro fine
      simp [postingMonitor, Posting.next, Fails, Except.toOption] at fine
  have unfailed :
      (posting.failed || Fails .semDestroy (.ok ()) ||
        Fails .munmap (.ok ())) = false := by
    rw [failed]
    rfl
  refine .pure ⟨?_, fun _ => isReaped, fun _ => posted⟩
  by_cases succeeded : status.succeeded
  · obtain rfl : status = .exited 0 := eq_of_beq succeeded
    obtain rfl : output = 42 := loaded reaped
    exact iff_of_true rfl ⟨reaped, unfailed⟩
  · refine iff_of_false ?_ ?_
    · simp [succeeded]
    · rintro ⟨same, _⟩
      obtain rfl : status = .exited 0 :=
        Option.some.inj (reaped.symm.trans same)
      exact succeeded rfl

/-- The parent keeps its side. -/
theorem parent_ensures :
    (parent childPid).Ensures (postingMonitor childPid) Returned {} := by
  refine .request_bind ⟨rfl, rfl⟩ ?_
  rintro (error | ⟨⟩) _
  · refine .bind (.mono (terminateAndReap_ensures rfl rfl) ?_)
    rintro _ after ⟨settled, failed⟩
    exact giveUp_ensures settled failed
  refine .bind (.mono (waitForChild_ensures rfl (.inl rfl)) ?_)
  rintro (error | status) after waited
  · obtain rfl := waited
    refine .bind (.mono (terminateAndReap_ensures rfl rfl) ?_)
    rintro _ after ⟨settled, failed⟩
    exact giveUp_ensures settled failed
  · obtain rfl := waited
    exact verify_ensures rfl rfl rfl

end Parent

section Kernel

variable {childPid : Pid} {kernel : Kernel}
  {watch : (role : Role) → Watch role}

/-- What the parent is told by a call that leaves the kernel alone. -/
theorem Joint.parentTold
    (joint : Joint kernel watch)
    {told : Posting}
    (posted : told.posted = (watch .parent).posted)
    (signalled : told.signalled = true → kernel.life ≠ .running)
    (reaped :
      ∀ status, told.reaped = some status → kernel.life = .ended status)
    (loaded :
      ∀ value ∈ told.loaded,
        value = kernel.output ∧ kernel.life ≠ .running) :
    Joint kernel (Function.update watch .parent told) where
  input := joint.input
  tokens := by
    rw [Function.update_self, Function.update_of_ne (by decide), posted]
    exact joint.tokens
  output := by
    rw [Function.update_of_ne (by decide)]
    exact joint.output
  signalled := by
    rw [Function.update_self]
    exact signalled
  reaped := by
    rw [Function.update_self]
    exact reaped
  loaded := by
    rw [Function.update_self]
    exact loaded
  exitCode := by
    rw [Function.update_of_ne (by decide)]
    exact joint.exitCode
  exited := by
    rw [Function.update_of_ne (by decide)]
    exact joint.exited

/-- The parent posts: the semaphore holds what the child has not yet taken. -/
theorem Joint.parentPosts
    (joint : Joint kernel watch)
    (unposted : (watch .parent).posted = false)
    (failed : Bool) :
    Joint { kernel with valueReady := kernel.valueReady + 1 }
      (Function.update watch .parent
        { watch .parent with posted := true, failed := failed }) where
  input := joint.input
  tokens := by
    have tokens := joint.tokens
    rw [unposted] at tokens
    rw [Function.update_self, Function.update_of_ne (by decide)]
    change kernel.valueReady + 1 + (watch .child).waited.toNat = 1
    rw [Nat.add_right_comm, tokens]
    rfl
  output := by
    rw [Function.update_of_ne (by decide)]
    exact joint.output
  signalled := by
    rw [Function.update_self]
    exact joint.signalled
  reaped := by
    rw [Function.update_self]
    exact joint.reaped
  loaded := by
    rw [Function.update_self]
    exact joint.loaded
  exitCode := by
    rw [Function.update_of_ne (by decide)]
    exact joint.exitCode
  exited := by
    rw [Function.update_of_ne (by decide)]
    exact joint.exited

/-- A killed child has ended. -/
theorem kill_ended (life : ChildLife) : life.kill ≠ .running := by
  cases life with
  | running => exact nofun
  | ended status => exact nofun

/-- If it has exited, it had done so before. -/
theorem exited_of_kill
    {life : ChildLife}
    {code : Nat}
    (exited : life.kill = .ended (.exited code)) :
    life = .ended (.exited code) := by
  cases life with
  | running => cases exited
  | ended status => exact exited

/-- The parent kills a child that it has not waited for. -/
theorem Joint.parentKills
    (joint : Joint kernel watch)
    (unreaped : (watch .parent).reaped = none) :
    Joint { kernel with life := kernel.life.kill }
      (Function.update watch .parent
        { watch .parent with signalled := true }) where
  input := joint.input
  tokens := by
    rw [Function.update_self, Function.update_of_ne (by decide)]
    exact joint.tokens
  output := by
    rw [Function.update_of_ne (by decide)]
    exact joint.output
  signalled := fun _ => kill_ended kernel.life
  reaped := by
    rw [Function.update_self]
    intro status reaped
    exact nomatch unreaped.symm.trans reaped
  loaded := by
    rw [Function.update_self]
    exact fun value loaded =>
      ⟨(joint.loaded value loaded).1, kill_ended kernel.life⟩
  exitCode := by
    rw [Function.update_of_ne (by decide)]
    exact fun code exited => joint.exitCode code (exited_of_kill exited)
  exited := fun _ => kill_ended kernel.life

/-- What a running child is told. -/
theorem Joint.childTold
    (joint : Joint kernel watch)
    (running : kernel.life = .running)
    {told : Computing}
    {valueReady : Nat}
    {output : Int}
    (tokens :
      valueReady + told.waited.toNat = (watch .parent).posted.toNat)
    (stored : output = if told.stored then 42 else 0)
    (exited : told.exited = (watch .child).exited) :
    Joint { kernel with valueReady := valueReady, output := output }
      (Function.update watch .child told) where
  input := joint.input
  tokens := by
    rw [Function.update_self, Function.update_of_ne (by decide)]
    exact tokens
  output := by
    rw [Function.update_self]
    exact stored
  signalled := by
    rw [Function.update_of_ne (by decide)]
    exact joint.signalled
  reaped := by
    rw [Function.update_of_ne (by decide)]
    exact joint.reaped
  loaded := by
    rw [Function.update_of_ne (by decide)]
    exact fun value loaded =>
      ((joint.loaded value loaded).2 running).elim
  exitCode := by
    intro code ended
    exact nomatch running.symm.trans ended
  exited := by
    rw [Function.update_self, exited]
    exact joint.exited

/-- A running child ends: by exiting, it tells whether it has stored. -/
theorem Joint.childEnded
    (joint : Joint kernel watch)
    (running : kernel.life = .running)
    {status : WaitStatus}
    {told : Computing}
    (waited : told.waited = (watch .child).waited)
    (stored : told.stored = (watch .child).stored)
    (exitCode :
      ∀ code, status = .exited code → (code = 0 ↔ told.stored = true)) :
    Joint (kernel.ended status) (Function.update watch .child told) where
  input := joint.input
  tokens := by
    rw [Function.update_self, Function.update_of_ne (by decide), waited]
    exact joint.tokens
  output := by
    rw [Function.update_self, stored]
    exact joint.output
  signalled := fun _ => nofun
  reaped := by
    rw [Function.update_of_ne (by decide)]
    intro reported reaped
    exact nomatch running.symm.trans (joint.reaped reported reaped)
  loaded := by
    rw [Function.update_of_ne (by decide)]
    exact fun value loaded =>
      ((joint.loaded value loaded).2 running).elim
  exitCode := by
    rw [Function.update_self]
    exact fun code ended => exitCode code (ChildLife.ended.inj ended)
  exited := fun _ => nofun

/-- An answer is allowed and keeps the account. -/
theorem Joint.answered
    (joint : Joint kernel watch)
    {role : Role}
    {request : Request}
    {answer : Answers request}
    {after : Kernel}
    (safe : (monitor childPid role).safe (watch role) request)
    (given : (rules childPid).answers kernel role request answer after) :
    (monitor childPid role).allows (watch role) request answer ∧
      Joint after
        (Function.update watch role
          ((monitor childPid role).next (watch role) request answer)) := by
  cases given with
  | postFailed error =>
      exact ⟨trivial, joint.parentTold (Bool.or_false _) joint.signalled
        joint.reaped joint.loaded⟩
  | post =>
      refine ⟨trivial, ?_⟩
      have told := joint.parentPosts safe.1
        ((watch .parent).failed || false)
      have posted : ((watch .parent).posted || true) = true :=
        Bool.or_true _
      rw [← posted] at told
      exact told
  | waitFailed error =>
      exact ⟨trivial, joint.parentTold rfl joint.signalled joint.reaped
        joint.loaded⟩
  | wait ended =>
      refine ⟨trivial, joint.parentTold rfl joint.signalled ?_
        joint.loaded⟩
      rintro status ⟨⟩
      exact ended
  | killFailed error gone =>
      exact ⟨trivial, joint.parentTold rfl (fun _ => gone) joint.reaped
        joint.loaded⟩
  | kill => exact ⟨trivial, joint.parentKills safe.2.2⟩
  | loadOutput =>
      obtain ⟨status, reaped⟩ := Option.ne_none_iff_exists'.mp safe
      have ended := joint.reaped status reaped
      refine ⟨fun succeeded => ?_, joint.parentTold rfl joint.signalled
        joint.reaped ?_⟩
      · have exited := joint.reaped _ succeeded
        have stored := (joint.exitCode 0 exited).mp rfl
        have output := joint.output
        rwa [if_pos stored] at output
      · intro value member
        rcases List.mem_append.mp member with before | last
        · exact joint.loaded value before
        · obtain rfl := List.mem_singleton.mp last
          exact ⟨rfl, ended ▸ nofun⟩
  | semDestroy answer =>
      exact ⟨trivial, joint.parentTold rfl joint.signalled joint.reaped
        joint.loaded⟩
  | parentUnmaps answer =>
      exact ⟨trivial, joint.parentTold rfl joint.signalled joint.reaped
        joint.loaded⟩
  | semWaitFailed running error =>
      refine ⟨trivial, joint.childTold running ?_ joint.output rfl⟩
      have same :
          ((watch .child).waited || false) = (watch .child).waited :=
        Bool.or_false _
      exact (congrArg (fun waited : Bool => kernel.valueReady + waited.toNat)
        same).trans joint.tokens
  | @semWait count running ready =>
      refine ⟨trivial, joint.childTold running ?_ joint.output rfl⟩
      have tokens := joint.tokens
      have unwaited : (watch .child).waited = false := safe
      rw [unwaited, ready] at tokens
      change count + ((watch .child).waited || true).toNat = _
      rw [Bool.or_true]
      exact tokens
  | loadInput running =>
      exact ⟨joint.input, joint.childTold running joint.tokens
        joint.output rfl⟩
  | storeOutput running =>
      obtain ⟨_, rfl⟩ := safe
      exact ⟨trivial, joint.childTold running joint.tokens rfl rfl⟩
  | childUnmaps running answer =>
      exact ⟨trivial, joint.childTold running joint.tokens joint.output
        rfl⟩
  | exit running =>
      refine ⟨trivial, joint.childEnded running rfl rfl ?_⟩
      rintro code ⟨⟩
      exact safe

/-- The child may be killed at any moment. -/
theorem Joint.evolved
    (joint : Joint kernel watch)
    {after : Kernel}
    (evolved : (rules childPid).evolves kernel after) :
    Joint after watch := by
  cases evolved with
  | childKilled signal running =>
      have ended :
          Joint (kernel.ended (.signaled signal))
            (Function.update watch .child (watch .child)) :=
        joint.childEnded running rfl rfl nofun
      rwa [Function.update_eq_self] at ended

/-- The contract of the two processes. -/
abbrev Contract (childPid : Pid) (state : State) : Prop :=
  Composed (monitor childPid) watchStart Joint post state

/-- The contract holds at `fork`. -/
theorem Contract.start (fuel : Nat) :
    Contract childPid (Handover.start childPid fuel) := by
  apply Composed.start
  · exact ⟨rfl, rfl, rfl, nofun, nofun, nofun, nofun, nofun⟩
  · intro role
    cases role with
    | parent => exact .extended (parent_ensures fuel)
    | child => exact child_ensures fuel

/-- The contract holds of every state that is reached. -/
theorem Contract.reaches
    {fuel : Nat}
    {state : State}
    (reaches :
      Reaches (rules childPid) (Handover.start childPid fuel) state) :
    Contract childPid state :=
  Composed.reaches
    (fun joint safe given => joint.answered safe given)
    (fun joint evolved => joint.evolved evolved)
    (Contract.start fuel) reaches

end Kernel

end AdvanceUnix.SharedMemory.Handover
