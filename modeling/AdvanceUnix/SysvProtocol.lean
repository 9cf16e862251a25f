import AdvanceUnix.SysvHandover

namespace AdvanceUnix.SysvMessageQueue.Handover

open CallTree ChildProcess Processes
open FdPassing.Handover (ChildLife)

/-!
# The hand-over through the message queue

The child exits with 0 exactly if it has sent its message, and the parent asks
for it only after it has been told so.  What the parent has received and what
is left in the queue are then that one message.
-/

/-- A call of the parent that has failed. -/
def Fails : (request : Syscall) → Answer request → Bool
  | .waitpid _, answer =>
      match (answer : Result WaitStatus) with
      | .error error => error ≠ .eintr
      | .ok _ => false
  | .msgrcv _, answer =>
      match (answer : Result (List UInt8)) with
      | .error error => error ≠ .eintr
      | .ok _ => false
  | .msgctlStat _, answer => (answer : Result Nat).toOption.isNone
  | .msgctlRmid _, answer => (answer : Result Unit).toOption.isNone
  | _, _ => false

/-- What the parent has been told, and how often it asked for the removal. -/
structure Receiving where
  reaped : Option WaitStatus := none
  received : List (List UInt8) := []
  removals : Nat := 0
  removed : Bool := false
  failed : Bool := false

/-- Follow one answered call of the parent. -/
def Receiving.next
    (receiving : Receiving)
    (request : Syscall)
    (answer : Answer request) : Receiving where
  reaped :=
    match request with
    | .waitpid _ => (answer : Result WaitStatus).toOption.or receiving.reaped
    | _ => receiving.reaped
  received :=
    match request with
    | .msgrcv _ =>
        receiving.received ++
          (answer : Result (List UInt8)).toOption.toList
    | _ => receiving.received
  removals :=
    match request with
    | .msgctlRmid _ => receiving.removals + 1
    | _ => receiving.removals
  removed :=
    match request with
    | .msgctlRmid _ =>
        receiving.removed || (answer : Result Unit).toOption.isSome
    | _ => receiving.removed
  failed := receiving.failed || Fails request answer

variable (setting : Setting)

/-- The child has sent its message, and the queue is still there. -/
structure Receiving.Expects (receiving : Receiving) : Prop where
  exited : receiving.reaped = some (.exited 0)
  present : receiving.removals = 0

/-- When the parent may wait, look into the queue, receive and remove it. -/
def Receiving.Safe (receiving : Receiving) : Syscall → Prop
  | .waitpid child =>
      child = setting.child ∧
        receiving.reaped = none ∧ receiving.received = []
  | .kill child _ => child = setting.child ∧ receiving.reaped = none
  | .msgctlStat queue =>
      queue = setting.queueId ∧ receiving.Expects
  | .msgrcv queue =>
      queue = setting.queueId ∧ receiving.Expects ∧ receiving.received = []
  | .msgctlRmid queue => queue = setting.queueId ∧ receiving.removals = 0
  | _ => False

/-- What the parent may then be answered. -/
def Receiving.Allows
    (receiving : Receiving) : (request : Syscall) → Answer request → Prop
  | .msgctlStat _, answer =>
      ∀ count,
        (answer : Result Nat) = .ok count →
        receiving.received.length + count = 1
  | .msgrcv _, answer =>
      match (answer : Result (List UInt8)) with
      | .error error => error ≠ enomsg
      | .ok text => text = setting.text
  | _, _ => True

/-- What the child has been told. -/
structure Sending where
  sent : Bool := false
  exited : Bool := false

/-- Follow one answered call of the child. -/
def Sending.next
    (sending : Sending) : (request : Request) → Answers request → Sending
  | .inr (.msgsnd _ _), answer =>
      { sending with
        sent := sending.sent || (answer : Result Unit).toOption.isSome }
  | .inl (.exit _), _ => { sending with exited := true }
  | _, _ => sending

/-- The child sends its message once and exits with 0 exactly if it has. -/
def Sending.Safe (sending : Sending) : Request → Prop
  | .inr (.msgsnd queue message) =>
      queue = setting.queueId ∧
        message = ⟨messageType, setting.text⟩ ∧ sending.sent = false
  | .inl (.exit status) => status = 0 ↔ sending.sent = true
  | _ => False

/-- The state of each monitor. -/
@[reducible] def Watch : Role → Type
  | .parent => Receiving
  | .child => Sending

/-- The monitor of the parent. -/
def receivingMonitor : Monitor Answer Receiving :=
  ⟨Receiving.next, Receiving.Allows setting, Receiving.Safe setting⟩

/-- The monitors of both processes. -/
def monitor : (role : Role) → Monitor Answers (Watch role)
  | .parent => (receivingMonitor setting).extended SendAnswer
  | .child => ⟨Sending.next, fun _ _ _ => True, Sending.Safe setting⟩

/-- Both monitors at `fork`. -/
def watchStart : (role : Role) → Watch role
  | .parent => {}
  | .child => {}

/-- What the parent knows when it returns. -/
structure Returned
    (setting : Setting)
    (result : Exit)
    (receiving : Receiving) : Prop where
  removals : receiving.removals = 1
  success :
    result = .success →
    receiving.reaped = some (.exited 0) ∧
      receiving.received = [setting.text] ∧ receiving.removed = true
  nothingFailed :
    receiving.failed = false →
    ∃ status,
      receiving.reaped = some status ∧
        (status = .exited 0 → result = .success)

/-- What the processes establish when they return. -/
def post : (role : Role) → Outcome role → Watch role → Prop
  | .parent => fun result => Returned setting result
  | .child => fun _ sending => sending.exited = true

/-- The one message that the child sends. -/
def Setting.message : Message where
  type := messageType
  text := setting.text

/-- The kernel and what the processes know. -/
structure Joint
    (kernel : Kernel)
    (watch : (role : Role) → Watch role) : Prop where
  contents :
    kernel.removed = false →
    (watch .parent).received.map (Message.mk messageType) ++
        kernel.messages =
      if (watch .child).sent then [setting.message] else []
  emptied : kernel.removed = true → kernel.messages = []
  received :
    (watch .parent).received = [] ∨
      (watch .parent).received = [setting.text]
  removed : kernel.removed = (watch .parent).removed
  unasked : (watch .parent).removals = 0 → kernel.removed = false
  reaped :
    ∀ status,
      (watch .parent).reaped = some status →
      kernel.life = .ended status
  exitCode :
    ∀ code,
      kernel.life = .ended (.exited code) →
      (code = 0 ↔ (watch .child).sent = true)
  exited : (watch .child).exited = true → kernel.life ≠ .running

section Child

variable {setting : Setting}

/-- The child sends until it is told a result. -/
theorem msgsnd_ensures :
    (Program.retry (· = Errno.eintr)
        (invoke (.inr
          (.msgsnd setting.held.queueId
            ⟨messageType, setting.text⟩)))).Ensures
      (monitor setting .child)
      (fun result after =>
        after = { sent := result.toOption.isSome, exited := false })
      {} := by
  refine .retry (fun current => current = {}) ?_ rfl
  rintro _ rfl
  refine .request ⟨rfl, rfl, rfl⟩ ?_
  intro answer _
  cases answer with
  | error error => exact ⟨fun _ => rfl, fun _ => rfl⟩
  | ok done => exact rfl

/-- The child keeps its side. -/
theorem child_ensures :
    (child setting.text setting.held).Ensures (monitor setting .child)
      (post setting .child) {} := by
  refine .bind (msgsnd_ensures.mono ?_)
  rintro result _ rfl
  refine .request ?_ fun _ _ => rfl
  cases result with
  | error error => simp [monitor, Sending.Safe, Except.toOption]
  | ok done => simp [monitor, Sending.Safe, Except.toOption]

end Child

section Parent

variable {setting : Setting} {receiving : Receiving}

/-- Waiting reports a status, or fails. -/
theorem waitForChild_ensures
    (reaped : receiving.reaped = none)
    (received : receiving.received = []) :
    (waitForChild setting.child).Ensures (receivingMonitor setting)
      (fun result after =>
        result.Meets (fun _ => after = { receiving with failed := true })
          (fun status => after = { receiving with reaped := some status }))
      receiving := by
  refine retryEintr_ensures (fun current => current = receiving) ?_ rfl
  rintro current rfl
  refine .request ⟨rfl, reaped, received⟩ ?_
  intro answer _
  cases answer with
  | error error =>
      refine ⟨?_, ?_⟩
      · rintro rfl
        simp [receivingMonitor, Receiving.next, Fails, Except.toOption]
      · intro permanent
        simp [receivingMonitor, Receiving.next, Fails, Except.toOption,
          Result.Meets, permanent]
  | ok status =>
      simp [receivingMonitor, Receiving.next, Fails, Except.toOption,
        Result.Meets]

/-- The queue tells how many messages it holds. -/
theorem msgctlStat_ensures
    (expects : receiving.Expects) :
    (Syscall.invoke (.msgctlStat setting.queueId)).Ensures
      (receivingMonitor setting)
      (fun result after =>
        result.Meets (fun _ => after = { receiving with failed := true })
          (fun count =>
            receiving.received.length + count = 1 ∧ after = receiving))
      receiving := by
  refine .request ⟨rfl, expects⟩ ?_
  intro answer allowed
  cases answer with
  | error error =>
      simp [receivingMonitor, Receiving.next, Fails, Except.toOption,
        Result.Meets]
  | ok count =>
      refine ⟨allowed count rfl, ?_⟩
      simp [receivingMonitor, Receiving.next, Fails, Except.toOption]

/-- The message is there, and received whole. -/
theorem msgrcv_ensures
    (expects : receiving.Expects)
    (nothing : receiving.received = []) :
    (retryEintr (Syscall.invoke (.msgrcv setting.queueId))).Ensures
      (receivingMonitor setting)
      (fun result after =>
        result.Meets (fun _ => after = { receiving with failed := true })
          (fun text =>
            text = setting.text ∧
              after = { receiving with received := [setting.text] }))
      receiving := by
  refine retryEintr_ensures (fun current => current = receiving) ?_ rfl
  rintro current rfl
  refine .request ⟨rfl, expects, nothing⟩ ?_
  intro answer allowed
  cases answer with
  | error error =>
      refine ⟨?_, ?_⟩
      · rintro rfl
        simp [receivingMonitor, Receiving.next, Fails, Except.toOption]
      · intro permanent
        simp [receivingMonitor, Receiving.next, Fails, Except.toOption,
          Result.Meets, permanent]
  | ok text =>
      refine ⟨allowed, ?_⟩
      obtain rfl : text = setting.text := allowed
      simp [receivingMonitor, Receiving.next, Fails, Except.toOption, nothing]

/-- The queue has been removed, or that has failed. -/
structure Removed
    (receiving : Receiving)
    (result final : Exit)
    (after : Receiving) : Prop where
  reaped : after.reaped = receiving.reaped
  received : after.received = receiving.received
  removals : after.removals = 1
  success : final = .success → result = .success ∧ after.removed = true
  nothingFailed :
    after.failed = false → final = result ∧ receiving.failed = false

/-- The queue is removed once. -/
theorem remove_ensures
    (present : receiving.removals = 0)
    (result : Exit) :
    (release (setting.queueId ≥ 0)
        (Syscall.invoke (.msgctlRmid setting.queueId)) none result).Ensures
      (receivingMonitor setting) (Removed receiving result) receiving := by
  apply release_answers
  · intro missing
    exact absurd setting.created (of_decide_eq_false missing)
  intro _
  refine .request ⟨rfl, present⟩ ?_
  rintro (error | ⟨⟩) _
  · refine ⟨rfl, rfl, congrArg (· + 1) present, nofun, fun fine => ?_⟩
    simp [receivingMonitor, Receiving.next, Fails, Except.toOption] at fine
  · refine ⟨rfl, rfl, congrArg (· + 1) present, fun done => ⟨done, ?_⟩,
      fun fine => ⟨rfl, ?_⟩⟩
    · exact Bool.or_true _
    · simpa [receivingMonitor, Receiving.next, Fails, Except.toOption]
        using fine

/-- The cleanup after the child has been reaped. -/
theorem cleanup_reaped
    (present : receiving.removals = 0)
    (result : Exit) :
    (cleanup { setting.held with childReaped := true } result).Ensures
      (receivingMonitor setting) (Removed receiving result) receiving := by
  refine .bind ((remove_ensures present result).mono ?_)
  exact fun final after removed => .pure removed

/-- The cleanup of a parent that could not wait for its child. -/
theorem cleanup_failed
    (reaped : receiving.reaped = none)
    (received : receiving.received = [])
    (present : receiving.removals = 0)
    (failed : receiving.failed = true)
    (childReaped : Bool) :
    (cleanup { setting.held with childReaped := childReaped }
        .failure).Ensures (receivingMonitor setting)
      (fun final after =>
        final = .failure ∧ after.removals = 1 ∧ after.failed = true)
      receiving := by
  refine .bind ((remove_ensures present .failure).mono ?_)
  intro result after removed
  have failure : result = .failure := by
    cases result with
    | success => exact nomatch (removed.success rfl).1
    | failure => rfl
  subst failure
  have stays : after.failed = true := by
    by_contra fine
    have before :=
      (removed.nothingFailed ((Bool.not_eq_true _).mp fine)).2
    rw [failed] at before
    cases before
  cases childReaped with
  | true => exact .pure ⟨rfl, removed.removals, stays⟩
  | false =>
      have killed :
          (release true (kill setting.child .sigterm) (some .esrch)
              .failure).Ensures (receivingMonitor setting)
            (fun final last => final = .failure ∧ last = after) after := by
        apply release_answers
        · exact nofun
        · intro _
          refine .request ⟨rfl, removed.reaped.trans reaped⟩ ?_
          rintro (error | ⟨⟩) _
          · refine ⟨ite_self _, ?_⟩
            simp [receivingMonitor, Receiving.next, Fails]
          · refine ⟨rfl, ?_⟩
            simp [receivingMonitor, Receiving.next, Fails]
      refine .bind (killed.mono ?_)
      rintro _ _ ⟨rfl, rfl⟩
      refine .bind ((waitForChild_ensures (removed.reaped.trans reaped)
        (removed.received.trans received)).mono ?_)
      rintro (error | status) last waited
      · refine .pure ⟨ite_self _, ?_⟩
        rw [waited]
        exact ⟨removed.removals, rfl⟩
      · refine .pure ⟨rfl, ?_⟩
        rw [waited]
        exact ⟨removed.removals, stays⟩

/-- A parent gives up once a call has failed. -/
theorem giveUp_ensures
    (present : receiving.removals = 0)
    (failed : receiving.failed = true) :
    (cleanup { setting.held with childReaped := true } .failure).Ensures
      (receivingMonitor setting) (Returned setting) receiving := by
  refine (cleanup_reaped present .failure).mono ?_
  intro result after removed
  refine ⟨removed.removals, fun success => ?_, fun fine => ?_⟩
  · exact nomatch (removed.success success).1
  · have before := (removed.nothingFailed fine).2
    rw [failed] at before
    cases before

/-- The parent of a sender that has succeeded. -/
theorem receive_ensures
    (expects : receiving.Expects)
    (nothing : receiving.received = []) :
    (receive setting.text
        { setting.held with childReaped := true }).Ensures
      (receivingMonitor setting) (Returned setting) receiving := by
  refine .bind ((msgctlStat_ensures expects).mono ?_)
  rintro (error | count) after counted
  · obtain rfl := counted
    exact giveUp_ensures expects.present rfl
  obtain ⟨one, same⟩ := counted
  subst after
  obtain rfl : count = 1 := by
    rw [nothing] at one
    exact (Nat.zero_add count).symm.trans one
  refine .bind ((msgrcv_ensures expects nothing).mono ?_)
  rintro (error | text) after told
  · obtain rfl := told
    exact giveUp_ensures expects.present rfl
  obtain ⟨rfl, rfl⟩ := told
  dsimp only
  rw [if_pos rfl]
  have expectsStill :
      Receiving.Expects
        { receiving with received := [setting.text] } :=
    ⟨expects.exited, expects.present⟩
  refine .bind ((msgctlStat_ensures expectsStill).mono ?_)
  rintro (error | count) after counted
  · obtain rfl := counted
    exact giveUp_ensures expects.present rfl
  obtain ⟨empty, same⟩ := counted
  subst after
  obtain rfl : count = 0 := Nat.add_left_cancel empty
  refine (cleanup_reaped expectsStill.present .success).mono ?_
  intro result after removed
  refine ⟨removed.removals, fun success => ?_, fun fine => ?_⟩
  · exact ⟨removed.reaped.trans expects.exited, removed.received,
      (removed.success success).2⟩
  · exact ⟨.exited 0, removed.reaped.trans expects.exited,
      fun _ => (removed.nothingFailed fine).1⟩

/-- The parent keeps its side. -/
theorem parentReceiving_ensures :
    (parentReceiving setting.text setting.held setting.child).Ensures
      (receivingMonitor setting) (Returned setting) {} := by
  refine .bind ((waitForChild_ensures rfl rfl).mono ?_)
  rintro (error | status) after waited
  · obtain rfl := waited
    refine (cleanup_failed rfl rfl rfl rfl _).mono ?_
    rintro _ last ⟨rfl, removals, failed⟩
    refine ⟨removals, nofun, fun fine => ?_⟩
    rw [failed] at fine
    cases fine
  obtain rfl := waited
  by_cases succeeded : status.succeeded
  · simp only [succeeded, ↓reduceIte]
    obtain rfl : status = .exited 0 := eq_of_beq succeeded
    exact receive_ensures ⟨rfl, rfl⟩ rfl
  · simp only [succeeded]
    refine (cleanup_reaped rfl .failure).mono ?_
    intro result last removed
    refine ⟨removed.removals, fun success => ?_, fun _ => ?_⟩
    · exact nomatch (removed.success success).1
    · refine ⟨status, removed.reaped, ?_⟩
      rintro rfl
      exact (succeeded rfl).elim

end Parent

section Kernel

variable {setting : Setting} {kernel : Kernel}
  {watch : (role : Role) → Watch role}

/-- What the parent is told while the queue holds what was not received. -/
theorem Joint.parentTold
    (joint : Joint setting kernel watch)
    {told : Receiving}
    {messages : List Message}
    (contents :
      kernel.removed = false →
      told.received.map (Message.mk messageType) ++ messages =
        (watch .parent).received.map (Message.mk messageType) ++
          kernel.messages)
    (emptied : kernel.removed = true → messages = [])
    (received : told.received = [] ∨ told.received = [setting.text])
    (removed : told.removed = (watch .parent).removed)
    (removals : told.removals = 0 → (watch .parent).removals = 0)
    (reaped :
      ∀ status, told.reaped = some status → kernel.life = .ended status) :
    Joint setting { kernel with messages := messages }
      (Function.update watch .parent told) where
  contents := by
    rw [Function.update_self, Function.update_of_ne (by decide)]
    exact fun present => (contents present).trans (joint.contents present)
  emptied := emptied
  received := by
    rw [Function.update_self]
    exact received
  removed := by
    rw [Function.update_self, removed]
    exact joint.removed
  unasked := by
    rw [Function.update_self]
    exact fun none => joint.unasked (removals none)
  reaped := by
    rw [Function.update_self]
    exact reaped
  exitCode := by
    rw [Function.update_of_ne (by decide)]
    exact joint.exitCode
  exited := by
    rw [Function.update_of_ne (by decide)]
    exact joint.exited

/-- What the parent is told by a call that leaves the queue alone. -/
theorem Joint.parentUntouched
    (joint : Joint setting kernel watch)
    {told : Receiving}
    (received : told.received = (watch .parent).received)
    (removed : told.removed = (watch .parent).removed)
    (removals : told.removals = 0 → (watch .parent).removals = 0)
    (reaped :
      ∀ status, told.reaped = some status → kernel.life = .ended status) :
    Joint setting kernel (Function.update watch .parent told) :=
  joint.parentTold (fun _ => by rw [received]) joint.emptied
    (received ▸ joint.received) removed removals reaped

/-- The queue is removed with what it holds. -/
theorem Joint.parentRemoves
    (joint : Joint setting kernel watch)
    {told : Receiving}
    (received : told.received = (watch .parent).received)
    (removed : told.removed = true)
    (removals : told.removals ≠ 0)
    (reaped : told.reaped = (watch .parent).reaped) :
    Joint setting { kernel with messages := [], removed := true }
      (Function.update watch .parent told) where
  contents := nofun
  emptied := fun _ => rfl
  received := by
    rw [Function.update_self, received]
    exact joint.received
  removed := by
    rw [Function.update_self]
    exact removed.symm
  unasked := by
    rw [Function.update_self]
    exact fun none => (removals none).elim
  reaped := by
    rw [Function.update_self, reaped]
    exact joint.reaped
  exitCode := by
    rw [Function.update_of_ne (by decide)]
    exact joint.exitCode
  exited := by
    rw [Function.update_of_ne (by decide)]
    exact joint.exited

/-- A parent that expects the message finds the queue, with that in it. -/
theorem Joint.expected
    (joint : Joint setting kernel watch)
    (expects : Receiving.Expects (watch .parent)) :
    kernel.removed = false ∧
      (watch .parent).received.map (Message.mk messageType) ++
          kernel.messages =
        [setting.message] := by
  have present := joint.unasked expects.present
  have contents := joint.contents present
  have sent := (joint.exitCode 0 (joint.reaped _ expects.exited)).mp rfl
  rw [if_pos sent] at contents
  exact ⟨present, contents⟩

/-- What the child is told while it runs. -/
theorem Joint.childTold
    (joint : Joint setting kernel watch)
    (running : kernel.life = .running)
    {told : Sending}
    {messages : List Message}
    (contents :
      kernel.removed = false →
      (watch .parent).received.map (Message.mk messageType) ++ messages =
        if told.sent then [setting.message] else [])
    (emptied : kernel.removed = true → messages = [])
    (exited : told.exited = (watch .child).exited) :
    Joint setting { kernel with messages := messages }
      (Function.update watch .child told) where
  contents := by
    rw [Function.update_self, Function.update_of_ne (by decide)]
    exact contents
  emptied := emptied
  received := by
    rw [Function.update_of_ne (by decide)]
    exact joint.received
  removed := by
    rw [Function.update_of_ne (by decide)]
    exact joint.removed
  unasked := by
    rw [Function.update_of_ne (by decide)]
    exact joint.unasked
  reaped := by
    rw [Function.update_of_ne (by decide)]
    exact joint.reaped
  exitCode := by
    intro code ended
    rw [running] at ended
    cases ended
  exited := by
    rw [Function.update_self, exited]
    exact joint.exited

/-- A child that exits tells by its code whether it has sent. -/
theorem Joint.childEnded
    (joint : Joint setting kernel watch)
    (running : kernel.life = .running)
    {status : WaitStatus}
    {told : Sending}
    (sent : told.sent = (watch .child).sent)
    (exitCode :
      ∀ code, status = .exited code → (code = 0 ↔ told.sent = true)) :
    Joint setting (kernel.ended status)
      (Function.update watch .child told) where
  contents := by
    rw [Function.update_self, Function.update_of_ne (by decide), sent]
    exact joint.contents
  emptied := joint.emptied
  received := by
    rw [Function.update_of_ne (by decide)]
    exact joint.received
  removed := by
    rw [Function.update_of_ne (by decide)]
    exact joint.removed
  unasked := by
    rw [Function.update_of_ne (by decide)]
    exact joint.unasked
  reaped := by
    rw [Function.update_of_ne (by decide)]
    intro reported reaped
    have ended := joint.reaped reported reaped
    rw [running] at ended
    cases ended
  exitCode := by
    rw [Function.update_self]
    exact fun code ended => exitCode code (ChildLife.ended.inj ended)
  exited := fun _ => nofun

/-- An answer is allowed and keeps the account. -/
theorem Joint.answered
    (joint : Joint setting kernel watch)
    {role : Role}
    {request : Request}
    {answer : Answers request}
    {after : Kernel}
    (safe : (monitor setting role).safe (watch role) request)
    (given : (rules setting).answers kernel role request answer after) :
    (monitor setting role).allows (watch role) request answer ∧
      Joint setting after
        (Function.update watch role
          ((monitor setting role).next (watch role) request answer)) := by
  cases given with
  | waitFailed error =>
      exact ⟨trivial, joint.parentUntouched rfl rfl id joint.reaped⟩
  | wait ended =>
      refine ⟨trivial, joint.parentUntouched rfl rfl id ?_⟩
      rintro status ⟨⟩
      exact ended
  | kill answer =>
      exact ⟨trivial, joint.parentUntouched rfl rfl id joint.reaped⟩
  | statFailed error =>
      exact ⟨nofun, joint.parentUntouched rfl rfl id joint.reaped⟩
  | stat present =>
      refine ⟨?_, joint.parentUntouched rfl rfl id joint.reaped⟩
      rintro count ⟨⟩
      have contents := congrArg List.length (joint.expected safe.2).2
      rwa [List.length_append, List.length_map] at contents
  | receiveFailed error nothing =>
      refine ⟨fun missing => ?_,
        joint.parentUntouched (List.append_nil _) rfl id joint.reaped⟩
      obtain ⟨_, expects, none⟩ := safe
      have contents := (joint.expected expects).2
      rw [none, List.map_nil, List.nil_append] at contents
      refine nothing missing setting.message ?_ rfl
      rw [contents]
      exact List.mem_singleton_self _
  | @receive text rest present takes fits =>
      obtain ⟨_, expects, none⟩ := safe
      have contents := (joint.expected expects).2
      rw [none, List.map_nil, List.nil_append] at contents
      obtain ⟨earlier, later, split, remaining, _⟩ := takes.split
      obtain ⟨rfl, same, rfl⟩ :
          earlier = [] ∧ ⟨messageType, text⟩ = setting.message ∧
            later = [] := by
        rw [contents] at split
        cases earlier with
        | nil =>
            obtain ⟨same, ended⟩ := List.cons.inj split
            exact ⟨rfl, same.symm, ended.symm⟩
        | cons first more => simp at split
      obtain rfl : text = setting.text := congrArg Message.text same
      obtain rfl : rest = [] := remaining
      have told :
          ((receivingMonitor setting).next (watch .parent)
              (.msgrcv setting.queueId) (.ok setting.text)).received =
            [setting.text] := by
        simp [receivingMonitor, Receiving.next, Except.toOption, none]
      refine ⟨rfl, joint.parentTold (fun _ => ?_) (fun _ => rfl) (.inr told)
        rfl id joint.reaped⟩
      rw [none, contents]
      exact congrArg
        (fun texts => List.map (Message.mk messageType) texts ++ []) told
  | removeFailed error =>
      refine ⟨trivial, joint.parentUntouched rfl (Bool.or_false _) ?_
        joint.reaped⟩
      exact fun asked => nomatch asked
  | remove present =>
      exact ⟨trivial, joint.parentRemoves rfl (Bool.or_true _)
        (Nat.succ_ne_zero _) rfl⟩
  | sendFailed running error =>
      refine ⟨trivial, joint.childTold running (fun present => ?_)
        joint.emptied rfl⟩
      simpa [monitor, Sending.next, Except.toOption] using
        joint.contents present
  | send running present =>
      obtain ⟨_, rfl, unsent⟩ := safe
      refine ⟨trivial, joint.childTold running (fun _ => ?_)
        (fun gone => ?_) rfl⟩
      · have contents := joint.contents present
        rw [unsent, if_neg Bool.false_ne_true] at contents
        rw [← List.append_assoc, contents]
        simp [monitor, Sending.next, Except.toOption, Setting.message]
      · rw [present] at gone
        cases gone
  | exit running =>
      refine ⟨trivial, joint.childEnded running rfl ?_⟩
      rintro code ⟨⟩
      exact safe

/-- The child may be killed at any moment. -/
theorem Joint.evolved
    (joint : Joint setting kernel watch)
    {after : Kernel}
    (evolved : (rules setting).evolves kernel after) :
    Joint setting after watch := by
  cases evolved with
  | childKilled signal running =>
      have ended :
          Joint setting (kernel.ended (.signaled signal))
            (Function.update watch .child (watch .child)) :=
        joint.childEnded running rfl nofun
      rwa [Function.update_eq_self] at ended

/-- The contract of the two processes. -/
abbrev Contract (setting : Setting) (state : State) : Prop :=
  Composed (monitor setting) watchStart (Joint setting) (post setting) state

/-- The contract holds at `fork`. -/
theorem Contract.start (fuel : Nat) :
    Contract setting (Handover.start setting fuel) := by
  apply Composed.start
  · exact ⟨fun _ => rfl, nofun, .inl rfl, rfl, fun _ => rfl, nofun, nofun,
      nofun⟩
  · intro role
    cases role with
    | parent => exact .extended (parentReceiving_ensures fuel)
    | child => exact child_ensures fuel

/-- The contract holds of every state that is reached. -/
theorem Contract.reaches
    {fuel : Nat}
    {state : State}
    (reaches : Reaches (rules setting) (Handover.start setting fuel) state) :
    Contract setting state :=
  Composed.reaches
    (fun joint safe given => joint.answered safe given)
    (fun joint evolved => joint.evolved evolved)
    (Contract.start fuel) reaches

/-- What each process was answered is what its monitor allows. -/
theorem Contract.legal
    {fuel : Nat}
    {state : State}
    (reaches : Reaches (rules setting) (Handover.start setting fuel) state)
    (role : Role) :
    (monitor setting role).Legal (watchStart role) (state.events role) :=
  Composed.legal
    (fun joint safe given => joint.answered safe given)
    (fun joint evolved => joint.evolved evolved)
    (Contract.start fuel) reaches role

end Kernel

end AdvanceUnix.SysvMessageQueue.Handover
