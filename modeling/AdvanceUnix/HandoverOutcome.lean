import AdvanceUnix.HandoverProtocol

namespace AdvanceUnix.FdPassing.Handover

open CallTree ChildProcess Processes

/-!
# The outcome of the hand-over

What the contract says in terms of what the two processes have done: which
messages and bytes their calls have moved, and what came before what.
-/

/-- The message that an event delivers, if any. -/
def messageOf : Event Answer → List Received
  | ⟨.recvmsg _, .ok message⟩ => [message]
  | _ => []

/-- The descriptor and the bytes that an event has read, if any. -/
def readOf : Event Answer → List (Fd × List UInt8)
  | ⟨.read fd _, .ok bytes⟩ => [(fd, bytes)]
  | _ => []

/-- The bytes that an event has written. -/
def writtenBy : Event Answer → List UInt8
  | ⟨.write _ bytes, .ok count⟩ => bytes.take count
  | _ => []

/-- A datagram was sent in full. -/
def Sends (event : Event Answer) : Prop :=
  ∃ fd payload descriptor,
    event = ⟨.sendmsg fd payload descriptor, .ok 1⟩

/-- A signal was sent to some child. -/
def Kills (event : Event Answer) : Prop :=
  ∃ child signal, event = ⟨.kill child signal, .ok ()⟩

/-- A wait was not merely interrupted. -/
def Waits (event : Event Answer) : Prop :=
  ∃ child answer,
    event = ⟨.waitpid child, answer⟩ ∧ answer ≠ .error .eintr

section Watched

variable {sending : Sending} {receiving : Receiving} {request : Syscall}
  {answer : Answer request}

/-- The child's monitor collects the messages. -/
theorem next_messages :
    (receiving.next request answer).messages =
      receiving.messages ++ messageOf ⟨request, answer⟩ := by
  unfold Receiving.next
  split
  · rfl
  · simp [messageOf]
  · rename_i notMessage _
    rw [Receiving.enter_messages]
    unfold messageOf
    split
    · rename_i same
      cases same
      exact absurd HEq.rfl (notMessage _ _ rfl)
    · simp

/-- The child's monitor collects the reads. -/
theorem next_reads :
    (receiving.next request answer).reads =
      receiving.reads ++ readOf ⟨request, answer⟩ := by
  unfold Receiving.next
  split
  · simp [readOf]
  · rfl
  · rename_i _ notRead
    rw [Receiving.enter_reads]
    unfold readOf
    split
    · rename_i same
      cases same
      exact absurd HEq.rfl (notRead _ _ _ rfl)
    · simp

/-- The parent's monitor collects the bytes. -/
theorem next_wrote :
    (sending.next request answer).wrote =
      sending.wrote ++ writtenBy ⟨request, answer⟩ := by
  unfold Sending.next
  split
  case h_3 => rfl
  case h_8 =>
    rename_i notWrite _ _ _ _
    unfold writtenBy
    split
    · rename_i same
      cases same
      exact absurd HEq.rfl (notWrite _ _ _ rfl)
    · simp
  all_goals simp [writtenBy]

/-- Only a datagram that was sent in full tells that it was sent. -/
theorem sent_next
    (sent : (sending.next request answer).sent = true) :
    sending.sent = true ∨ Sends ⟨request, answer⟩ := by
  rw [Sending.next.eq_def] at sent
  split at sent
  case h_4 fd payload descriptor count =>
    rcases Bool.or_eq_true_iff.mp sent with already | one
    · exact .inl already
    · obtain rfl := eq_of_beq one
      exact .inr ⟨fd, payload, descriptor, rfl⟩
  all_goals exact .inl sent

/-- Only a kill tells that the child was killed. -/
theorem killed_next
    (killed : (sending.next request answer).killed = true) :
    sending.killed = true ∨ Kills ⟨request, answer⟩ := by
  rw [Sending.next.eq_def] at killed
  split at killed
  case h_5 child signal => exact .inr ⟨child, signal, rfl⟩
  all_goals exact .inl killed

/-- Only a wait tells that the parent has waited. -/
theorem waited_next
    (waited : (sending.next request answer).waited = true) :
    sending.waited = true ∨ Waits ⟨request, answer⟩ := by
  rw [Sending.next.eq_def] at waited
  split at waited
  case h_6 child status => exact .inr ⟨child, .ok status, rfl, nofun⟩
  case h_7 child error =>
    rcases Bool.or_eq_true_iff.mp waited with already | final
    · exact .inl already
    · refine .inr ⟨child, .error error, rfl, ?_⟩
      rintro ⟨⟩
      exact Bool.false_ne_true final
  all_goals exact .inl waited

end Watched

variable {dependable : Prop} {setting : Setting} {state : State}

/-- The parent is about to wait for its child. -/
def AtWait (state : State) : Prop :=
  ∃ child next, state.rest .parent = .call (.waitpid child) next

/-- The child sleeps in `recvmsg`: at present it can only fail. -/
def ReceiveBlocked
    (dependable : Prop)
    (setting : Setting)
    (state : State) : Prop :=
  state.kernel.life = .running ∧
    ∃ fd next,
      state.rest .child = .call (.recvmsg fd) next ∧
        ∀ message after,
          ¬ Answered dependable setting state.kernel .child (.recvmsg fd)
            (.ok message) after

/-- The child sleeps in `read`: at present it can only fail. -/
def ReadBlocked
    (dependable : Prop)
    (setting : Setting)
    (state : State) : Prop :=
  state.kernel.life = .running ∧
    ∃ fd size next,
      state.rest .child = .call (.read fd size) next ∧
        ∀ bytes after,
          ¬ Answered dependable setting state.kernel .child (.read fd size)
            (.ok bytes) after

/-- A pipe without a write end can be read, at the latest to its end. -/
theorem readable_of_noWriteEnd
    {kernel : Kernel}
    (noWriteEnd : kernel.files.writeEnd = none)
    (size : Nat) :
    Readable kernel size (kernel.pipe.contents.take size) := by
  constructor
  · rw [List.length_take, ← List.take_eq_take_min]
  · exact List.length_take_le _ _
  · intro nothing
    rcases List.take_eq_nil_iff.mp nothing with zero | empty
    · exact .inl zero
    · exact .inr ⟨empty, noWriteEnd⟩

/-- A waiting parent has sent a complete pipe or killed the child. -/
theorem Contract.atWait
    (contract : Contract dependable setting state)
    (atWait : AtWait state) :
    state.kernel.life ≠ .running ∨
      state.kernel.files.writeEnd = none ∧
        (state.kernel.queued = true ∨
          (watched (monitor dependable setting) (watchStart setting)
            state.events .child).messages ≠ []) := by
  obtain ⟨child, next, position⟩ := atWait
  have joint := contract.holds
  rcases (contract.safe position).2 with sent | killed
  · refine .inr ⟨?_, joint.arrives sent⟩
    rw [joint.files]
    exact (joint.sentAll sent).1
  · exact .inl (joint.killed killed)

/-- While the parent waits, the child does not sleep in `recvmsg`. -/
theorem Contract.not_receiveBlocked
    (contract : Contract dependable setting state)
    (atWait : AtWait state) :
    ¬ ReceiveBlocked dependable setting state := by
  rintro ⟨running, fd, next, position, blocked⟩
  obtain ⟨rfl, noMessage⟩ := contract.safe position
  rcases contract.atWait atWait with ended | ⟨_, queued | received⟩
  · exact ended running
  · let message : Received :=
      { count := 0, payload := 0, control := [], flags := 0 }
    have installs :
        kernelInstalls (.recvmsg setting.channels.2) (.ok message) :=
      ⟨nofun, List.nodup_nil⟩
    exact blocked message _ (.receive running queued installs)
  · exact received noMessage

/-- While the parent waits, the child does not sleep in `read`. -/
theorem Contract.not_readBlocked
    (contract : Contract dependable setting state)
    (atWait : AtWait state) :
    ¬ ReadBlocked dependable setting state := by
  rintro ⟨running, fd, size, next, position, blocked⟩
  have isInstalled := contract.safe position
  rcases contract.atWait atWait with ended | ⟨noWriteEnd, _⟩
  · exact ended running
  · refine blocked _ _ (.read running ?_
      (readable_of_noWriteEnd noWriteEnd size))
    rw [contract.holds.installed]
    exact isInstalled

/-- A parent that has returned has waited, for a child that it may wait for. -/
theorem Contract.waited
    {result : Exit}
    (contract : Contract dependable setting state)
    (returned : state.rest .parent = .ret result) :
    ∃ before answer later,
      state.events .parent =
          before ++ ⟨.waitpid setting.child, answer⟩ :: later ∧
        answer ≠ .error .eintr ∧
        ((∃ event ∈ before, Sends event) ∨
          ⟨.kill setting.child .sigkill, .ok ()⟩ ∈ before) := by
  have safe := contract.history .parent
  have final := contract.returned returned
  rcases (parentMonitor dependable setting).raised (·.waited = true) Waits
    waited_next final.waited with early | ⟨_, member, child, answer, rfl, done⟩
  · cases early
  obtain ⟨before, later, split, rfl, mayWait⟩ :=
    (parentMonitor dependable setting).safe_of_mem safe member
  refine ⟨before, answer, later, split, done, ?_⟩
  rw [split] at safe
  have safeBefore :=
    ((parentMonitor dependable setting).safe_append.mp safe).1
  rcases mayWait with sent | killed
  · rcases (parentMonitor dependable setting).raised (·.sent = true) Sends
      sent_next sent with early | sends
    · cases early
    · exact .inl sends
  · rcases (parentMonitor dependable setting).raised (·.killed = true) Kills
      killed_next killed with early | ⟨_, member, child, signal, rfl⟩
    · cases early
    · obtain ⟨_, _, _, rfl, rfl⟩ :=
        (parentMonitor dependable setting).safe_of_mem safeBefore member
      exact .inr member

/-- What the monitors have collected is what the events have moved. -/
theorem watched_messages :
    (watched (monitor dependable setting) (watchStart setting)
        state.events .child).messages =
      (state.events .child).flatMap messageOf :=
  (childMonitor setting).collected Receiving.messages messageOf
    next_messages .start (state.events .child)

/-- The reads of the child. -/
theorem watched_reads :
    (watched (monitor dependable setting) (watchStart setting)
        state.events .child).reads =
      (state.events .child).flatMap readOf :=
  (childMonitor setting).collected Receiving.reads readOf next_reads .start
    (state.events .child)

/-- The writes of the parent. -/
theorem watched_wrote :
    (watched (monitor dependable setting) (watchStart setting)
        state.events .parent).wrote =
      (state.events .parent).flatMap writtenBy :=
  (parentMonitor dependable setting).collected Sending.wrote writtenBy
    next_wrote (.start setting) (state.events .parent)

/-- A child that has exited with 0 has read what the parent wrote. -/
theorem Contract.verified
    (contract : Contract dependable setting state)
    (ended : state.kernel.life = .ended (.exited 0)) :
    Verified ((state.events .parent).flatMap writtenBy)
        ((state.events .child).flatMap messageOf)
        ((state.events .child).flatMap readOf) ∧
      (state.events .parent).flatMap writtenBy = setting.payload := by
  have joint := contract.holds
  have verified := joint.verified ended
  have readAll :
      setting.payload <+:
        (watched (monitor dependable setting) (watchStart setting)
          state.events .parent).wrote := by
    obtain ⟨_, _, _, _, _, isPayload⟩ := verified
    rw [← joint.wrote]
    have delivered := state.kernel.pipe.delivered_isPrefix
    rw [joint.read, isPayload] at delivered
    exact delivered
  have complete := joint.front.eq_of_length_le readAll.length_le
  rw [watched_wrote] at complete
  rw [watched_messages, watched_reads] at verified
  rw [complete]
  exact ⟨verified, rfl⟩

/-- The parent never sleeps in `write`: there is room for all of the rest. -/
theorem Contract.writeRoom
    {fd : Fd}
    {bytes : List UInt8}
    {next : Answer (.write fd bytes) → Tree Answer Exit}
    (contract : Contract dependable setting state)
    (position : state.rest .parent = .call (.write fd bytes) next) :
    state.kernel.pipe.contents.length + bytes.length ≤ setting.capacity := by
  have mayWrite := contract.safe position
  have whole := congrArg List.length mayWrite.rest
  have wrote := congrArg List.length contract.holds.wrote
  have conserved := state.kernel.pipe.length_accepted
  have fits := setting.fits
  rw [List.length_append] at whole
  omega

/-- No datagram is under way and none can come: the parent has closed. -/
structure Kernel.Orphaned (kernel : Kernel) : Prop where
  peerClosed : kernel.files.socket = none
  nothingQueued : kernel.queued = false

/-- The kernel does not bring the peer back. -/
theorem Kernel.Orphaned.answered
    {kernel after : Kernel}
    {role : Role}
    {request : Syscall}
    {answer : Answer request}
    (orphaned : kernel.Orphaned)
    (given : Answered dependable setting kernel role request answer after) :
    after.Orphaned := by
  cases given with
  | close answer =>
      refine ⟨?_, orphaned.nothingQueued⟩
      exact congrArg (drop _) orphaned.peerClosed
  | send count isSocket isReadEnd =>
      rw [orphaned.peerClosed] at isSocket
      cases isSocket
  | receive running queued installs =>
      exact ⟨orphaned.peerClosed, rfl⟩
  | _ => exact ⟨orphaned.peerClosed, orphaned.nothingQueued⟩

/-- An orphaned `recvmsg` can only fail. -/
theorem Kernel.Orphaned.receive_fails
    {kernel after : Kernel}
    {fd : Fd}
    {answer : Result Received}
    (orphaned : kernel.Orphaned)
    (given :
      Answered dependable setting kernel .child (.recvmsg fd) answer
        after) :
    ∃ error, answer = .error error := by
  cases given with
  | receiveFailed running error => exact ⟨error, rfl⟩
  | receive running queued installs =>
      rw [orphaned.nothingQueued] at queued
      cases queued

/-- An orphaned child gets no message from any of its calls. -/
theorem Kernel.Orphaned.no_message
    {kernel after : Kernel}
    {request : Syscall}
    {answer : Answer request}
    (orphaned : kernel.Orphaned)
    (given :
      Answered dependable setting kernel .child request answer after) :
    messageOf ⟨request, answer⟩ = [] := by
  cases given with
  | receive running queued installs =>
      rw [orphaned.nothingQueued] at queued
      cases queued
  | _ => simp [messageOf]

/-- What a child has done since it slept in `recvmsg` without a peer. -/
structure Alone (fd : Fd) (since : Events) : Prop where
  noMessage : since.flatMap messageOf = []
  firstFails :
    ∀ event rest,
      since = event :: rest →
      ∃ error, event = ⟨.recvmsg fd, .error error⟩

/-- A child that still sleeps has done nothing. -/
theorem Alone.none (fd : Fd) : Alone fd [] where
  noMessage := rfl
  firstFails := by
    intro event rest shape
    cases shape

/--
The child sleeps on in `recvmsg`, or it was ended, or that call has failed;
`since` is what it has done from there.
-/
def SleepsOn (fd : Fd) (state later : State) : Prop :=
  later.kernel.Orphaned ∧
    ∃ since,
      later.events .child = state.events .child ++ since ∧
        Alone fd since ∧
        (since = [] → later.rest .child = state.rest .child)

/-- One more step wakes the child by a failure, if at all. -/
theorem SleepsOn.step
    {fd : Fd}
    {next : Answer (.recvmsg fd) → Tree Answer Unit}
    {later last : State}
    (position : state.rest .child = .call (.recvmsg fd) next)
    (sleepsOn : SleepsOn fd state later)
    (step : Step (rules dependable setting) later last) :
    SleepsOn fd state last := by
  have different : Role.child ≠ .parent := nofun
  obtain ⟨orphaned, since, events, alone, same⟩ := sleepsOn
  cases step with
  | evolve evolved =>
      cases evolved
      exact ⟨⟨orphaned.peerClosed, orphaned.nothingQueued⟩, since, events,
        alone, same⟩
  | @call after role request continuation there answer given =>
  refine ⟨orphaned.answered given, ?_⟩
  cases role with
  | parent =>
      rw [answered_events_other different, answered_rest_other different]
      exact ⟨since, events, alone, same⟩
  | child =>
      refine ⟨since ++ [⟨request, answer⟩], ?_, ⟨?_, ?_⟩, ?_⟩
      · rw [answered_events_self, events, List.append_assoc]
      · simp [alone.noMessage, orphaned.no_message given]
      · intro event rest shape
        cases since with
        | nil =>
            have stillThere := same rfl
            rw [there, position] at stillThere
            cases stillThere
            cases shape
            obtain ⟨error, rfl⟩ := orphaned.receive_fails given
            exact ⟨error, rfl⟩
        | cons first others =>
            cases shape
            exact alone.firstFails _ others rfl
      · intro nothing
        simp at nothing

/--
A child whose peer has closed without sending gets nothing: it sleeps on until
it is ended or its call fails.
-/
theorem SleepsOn.reaches
    {fd : Fd}
    {next : Answer (.recvmsg fd) → Tree Answer Unit}
    {later : State}
    (position : state.rest .child = .call (.recvmsg fd) next)
    (orphaned : state.kernel.Orphaned)
    (reaches : Reaches (rules dependable setting) state later) :
    SleepsOn fd state later := by
  induction reaches with
  | refl =>
      exact ⟨orphaned, [], (List.append_nil _).symm, .none fd,
        fun _ => rfl⟩
  | tail _ step inductionHypothesis =>
      exact inductionHypothesis.step position step

/-- The protocol in a state that was reached. -/
structure HandoverProtocol
    (dependable : Prop)
    (setting : Setting)
    (state : State) : Prop where
  noMutualWait :
    AtWait state →
    ¬ ReceiveBlocked dependable setting state ∧
      ¬ ReadBlocked dependable setting state
  writeRoom :
    ∀ fd bytes next,
      state.rest .parent = .call (.write fd bytes) next →
      state.kernel.pipe.contents.length + bytes.length ≤ setting.capacity
  waited :
    ∀ result,
      state.rest .parent = .ret result →
      ∃ before answer later,
        state.events .parent =
            before ++ ⟨.waitpid setting.child, answer⟩ :: later ∧
          answer ≠ .error .eintr ∧
          ((∃ event ∈ before, Sends event) ∨
            ⟨.kill setting.child .sigkill, .ok ()⟩ ∈ before)
  outlived :
    dependable →
    ∀ result,
      state.rest .parent = .ret result →
      state.kernel.life ≠ .running
  verified :
    state.rest .parent = .ret .success →
    Verified ((state.events .parent).flatMap writtenBy)
        ((state.events .child).flatMap messageOf)
        ((state.events .child).flatMap readOf) ∧
      (state.events .parent).flatMap writtenBy = setting.payload
  orphaned :
    ∀ fd next later,
      state.rest .child = .call (.recvmsg fd) next →
      state.kernel.Orphaned →
      Reaches (rules dependable setting) state later →
      SleepsOn fd state later

/--
Under any interleaving neither process waits for the other for good, the
parent returns only after waiting for a child that it has killed or sent the
descriptor to, and success means that the payload came through.
-/
theorem descriptor_handover
    {dependable : Prop}
    {setting : Setting}
    {fuel : Nat}
    {state : State}
    (reaches :
      Reaches (rules dependable setting) (start setting fuel) state) :
    HandoverProtocol dependable setting state := by
  have contract := (Contract.start fuel).reaches reaches
  constructor
  · intro atWait
    exact ⟨contract.not_receiveBlocked atWait,
      contract.not_readBlocked atWait⟩
  · intro fd bytes next position
    exact contract.writeRoom position
  · intro result returned
    exact contract.waited returned
  · intro reliable result returned
    exact contract.holds.reaped ((contract.returned returned).reaped reliable)
  · intro returned
    exact contract.verified
      (contract.holds.succeeded ((contract.returned returned).succeeded rfl))
  · intro fd next later position orphaned laterReaches
    exact .reaches position orphaned laterReaches

/-- Two bytes through a pipe for four, with the child 201. -/
def twoBytes : Setting where
  payload := [104, 105]
  channels := (3, 4)
  child := ⟨201, Nat.succ_pos 200⟩
  capacity := 4
  distinct := by decide
  fits := by decide

/-- One rights message with the descriptor 7. -/
def oneDescriptor : Received where
  count := 1
  payload := payloadByte
  control := [⟨solSocket, scmRights, 20, [7, 0, 0, 0], rfl⟩]
  flags := 0

/-- The protocol in a run to the end, with short transfers and an `EINTR`. -/
theorem descriptor_handover_twoBytes :
    ∃ state,
      Reaches (rules True twoBytes) (start twoBytes 4) state ∧
        state.rest .parent = .ret .success ∧
        HandoverProtocol True twoBytes state := by
  have forked :
      Reaches (rules True twoBytes) (start twoBytes 4) (start twoBytes 4) :=
    .refl
  have written :=
    ((((forked.call .parent rfl _ (.close (.ok ()))).call .parent rfl _
      (.pipe 4 5 (by decide) (by decide) (by decide))).call .parent rfl _
        (.writeFailed .eintr)).call .parent rfl _
          (.write 1 rfl (by decide) (by decide))).call .parent rfl _
            (.write 1 rfl (by decide) (by decide))
  have asleep := written.call .child rfl _ (.childClose rfl (.ok ()))
  have sent :=
    (asleep.call .parent rfl _ (.close (.ok ()))).call .parent rfl _
      (.send 1 rfl rfl)
  have waiting :=
    (sent.call .parent rfl _ (.close (.ok ()))).call .parent rfl _
      (.close (.ok ()))
  have received :=
    ((waiting.call .child rfl (.ok oneDescriptor)
      (.receive rfl rfl ⟨by decide, by decide⟩)).call .child rfl _
        (.getfd rfl (.ok 0))).call .child rfl _ (.setfd rfl (.ok ()))
  have read :=
    (received.call .child rfl (.ok [104])
      (.read rfl (by decide) ⟨rfl, by decide, nofun⟩)).call .child rfl
        (.ok [105]) (.read rfl (by decide) ⟨rfl, by decide, nofun⟩)
  have exited :=
    ((read.call .child rfl _ (.childClose rfl (.ok ()))).call .child rfl _
      (.childClose rfl (.ok ()))).call .child rfl _ (.exit rfl)
  have reaped := exited.call .parent rfl _ (.wait rfl)
  exact ⟨_, reaped, rfl, descriptor_handover reaped⟩

end AdvanceUnix.FdPassing.Handover
