import AdvanceUnix.HandoverContract

namespace AdvanceUnix.FdPassing.Handover

open CallTree ChildProcess Processes

/-!
# The hand-over protocol

The parent either kills the child before it waits for it or has sent the read
end of a complete pipe, so that neither waits for the other.  The child exits
with 0 only if it has read the payload through the one descriptor it received.
-/

section Parent

variable {dependable : Prop} {setting : Setting} {sending : Sending}

/-- What the parent has established when it returns. -/
structure Returned
    (dependable : Prop)
    (result : Exit)
    (sending : Sending) : Prop where
  waited : sending.waited = true
  reaped : dependable → sending.reaped = true
  succeeded : result = .success → sending.succeeded = true

/-- How a wait ends. -/
structure Waited
    (dependable : Prop)
    (result : Result WaitStatus)
    (sending : Sending) : Prop where
  waited : sending.waited = true
  reaped : dependable → sending.reaped = true
  succeeded :
    ∀ status,
      result = .ok status →
      status.succeeded = true →
      sending.succeeded = true

/-- Waiting for a child that was killed or has a message. -/
theorem waitForChild_ensures
    (mayWait : sending.sent = true ∨ sending.killed = true) :
    (waitForChild setting.child).Ensures (parentMonitor dependable setting)
      (Waited dependable) sending := by
  refine retryEintr_ensures
    (fun current => current.sent = true ∨ current.killed = true) ?_ mayWait
  intro current mayWait
  refine .request ⟨rfl, mayWait⟩ ?_
  intro answer allowed
  cases answer with
  | error error =>
      refine ⟨fun _ => mayWait, fun permanent => ?_⟩
      exact ⟨by simp [parentMonitor, Sending.next, permanent],
        fun reliable => absurd (allowed reliable) permanent, nofun⟩
  | ok status =>
      refine ⟨rfl, fun _ => rfl, ?_⟩
      rintro _ ⟨⟩ succeeded
      simp [parentMonitor, Sending.next, succeeded]

/-- A failure path kills the child, reaps it and reports. -/
theorem fail_ensures :
    (fail setting.child).Ensures (parentMonitor dependable setting)
      (Returned dependable) sending := by
  have killed :
      (retryEintr (kill setting.child .sigkill)).Ensures
        (parentMonitor dependable setting)
        (fun _ after => after.killed = true) sending := by
    refine retryEintr_ensures (fun _ => True) ?_ trivial
    intro current _
    refine .request ⟨rfl, rfl⟩ ?_
    intro answer allowed
    cases answer with
    | error error =>
        exact ⟨fun _ => trivial, fun permanent => absurd allowed permanent⟩
    | ok done => rfl
  refine .bind (.bind (killed.mono ?_))
  intro answer after killed
  refine .bind ((waitForChild_ensures (.inr killed)).mono ?_)
  intro waitResult later waited
  exact .pure (.pure ⟨waited.waited, waited.reaped, nofun⟩)

/-- The loop of `write_all` writes the payload from where it has stopped. -/
theorem writeAll_ensures
    {fd : Fd}
    (isWriteEnd : sending.files.writeEnd = some fd)
    (nothingWrote : sending.wrote = []) :
    (writeAll fd setting.payload).Ensures
      (parentMonitor dependable setting)
      (fun result after =>
        result.Meets (fun _ => True)
          (fun _ => after = { sending with wrote := setting.payload }))
      sending := by
  refine .iterate
    (fun written current =>
      current = { sending with wrote := setting.payload.take written }) ?_ ?_
  · rintro written _ rfl
    by_cases unfinished : written < setting.payload.length
    · simp only [unfinished, ↓reduceIte]
      refine .request_bind ⟨isWriteEnd, List.take_append_drop _ _⟩ ?_
      intro answer allowed
      refine .pure ?_
      cases answer with
      | error error =>
          simp only [writeAnswered]
          split
          · rfl
          · trivial
      | ok count =>
      cases count with
      | zero => trivial
      | succ count =>
          have wrote :
              setting.payload.take written ++
                  (setting.payload.drop written).take (count + 1) =
                setting.payload.take (written + (count + 1)) :=
            List.take_add.symm
          simp only [writeAnswered, LoopStep.Meets, parentMonitor,
            Sending.next, wrote]
    · simp only [unfinished, ↓reduceIte]
      have all := List.take_of_length_le (Nat.not_lt.mp unfinished)
      exact .pure (by rw [all]; rfl)
  · rw [List.take_zero, ← nothingWrote]

/-- Sending the read end of a complete pipe. -/
theorem sendDescriptor_ensures
    {fd descriptor : Fd}
    (maySend : MaySend setting sending fd descriptor) :
    (sendDescriptor fd descriptor).Ensures
      (parentMonitor dependable setting)
      (fun result after =>
        result.Meets (fun _ => True) (fun _ => after.sent = true))
      sending := by
  have sent :
      (retryEintr (sendmsg fd payloadByte descriptor)).Ensures
        (parentMonitor dependable setting)
        (fun result after =>
          result.Meets (fun _ => True)
            (fun count => count = 1 → after.sent = true))
        sending := by
    refine retryEintr_ensures (fun current => current = sending) ?_ rfl
    rintro _ rfl
    refine .request maySend ?_
    intro answer _
    cases answer with
    | error error => exact ⟨fun _ => rfl, fun _ => trivial⟩
    | ok count =>
        rintro rfl
        exact Bool.or_true _
  refine .bind (sent.mono ?_)
  intro answer after sentOne
  cases answer with
  | error error => exact .pure trivial
  | ok count =>
      refine .pure ?_
      split
      · rename_i one
        exact sentOne one
      · trivial

/-- The parent after `fork`. -/
theorem parent_ensures :
    (parent setting.payload setting.channels setting.child).Ensures
      (parentMonitor dependable setting) (Returned dependable)
      (.start setting) := by
  have socket :
      (setting.kernel.files.close setting.channels.2).socket =
        some setting.channels.1 := by
    simp [Setting.kernel, Files.close, drop, setting.distinct]
  unfold parent
  refine .request_bind trivial fun _ _ => ?_
  refine .request_bind rfl ?_
  intro pipeAnswer fresh
  rcases pipeAnswer with error | ⟨readEnd, writeEnd⟩
  · exact .request_bind trivial fun _ _ => fail_ensures
  obtain ⟨different, freshRead, freshWrite⟩ := fresh
  have otherSocket : setting.channels.1 ≠ writeEnd :=
    fun same => freshWrite (socket.trans (congrArg some same))
  refine .bind ((writeAll_ensures rfl rfl).mono ?_)
  intro written after wrote
  cases written with
  | error error =>
      refine .request_bind trivial fun _ _ => ?_
      refine .request_bind trivial fun _ _ => ?_
      exact .request_bind trivial fun _ _ => fail_ensures
  | ok done =>
  obtain rfl := wrote
  refine .request_bind trivial fun _ _ => ?_
  refine .bind (Program.Ensures.mono (sendDescriptor_ensures ?_) ?_)
  · constructor
    · refine (congrArg (drop writeEnd) socket).trans ?_
      simp [drop, otherSocket]
    · simp [parentMonitor, Sending.next, Files.close, drop, different]
    · simp [parentMonitor, Sending.next, Files.close, drop]
    · rfl
  intro sentResult after sent
  cases sentResult with
  | error error =>
      refine .request_bind trivial fun _ _ => ?_
      exact .request_bind trivial fun _ _ => fail_ensures
  | ok done =>
  refine .request_bind trivial fun _ _ => ?_
  refine .request_bind trivial fun _ _ => ?_
  refine .bind (Program.Ensures.mono (waitForChild_ensures ?_) ?_)
  · exact .inl sent
  intro answer last waited
  cases answer with
  | error error =>
      exact .pure ⟨waited.waited, waited.reaped,
        fun success => absurd success (by decide)⟩
  | ok status =>
      refine .pure ⟨waited.waited, waited.reaped, ?_⟩
      intro success
      apply waited.succeeded status rfl
      by_contra failed
      rw [if_neg failed] at success
      cases success

end Parent

section Child

variable {setting : Setting} {receiving : Receiving}

/-- The calls that handle a descriptor without using it. -/
inductive Handles : Syscall → Prop where
  | close (fd : Fd) : Handles (.close fd)
  | getfd (fd : Fd) : Handles (.fcntlGetfd fd)
  | setfd (fd : Fd) (flags : BitVec 32) : Handles (.fcntlSetfd fd flags)

/-- A program that only handles descriptors. -/
abbrev OnlyHandles (program : Sys α) : Prop :=
  program.Ensures (Monitor.limit Handles) (fun _ _ => True) ()

/-- The inner loop of the walk only closes. -/
theorem takeCandidates_handles
    (header : ControlMessage)
    (walk : Walk)
    (offsets : List Nat) :
    OnlyHandles (takeCandidates header walk offsets) := by
  induction offsets generalizing walk with
  | nil =>
      exact .pure trivial
  | cons offset rest inductionHypothesis =>
      unfold takeCandidates
      dsimp only
      split
      · exact inductionHypothesis _
      · exact .request_bind (.close _) fun _ _ => inductionHypothesis _

/-- The walk only closes. -/
theorem walkControl_handles
    (walk : Walk)
    (headers : List ControlMessage) :
    OnlyHandles (walkControl walk headers) := by
  induction headers generalizing walk with
  | nil =>
      exact .pure trivial
  | cons header rest inductionHypothesis =>
      unfold walkControl
      split
      · exact inductionHypothesis _
      split
      · exact inductionHypothesis _
      split
      · exact inductionHypothesis _
      refine .bind ((takeCandidates_handles header walk _).mono ?_)
      intro next _ _
      exact inductionHypothesis next

/-- The conclusion only closes and sets flags. -/
theorem concludeReceive_handles
    (message : Received)
    (walk : Walk) :
    OnlyHandles (concludeReceive message walk) := by
  unfold concludeReceive
  split
  · split
    · exact .request_bind (.close _) fun _ _ => .pure trivial
    · exact .pure trivial
  refine .request_bind (.getfd _) fun getfd _ => ?_
  cases getfd with
  | error error =>
      exact .request_bind (.close _) fun _ _ => .pure trivial
  | ok flags =>
  refine .request_bind (.setfd _ _) fun setfd _ => ?_
  cases setfd with
  | error error =>
      exact .request_bind (.close _) fun _ _ => .pure trivial
  | ok done => exact .pure trivial

/-- The message that was delivered, before anything is read. -/
structure Delivered
    (message : Received)
    (receiving : Receiving) : Prop where
  messages : receiving.messages = [message]
  ledger : receiving.ledger.delivered = some message
  unread : receiving.reads = []

/-- Handling descriptors keeps the delivered message. -/
theorem Delivered.handled
    {message : Received}
    {request : Syscall}
    {answer : Answer request}
    (delivered : Delivered message receiving)
    (handles : Handles request) :
    (receiving.next request answer).ledger =
        receiving.ledger.enter request answer ∧
      Delivered message (receiving.next request answer) := by
  have received : receiving.messages ≠ [] := by
    rw [delivered.messages]
    nofun
  have entered :
      receiving.next request answer = receiving.enter request answer := by
    cases handles <;> rfl
  have sameDelivered :
      (receiving.ledger.enter request answer).delivered =
        receiving.ledger.delivered := by
    cases handles with
    | close fd => rfl
    | getfd fd => cases answer <;> rfl
    | setfd fd flags => cases answer <;> rfl
  rw [entered, Receiving.enter_ledger received]
  refine ⟨rfl, ?_, ?_, ?_⟩
  · rw [Receiving.enter_messages, delivered.messages]
  · rw [Receiving.enter_ledger received, sameDelivered, delivered.ledger]
  · rw [Receiving.enter_reads, delivered.unread]

/-- One descriptor came, and so far some bytes were read through it. -/
structure Reading
    (fd : Fd)
    (bytes : List UInt8)
    (receiving : Receiving) : Prop where
  one :
    ∃ message,
      receiving.messages = [message] ∧ message.installed = [fd]
  through : ∀ entry ∈ receiving.reads, entry.1 = fd
  bytes : receiving.reads.flatMap Prod.snd = bytes

/-- What handles a descriptor reads nothing. -/
theorem Reading.entered
    {fd : Fd}
    {bytes : List UInt8}
    (reading : Reading fd bytes receiving)
    (request : Syscall)
    (answer : Answer request) :
    Reading fd bytes (receiving.enter request answer) := by
  constructor
  · rw [Receiving.enter_messages]
    exact reading.one
  · rw [Receiving.enter_reads]
    exact reading.through
  · rw [Receiving.enter_reads]
    exact reading.bytes

/-- A returned descriptor is the only one that came, and it is open. -/
theorem receiveDescriptor_ensures :
    (receiveDescriptor setting.channels.2).Ensures (childMonitor setting)
      (fun result after =>
        ∀ fd,
          result = .ok fd →
          Reading fd [] after ∧ after.installed = [fd])
      .start := by
  have delivery :
      (retryEintr (recvmsg setting.channels.2)).Ensures
        (childMonitor setting)
        (fun result after =>
          result.Meets (fun _ => True)
            (fun message =>
              kernelInstalls (.recvmsg setting.channels.2) (.ok message) ∧
                after =
                  { ledger := afterWalk message []
                    messages := [message]
                    reads := [] }))
        .start := by
    refine retryEintr_ensures (fun current => current = .start) ?_ rfl
    rintro _ rfl
    refine .request ⟨rfl, rfl⟩ ?_
    intro answer allowed
    cases answer with
    | error error => exact ⟨fun _ => rfl, fun _ => trivial⟩
    | ok message => exact ⟨allowed, rfl⟩
  refine .bind (delivery.mono ?_)
  intro answer after delivered
  cases answer with
  | error error => exact .pure nofun
  | ok message =>
  obtain ⟨⟨nonnegative, distinct⟩, rfl⟩ := delivered
  have handles :
      OnlyHandles (do
        let walk ← walkControl .start message.control
        concludeReceive message walk : Sys (Result Fd)) :=
    .bind ((walkControl_handles _ _).mono fun walk _ _ =>
      concludeReceive_handles message walk)
  have settled :
      (do
        let walk ← walkControl .start message.control
        concludeReceive message walk : Sys (Result Fd)).Ensures
        (childMonitor setting)
        (fun result after =>
          Settled message result after.ledger ∧ Delivered message after)
        ⟨afterWalk message [], [message], []⟩ := by
    refine .refine Receiving.ledger Handles (Delivered message) ?_ ?_
      handles (@walked_ensures setting.channels.2 _ nonnegative distinct)
      ⟨rfl, rfl, rfl⟩
    · intro state request answer delivered handles
      have handled := @Delivered.handled _ _ _ answer delivered handles
      exact ⟨handled.1, fun allowed => ⟨allowed, handled.2⟩⟩
    · intro state request _ handles _
      cases handles <;> trivial
  refine settled.mono ?_
  rintro _ after ⟨settled, delivered⟩ fd rfl
  obtain ⟨installedOne, nothingClosed, _⟩ := settled.kept fd rfl
  refine ⟨⟨⟨message, delivered.messages, installedOne⟩, ?_, ?_⟩, ?_⟩
  · rw [delivered.unread]
    nofun
  · rw [delivered.unread]
    rfl
  · simp [Receiving.installed, delivered.ledger, installedOne,
      nothingClosed]

/-- `read_all` reads through the one descriptor. -/
theorem readAll_ensures
    {fd : Fd}
    {size : Nat}
    (reading : Reading fd [] receiving)
    (isOpen : receiving.installed = [fd]) :
    (readAll fd size).Ensures (childMonitor setting)
      (fun answer after => Reading fd answer.2 after) receiving := by
  refine .iterate
    (fun bytes current =>
      Reading fd bytes current ∧ current.installed = [fd]) ?_
    ⟨reading, isOpen⟩
  rintro bytes current ⟨reading, isOpen⟩
  split
  · refine .request_bind ?_ ?_
    · show fd ∈ current.installed
      rw [isOpen]
      exact List.mem_singleton_self fd
    intro answer _
    refine .pure ?_
    cases answer with
    | error error =>
        have entered :=
          reading.entered (.read fd (size - bytes.length)) (.error error)
        simp only [readAnswered]
        split
        · refine ⟨entered, ?_⟩
          exact (Receiving.enter_installed rfl rfl).trans isOpen
        · exact entered
    | ok more =>
    have longer :
        Reading fd (bytes ++ more)
          { current with reads := current.reads ++ [(fd, more)] } := by
      refine ⟨reading.one, ?_, ?_⟩
      · intro entry member
        rcases List.mem_append.mp member with earlier | last
        · exact reading.through entry earlier
        · rw [List.mem_singleton.mp last]
      · simp [reading.bytes]
    cases more with
    | nil =>
        rw [List.append_nil] at longer
        exact longer
    | cons byte rest => exact ⟨longer, isOpen⟩
  · exact .pure reading

/-- The child exits with 0 only if it has verified the payload. -/
theorem child_ensures :
    (FdPassing.child setting.payload setting.channels).Ensures
      (childMonitor setting) (fun _ _ => True) .start := by
  unfold FdPassing.child
  refine .request_bind trivial fun _ _ => ?_
  refine .bind (receiveDescriptor_ensures.mono ?_)
  intro result after returned
  cases result with
  | error error =>
      exact .request nofun fun _ _ => trivial
  | ok receivedFd =>
  obtain ⟨reading, isOpen⟩ := returned receivedFd rfl
  refine .bind ((readAll_ensures reading isOpen).mono ?_)
  rintro ⟨outcome, buffer⟩ last reading
  refine .request_bind trivial fun fdClosed _ => ?_
  refine .request_bind trivial fun socketClosed _ => ?_
  have atEnd :=
    (reading.entered (.close receivedFd) fdClosed).entered
      (.close setting.channels.2) socketClosed
  refine .request ?_ fun _ _ => trivial
  intro isZero
  obtain ⟨message, messages, installed⟩ := atEnd.one
  refine ⟨message, receivedFd, messages, installed, atEnd.through,
    atEnd.bytes.trans ?_⟩
  cases outcome with
  | error error => cases isZero
  | ok done =>
  by_contra different
  rw [received, if_neg] at isZero
  · cases isZero
  · simpa using different

end Child

section Contract

variable {dependable : Prop} {setting : Setting} {kernel : Kernel}
  {state : State}

/-- What the processes establish when they return. -/
def post (dependable : Prop) :
    (role : Role) → Outcome role → Watch role → Prop
  | .parent => Returned dependable
  | .child => fun _ _ => True

/-- The kernel as the monitors know it. -/
def Known
    (setting : Setting)
    (kernel : Kernel)
    (watch : (role : Role) → Watch role) : Prop :=
  Joint setting kernel (watch .parent) (watch .child)

/-- The contract of the two processes. -/
abbrev Contract (dependable : Prop) (setting : Setting) : State → Prop :=
  Composed (monitor dependable setting) (watchStart setting)
    (Known setting) (post dependable)

/-- Both programs are ensured from their first states. -/
theorem programs_ensured
    (fuel : Nat)
    (role : Role) :
    (programs setting fuel role).Ensures (monitor dependable setting role)
      (post dependable role) (watchStart setting role) := by
  cases role with
  | parent => exact parent_ensures fuel
  | child => exact child_ensures fuel

/-- Every answer is allowed and keeps the kernel as the monitors know it. -/
theorem answered_known
    {watch : (role : Role) → Watch role}
    {role : Role}
    {request : Syscall}
    {answer : Answer request}
    {after : Kernel}
    (known : Known setting kernel watch)
    (safe : (monitor dependable setting role).safe (watch role) request)
    (given : Answered dependable setting kernel role request answer after) :
    (monitor dependable setting role).allows (watch role) request answer ∧
      Known setting after
        (Function.update watch role
          ((monitor dependable setting role).next (watch role) request
            answer)) := by
  have different : Role.child ≠ .parent := nofun
  cases role with
  | parent =>
      obtain ⟨allowed, kept⟩ := known.parent safe given
      refine ⟨allowed, ?_⟩
      rw [Known, Function.update_self, Function.update_of_ne different]
      exact kept
  | child =>
      obtain ⟨allowed, kept⟩ := known.child safe given
      refine ⟨allowed, ?_⟩
      rw [Known, Function.update_self,
        Function.update_of_ne different.symm]
      exact kept

/-- The contract is kept along every run. -/
theorem Contract.reaches
    {later : State}
    (contract : Contract dependable setting state)
    (reaches : Reaches (rules dependable setting) state later) :
    Contract dependable setting later := by
  refine Composed.reaches ?_ ?_ contract reaches
  · exact answered_known
  · intro current watch after known evolved
    cases evolved with
    | childKilled signal running => exact known.childKilled running

/-- The contract holds right after `fork`. -/
theorem Contract.start (fuel : Nat) :
    Contract dependable setting (start setting fuel) :=
  Composed.start (Joint.initially setting) (programs_ensured fuel)

end Contract

end AdvanceUnix.FdPassing.Handover
