import AdvanceUnix.DescriptorHandover

namespace AdvanceUnix.FdPassing.Handover

open CallTree ChildProcess

/-!
# What parent and child know of the hand-over

The parent's monitor asks it to send only when all is written and the write
end is closed, and to wait only for a child that was killed or has a message.
The child's asks it to receive once, to read from what it received, and to
exit with 0 only if it has read the payload.
-/

/-- What the parent's answers tell. -/
structure Sending where
  files : Files
  wrote : List UInt8
  sent : Bool
  killed : Bool
  waited : Bool
  reaped : Bool
  succeeded : Bool

/-- The parent after `fork`. -/
def Sending.start (setting : Setting) : Sending where
  files := setting.kernel.files
  wrote := []
  sent := false
  killed := false
  waited := false
  reaped := false
  succeeded := false

/-- Follow one answered call of the parent. -/
def Sending.next (sending : Sending) :
    (request : Syscall) → Answer request → Sending
  | .close fd, _ => { sending with files := sending.files.close fd }
  | .pipe, .ok (readEnd, writeEnd) =>
      { sending with
        files :=
          { sending.files with
            readEnd := some readEnd
            writeEnd := some writeEnd } }
  | .write _ bytes, .ok count =>
      { sending with wrote := sending.wrote ++ bytes.take count }
  | .sendmsg _ _ _, .ok count =>
      { sending with sent := sending.sent || count == 1 }
  | .kill _ _, .ok () => { sending with killed := true }
  | .waitpid _, .ok status =>
      { sending with
        waited := true
        reaped := true
        succeeded := sending.succeeded || status.succeeded }
  | .waitpid _, .error error =>
      { sending with waited := sending.waited || error != .eintr }
  | _, _ => sending

/-- What the child's answers tell; closes count from the delivery on. -/
structure Receiving where
  ledger : Ledger
  messages : List Received
  reads : List (Fd × List UInt8)

/-- The child after `fork`. -/
def Receiving.start : Receiving where
  ledger := .empty
  messages := []
  reads := []

/-- A call on descriptors is entered in the ledger, once there is one. -/
def Receiving.enter
    (receiving : Receiving)
    (request : Syscall)
    (answer : Answer request) : Receiving :=
  if receiving.messages = [] then
    receiving
  else
    { receiving with ledger := receiving.ledger.enter request answer }

/-- Follow one answered call of the child. -/
def Receiving.next (receiving : Receiving) :
    (request : Syscall) → Answer request → Receiving
  | .recvmsg _, .ok message =>
      { receiving with
        ledger := afterWalk message []
        messages := receiving.messages ++ [message] }
  | .read fd _, .ok bytes =>
      { receiving with reads := receiving.reads ++ [(fd, bytes)] }
  | request, answer => receiving.enter request answer

/-- The child's descriptors of the pipe: delivered and not closed. -/
def Receiving.installed (receiving : Receiving) : List Fd :=
  match receiving.ledger.delivered with
  | none => []
  | some message =>
      message.installed.filter (· ∉ receiving.ledger.closed)

/-- One descriptor came, and the payload was read through it alone. -/
def Verified
    (payload : List UInt8)
    (messages : List Received)
    (reads : List (Fd × List UInt8)) : Prop :=
  ∃ message fd,
    messages = [message] ∧
      message.installed = [fd] ∧
      (∀ entry ∈ reads, entry.1 = fd) ∧
      reads.flatMap Prod.snd = payload

section Monitors

variable (dependable : Prop) (setting : Setting)

/-- What the parent may rely on. -/
def parentAllows (sending : Sending) :
    (request : Syscall) → Answer request → Prop
  | .pipe, .ok (readEnd, writeEnd) =>
      readEnd ≠ writeEnd ∧ sending.files.socket ≠ some readEnd ∧
        sending.files.socket ≠ some writeEnd
  | .write _ bytes, .ok count => count ≤ bytes.length
  | .kill _ _, .error error => error = .eintr
  | .waitpid _, .error error => dependable → error = .eintr
  | _, _ => True

/-- A write of what is left of the payload, into the write end. -/
structure MayWrite
    (sending : Sending)
    (fd : Fd)
    (bytes : List UInt8) : Prop where
  isWriteEnd : sending.files.writeEnd = some fd
  rest : sending.wrote ++ bytes = setting.payload

/-- The read end is sent when the payload is in the pipe to its end. -/
structure MaySend
    (sending : Sending)
    (fd descriptor : Fd) : Prop where
  isSocket : sending.files.socket = some fd
  isReadEnd : sending.files.readEnd = some descriptor
  noWriteEnd : sending.files.writeEnd = none
  complete : sending.wrote = setting.payload

/-- The order in which the parent proceeds. -/
def parentSafe (sending : Sending) : Syscall → Prop
  | .pipe => sending.sent = false
  | .write fd bytes => MayWrite setting sending fd bytes
  | .sendmsg fd _ descriptor => MaySend setting sending fd descriptor
  | .kill child signal => child = setting.child ∧ signal = .sigkill
  | .waitpid child =>
      child = setting.child ∧
        (sending.sent = true ∨ sending.killed = true)
  | _ => True

/-- The monitor of the parent. -/
def parentMonitor : Monitor Answer Sending where
  next := Sending.next
  allows := parentAllows dependable
  safe := parentSafe setting

/-- The order in which the child proceeds. -/
def childSafe (receiving : Receiving) : Syscall → Prop
  | .recvmsg fd => fd = setting.channels.2 ∧ receiving.messages = []
  | .read fd _ => fd ∈ receiving.installed
  | .exit status =>
      status = 0 →
      Verified setting.payload receiving.messages receiving.reads
  | _ => True

/-- The monitor of the child. -/
def childMonitor : Monitor Answer Receiving where
  next := Receiving.next
  allows := fun _ => kernelInstalls
  safe := childSafe setting

/-- What is watched of each process. -/
@[reducible] def Watch : Role → Type
  | .parent => Sending
  | .child => Receiving

/-- The monitors. -/
def monitor : (role : Role) → Monitor Answer (Watch role)
  | .parent => parentMonitor dependable setting
  | .child => childMonitor setting

/-- Their first states. -/
def watchStart : (role : Role) → Watch role
  | .parent => .start setting
  | .child => .start

end Monitors

/-- The kernel as parent and child know it. -/
structure Joint
    (setting : Setting)
    (kernel : Kernel)
    (sending : Sending)
    (receiving : Receiving) : Prop where
  files : kernel.files = sending.files
  wrote : kernel.pipe.accepted = sending.wrote
  front : sending.wrote <+: setting.payload
  read : kernel.pipe.delivered = receiving.reads.flatMap Prod.snd
  installed : kernel.installed = receiving.installed
  fresh : receiving.messages = [] → receiving.ledger = .empty
  sentAll :
    sending.sent = true →
    sending.files.writeEnd = none ∧ sending.wrote = setting.payload
  arrives :
    sending.sent = true →
    kernel.queued = true ∨ receiving.messages ≠ []
  killed : sending.killed = true → kernel.life ≠ .running
  reaped : sending.reaped = true → kernel.life ≠ .running
  succeeded :
    sending.succeeded = true → kernel.life = .ended (.exited 0)
  verified :
    kernel.life = .ended (.exited 0) →
    Verified setting.payload receiving.messages receiving.reads

namespace Receiving

variable {receiving : Receiving} {request : Syscall}
  {answer : Answer request}

@[simp]
theorem enter_messages :
    (receiving.enter request answer).messages = receiving.messages := by
  unfold enter
  split
  · rfl
  · rfl

@[simp]
theorem enter_reads :
    (receiving.enter request answer).reads = receiving.reads := by
  unfold enter
  split
  · rfl
  · rfl

/-- Without a message there is nothing to enter. -/
theorem enter_of_noMessage
    (noMessage : receiving.messages = []) :
    receiving.enter request answer = receiving :=
  if_pos noMessage

/-- With one the ledger is kept. -/
theorem enter_ledger
    (received : receiving.messages ≠ []) :
    (receiving.enter request answer).ledger =
      receiving.ledger.enter request answer := by
  rw [enter, if_neg received]

/-- Closing a descriptor takes it from those that are installed. -/
theorem enter_close_installed
    {fd : Fd}
    {answer : Result Unit}
    (fresh : receiving.messages = [] → receiving.ledger = .empty) :
    (receiving.enter (.close fd) answer).installed =
      receiving.installed.filter (· ≠ fd) := by
  by_cases noMessage : receiving.messages = []
  · rw [enter_of_noMessage noMessage, installed, fresh noMessage]
    rfl
  · rw [installed, installed, enter_ledger noMessage]
    simp only [Ledger.enter]
    cases receiving.ledger.delivered with
    | none => rfl
    | some message =>
        simp only [List.filter_filter]
        apply List.filter_congr
        intro candidate _
        simp [and_comm]

/-- What is neither a delivery nor a close changes nothing there. -/
theorem enter_installed
    (sameDelivered :
      (receiving.ledger.enter request answer).delivered =
        receiving.ledger.delivered)
    (sameClosed :
      (receiving.ledger.enter request answer).closed =
        receiving.ledger.closed) :
    (receiving.enter request answer).installed = receiving.installed := by
  by_cases noMessage : receiving.messages = []
  · rw [enter_of_noMessage noMessage]
  · rw [installed, installed, enter_ledger noMessage, sameDelivered,
      sameClosed]

end Receiving

namespace Joint

variable {setting : Setting} {kernel : Kernel} {sending : Sending}
  {receiving : Receiving}

/-- The start. -/
theorem initially (setting : Setting) :
    Joint setting setting.kernel (.start setting) .start where
  files := rfl
  wrote := rfl
  front := List.nil_prefix
  read := rfl
  installed := rfl
  fresh := fun _ => rfl
  sentAll := nofun
  arrives := nofun
  killed := nofun
  reaped := nofun
  succeeded := nofun
  verified := nofun

/-- The parent closes a descriptor. -/
theorem close
    (joint : Joint setting kernel sending receiving)
    (fd : Fd) :
    Joint setting { kernel with files := kernel.files.close fd }
      { sending with files := sending.files.close fd } receiving :=
  { joint with
    files := by rw [joint.files]
    sentAll := fun sent => by
      obtain ⟨noWriteEnd, complete⟩ := joint.sentAll sent
      exact ⟨by rw [Files.close, noWriteEnd]; rfl, complete⟩ }

/-- The pipe is made before anything is sent. -/
theorem pipe
    {readEnd writeEnd : Fd}
    (joint : Joint setting kernel sending receiving)
    (notSent : sending.sent = false) :
    Joint setting
      { kernel with
        files :=
          { kernel.files with
            readEnd := some readEnd
            writeEnd := some writeEnd } }
      { sending with
        files :=
          { sending.files with
            readEnd := some readEnd
            writeEnd := some writeEnd } }
      receiving :=
  { joint with
    files := by rw [joint.files]
    sentAll := fun sent =>
      absurd (notSent.symm.trans sent) Bool.false_ne_true }

/-- A write goes on where the last one has stopped. -/
theorem write
    {fd : Fd}
    {bytes : List UInt8}
    {count : Nat}
    (joint : Joint setting kernel sending receiving)
    (mayWrite : MayWrite setting sending fd bytes) :
    Joint setting
      { kernel with pipe := kernel.pipe.put (bytes.take count) }
      { sending with wrote := sending.wrote ++ bytes.take count }
      receiving :=
  { joint with
    wrote := by rw [Channel.Fifo.put_accepted, joint.wrote]
    front := by
      rw [← mayWrite.rest]
      exact (List.prefix_append_right_inj _).mpr (List.take_prefix _ _)
    sentAll := fun sent => by
      have noWriteEnd := (joint.sentAll sent).1
      rw [mayWrite.isWriteEnd] at noWriteEnd
      cases noWriteEnd }

/-- The datagram is queued. -/
theorem send
    {fd descriptor : Fd}
    (joint : Joint setting kernel sending receiving)
    (maySend : MaySend setting sending fd descriptor)
    (sent : Bool) :
    Joint setting { kernel with queued := true }
      { sending with sent := sent } receiving :=
  { joint with
    sentAll := fun _ => ⟨maySend.noWriteEnd, maySend.complete⟩
    arrives := fun _ => .inl rfl }

/-- The child is killed, if it has not ended. -/
theorem kill
    (joint : Joint setting kernel sending receiving) :
    Joint setting { kernel with life := kernel.life.kill }
      { sending with killed := true } receiving := by
  have notRunning : kernel.life.kill ≠ .running := by
    cases kernel.life <;> nofun
  exact
    { joint with
      killed := fun _ => notRunning
      reaped := fun _ => notRunning
      succeeded := fun succeeded => by
        rw [joint.succeeded succeeded]
        rfl
      verified := fun exited => by
        apply joint.verified
        cases life : kernel.life with
        | running =>
            rw [life] at exited
            cases exited
        | ended status =>
            rw [life] at exited
            exact exited }

/-- The child is reaped. -/
theorem wait
    {status : WaitStatus}
    (joint : Joint setting kernel sending receiving)
    (ended : kernel.life = .ended status) :
    Joint setting kernel
      { sending with
        waited := true
        reaped := true
        succeeded := sending.succeeded || status.succeeded }
      receiving :=
  { joint with
    reaped := fun _ => by
      rw [ended]
      nofun
    succeeded := fun succeeded => by
      rcases Bool.or_eq_true_iff.mp succeeded with already | now
      · exact joint.succeeded already
      · obtain rfl := eq_of_beq now
        exact ended }

/-- The child's own calls come from a child that runs. -/
theorem notVerified
    (running : kernel.life = .running) :
    kernel.life ≠ .ended (.exited 0) := by
  rw [running]
  nofun

/-- The child closes a descriptor. -/
theorem childClose
    {fd : Fd}
    {answer : Result Unit}
    (joint : Joint setting kernel sending receiving) :
    Joint setting
      { kernel with installed := kernel.installed.filter (· ≠ fd) }
      sending (receiving.enter (.close fd) answer) :=
  { joint with
    read := by rw [Receiving.enter_reads, joint.read]
    installed := by
      rw [Receiving.enter_close_installed joint.fresh, joint.installed]
    fresh := fun noMessage => by
      rw [Receiving.enter_messages] at noMessage
      rw [Receiving.enter_of_noMessage noMessage, joint.fresh noMessage]
    arrives := by
      rw [Receiving.enter_messages]
      exact joint.arrives
    verified := by
      rw [Receiving.enter_messages, Receiving.enter_reads]
      exact joint.verified }

/-- The child makes another call on its descriptors. -/
theorem enter
    {request : Syscall}
    {answer : Answer request}
    (joint : Joint setting kernel sending receiving)
    (sameDelivered :
      (receiving.ledger.enter request answer).delivered =
        receiving.ledger.delivered)
    (sameClosed :
      (receiving.ledger.enter request answer).closed =
        receiving.ledger.closed) :
    Joint setting kernel sending (receiving.enter request answer) :=
  { joint with
    read := by rw [Receiving.enter_reads, joint.read]
    installed := by
      rw [Receiving.enter_installed sameDelivered sameClosed,
        joint.installed]
    fresh := fun noMessage => by
      rw [Receiving.enter_messages] at noMessage
      rw [Receiving.enter_of_noMessage noMessage, joint.fresh noMessage]
    arrives := by
      rw [Receiving.enter_messages]
      exact joint.arrives
    verified := by
      rw [Receiving.enter_messages, Receiving.enter_reads]
      exact joint.verified }

/-- The datagram is delivered. -/
theorem receive
    {message : Received}
    (joint : Joint setting kernel sending receiving)
    (running : kernel.life = .running) :
    Joint setting
      { kernel with queued := false, installed := message.installed }
      sending
      { receiving with
        ledger := afterWalk message []
        messages := receiving.messages ++ [message] } :=
  { joint with
    installed := by simp [Receiving.installed, afterWalk]
    fresh := fun noMessage => by simp at noMessage
    arrives := fun _ => .inr (by simp)
    verified := fun exited => absurd exited (notVerified running) }

/-- Some bytes are read. -/
theorem readBytes
    {fd : Fd}
    {size : Nat}
    {bytes : List UInt8}
    (joint : Joint setting kernel sending receiving)
    (running : kernel.life = .running)
    (readable : Readable kernel size bytes) :
    Joint setting
      { kernel with pipe := kernel.pipe.get bytes.length }
      sending
      { receiving with reads := receiving.reads ++ [(fd, bytes)] } :=
  { joint with
    read := by
      rw [Channel.Fifo.get_delivered, ← readable.front, joint.read]
      simp
    verified := fun exited => absurd exited (notVerified running) }

/-- The child exits. -/
theorem exit
    {status : Nat}
    (joint : Joint setting kernel sending receiving)
    (running : kernel.life = .running)
    (safe : childSafe setting receiving (.exit status)) :
    Joint setting { kernel with life := .ended (.exited status) }
      sending receiving :=
  { joint with
    killed := nofun
    reaped := nofun
    succeeded := fun succeeded =>
      absurd (joint.succeeded succeeded) (notVerified running)
    verified := fun exited => by
      cases exited
      exact safe rfl }

/-- The parent's answers are allowed and keep the invariant. -/
theorem parent
    {dependable : Prop}
    {after : Kernel}
    {request : Syscall}
    {answer : Answer request}
    (joint : Joint setting kernel sending receiving)
    (safe : parentSafe setting sending request)
    (given :
      Answered dependable setting kernel .parent request answer after) :
    parentAllows dependable sending request answer ∧
      Joint setting after (sending.next request answer) receiving := by
  cases given with
  | @close fd answer => exact ⟨trivial, joint.close fd⟩
  | pipeFailed error => exact ⟨trivial, joint⟩
  | pipe readEnd writeEnd different freshRead freshWrite =>
      rw [joint.files] at freshRead freshWrite
      exact ⟨⟨different, freshRead, freshWrite⟩, joint.pipe safe⟩
  | writeFailed error => exact ⟨trivial, joint⟩
  | write count isWriteEnd some room => exact ⟨some, joint.write safe⟩
  | sendFailed error => exact ⟨trivial, joint⟩
  | send count isSocket isReadEnd => exact ⟨trivial, joint.send safe _⟩
  | killInterrupted => exact ⟨rfl, joint⟩
  | kill => exact ⟨trivial, joint.kill⟩
  | waitFailed known => exact ⟨known, { joint with }⟩
  | wait ended => exact ⟨trivial, joint.wait ended⟩

/-- The child's answers are allowed and keep the invariant. -/
theorem child
    {dependable : Prop}
    {after : Kernel}
    {request : Syscall}
    {answer : Answer request}
    (joint : Joint setting kernel sending receiving)
    (safe : childSafe setting receiving request)
    (given :
      Answered dependable setting kernel .child request answer after) :
    kernelInstalls request answer ∧
      Joint setting after sending (receiving.next request answer) := by
  cases given with
  | childClose running answer => exact ⟨trivial, joint.childClose⟩
  | receiveFailed running error => exact ⟨trivial, joint.enter rfl rfl⟩
  | receive running queued installs =>
      exact ⟨installs, joint.receive running⟩
  | getfd running answer =>
      refine ⟨trivial, joint.enter ?_ ?_⟩
      · cases answer <;> rfl
      · cases answer <;> rfl
  | setfd running answer =>
      refine ⟨trivial, joint.enter ?_ ?_⟩
      · cases answer <;> rfl
      · cases answer <;> rfl
  | readFailed running error => exact ⟨trivial, joint.enter rfl rfl⟩
  | read running isReadEnd readable =>
      exact ⟨trivial, joint.readBytes running readable⟩
  | exit running =>
      exact ⟨trivial, (joint.exit running safe).enter rfl rfl⟩

/-- The child is killed from elsewhere. -/
theorem childKilled
    {signal : Nat}
    (joint : Joint setting kernel sending receiving)
    (running : kernel.life = .running) :
    Joint setting { kernel with life := .ended (.signaled signal) }
      sending receiving :=
  { joint with
    killed := nofun
    reaped := nofun
    succeeded := fun succeeded =>
      absurd (joint.succeeded succeeded) (notVerified running)
    verified := nofun }

end Joint

end AdvanceUnix.FdPassing.Handover
