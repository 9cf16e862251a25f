import AdvanceUnix.Audit
import AdvanceUnix.SystemCalls

namespace AdvanceUnix.MessageQueue

open CallTree

/-!
# A message queue with priorities

The program of `18_message_queue` and the kernel under it.  A queue gives out
the oldest of its messages with the highest priority.  The two messages are
parameters here.
-/

/-- `MESSAGE_SIZE`. -/
def messageSize : Nat := 64

/-- `sizeof(queue_name)`. -/
def nameCapacity : Nat := 96

/-- `mqd_t`. -/
abbrev Mqd := Int

/-- `struct mq_attr`, without its flags. -/
structure Attributes where
  maxmsg : Nat
  msgsize : Nat
  curmsgs : Nat
  deriving DecidableEq, Repr

/-- What is in a queue. -/
structure Message where
  bytes : List UInt8
  priority : Nat
  deriving DecidableEq, Repr

/-- A C string: no NUL but the one that ends it. -/
structure CString where
  text : List UInt8
  noNul : 0 ∉ text

/-- `strlen`. -/
def CString.strlen (string : CString) : Nat :=
  string.text.length

/-- The bytes of an array that holds the string and its terminator. -/
def CString.bytes (string : CString) : List UInt8 :=
  string.text ++ [0]

/-- The calls of the program. -/
inductive Call where
  | clockGettime
  | getpid
  | mqOpen (name : String) (attributes : Attributes)
  | mqSend (queue : Mqd) (bytes : List UInt8) (priority : Nat)
  | mqGetattr (queue : Mqd)
  | mqReceive (queue : Mqd) (size : Nat)
  | mqClose (queue : Mqd)
  | mqUnlink (name : String)
  deriving DecidableEq, Repr

/-- Their answers. -/
@[reducible] def Answer : Call → Type
  | .clockGettime => Result Timespec
  | .getpid => Pid
  | .mqOpen _ _ => Result Mqd
  | .mqSend _ _ _ => Result Unit
  | .mqGetattr _ => Result Attributes
  | .mqReceive _ _ => Result (List UInt8 × Nat)
  | .mqClose _ => Result Unit
  | .mqUnlink _ => Result Unit

/-- A program over these calls. -/
abbrev Messaging (α : Type) := Program Answer α

/-- Make one call. -/
def invoke (call : Call) : Messaging (Answer call) :=
  Program.request call

/-- `send_retry`. -/
def sendRetry
    (queue : Mqd)
    (message : List UInt8)
    (priority : Nat) : Messaging (Result Unit) :=
  Program.retry (· = .eintr) (invoke (.mqSend queue message priority))

/-- `receive_and_check`. -/
def receiveAndCheck
    (queue : Mqd)
    (expected : CString)
    (expectedPriority : Nat) : Messaging (Result Unit) := do
  match ←
    Program.retry (· = .eintr) (invoke (.mqReceive queue messageSize))
  with
  | .error error => return .error error
  | .ok (buffer, priority) =>
      let expectedSize := expected.strlen + 1
      if buffer.length ≠ expectedSize ∨ priority ≠ expectedPriority ∨
          buffer.take expectedSize ≠ expected.bytes.take expectedSize then
        return .error .ebadmsg
      else
        return .ok ()

/-- `snprintf(..., "/advance_unix_%ld_%ld", (long)getpid(), now.tv_nsec)`. -/
def queueName (process : Pid) (now : Timespec) : String :=
  "/advance_unix_" ++ toString process.number ++ "_" ++ toString now.nsec

/-- What the cleanup section finds: the name only of a queue it created. -/
structure Held where
  queue : Mqd := -1
  created : Option String := none
  deriving DecidableEq, Repr

/-- The cleanup section. -/
def cleanup (held : Held) (result : Exit) : Messaging Exit := do
  let result ←
    Program.releasing (held.queue ≠ -1) (invoke (.mqClose held.queue))
      .failure result
  Program.releasingSome held.created (fun name => invoke (.mqUnlink name))
    .failure result

/-- The messages of a run and their priorities. -/
structure Setting where
  low : CString
  lowPriority : Nat
  high : CString
  highPriority : Nat
  lowFits : low.bytes.length ≤ messageSize
  highFits : high.bytes.length ≤ messageSize

/-- `main` from the first message on. -/
def exchange (setting : Setting) (held : Held) : Messaging Exit := do
  let .ok _ ←
      sendRetry held.queue setting.low.bytes setting.lowPriority
    | cleanup held .failure
  let .ok _ ←
      sendRetry held.queue setting.high.bytes setting.highPriority
    | cleanup held .failure
  let .ok observed ← invoke (.mqGetattr held.queue)
    | cleanup held .failure
  if observed.curmsgs ≠ 2 ∨ observed.msgsize ≠ messageSize then
    cleanup held .failure
  else
    let .ok _ ←
        receiveAndCheck held.queue setting.high setting.highPriority
      | cleanup held .failure
    let .ok _ ←
        receiveAndCheck held.queue setting.low setting.lowPriority
      | cleanup held .failure
    cleanup held .success

/-- `main`, for any two messages. -/
def mainSending (setting : Setting) : Messaging Exit := do
  let .ok now ← invoke .clockGettime
    | cleanup {} .failure
  let process ← invoke .getpid
  let name := queueName process now
  if name.length ≥ nameCapacity then
    cleanup {} .failure
  else
    let .ok queue ←
        invoke (.mqOpen name
          { maxmsg := 4, msgsize := messageSize, curmsgs := 0 })
      | cleanup {} .failure
    exchange setting { queue := queue, created := some name }

/-- `low_message`: `low priority`. -/
def lowMessage : CString where
  text :=
    [108, 111, 119, 32, 112, 114, 105, 111, 114, 105, 116, 121]
  noNul := by decide

/-- `high_message`: `high priority`. -/
def highMessage : CString where
  text :=
    [104, 105, 103, 104, 32, 112, 114, 105, 111, 114, 105, 116, 121]
  noNul := by decide

/-- The messages of the program. -/
def lowAndHigh : Setting where
  low := lowMessage
  lowPriority := 1
  high := highMessage
  highPriority := 7
  lowFits := by decide
  highFits := by decide

/-- `main`. -/
def main : Messaging Exit :=
  mainSending lowAndHigh

/-- The oldest message with the highest priority, and the others. -/
def take : List Message → Option (Message × List Message)
  | [] => none
  | first :: rest =>
      match take rest with
      | some (message, others) =>
          if first.priority < message.priority then
            some (message, first :: others)
          else
            some (first, rest)
      | none => some (first, rest)

/--
The kernel: the name that has been created, the open queue with its limits,
its messages from the oldest on, and whether removing the name has been
refused.
-/
structure Kernel where
  name : Option String := none
  queue : Option Mqd := none
  maxmsg : Nat := 0
  msgsize : Nat := 0
  messages : List Message := []
  unlinkFailed : Bool := false
  deriving DecidableEq, Repr

namespace Kernel

/-- The effect of an answered call: what is closed is gone in any case. -/
def next
    (kernel : Kernel) : (request : Call) → Answer request → Kernel
  | .mqOpen name attributes, .ok queue =>
      { kernel with
        name := some name
        queue := some queue
        maxmsg := attributes.maxmsg
        msgsize := attributes.msgsize
        messages := [] }
  | .mqSend _ bytes priority, .ok _ =>
      { kernel with messages := kernel.messages ++ [⟨bytes, priority⟩] }
  | .mqReceive _ _, .ok _ =>
      { kernel with
        messages := ((take kernel.messages).map (·.2)).getD [] }
  | .mqClose _, _ => { kernel with queue := none }
  | .mqUnlink _, .ok _ => { kernel with name := none }
  | .mqUnlink _, .error _ => { kernel with unlinkFailed := true }
  | _, _ => kernel

/--
What the kernel may answer.  Any call that can fail may do so; sending waits
for room in the queue and receiving for a message.
-/
def Allows (kernel : Kernel) : (request : Call) → Answer request → Prop
  | .clockGettime, answer =>
      (answer : Result Timespec).Meets (fun _ => True)
        (fun now => 0 ≤ now.nsec ∧ now.nsec < 1000000000)
  | .getpid, answer => (answer : Pid).number < 2147483648
  | .mqOpen _ _, answer =>
      (answer : Result Mqd).Meets (fun _ => True) (· ≠ -1)
  | .mqSend _ _ _, answer =>
      (answer : Result Unit).Meets (fun _ => True)
        (fun _ => kernel.messages.length < kernel.maxmsg)
  | .mqGetattr _, answer =>
      (answer : Result Attributes).Meets (fun _ => True)
        (· = ⟨kernel.maxmsg, kernel.msgsize, kernel.messages.length⟩)
  | .mqReceive _ _, answer =>
      (answer : Result (List UInt8 × Nat)).Meets (fun _ => True)
        (fun (bytes, priority) =>
          (take kernel.messages).map (·.1) = some ⟨bytes, priority⟩)
  | _, _ => True

/--
When a call may be made: on the open queue, with messages and buffers that
have the right size, and never where it would have to wait.
-/
def Safe (kernel : Kernel) : Call → Prop
  | .clockGettime => True
  | .getpid => True
  | .mqOpen name _ => kernel.name = none ∧ name.length < nameCapacity
  | .mqSend queue bytes _ =>
      kernel.queue = some queue ∧ bytes.length ≤ kernel.msgsize ∧
        kernel.messages.length < kernel.maxmsg
  | .mqGetattr queue => kernel.queue = some queue
  | .mqReceive queue size =>
      kernel.queue = some queue ∧ kernel.msgsize ≤ size ∧
        kernel.messages ≠ []
  | .mqClose queue => kernel.queue = some queue
  | .mqUnlink name => kernel.name = some name

end Kernel

/-- A call that has failed, other than by an interruption. -/
def Fails : (request : Call) → Answer request → Bool
  | .clockGettime, answer => (answer : Result Timespec).toOption.isNone
  | .getpid, _ => false
  | .mqOpen _ _, answer => (answer : Result Mqd).toOption.isNone
  | .mqSend _ _ _, answer =>
      match (answer : Result Unit) with
      | .error error => error ≠ .eintr
      | .ok _ => false
  | .mqGetattr _, answer => (answer : Result Attributes).toOption.isNone
  | .mqReceive _ _, answer =>
      match (answer : Result (List UInt8 × Nat)) with
      | .error error => error ≠ .eintr
      | .ok _ => false
  | .mqClose _, answer => (answer : Result Unit).toOption.isNone
  | .mqUnlink _, answer => (answer : Result Unit).toOption.isNone

/-- The messages that an answered call has received. -/
def receivedBy : Event Answer → List Message
  | ⟨.mqReceive _ _, answer⟩ =>
      ((answer : Result (List UInt8 × Nat)).toOption.map
        fun (bytes, priority) => ⟨bytes, priority⟩).toList
  | _ => []

/-- The audit of the program. -/
def audit : Audit Answer Kernel where
  next := Kernel.next
  allows := Kernel.Allows
  safe := Kernel.Safe
  fails := Fails

/-- The kernel, whether a call has failed, and what has been received. -/
abbrev Watched := Audit.Noted Kernel Message

/-- The monitor of the program. -/
def monitor : Monitor Answer Watched :=
  audit.noting receivedBy

end AdvanceUnix.MessageQueue
