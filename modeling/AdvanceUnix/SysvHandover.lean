import AdvanceUnix.CallIdioms
import AdvanceUnix.DescriptorHandover
import AdvanceUnix.SysvQueue

namespace AdvanceUnix.SysvMessageQueue.Handover

open CallTree ChildProcess
open FdPassing.Handover (ChildLife)

/-!
# The kernel under the message queue

What parent and child of `26_sysv_message_queue` share after `fork`: the queue
and the child's life.  The text of the message is a parameter here.
-/

/-- `MESSAGE_TYPE`. -/
def messageType : Int := 7

/-- `TEXT_CAPACITY`. -/
def textCapacity : Nat := 64

/-- `ENOMSG`. -/
def enomsg : Errno := ⟨42, by decide⟩

/-- `struct message`, with as much of its text as was sent. -/
structure Message where
  type : Int
  text : List UInt8
  deriving DecidableEq, Repr

/-- The call of the child that no other program makes. -/
inductive SendCall where
  | msgsnd (queue : Int) (message : Message)
  deriving DecidableEq, Repr

/-- It answers nothing, or fails. -/
@[reducible] def SendAnswer : SendCall → Type
  | .msgsnd _ _ => Result Unit

/-- The calls of both processes. -/
abbrev Request := Syscall ⊕ SendCall

/-- And their answers. -/
abbrev Answers : Request → Type :=
  Extended Answer SendAnswer

/-- Make one call of the child. -/
def invoke (request : Request) : Program Answers (Answers request) :=
  Program.request request

/-- The body of `if (child == 0)`. -/
def child (text : List UInt8) (held : Held) : Program Answers Unit := do
  let sent ←
    Program.retry (· = Errno.eintr)
      (invoke (.inr (.msgsnd held.queueId ⟨messageType, text⟩)))
  invoke (.inl (.exit (if sent.toOption = some () then 0 else 120)))

/-- What `main` has set up when it forks. -/
structure Setting where
  text : List UInt8
  queueId : Int
  child : Pid
  created : 0 ≤ queueId
  fits : text.length ≤ textCapacity

/-- What the cleanup section finds acquired after `fork`. -/
def Setting.held (setting : Setting) : Held where
  queueId := setting.queueId
  child := some setting.child

/-- The shared objects: the messages from the oldest on. -/
structure Kernel where
  messages : List Message := []
  removed : Bool := false
  life : ChildLife := .running

/-- The child has ended. -/
def Kernel.ended (kernel : Kernel) (status : WaitStatus) : Kernel :=
  { kernel with life := .ended status }

/-- A message is taken out: the oldest one of its type. -/
structure Kernel.Takes
    (kernel : Kernel)
    (message : Message)
    (rest : List Message) : Prop where
  split :
    ∃ earlier later,
      kernel.messages = earlier ++ message :: later ∧
        rest = earlier ++ later ∧
        ∀ other ∈ earlier, other.type ≠ message.type

variable (setting : Setting)

/--
What the kernel may answer.  Every call may fail, and on a queue that has been
removed it has to.  With `IPC_NOWAIT` a message is received if there is one of
the type that is asked for, and `ENOMSG` says that there is none.
-/
inductive Answered (kernel : Kernel) :
    Role → (request : Request) → Answers request → Kernel → Prop where
  | waitFailed
      {child : Pid}
      (error : Errno) :
      Answered kernel .parent (.inl (.waitpid child)) (.error error) kernel
  | wait
      {status : WaitStatus}
      (ended : kernel.life = .ended status) :
      Answered kernel .parent (.inl (.waitpid setting.child)) (.ok status)
        kernel
  | kill
      {child : Pid}
      {signal : Signal}
      (answer : Result Unit) :
      Answered kernel .parent (.inl (.kill child signal)) answer kernel
  | statFailed
      {queue : Int}
      (error : Errno) :
      Answered kernel .parent (.inl (.msgctlStat queue)) (.error error)
        kernel
  | stat
      (present : kernel.removed = false) :
      Answered kernel .parent (.inl (.msgctlStat setting.queueId))
        (.ok kernel.messages.length) kernel
  | receiveFailed
      {queue : Int}
      (error : Errno)
      (nothing :
        error = enomsg →
        ∀ message ∈ kernel.messages, message.type ≠ messageType) :
      Answered kernel .parent (.inl (.msgrcv queue)) (.error error) kernel
  | receive
      {text : List UInt8}
      {rest : List Message}
      (present : kernel.removed = false)
      (takes : kernel.Takes ⟨messageType, text⟩ rest)
      (fits : text.length ≤ textCapacity) :
      Answered kernel .parent (.inl (.msgrcv setting.queueId)) (.ok text)
        { kernel with messages := rest }
  | removeFailed
      {queue : Int}
      (error : Errno) :
      Answered kernel .parent (.inl (.msgctlRmid queue)) (.error error)
        kernel
  | remove
      (present : kernel.removed = false) :
      Answered kernel .parent (.inl (.msgctlRmid setting.queueId)) (.ok ())
        { kernel with messages := [], removed := true }
  | sendFailed
      {queue : Int}
      {message : Message}
      (running : kernel.life = .running)
      (error : Errno) :
      Answered kernel .child (.inr (.msgsnd queue message)) (.error error)
        kernel
  | send
      {message : Message}
      (running : kernel.life = .running)
      (present : kernel.removed = false) :
      Answered kernel .child (.inr (.msgsnd setting.queueId message))
        (.ok ()) { kernel with messages := kernel.messages ++ [message] }
  | exit
      {status : Nat}
      (running : kernel.life = .running) :
      Answered kernel .child (.inl (.exit status)) ()
        (kernel.ended (.exited status))

/-- By itself only the child may end, by a signal. -/
inductive Evolves (kernel : Kernel) : Kernel → Prop where
  | childKilled
      (signal : Nat)
      (running : kernel.life = .running) :
      Evolves kernel (kernel.ended (.signaled signal))

/-- The rules of the kernel. -/
def rules : Processes.Rules Answers Role Kernel where
  answers := Answered setting
  evolves := Evolves

/-- The two programs after `fork`, their loops unrolled up to a bound. -/
def programs (fuel : Nat) : (role : Role) → Tree Answers (Outcome role)
  | .parent =>
      (parentReceiving setting.text setting.held setting.child fuel).extended
        SendAnswer
  | .child => child setting.text setting.held fuel

/-- The states after `fork`. -/
abbrev State := Processes.State Answers Kernel Outcome

/-- The state right after `fork`. -/
def start (fuel : Nat) : State :=
  .start (programs setting fuel) {}

end AdvanceUnix.SysvMessageQueue.Handover
