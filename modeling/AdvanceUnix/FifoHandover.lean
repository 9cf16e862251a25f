import AdvanceUnix.DescriptorHandover
import AdvanceUnix.NamedFifo

namespace AdvanceUnix.Fifo.Handover

open CallTree ChildProcess
open FdPassing.Handover (ChildLife drop)

/-!
# The kernel under the FIFO

What parent and child of `25_fifo` share after `fork`: the FIFO, the child's
writer and the child's life.  The message is a parameter here.
-/

/-- The body of `if (child == 0)`. -/
def child (message : List UInt8) (held : Held) : Sys Unit := do
  let _ ← Syscall.invoke (.close held.readDescriptor)
  match ← Syscall.invoke (.openWriter held.fifoPath) with
  | .error _ => Syscall.invoke (.exit 120)
  | .ok writer =>
      let count ← retryEintr (Syscall.invoke (.write writer message))
      let closed ← Syscall.invoke (.close writer)
      let writeOk := count.toOption = some message.length
      let closeOk := closed.toOption = some ()
      Syscall.invoke (.exit (if writeOk ∧ closeOk then 0 else 121))

/-- What `main` has set up when it forks, and the two sizes of the system. -/
structure Setting where
  message : List UInt8
  held : Held
  child : Pid
  pipeBuf : Nat
  capacity : Nat
  atomic : message.length ≤ pipeBuf
  fits : message.length ≤ capacity

/-- The shared objects. -/
structure Kernel where
  fifo : List UInt8
  writer : Option Fd
  life : ChildLife

/-- Right after `fork`: an empty FIFO without a writer. -/
def Kernel.forked : Kernel where
  fifo := []
  writer := none
  life := .running

/-- A child that ends leaves no writer behind. -/
def Kernel.ended (kernel : Kernel) (status : WaitStatus) : Kernel :=
  { kernel with writer := none, life := .ended status }

/-- Data or a hang-up is present. -/
def Kernel.Readable (kernel : Kernel) : Prop :=
  kernel.fifo ≠ [] ∨ kernel.writer = none

/-- The bits that `poll` reports besides errors. -/
structure Kernel.Polled (kernel : Kernel) (revents : Revents) : Prop where
  data : revents.pollin = true ↔ kernel.fifo ≠ []
  hangUp : revents.pollhup = true ↔ kernel.writer = none

variable (setting : Setting)

/--
What the kernel may answer.  Every call may fail; the descriptors are
non-blocking, so `EAGAIN` stands for a wait.  A write of no more than
`PIPE_BUF` bytes is done in one piece, and `poll` reports exactly data and
hang-up, unless it reports an error.
-/
inductive Answered (kernel : Kernel) :
    Role → (request : Syscall) → Answer request → Kernel → Prop where
  | waitFailed
      {child : Pid}
      (error : Errno) :
      Answered kernel .parent (.waitpid child) (.error error) kernel
  | wait
      {status : WaitStatus}
      (ended : kernel.life = .ended status) :
      Answered kernel .parent (.waitpid setting.child) (.ok status) kernel
  | kill
      {child : Pid}
      {signal : Signal}
      (answer : Result Unit) :
      Answered kernel .parent (.kill child signal) answer kernel
  | pollFailed
      {fd : Fd}
      {timeout : Nat}
      (error : Errno) :
      Answered kernel .parent (.poll fd timeout) (.error error) kernel
  | pollTimedOut
      {timeout : Nat}
      (nothing : ¬ kernel.Readable) :
      Answered kernel .parent (.poll setting.held.readDescriptor timeout)
        (.ok .timedOut) kernel
  | pollReady
      {timeout : Nat}
      {revents : Revents}
      (readable : kernel.Readable)
      (polled : kernel.Polled revents) :
      Answered kernel .parent (.poll setting.held.readDescriptor timeout)
        (.ok (.ready revents)) kernel
  | readFailed
      {fd : Fd}
      {size : Nat}
      (error : Errno)
      (waits : error = .eagain → ¬ kernel.Readable) :
      Answered kernel .parent (.read fd size) (.error error) kernel
  | read
      {size : Nat}
      {bytes rest : List UInt8}
      (front : kernel.fifo = bytes ++ rest)
      (some : bytes.length ≤ size)
      (ended :
        bytes = [] →
        size = 0 ∨ kernel.fifo = [] ∧ kernel.writer = none) :
      Answered kernel .parent (.read setting.held.readDescriptor size)
        (.ok bytes) { kernel with fifo := rest }
  | close
      {fd : Fd}
      (answer : Result Unit) :
      Answered kernel .parent (.close fd) answer kernel
  | unlink
      {path : String}
      (answer : Result Unit) :
      Answered kernel .parent (.unlink path) answer kernel
  | rmdir
      {path : String}
      (answer : Result Unit) :
      Answered kernel .parent (.rmdir path) answer kernel
  | childClose
      {fd : Fd}
      (running : kernel.life = .running)
      (answer : Result Unit) :
      Answered kernel .child (.close fd) answer
        { kernel with writer := drop fd kernel.writer }
  | openFailed
      {path : String}
      (running : kernel.life = .running)
      (error : Errno) :
      Answered kernel .child (.openWriter path) (.error error) kernel
  | openWriter
      {path : String}
      (running : kernel.life = .running)
      (fd : Fd) :
      Answered kernel .child (.openWriter path) (.ok fd)
        { kernel with writer := some fd }
  | writeFailed
      {fd : Fd}
      {bytes : List UInt8}
      (running : kernel.life = .running)
      (error : Errno) :
      Answered kernel .child (.write fd bytes) (.error error) kernel
  | write
      {fd : Fd}
      {bytes : List UInt8}
      {count : Nat}
      (running : kernel.life = .running)
      (isWriter : kernel.writer = some fd)
      (some : count ≤ bytes.length)
      (whole : bytes.length ≤ setting.pipeBuf → count = bytes.length)
      (room : kernel.fifo.length + count ≤ setting.capacity) :
      Answered kernel .child (.write fd bytes) (.ok count)
        { kernel with fifo := kernel.fifo ++ bytes.take count }
  | exit
      {status : Nat}
      (running : kernel.life = .running) :
      Answered kernel .child (.exit status) ()
        (kernel.ended (.exited status))

/-- By itself only the child may end, by a signal. -/
inductive Evolves (kernel : Kernel) : Kernel → Prop where
  | childKilled
      (signal : Nat)
      (running : kernel.life = .running) :
      Evolves kernel (kernel.ended (.signaled signal))

/-- The rules of the kernel. -/
def rules : Processes.Rules Answer Role Kernel where
  answers := Answered setting
  evolves := Evolves

/-- The two programs after `fork`, their loops unrolled up to a bound. -/
def programs (fuel : Nat) : (role : Role) → Tree Answer (Outcome role)
  | .parent =>
      parentReceiving setting.message
        { setting.held with child := some setting.child } setting.child fuel
  | .child => child setting.message setting.held fuel

/-- The states after `fork`. -/
abbrev State := Processes.State Answer Kernel Outcome

/-- The state right after `fork`. -/
def start (fuel : Nat) : State :=
  .start (programs setting fuel) .forked

end AdvanceUnix.Fifo.Handover
