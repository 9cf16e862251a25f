import AdvanceUnix.DescriptorHandover
import AdvanceUnix.SessionReport

namespace AdvanceUnix.ProcessGroups

open CallTree ChildProcess
open FdPassing.Handover (ChildLife)

/-!
# The kernel under the report

What parent and child of `22_process_groups` share after `fork`: the pipe, its
write ends, and the child's life.
-/

/-- What `main` has set up when it forks. -/
structure Setting where
  pipeFds : Fd × Fd
  child : Pid
  capacity : Nat
  child_small : child.number < 2147483648

/-- The shared objects. -/
structure Kernel where
  pipe : List UInt8
  parentWriter : Bool
  childWriter : Bool
  life : ChildLife
  reaped : Bool

/-- Right after `fork`: both have a write end. -/
def Kernel.forked : Kernel where
  pipe := []
  parentWriter := true
  childWriter := true
  life := .running
  reaped := false

/-- A child that ends leaves no write end behind. -/
def Kernel.ended (kernel : Kernel) (status : WaitStatus) : Kernel :=
  { kernel with childWriter := false, life := .ended status }

/-- A process id is a positive `pid_t` and an error number a positive `int`. -/
def SmallResult : Result Pid → Prop
  | .error error => error.code < 2147483648
  | .ok pid => pid.number < 2147483648

variable (setting : Setting)

/--
What the kernel may answer.  Every transfer, close and wait may fail, and the
calls about the session may answer any process id or fail.
-/
inductive Answered (kernel : Kernel) :
    Role → (request : Syscall) → Answer request → Kernel → Prop where
  | close
      {fd : Fd}
      (answer : Result Unit) :
      Answered kernel .parent (.close fd) answer
        { kernel with
          parentWriter := kernel.parentWriter && fd ≠ setting.pipeFds.2 }
  | readFailed
      {fd : Fd}
      {size : Nat}
      (error : Errno) :
      Answered kernel .parent (.read fd size) (.error error) kernel
  | read
      {size : Nat}
      {bytes rest : List UInt8}
      (front : kernel.pipe = bytes ++ rest)
      (some : bytes.length ≤ size)
      (ended :
        bytes = [] →
        size = 0 ∨
          kernel.pipe = [] ∧
            kernel.parentWriter = false ∧ kernel.childWriter = false) :
      Answered kernel .parent (.read setting.pipeFds.1 size) (.ok bytes)
        { kernel with pipe := rest }
  | waitFailed
      {child : Pid}
      (error : Errno) :
      Answered kernel .parent (.waitpid child) (.error error) kernel
  | wait
      {status : WaitStatus}
      (ended : kernel.life = .ended status)
      (notReaped : kernel.reaped = false) :
      Answered kernel .parent (.waitpid setting.child) (.ok status)
        { kernel with reaped := true }
  | childClose
      {fd : Fd}
      (running : kernel.life = .running)
      (answer : Result Unit) :
      Answered kernel .child (.close fd) answer
        { kernel with
          childWriter := kernel.childWriter && fd ≠ setting.pipeFds.2 }
  | getpid
      (running : kernel.life = .running) :
      Answered kernel .child .getpid setting.child kernel
  | setsid
      {answer : Result Pid}
      (running : kernel.life = .running)
      (small : SmallResult answer) :
      Answered kernel .child .setsid answer kernel
  | getpgid
      {answer : Result Pid}
      (running : kernel.life = .running)
      (small : SmallResult answer) :
      Answered kernel .child .getpgid answer kernel
  | getsid
      {answer : Result Pid}
      (running : kernel.life = .running)
      (small : SmallResult answer) :
      Answered kernel .child .getsid answer kernel
  | writeFailed
      {fd : Fd}
      {bytes : List UInt8}
      (running : kernel.life = .running)
      (error : Errno) :
      Answered kernel .child (.write fd bytes) (.error error) kernel
  | write
      {bytes : List UInt8}
      {count : Nat}
      (running : kernel.life = .running)
      (isOpen : kernel.childWriter = true)
      (some : count ≤ bytes.length)
      (room : kernel.pipe.length + count ≤ setting.capacity) :
      Answered kernel .child (.write setting.pipeFds.2 bytes) (.ok count)
        { kernel with pipe := kernel.pipe ++ bytes.take count }
  | exit
      {status : Nat}
      (running : kernel.life = .running) :
      Answered kernel .child (.exit status) ()
        (kernel.ended (.exited status))

/-- By itself only the child may end, by a signal. -/
inductive Evolves (kernel : Kernel) : Kernel → Prop where
  | childKilled
      (signal : Nat)
      (running : kernel.life = .running) :
      Evolves kernel (kernel.ended (.signaled signal))

/-- The rules of the kernel. -/
def rules : Processes.Rules Answer Role Kernel where
  answers := Answered setting
  evolves := Evolves

/-- The two programs after `fork`, their loops unrolled up to a bound. -/
def programs (fuel : Nat) : (role : Role) → Tree Answer (Outcome role)
  | .parent => parent setting.pipeFds setting.child fuel
  | .child => child setting.pipeFds fuel

/-- The states after `fork`. -/
abbrev State := Processes.State Answer Kernel Outcome

/-- The state right after `fork`. -/
def start (fuel : Nat) : State :=
  .start (programs setting fuel) .forked

/-- What `setsid` has answered in an event. -/
def setsidBy : Event Answer → List (Result Pid)
  | ⟨.setsid, answer⟩ => [answer]
  | _ => []

/-- What `getpgid` has answered in an event. -/
def getpgidBy : Event Answer → List (Result Pid)
  | ⟨.getpgid, answer⟩ => [answer]
  | _ => []

/-- What `getsid` has answered in an event. -/
def getsidBy : Event Answer → List (Result Pid)
  | ⟨.getsid, answer⟩ => [answer]
  | _ => []

/-- The bytes that a `write` has moved. -/
def writtenBy : Event Answer → List UInt8
  | ⟨.write _ bytes, answer⟩ =>
      bytes.take ((answer : Result Nat).toOption.getD 0)
  | _ => []

/-- The bytes that a `read` has moved. -/
def readBy : Event Answer → List UInt8
  | ⟨.read _ _, answer⟩ => (answer : Result (List UInt8)).toOption.getD []
  | _ => []

/-- The end of a child that `waitpid` has reported. -/
def reapedBy : Event Answer → List WaitStatus
  | ⟨.waitpid _, answer⟩ => (answer : Result WaitStatus).toOption.toList
  | _ => []

/-- A call of the parent that has failed, interruptions aside. -/
def Fails : (request : Syscall) → Answer request → Bool
  | .close _, answer => (answer : Result Unit).toOption.isNone
  | .read _ _, answer =>
      match (answer : Result (List UInt8)) with
      | .error error => error ≠ .eintr
      | .ok _ => false
  | .waitpid _, answer =>
      match (answer : Result WaitStatus) with
      | .error error => error ≠ .eintr
      | .ok _ => false
  | _, _ => false

/-- A wait that has failed for good. -/
def WaitFails : (request : Syscall) → Answer request → Bool
  | .waitpid child, answer => Fails (.waitpid child) answer
  | _, _ => false

end AdvanceUnix.ProcessGroups
