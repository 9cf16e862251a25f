import AdvanceUnix.Audit
import AdvanceUnix.SystemCalls

namespace AdvanceUnix

/-- `EOVERFLOW`. -/
def Errno.eoverflow : Errno := ⟨75, by decide⟩

namespace PidDescriptor

open CallTree

/-!
# A child that is awaited through a descriptor

The program of `17_pidfd`.  Its child calls `_exit` at once, so it ends by
itself, unless a signal from elsewhere ends it first.
-/

/-- `CHILD_STATUS`: all that the child does is to exit with it. -/
def childStatus : Nat := 42

/-- `INT_MAX`. -/
def intMax : Int := 2147483647

/-- `POLLIN`. -/
def pollin : BitVec 16 := 1

/-- `si_code`: how a child ended. -/
inductive ChildCode where
  | exited
  | killed
  | dumped
  deriving DecidableEq, Repr

/-- The fields of `siginfo_t` that the program looks at. -/
structure Siginfo where
  code : ChildCode
  status : Nat
  pid : Pid
  deriving DecidableEq, Repr

/-- The calls of the program. -/
inductive Call where
  | fork
  | pidfdOpen (pid : Pid) (flags : Nat)
  | poll (fd : Fd) (events : BitVec 16) (timeout : Nat)
  | waitid (pidfd : Fd)
  | waitpid (pid : Pid)
  | close (fd : Fd)
  deriving DecidableEq, Repr

/--
Their answers, to the parent: `poll` tells how many descriptors have events,
and the events of the one.
-/
@[reducible] def Answer : Call → Type
  | .fork => Result Pid
  | .pidfdOpen _ _ => Result Int
  | .poll _ _ _ => Result (Nat × BitVec 16)
  | .waitid _ => Result Siginfo
  | .waitpid _ => Result WaitStatus
  | .close _ => Result Unit

/-- A program over these calls. -/
abbrev Parental (α : Type) := Program Answer α

/-- Make one call. -/
def invoke (call : Call) : Parental (Answer call) :=
  Program.request call

/-- What `pidfd_open_compat` makes of the value of the system call. -/
def narrowed : Result Int → Result Fd
  | .error error => .error error
  | .ok value => if value > intMax then .error .eoverflow else .ok value

/-- `pidfd_open_compat`. -/
def pidfdOpenCompat (pid : Pid) (flags : Nat) : Parental (Result Fd) := do
  return narrowed (← invoke (.pidfdOpen pid flags))

/-- `poll_retry`. -/
def pollRetry (fd : Fd) (timeout : Nat) :
    Parental (Result (Nat × BitVec 16)) :=
  Program.retry (· = Errno.eintr) (invoke (.poll fd pollin timeout))

/-- What the cleanup section finds: -1 for a descriptor that is not owned. -/
structure Held where
  pidfd : Fd := -1
  child : Option Pid := none
  childReaped : Bool := false
  deriving DecidableEq, Repr

/-- The cleanup of the child: it may be gone already. -/
def cleanupChild (held : Held) (result : Exit) : Parental Exit :=
  match held.child with
  | none => return result
  | some child =>
      if held.childReaped then
        return result
      else do
        match ←
            Program.retry (· = Errno.eintr) (invoke (.waitpid child)) with
        | .error error =>
            return if error = .echild then result else .failure
        | .ok _ => return result

/-- The cleanup section. -/
def cleanup (held : Held) (result : Exit) : Parental Exit := do
  let result ←
    Program.releasing (0 ≤ held.pidfd) (invoke (.close held.pidfd)) .failure
      result
  cleanupChild held result

/-- `main` once the descriptor can be read. -/
def reap (child : Pid) (pidfd : Fd) : Parental Exit := do
  let .ok info ←
      Program.retry (· = Errno.eintr) (invoke (.waitid pidfd))
    | cleanup { pidfd := pidfd, child := some child } .failure
  let held : Held :=
    { pidfd := pidfd, child := some child, childReaped := true }
  if info.code ≠ .exited ∨ info.status ≠ childStatus ∨ info.pid ≠ child then
    cleanup held .failure
  else
    cleanup held .success

/-- `main`, as the parent. -/
def main : Parental Exit := do
  let .ok child ← invoke .fork
    | cleanup {} .failure
  let .ok pidfd ← pidfdOpenCompat child 0
    | cleanup { child := some child } .failure
  let held : Held := { pidfd := pidfd, child := some child }
  let .ok (count, revents) ← pollRetry pidfd 2000
    | cleanup held .failure
  if count = 0 then
    cleanup held .failure
  else if revents &&& pollin = 0 then
    cleanup held .failure
  else
    reap child pidfd

/-- How the child ends, and whether the parent is not to hear of it. -/
structure World where
  fate : WaitStatus
  ignored : Bool
  ends : fate = .exited childStatus ∨ ∃ signal, fate = .signaled signal

/--
The child, what is known of it, the descriptor that names it, and whether
waiting for the child by its number has failed for good.
-/
structure Kernel where
  child : Option Pid := none
  ended : Bool := false
  reaped : Bool := false
  pidfd : Option Fd := none
  waitFailed : Bool := false
  deriving DecidableEq, Repr

namespace Kernel

variable (kernel : Kernel)

/-- The effect of an answered call. -/
def next : (request : Call) → Answer request → Kernel
  | .fork, .ok child => { kernel with child := some child }
  | .pidfdOpen _ _, .ok fd => { kernel with pidfd := some fd }
  | .poll _ events _, .ok (_, revents) =>
      { kernel with
        ended := kernel.ended || revents &&& events &&& pollin ≠ 0 }
  | .waitid _, .ok _ => { kernel with ended := true, reaped := true }
  | .waitpid _, .ok _ => { kernel with ended := true, reaped := true }
  | .waitpid _, .error error =>
      if error = .eintr ∨ error = .echild then
        kernel
      else
        { kernel with waitFailed := true }
  | .close _, _ => { kernel with pidfd := none }
  | _, _ => kernel

/-- The report of a child matches how it ended. -/
def Reports (world : World) (info : Siginfo) : Prop :=
  kernel.child = some info.pid ∧
    match world.fate with
    | .exited status => info.code = .exited ∧ info.status = status
    | .signaled signal => info.code ≠ .exited ∧ info.status = signal

/--
What the kernel may answer: a child is waited for once, and never if its
parent is not to hear of it.
-/
def Allows (world : World) : (request : Call) → Answer request → Prop
  | .pidfdOpen _ _, answer =>
      (answer : Result Int).Meets (fun _ => True) fun value =>
        0 ≤ value ∧ value ≤ intMax
  | .poll _ events _, answer =>
      (answer : Result (Nat × BitVec 16)).Meets (fun _ => True) fun polled =>
        polled.1 ≤ 1 ∧ (polled.1 = 0 ↔ polled.2 = 0) ∧
          (polled.2 &&& pollin ≠ 0 → events &&& pollin ≠ 0)
  | .waitid _, answer =>
      (answer : Result Siginfo).Meets (fun _ => True) fun info =>
        world.ignored = false ∧ kernel.reaped = false ∧
          kernel.Reports world info
  | .waitpid _, answer =>
      (answer : Result WaitStatus).Meets
        (fun error =>
          error = .echild → world.ignored = true ∨ kernel.reaped = true)
        (fun status =>
          world.ignored = false ∧ kernel.reaped = false ∧
            status = world.fate)
  | _, _ => True

/--
The number of the child and its descriptor are only used while they name it,
and waiting through the descriptor does not wait.
-/
def Safe : Call → Prop
  | .fork => kernel = {}
  | .pidfdOpen pid _ =>
      kernel.child = some pid ∧ kernel.reaped = false ∧ kernel.pidfd = none
  | .poll fd _ _ => kernel.pidfd = some fd
  | .waitid fd =>
      kernel.pidfd = some fd ∧ kernel.ended = true ∧ kernel.reaped = false
  | .waitpid pid => kernel.child = some pid ∧ kernel.reaped = false
  | .close fd => kernel.pidfd = some fd

end Kernel

/-- A call that has failed: a child that is gone may be waited for in vain. -/
def Fails : (request : Call) → Answer request → Bool
  | .fork, answer => (answer : Result Pid).toOption.isNone
  | .pidfdOpen _ _, answer => (answer : Result Int).toOption.isNone
  | .poll _ _ _, answer =>
      FailsFor (fun polled => polled.1 ≠ 0 ∧ polled.2 &&& pollin ≠ 0)
        (answer : Result (Nat × BitVec 16))
  | .waitid _, answer => FailsFor (fun _ => true) (answer : Result Siginfo)
  | .waitpid _, answer =>
      match (answer : Result WaitStatus) with
      | .error error => error ≠ .eintr ∧ error ≠ .echild
      | .ok _ => false
  | .close _, answer => (answer : Result Unit).toOption.isNone

/-- The audit of the program. -/
def audit (world : World) : Audit Answer Kernel where
  next := Kernel.next
  allows := fun kernel => kernel.Allows world
  safe := Kernel.Safe
  fails := Fails

end PidDescriptor

end AdvanceUnix
