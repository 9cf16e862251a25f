import AdvanceUnix.Audit
import AdvanceUnix.SignalDelivery

namespace AdvanceUnix.SignalDescriptor

open CallTree PortableSignals

/-!
# A signal that is read from a descriptor

The program of `06_signals` and the part of the kernel that it uses.  Nobody
else sends `SIGUSR1` while it runs, but one that was blocked may be pending
from the start: further ones merge into it.
-/

/-- The number of `SIGUSR1`. -/
def sigusr1 : Nat := 10

/-- `sizeof(struct signalfd_siginfo)`. -/
def siginfoSize : Nat := 128

/-- The fields of `signalfd_siginfo` that the program looks at. -/
structure Siginfo where
  signo : Nat
  pid : Nat
  deriving DecidableEq, Repr

/-- The calls of the program. -/
inductive Call where
  | sigemptyset
  | sigaddset (set : SignalSet)
  | sigprocmask (how : MaskChange) (set : SignalSet)
  | signalfd (set : SignalSet)
  | getpid
  | kill (pid : Pid)
  | read (fd : Fd)
  | sigtimedwait (set : SignalSet)
  | close (fd : Fd)
  deriving DecidableEq, Repr

/-- Their answers: a read tells how many bytes it has filled in. -/
@[reducible] def Answer : Call → Type
  | .sigemptyset => Result SignalSet
  | .sigaddset _ => Result SignalSet
  | .sigprocmask _ _ => Result SignalSet
  | .signalfd _ => Result Fd
  | .getpid => Pid
  | .kill _ => Result Unit
  | .read _ => Result (Nat × Siginfo)
  | .sigtimedwait _ => Result Unit
  | .close _ => Result Unit

/-- A program over these calls. -/
abbrev Signalling (α : Type) := Program Answer α

/-- Make one call. -/
def invoke (call : Call) : Signalling (Answer call) :=
  Program.request call

/-- What the cleanup section finds. -/
structure Held where
  watched : SignalSet := 0
  previous : Option SignalSet := none
  signalSent : Bool := false
  signalConsumed : Bool := false
  signalFd : Fd := -1
  deriving DecidableEq, Repr

/-- The signal is taken away if it was sent and not read. -/
def drain (held : Held) : Signalling Unit := do
  if held.signalSent && !held.signalConsumed then
    let _ ←
      Program.retry (· = Errno.eintr) (invoke (.sigtimedwait held.watched))

/-- `sigprocmask(SIG_SETMASK, ...)`, without the mask that it replaces. -/
def setMask (mask : SignalSet) : Signalling (Result Unit) := do
  match ← invoke (.sigprocmask .setmask mask) with
  | .error error => return .error error
  | .ok _ => return .ok ()

/-- The mask is restored if it has been changed. -/
def restoreMask (held : Held) (result : Exit) : Signalling Exit :=
  match held.previous with
  | none => return result
  | some previous =>
      Program.releasing true (setMask previous) .failure result

/-- The cleanup section. -/
def cleanup (held : Held) (result : Exit) : Signalling Exit := do
  drain held
  let result ←
    Program.releasing (0 ≤ held.signalFd) (invoke (.close held.signalFd))
      .failure result
  restoreMask held result

/-- Whether the metadata are those of the own signal. -/
def verify (information : Siginfo) : Signalling Bool := do
  if information.signo = sigusr1 then
    let self ← invoke .getpid
    return information.pid = self.number
  else
    return false

/-- `main` once the signal has been read. -/
def consumed
    (held : Held)
    (previous : SignalSet)
    (information : Siginfo) : Signalling Exit := do
  if ← verify information then
    match ← invoke (.close held.signalFd) with
    | .error _ => cleanup { held with signalFd := -1 } .failure
    | .ok _ =>
        match ← setMask previous with
        | .error _ => cleanup { held with signalFd := -1 } .failure
        | .ok _ =>
            cleanup { held with signalFd := -1, previous := none } .success
  else
    cleanup held .failure

/-- `main` once `SIGUSR1` is blocked. -/
def blocked
    (watched previous : SignalSet) : Signalling Exit := do
  let held : Held := { watched := watched, previous := some previous }
  let .ok signalFd ← invoke (.signalfd watched)
    | cleanup held .failure
  let held := { held with signalFd := signalFd }
  let self ← invoke .getpid
  let .ok _ ← invoke (.kill self)
    | cleanup held .failure
  let held := { held with signalSent := true }
  let .ok (count, information) ←
      Program.retry (· = Errno.eintr) (invoke (.read signalFd))
    | cleanup held .failure
  if count = siginfoSize then
    consumed { held with signalConsumed := true } previous information
  else
    cleanup held .failure

/-- `main`. -/
def main : Signalling Exit := do
  let .ok empty ← invoke .sigemptyset
    | cleanup {} .failure
  let .ok watched ← invoke (.sigaddset empty)
    | cleanup {} .failure
  let .ok previous ← invoke (.sigprocmask .block watched)
    | cleanup { watched := watched } .failure
  blocked watched previous

/--
The mask and whether setting it was refused last, the `SIGUSR1` that is
pending, whether one got through to the program, and the descriptor with the
signals that it reads.
-/
structure Kernel where
  mask : SignalSet
  maskRefused : Bool := false
  pending : Option Siginfo := none
  delivered : Bool := false
  signalFd : Option (Fd × SignalSet) := none
  deriving DecidableEq, Repr

namespace Kernel

variable (kernel : Kernel)

/-- A mask takes effect: what it lets through is delivered. -/
def withMask (mask : SignalSet) : Kernel :=
  if kernel.pending.isSome && !blocks mask then
    { kernel with mask := mask, pending := none, delivered := true }
  else
    { kernel with mask := mask }

/-- A `SIGUSR1` is generated: it merges into one that is pending. -/
def generate (sender : Pid) : Kernel :=
  if blocks kernel.mask then
    { kernel with
      pending := kernel.pending.or (some ⟨sigusr1, sender.number⟩) }
  else
    { kernel with delivered := true }

/-- The effect of an answered call. -/
def next (self : Pid) : (request : Call) → Answer request → Kernel
  | .sigprocmask .block set, .ok _ => kernel.withMask (kernel.mask ||| set)
  | .sigprocmask .setmask set, .ok _ =>
      { kernel.withMask set with maskRefused := false }
  | .sigprocmask .setmask _, .error _ => { kernel with maskRefused := true }
  | .signalfd set, .ok fd => { kernel with signalFd := some (fd, set) }
  | .kill pid, .ok _ =>
      if pid = self then kernel.generate self else kernel
  | .read _, .ok (count, _) =>
      if count = siginfoSize then { kernel with pending := none } else kernel
  | .sigtimedwait _, .ok _ => { kernel with pending := none }
  | .close _, _ => { kernel with signalFd := none }
  | _, _ => kernel

/-- What the kernel may answer. -/
def Allows (self : Pid) : (request : Call) → Answer request → Prop
  | .sigemptyset, answer =>
      (answer : Result SignalSet).Meets (fun _ => True) (· = 0)
  | .sigaddset set, answer =>
      (answer : Result SignalSet).Meets (fun _ => True)
        (· = set ||| sigusr1Set)
  | .sigprocmask _ _, answer =>
      (answer : Result SignalSet).Meets (fun _ => True) (· = kernel.mask)
  | .signalfd _, answer => MayOpen (answer : Result Fd)
  | .getpid, answer => (answer : Pid) = self
  | .read _, answer =>
      (answer : Result (Nat × Siginfo)).Meets (fun _ => True) fun filled =>
        filled.1 ≤ siginfoSize ∧
          (filled.1 = siginfoSize → kernel.pending = some filled.2)
  | .sigtimedwait _, answer =>
      (answer : Result Unit).Meets
        (fun error =>
          error = .eintr ∨ error = .eagain ∧ kernel.pending = none)
        (fun _ => kernel.pending ≠ none)
  | _, _ => True

/--
`SIGUSR1` is blocked whenever it could arrive, only the own process gets it,
the mask is only changed back to what it was, and a read finds a signal.
-/
def Safe (self : Pid) (initial : SignalSet) : Call → Prop
  | .sigprocmask .setmask set =>
      set = initial ∧ (blocks set = true ∨ kernel.pending = none)
  | .signalfd set =>
      kernel.signalFd = none ∧ blocks set = true ∧
        blocks kernel.mask = true
  | .kill pid => pid = self ∧ blocks kernel.mask = true
  | .read fd =>
      kernel.pending ≠ none ∧
        ∃ set, kernel.signalFd = some (fd, set) ∧ blocks set = true
  | .sigtimedwait set => blocks set = true ∧ blocks kernel.mask = true
  | .close fd => ∃ set, kernel.signalFd = some (fd, set)
  | _ => True

end Kernel

/-- A call that has failed. -/
def Fails : (request : Call) → Answer request → Bool
  | .sigemptyset, answer => (answer : Result SignalSet).toOption.isNone
  | .sigaddset _, answer => (answer : Result SignalSet).toOption.isNone
  | .sigprocmask _ _, answer => (answer : Result SignalSet).toOption.isNone
  | .signalfd _, answer => (answer : Result Fd).toOption.isNone
  | .getpid, _ => false
  | .kill _, answer => (answer : Result Unit).toOption.isNone
  | .read _, answer =>
      FailsFor (fun filled => filled.1 = siginfoSize)
        (answer : Result (Nat × Siginfo))
  | .sigtimedwait _, _ => false
  | .close _, answer => (answer : Result Unit).toOption.isNone

/-- The process before the program starts. -/
structure World where
  self : Pid
  mask : SignalSet
  pending : Option Siginfo
  kept :
    ∀ information ∈ pending,
      blocks mask = true ∧ information.signo = sigusr1

/-- The kernel then. -/
def World.kernel (world : World) : Kernel where
  mask := world.mask
  pending := world.pending

/-- The audit of the program. -/
def audit (world : World) : Audit Answer Kernel where
  next := fun kernel => kernel.next world.self
  allows := fun kernel => kernel.Allows world.self
  safe := fun kernel => kernel.Safe world.self world.mask
  fails := Fails

end AdvanceUnix.SignalDescriptor
