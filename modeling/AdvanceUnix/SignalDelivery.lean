import AdvanceUnix.Processes
import AdvanceUnix.PortableSignals

namespace AdvanceUnix.PortableSignals

open CallTree ChildProcess

/-!
# Delivery of `SIGUSR1`

What the kernel keeps of the parent: its mask, the pending bit and the
disposition of `SIGUSR1`, and the flag that the handler sets.  A blocked
signal becomes pending, whatever its disposition, and further ones merge into
it.  The counters are not the kernel's: they account for the signals that are
generated between the block and the last `sigaction`.
-/

/-- Where the parent stands between the block and the last `sigaction`. -/
inductive Window where
  | before
  | opened
  | closed
  deriving DecidableEq, Repr

/-- The block opens the window, once. -/
def Window.opening : Window → Window
  | .before => .opened
  | window => window

/-- A window that is closed is not opened again. -/
theorem Window.opening_closed
    {window : Window} :
    window.opening = .closed ↔ window = .closed := by
  cases window <;> decide

/-- What became of the forked child. -/
inductive ChildLife where
  | unborn
  | alive
  | terminated
  deriving DecidableEq, Repr

/-- The set that holds `SIGUSR1` alone: signal 10 is bit 9. -/
def sigusr1Set : SignalSet := BitVec.twoPow 64 9

/-- `SIGUSR1` is in a set. -/
def blocks (mask : SignalSet) : Bool := mask.getLsbD 9

@[simp]
theorem blocks_add (mask : SignalSet) :
    blocks (mask ||| sigusr1Set) = true := by
  simp [blocks, sigusr1Set]

@[simp]
theorem blocks_or (first second : SignalSet) :
    blocks (first ||| second) = (blocks first || blocks second) :=
  BitVec.getLsbD_or

@[simp]
theorem blocks_remove (mask : SignalSet) :
    blocks (mask &&& ~~~sigusr1Set) = false := by
  simp [blocks, sigusr1Set]

/-- The kernel, and the account of the signals generated in the window. -/
structure Kernel where
  parent : Pid
  mask : SignalSet
  pending : Bool
  disposition : Disposition
  received : Bool
  child : ChildLife
  window : Window
  handlerRuns : Nat
  generated : Nat
  handled : Nat
  merged : Nat
  lost : Nat
  deriving DecidableEq, Repr

namespace Kernel

/-- The pending signal is taken by the present disposition. -/
def deliver (kernel : Kernel) : Kernel :=
  match kernel.disposition with
  | .handleSigusr1 =>
      { kernel with
        received := true
        pending := false
        handlerRuns := kernel.handlerRuns + 1
        handled := kernel.handled + kernel.merged
        merged := 0 }
  | .inherited _ =>
      { kernel with
        pending := false
        lost := kernel.lost + kernel.merged
        merged := 0 }

/-- Some signals join the account as part of the pending one. -/
def arrive (kernel : Kernel) (count : Nat) : Kernel :=
  { kernel with
    generated := kernel.generated + count
    merged := kernel.merged + count }

/-- A signal counts if the window is open. -/
def counting (kernel : Kernel) : Nat :=
  if kernel.window = .opened then 1 else 0

/-- A `SIGUSR1` is generated for the parent. -/
def generate (kernel : Kernel) : Kernel :=
  if blocks kernel.mask then
    { kernel.arrive kernel.counting with pending := true }
  else
    (kernel.arrive kernel.counting).deliver

/-- The parent gets a mask, and what it lets through is delivered. -/
def setMask (kernel : Kernel) (mask : SignalSet) : Kernel :=
  if kernel.pending && !blocks mask then
    { kernel with mask := mask }.deliver
  else
    { kernel with mask := mask }

/--
The inherited disposition is back and the window is closed.  It takes a signal
that is still pending, or the signal is discarded.
-/
def restoreDisposition
    (kernel : Kernel)
    (action : Nat)
    (discarded : Bool) : Kernel :=
  { kernel with
    disposition := .inherited action
    window := .closed
    pending := kernel.pending && !discarded
    lost := kernel.lost + kernel.merged
    merged := 0 }

/-- What the parent starts with: any mask that does not hold `SIGUSR1`. -/
structure Initial (kernel : Kernel) : Prop where
  notBlocked : blocks kernel.mask = false
  notPending : kernel.pending = false
  inherited : kernel.disposition ≠ .handleSigusr1
  notReceived : kernel.received = false
  unborn : kernel.child = .unborn
  before : kernel.window = .before
  nothingHandled : kernel.handlerRuns = 0
  nothingCounted :
    kernel.generated = 0 ∧ kernel.handled = 0 ∧ kernel.merged = 0 ∧
      kernel.lost = 0

end Kernel

/-- The two programs, their loops unrolled up to a bound. -/
def programs (fuel : Nat) : (role : Role) → Tree Answer (Outcome role)
  | .parent => main fuel
  | .child => PortableSignals.child fuel

/--
What the kernel may answer.  Every call may fail; a dependable kernel fails
neither `sigaction` nor the restoration of the mask, and `waitpid` only when
interrupted or when the child is gone.  A `sigsuspend` returns when it has let
the pending `SIGUSR1` through, or for another signal or an error.
-/
inductive Answered (dependable : Prop) (kernel : Kernel) :
    Role → (request : Syscall) → Answer request → Kernel → Prop where
  | sigemptyset
      {answer : Result SignalSet}
      (cleared : answer.Meets (fun _ => True) (· = 0)) :
      Answered dependable kernel .parent .sigemptyset answer kernel
  | sigaddset
      {set : SignalSet}
      {answer : Result SignalSet}
      (added : answer.Meets (fun _ => True) (· = set ||| sigusr1Set)) :
      Answered dependable kernel .parent (.sigaddset set) answer kernel
  | sigdelset
      {set : SignalSet}
      {answer : Result SignalSet}
      (removed : answer.Meets (fun _ => True) (· = set &&& ~~~sigusr1Set)) :
      Answered dependable kernel .parent (.sigdelset set) answer kernel
  | sigismember
      {set : SignalSet}
      {answer : Result Bool}
      (tested : answer.Meets (fun _ => True) (· = blocks set)) :
      Answered dependable kernel .parent (.sigismember set) answer kernel
  | sigpending
      {answer : Result SignalSet}
      (reported :
        answer.Meets (fun _ => True) (blocks · = kernel.pending)) :
      Answered dependable kernel .parent .sigpending answer kernel
  | blockFailed
      {set : SignalSet}
      (error : Errno) :
      Answered dependable kernel .parent (.sigprocmask .block set)
        (.error error) kernel
  | block
      {set : SignalSet} :
      Answered dependable kernel .parent (.sigprocmask .block set)
        (.ok kernel.mask)
        { kernel with
          mask := kernel.mask ||| set
          window := kernel.window.opening }
  | setmaskFailed
      {set : SignalSet}
      (error : Errno)
      (undependable : ¬ dependable) :
      Answered dependable kernel .parent (.sigprocmask .setmask set)
        (.error error) kernel
  | setmask
      {set : SignalSet} :
      Answered dependable kernel .parent (.sigprocmask .setmask set)
        (.ok kernel.mask) (kernel.setMask set)
  | sigactionFailed
      {new : Disposition}
      (error : Errno)
      (undependable : ¬ dependable) :
      Answered dependable kernel .parent (.sigaction new) (.error error)
        kernel
  | install :
      Answered dependable kernel .parent (.sigaction .handleSigusr1)
        (.ok kernel.disposition)
        { kernel with disposition := .handleSigusr1 }
  | restore
      {action : Nat}
      (discarded : Bool) :
      Answered dependable kernel .parent (.sigaction (.inherited action))
        (.ok kernel.disposition)
        (kernel.restoreDisposition action discarded)
  | forkFailed
      (error : Errno) :
      Answered dependable kernel .parent .fork (.error error) kernel
  | fork
      (child : Pid)
      (unborn : kernel.child = .unborn) :
      Answered dependable kernel .parent .fork (.ok child)
        { kernel with child := .alive }
  | waitpidFailed
      {child : Pid}
      {error : Errno}
      (known :
        dependable →
        error = .eintr ∨ error = .echild ∧ kernel.child = .terminated) :
      Answered dependable kernel .parent (.waitpid child) (.error error)
        kernel
  | waitpid
      {child : Pid}
      (status : WaitStatus)
      (terminated : kernel.child = .terminated) :
      Answered dependable kernel .parent (.waitpid child) (.ok status) kernel
  | loadReceived
      {place : FlagCheck} :
      Answered dependable kernel .parent (.loadReceived place)
        kernel.received kernel
  | sigsuspend
      {mask : SignalSet}
      (pending : kernel.pending = true)
      (letThrough : blocks mask = false) :
      Answered dependable kernel .parent (.sigsuspend mask) (.error .eintr)
        kernel.deliver
  | sigsuspendOther
      {mask : SignalSet}
      (error : Errno) :
      Answered dependable kernel .parent (.sigsuspend mask) (.error error)
        kernel
  | getppid
      (alive : kernel.child = .alive) :
      Answered dependable kernel .child .getppid kernel.parent kernel
  | killFailed
      {target : Pid}
      (alive : kernel.child = .alive)
      (error : Errno) :
      Answered dependable kernel .child (.kill target .sigusr1)
        (.error error) kernel
  | kill
      (alive : kernel.child = .alive) :
      Answered dependable kernel .child (.kill kernel.parent .sigusr1)
        (.ok ()) kernel.generate
  | exit
      {status : Nat}
      (alive : kernel.child = .alive) :
      Answered dependable kernel .child (.exit status) ()
        { kernel with child := .terminated }

/-- What happens by itself: unrelated signals, and the child may be killed. -/
inductive Evolves (kernel : Kernel) : Kernel → Prop where
  | unrelated :
      Evolves kernel kernel.generate
  | childKilled
      (alive : kernel.child = .alive) :
      Evolves kernel { kernel with child := .terminated }

/-- The rules of the kernel. -/
def rules (dependable : Prop) : Processes.Rules Answer Role Kernel where
  answers := Answered dependable
  evolves := Evolves

end AdvanceUnix.PortableSignals
