import AdvanceUnix.Audit
import AdvanceUnix.RecordLocks
import AdvanceUnix.SystemCalls

namespace AdvanceUnix.FileLocking

open CallTree RecordLocks

/-!
# Open file description locks

The program of `04_file_locking` and the kernel under it: descriptors that
share an open file description, and locks whose owner is the description, or,
as with the traditional `F_SETLK`, the process.
-/

/-- `EACCES`. -/
def eacces : Errno := ⟨13, by decide⟩

/-- The lock types that the program asks for. -/
inductive LockType where
  | wrlck
  | unlck
  deriving DecidableEq, Repr

/-- `struct flock`, with a range that is counted from `SEEK_SET`. -/
structure Flock where
  type : LockType
  start : Nat
  len : Nat
  pid : Int
  deriving DecidableEq, Repr

/-- The bytes that are locked: a length of 0 reaches to the end. -/
def Flock.region (lock : Flock) : Set Nat :=
  { position |
    lock.start ≤ position ∧
      (lock.len = 0 ∨ position < lock.start + lock.len) }

instance (lock : Flock) : DecidablePred (· ∈ lock.region) :=
  fun position =>
    inferInstanceAs (Decidable (lock.start ≤ position ∧
      (lock.len = 0 ∨ position < lock.start + lock.len)))

/-- The calls of the program. -/
inductive Call where
  | mkstemp
  | write (fd : Fd) (bytes : List UInt8)
  | dup (fd : Fd)
  | openReadWrite (path : String)
  | ofdSetlk (fd : Fd) (lock : Flock)
  | close (fd : Fd)
  | unlink (path : String)
  deriving DecidableEq, Repr

/-- Their answers: `mkstemp` also answers the path it has made up. -/
@[reducible] def Answer : Call → Type
  | .mkstemp => Result (Fd × String)
  | .write _ _ => Result Nat
  | .dup _ => Result Fd
  | .openReadWrite _ => Result Fd
  | .ofdSetlk _ _ => Result Unit
  | .close _ => Result Unit
  | .unlink _ => Result Unit

/-- A program over these calls. -/
abbrev Locking (α : Type) := Program Answer α

/-- Make one call. -/
def invoke (call : Call) : Locking (Answer call) :=
  Program.request call

/-- The lock that `set_ofd_lock` describes. -/
def firstByte (type : LockType) : Flock where
  type := type
  start := 0
  len := 1
  pid := 0

/-- `set_ofd_lock`. -/
def setOfdLock (fd : Fd) (type : LockType) : Locking (Result Unit) :=
  invoke (.ofdSetlk fd (firstByte type))

/-- `expect_conflict`: whether it returns 0. -/
def expectConflict (fd : Fd) : Locking Bool := do
  match ← setOfdLock fd .wrlck with
  | .ok _ =>
      let _ ← setOfdLock fd .unlck
      return false
  | .error error => return error = .eagain ∨ error = eacces

/-- What the cleanup section finds: -1 for a descriptor that is not open. -/
structure Held where
  owner : Fd := -1
  duplicate : Fd := -1
  contender : Fd := -1
  file : Option String := none
  deriving DecidableEq, Repr

/-- `if (fd >= 0 && close(fd) < 0) { ... result = EXIT_FAILURE; }`. -/
def closeHeld (fd : Fd) (result : Exit) : Locking Exit :=
  Program.releasing (0 ≤ fd) (invoke (.close fd)) .failure result

/-- The cleanup section. -/
def cleanup (held : Held) (result : Exit) : Locking Exit := do
  let result ← closeHeld held.owner result
  let result ← closeHeld held.duplicate result
  let result ← closeHeld held.contender result
  match held.file with
  | none => return result
  | some path =>
      Program.releasing true (invoke (.unlink path)) .failure result

/-- `main` from the first lock on. -/
def lockInTurn (held : Held) : Locking Exit := do
  let .ok _ ← setOfdLock held.owner .wrlck
    | cleanup held .failure
  if ← expectConflict held.contender then
    let closed ← invoke (.close held.owner)
    let held := { held with owner := -1 }
    let .ok _ := closed
      | cleanup held .failure
    if ← expectConflict held.contender then
      let .ok _ ← setOfdLock held.duplicate .unlck
        | cleanup held .failure
      let .ok _ ← setOfdLock held.contender .wrlck
        | cleanup held .failure
      cleanup held .success
    else
      cleanup held .failure
  else
    cleanup held .failure

/-- `main`. -/
def main : Locking Exit := do
  let .ok created ← invoke .mkstemp
    | cleanup {} .failure
  let held : Held := { owner := created.1, file := some created.2 }
  let .ok 1 ←
      Program.retry (· = Errno.eintr) (invoke (.write held.owner [120]))
    | cleanup held .failure
  let .ok duplicate ← invoke (.dup held.owner)
    | cleanup held .failure
  let held := { held with duplicate := duplicate }
  let .ok contender ← invoke (.openReadWrite created.2)
    | cleanup held .failure
  lockInTurn { held with contender := contender }

/-- Who owns a lock: the open file description or the process. -/
inductive Ownership where
  | description
  | process
  deriving DecidableEq, Repr

/--
The system that the program runs on: whose its locks are, and whether some
other process may hold a lock on the file.
-/
structure World where
  ownership : Ownership
  outsiders : Bool
  deriving DecidableEq, Repr

/-- One step of the lock protocol that took effect, or a refusal. -/
inductive LockStep where
  | granted (fd : Fd) (type : LockType)
  | refused (fd : Fd)
  | closed (fd : Fd)
  deriving DecidableEq, Repr

/--
The kernel: open descriptors with their descriptions, how many descriptions
there have been, who holds which lock, the path of the file, and whether
removing the file has been refused.
-/
structure Kernel where
  descriptors : List (Fd × Nat) := []
  descriptions : Nat := 0
  locks : Table Nat Nat := .free
  file : Option String := none
  unlinkFailed : Bool := false

namespace Kernel

variable (world : World) (kernel : Kernel)

/-- The description behind a descriptor. -/
def description (fd : Fd) : Nat :=
  ((kernel.descriptors.find? (·.1 = fd)).map (·.2)).getD 0

/-- The owner of the locks that are set through a descriptor. -/
def ownerOf (fd : Fd) : Nat :=
  match world.ownership with
  | .description => kernel.description fd
  | .process => 0

/-- A descriptor that no other open one has the number of. -/
def Fresh (fd : Fd) : Prop :=
  0 ≤ fd ∧ ∀ entry ∈ kernel.descriptors, entry.1 ≠ fd

instance (fd : Fd) : Decidable (kernel.Fresh fd) :=
  inferInstanceAs (Decidable (0 ≤ fd ∧
    ∀ entry ∈ kernel.descriptors, entry.1 ≠ fd))

/-- The descriptor is open. -/
def Open (fd : Fd) : Prop :=
  ∃ description, (fd, description) ∈ kernel.descriptors

/-- A new descriptor for a new description. -/
def opened (fd : Fd) : Kernel :=
  { kernel with
    descriptors := (fd, kernel.descriptions) :: kernel.descriptors
    descriptions := kernel.descriptions + 1 }

/--
A description loses its locks with its last descriptor, and a process with
any descriptor of the file.
-/
def closed (fd : Fd) : Kernel :=
  let descriptors := kernel.descriptors.filter (·.1 ≠ fd)
  { kernel with
    descriptors := descriptors
    locks :=
      if world.ownership = .description ∧
          ∃ entry ∈ descriptors, entry.2 = kernel.description fd then
        kernel.locks
      else
        kernel.locks.drop (kernel.ownerOf world fd) }

/-- What a lock that is granted makes of the table. -/
def locked (fd : Fd) (lock : Flock) : Kernel :=
  { kernel with
    locks :=
      kernel.locks.put (kernel.ownerOf world fd) lock.region
        (match lock.type with
          | .wrlck => some .exclusive
          | .unlck => none) }

/-- The effect of an answered call: what is closed is gone in any case. -/
def next : (request : Call) → Answer request → Kernel
  | .mkstemp, .ok (fd, path) =>
      { kernel.opened fd with file := some path }
  | .dup fd, .ok duplicate =>
      { kernel with
        descriptors :=
          (duplicate, kernel.description fd) :: kernel.descriptors }
  | .openReadWrite _, .ok fd => kernel.opened fd
  | .ofdSetlk fd lock, .ok _ => kernel.locked world fd lock
  | .close fd, _ => kernel.closed world fd
  | .unlink _, .ok _ => { kernel with file := none }
  | .unlink _, .error _ => { kernel with unlinkFailed := true }
  | _, _ => kernel

/-- Another owner of a conflicting lock, as far as the kernel knows it. -/
def Refuses (fd : Fd) (lock : Flock) : Prop :=
  kernel.locks.Refuses (kernel.ownerOf world fd) .exclusive lock.region

/--
What the kernel may answer.  Any call may fail, but the two errors for a
conflict are about a lock that is asked for while someone else has one.
-/
def Allows : (request : Call) → Answer request → Prop
  | .mkstemp, answer =>
      (answer : Result (Fd × String)).Meets (fun _ => True)
        (fun created => kernel.Fresh created.1)
  | .write _ bytes, answer =>
      (answer : Result Nat).Meets (fun _ => True) (· ≤ bytes.length)
  | .dup _, answer =>
      (answer : Result Fd).Meets (fun _ => True) kernel.Fresh
  | .openReadWrite _, answer =>
      (answer : Result Fd).Meets (fun _ => True) kernel.Fresh
  | .ofdSetlk fd lock, answer =>
      (answer : Result Unit).Meets
        (fun error =>
          error = .eagain ∨ error = eacces →
          lock.type = .wrlck ∧
            (kernel.Refuses world fd lock ∨ world.outsiders = true))
        (fun _ => lock.type = .wrlck → ¬ kernel.Refuses world fd lock)
  | _, _ => True

/-- Only what is open is used, and only the file that is there. -/
def Safe : Call → Prop
  | .mkstemp => kernel.descriptors = []
  | .write fd _ => kernel.Open fd
  | .dup fd => kernel.Open fd
  | .openReadWrite path => kernel.file = some path
  | .ofdSetlk fd lock => kernel.Open fd ∧ lock.pid = 0
  | .close fd => kernel.Open fd
  | .unlink path => kernel.file = some path

end Kernel

/-- A call that has failed, other than by a conflict or an interruption. -/
def Fails : (request : Call) → Answer request → Bool
  | .mkstemp, answer => (answer : Result (Fd × String)).toOption.isNone
  | .write _ bytes, answer =>
      match (answer : Result Nat) with
      | .error error => error ≠ .eintr
      | .ok count => count ≠ bytes.length
  | .dup _, answer => (answer : Result Fd).toOption.isNone
  | .openReadWrite _, answer => (answer : Result Fd).toOption.isNone
  | .ofdSetlk _ _, answer =>
      match (answer : Result Unit) with
      | .error error => error ≠ .eagain ∧ error ≠ eacces
      | .ok _ => false
  | .close _, answer => (answer : Result Unit).toOption.isNone
  | .unlink _, answer => (answer : Result Unit).toOption.isNone

/-- What the calls do to the lock. -/
def stepsOf : Event Answer → List LockStep
  | ⟨.ofdSetlk fd lock, answer⟩ =>
      match (answer : Result Unit) with
      | .error _ => [.refused fd]
      | .ok _ => [.granted fd lock.type]
  | ⟨.close fd, _⟩ => [.closed fd]
  | _ => []

/-- The audit of the program. -/
def audit (world : World) : Audit Answer Kernel where
  next := Kernel.next world
  allows := Kernel.Allows world
  safe := Kernel.Safe
  fails := Fails

/-- The kernel, whether a call has failed, and the steps so far. -/
abbrev Watched := Audit.Noted Kernel LockStep

/-- The monitor of the program. -/
def monitor (world : World) : Monitor Answer Watched :=
  (audit world).noting stepsOf

end AdvanceUnix.FileLocking
