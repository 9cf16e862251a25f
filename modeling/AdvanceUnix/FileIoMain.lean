import AdvanceUnix.Audit
import AdvanceUnix.InotifyNames
import AdvanceUnix.PositionedIo
import AdvanceUnix.ScatterGatherRoundTrip

namespace AdvanceUnix.FileIo

open CallTree PositionedIo
open FilesystemEvents (strcmp)

/-!
# Positioned and scattered access to one file

`main` of `01_file_io` and the kernel under it: a file with a content and an
offset, and the memory of the program.  What is written and where is a
parameter here.
-/

/-- The calls that no other program makes, and a look at the buffers. -/
inductive FileCall where
  | pread (fd : Fd) (size offset : Nat)
  | seekCurrent (fd : Fd)
  | seekStart (fd : Fd)
  | loadBuffers (addresses : List Nat)
  deriving DecidableEq, Repr

/-- Their answers: a position is never negative. -/
@[reducible] def FileAnswer : FileCall → Type
  | .pread _ _ _ => Result (List UInt8)
  | .seekCurrent _ => Result Nat
  | .seekStart _ => Result Nat
  | .loadBuffers _ => List UInt8

/-- All calls of the program. -/
abbrev Request := Syscall ⊕ FileCall

/-- And their answers. -/
abbrev Answers : Request → Type :=
  Extended Answer FileAnswer

/-- A program over these calls. -/
abbrev Filing (α : Type) := Program Answers α

/-- Make one call. -/
def invoke (request : Request) : Filing (Answers request) :=
  Program.request request

/-- `pread_full`: the end of the file ends it early. -/
def preadFull (fd : Fd) (size offset : Nat) :
    Filing (Result (List UInt8)) :=
  Program.reading (· = Errno.eintr) .ok
    (fun received missing =>
      invoke (.inr (.pread fd missing (offset + received))))
    size

/-- `pwrite_all`. -/
def pwriteAll (fd : Fd) (bytes : List UInt8) (offset : Nat) :
    Filing (Result Unit) :=
  Program.writing (· = Errno.eintr) .eio
    (fun written rest =>
      invoke (.inl (.pwrite fd rest (offset + written : Nat))))
    bytes

/-- What the cleanup section finds: -1 for a descriptor that is not open. -/
structure Held where
  fd : Fd := -1
  file : Option String := none
  deriving DecidableEq, Repr

/-- The removal of the file. -/
def cleanupFile (held : Held) (result : Exit) : Filing Exit :=
  Program.releasingSome held.file
    (fun path => invoke (.inl (.unlink path))) .failure result

/-- The cleanup section. -/
def cleanup (held : Held) (result : Exit) : Filing Exit := do
  let result ←
    Program.releasing (0 ≤ held.fd) (invoke (.inl (.close held.fd)))
      .failure result
  cleanupFile held result

/--
What is transferred: the text at the vectors of `output`, overwritten from a
position on, and the vectors of `input` that it is read into.
-/
structure Setting where
  memory : Nat → UInt8
  output : List IoVec
  input : List IoVec
  patch : List UInt8
  position : Nat
  expected : List UInt8
  outputLength : (spans output).length = expected.length
  inputLength : (spans input).length = expected.length
  distinct : (spans input).Nodup
  patchFits : position + patch.length ≤ expected.length
  noNul : 0 ∉ expected

/-- `gathered`: the copied bytes in an array of zeros. -/
def zeroed (bytes : List UInt8) (index : Nat) : UInt8 :=
  bytes.getD index 0

/-- `main` from the second look at the offset on. -/
def readBack (setting : Setting) (held : Held) : Filing Exit := do
  let .ok _ ← invoke (.inr (.seekStart held.fd))
    | cleanup held .failure
  let .ok _ ←
      Program.extended FileAnswer
        (transferIovecs held.fd setting.input false)
    | cleanup held .failure
  let gathered ← invoke (.inr (.loadBuffers (spans setting.input)))
  if (strcmp (zeroed gathered) 0 (setting.expected ++ [0])).1 = 0 then
    cleanup held .success
  else
    cleanup held .failure

/-- `main` with its file open. -/
def transfer (setting : Setting) (held : Held) : Filing Exit := do
  let size := setting.expected.length
  let .ok _ ←
      Program.extended FileAnswer
        (transferIovecs held.fd setting.output true)
    | cleanup held .failure
  let .ok _ ← pwriteAll held.fd setting.patch setting.position
    | cleanup held .failure
  let position ← invoke (.inr (.seekCurrent held.fd))
  if position.toOption = some size then
    let positioned ← preadFull held.fd size 0
    if positioned.toOption = some setting.expected then
      let again ← invoke (.inr (.seekCurrent held.fd))
      if again.toOption = some size then
        readBack setting held
      else
        cleanup held .failure
    else
      cleanup held .failure
  else
    cleanup held .failure

/-- `main`, for any transfer. -/
def mainTransferring (setting : Setting) : Filing Exit := do
  let .ok created ← invoke (.inl .mkstemp)
    | cleanup {} .failure
  transfer setting { fd := created.1, file := some created.2 }

/-- `hello`, a blank and `world` in the memory of the program. -/
def helloWorld : List UInt8 :=
  [104, 101, 108, 108, 111, 32, 119, 111, 114, 108, 100]

/-- `hello UNIX!`. -/
def helloUnix : List UInt8 :=
  [104, 101, 108, 108, 111, 32, 85, 78, 73, 88, 33]

/-- Both arrays of vectors are 5, 1 and 5 bytes long. -/
def threeParts (base : Nat) : List IoVec :=
  [⟨base, 5⟩, ⟨base + 5, 1⟩, ⟨base + 6, 5⟩]

/-- The transfer of the program, its strings at 0 and its buffers at 64. -/
def patchedGreeting : Setting where
  memory := zeroed helloWorld
  output := threeParts 0
  input := threeParts 64
  patch := [85, 78, 73, 88, 33]
  position := 6
  expected := helloUnix
  outputLength := rfl
  inputLength := rfl
  distinct := by decide
  patchFits := by decide
  noNul := by decide

/-- `main`. -/
def main : Filing Exit :=
  mainTransferring patchedGreeting

/--
The kernel: the open file, its path, whether removing it has failed, and the
memory of the program.
-/
structure Kernel where
  memory : Nat → UInt8
  fd : Option Fd := none
  file : Option String := none
  unlinkFailed : Bool := false
  content : List UInt8 := []
  offset : Nat := 0

namespace Kernel

variable (kernel : Kernel)

/-- The effect of a call that other programs make as well. -/
def sysNext : (request : Syscall) → Answer request → Kernel
  | .mkstemp, .ok (fd, path) =>
      { memory := kernel.memory, fd := some fd, file := some path }
  | .writev _ vectors, .ok count =>
      { kernel with
        content :=
          stored 0 kernel.content kernel.offset
            (((spans vectors).take count).map kernel.memory)
        offset := kernel.offset + count }
  | .readv _ vectors, .ok count =>
      { kernel with
        memory :=
          ScatteredStore.store kernel.memory ((spans vectors).take count)
            (kernel.content.drop kernel.offset)
        offset := kernel.offset + count }
  | .pwrite _ bytes offset, .ok count =>
      { kernel with
        content :=
          stored 0 kernel.content offset.toNat (bytes.take count) }
  | .close _, _ => { kernel with fd := none }
  | .unlink _, .ok _ => { kernel with file := none }
  | .unlink _, .error _ => { kernel with unlinkFailed := true }
  | _, _ => kernel

/-- The effect of an answered call. -/
def next : (request : Request) → Answers request → Kernel
  | .inl request, answer => kernel.sysNext request answer
  | .inr (.seekStart _), answer =>
      { kernel with
        offset :=
          if (answer : Result Nat).toOption.isSome then
            0
          else
            kernel.offset }
  | .inr _, _ => kernel

/-- What the kernel may answer to a call that other programs make as well. -/
def SysAllows : (request : Syscall) → Answer request → Prop
  | .mkstemp, answer =>
      (answer : Result (Fd × String)).Meets (fun _ => True)
        (fun created => 0 ≤ created.1)
  | .writev _ vectors, answer =>
      (answer : Result Nat).Meets (fun _ => True)
        (· ≤ (spans vectors).length)
  | .readv _ vectors, answer =>
      (answer : Result Nat).Meets (fun _ => True)
        fun count =>
          count ≤ (spans vectors).length ∧
            kernel.offset + count ≤ max kernel.offset kernel.content.length
  | .pwrite _ bytes offset, answer =>
      (answer : Result Nat).Meets (fun _ => True)
        fun count => 0 ≤ offset ∧ count ≤ bytes.length
  | _, _ => True

/-- What the kernel may answer.  Any call may fail but a look at memory. -/
def Allows : (request : Request) → Answers request → Prop
  | .inl request, answer => kernel.SysAllows request answer
  | .inr (.pread _ size offset), answer =>
      (answer : Result (List UInt8)).Meets (fun _ => True)
        (Reads (kernel.content.drop offset) size)
  | .inr (.seekCurrent _), answer =>
      (answer : Result Nat).Meets (fun _ => True) (· = kernel.offset)
  | .inr (.seekStart _), answer =>
      (answer : Result Nat).Meets (fun _ => True) (· = 0)
  | .inr (.loadBuffers addresses), answer =>
      (answer : List UInt8) = addresses.map kernel.memory

/-- The calls of other programs that this one makes, on its open file. -/
def SysSafe : Syscall → Prop
  | .mkstemp => kernel.fd = none
  | .writev fd _ => kernel.fd = some fd
  | .readv fd _ => kernel.fd = some fd
  | .pwrite fd _ _ => kernel.fd = some fd
  | .close fd => kernel.fd = some fd
  | .unlink path => kernel.file = some path
  | _ => False

/-- Only the open file is used. -/
def Safe : Request → Prop
  | .inl request => kernel.SysSafe request
  | .inr (.pread fd _ _) => kernel.fd = some fd
  | .inr (.seekCurrent fd) => kernel.fd = some fd
  | .inr (.seekStart fd) => kernel.fd = some fd
  | .inr (.loadBuffers _) => True

end Kernel

/--
A call that has failed: an error, where a transfer may be interrupted but has
to move something.
-/
def Fails : (request : Request) → Answers request → Bool
  | .inl .mkstemp, answer =>
      (answer : Result (Fd × String)).toOption.isNone
  | .inl (.writev fd vectors), answer =>
      stops ⟨.writev fd vectors, answer⟩
  | .inl (.readv fd vectors), answer =>
      stops ⟨.readv fd vectors, answer⟩
  | .inl (.pwrite _ _ _), answer =>
      FailsFor (fun count : Nat => count ≠ 0) (answer : Result Nat)
  | .inl (.close _), answer => (answer : Result Unit).toOption.isNone
  | .inl (.unlink _), answer => (answer : Result Unit).toOption.isNone
  | .inr (.pread _ _ _), answer =>
      FailsFor (fun _ => true) (answer : Result (List UInt8))
  | .inr (.seekCurrent _), answer =>
      (answer : Result Nat).toOption.isNone
  | .inr (.seekStart _), answer => (answer : Result Nat).toOption.isNone
  | _, _ => false

/-- The audit of the program. -/
def audit : Audit Answers Kernel where
  next := Kernel.next
  allows := Kernel.Allows
  safe := Kernel.Safe
  fails := Fails

/-- The audit of its transfers. -/
def sysAudit : Audit Answer Kernel where
  next := Kernel.sysNext
  allows := Kernel.SysAllows
  safe := Kernel.SysSafe
  fails := fun request => Fails (.inl request)

/-- The kernel, and whether a call has failed. -/
abbrev Watched := Audited Kernel

/-- The monitor of the program. -/
def monitor : Monitor Answers Watched :=
  audit.monitor

/-- The monitor of its transfers. -/
def sysMonitor : Monitor Answer Watched :=
  sysAudit.monitor

end AdvanceUnix.FileIo
