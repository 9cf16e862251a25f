import AdvanceUnix.Audit
import AdvanceUnix.PositionedIo
import AdvanceUnix.SystemCalls

namespace AdvanceUnix.MemfdSeals

open CallTree PositionedIo

/-!
# Sealed memory files

The program of `29_memfd_seals` and the kernel under it: a file whose seals
forbid to write, to grow, to shrink and to add further seals.  What is written
into the file is a parameter here.
-/

/-- `EPERM`. -/
def eperm : Errno := ⟨1, by decide⟩

/-- The places of the seals in a seal set. -/
inductive Seal where
  | sealing
  | shrink
  | grow
  | write
  deriving DecidableEq, Repr

/-- The bit of `F_SEAL_SEAL`, `F_SEAL_SHRINK`, `F_SEAL_GROW`, `F_SEAL_WRITE`. -/
def Seal.index : Seal → Nat
  | .sealing => 0
  | .shrink => 1
  | .grow => 2
  | .write => 3

/-- A seal set, as `fcntl` takes and returns it. -/
abbrev Seals := BitVec 32

/-- `F_SEAL_SEAL`. -/
def sealSeal : Seals := 1#32

/-- `F_SEAL_WRITE`. -/
def sealWrite : Seals := 8#32

/-- `data_seals`. -/
def dataSeals : Seals := 8#32 ||| 4#32 ||| 2#32

/-- `expected_seals`. -/
def expectedSeals : Seals := dataSeals ||| sealSeal

/-- The calls of the program. -/
inductive Call where
  | memfdCreate (closeOnExec allowSealing : Bool)
  | write (fd : Fd) (bytes : List UInt8)
  | addSeals (fd : Fd) (seals : Seals)
  | getSeals (fd : Fd)
  | pwrite (fd : Fd) (bytes : List UInt8) (offset : Nat)
  | ftruncate (fd : Fd) (size : Int)
  | pread (fd : Fd) (size offset : Nat)
  | close (fd : Fd)
  deriving DecidableEq, Repr

/-- Their answers. -/
@[reducible] def Answer : Call → Type
  | .memfdCreate _ _ => Result Fd
  | .write _ _ => Result Nat
  | .addSeals _ _ => Result Unit
  | .getSeals _ => Result Seals
  | .pwrite _ _ _ => Result Nat
  | .ftruncate _ _ => Result Unit
  | .pread _ _ _ => Result (List UInt8)
  | .close _ => Result Unit

/-- A program over these calls. -/
abbrev Sealing (α : Type) := Program Answer α

/-- Make one call. -/
def invoke (call : Call) : Sealing (Answer call) :=
  Program.request call

/-- `write_all`. -/
def writeAll (fd : Fd) (bytes : List UInt8) : Sealing (Result Unit) :=
  Program.writing (· = Errno.eintr) .eio
    (fun _ rest => invoke (.write fd rest)) bytes

/-- `pread_all`: the end of the file is an error. -/
def preadAll (fd : Fd) (size offset : Nat) :
    Sealing (Result (List UInt8)) :=
  Program.reading (· = Errno.eintr) (fun _ => .error .eio)
    (fun received missing => invoke (.pread fd missing (offset + received)))
    size

/-- A call that was refused with `EPERM`. -/
def Refused {α : Type} : Result α → Bool
  | .error error => error = eperm
  | .ok _ => false

/-- `expect_resize_eperm`: whether it returns 0. -/
def expectResizeEperm (fd : Fd) (size : Int) : Sealing Bool := do
  return Refused (← invoke (.ftruncate fd size))

/-- The cleanup section. -/
def cleanup (fd : Fd) (result : Exit) : Sealing Exit :=
  Program.releasing (0 ≤ fd) (invoke (.close fd)) .failure result

/-- `main` once the seals are in place. -/
def verify (payload : List UInt8) (fd : Fd) : Sealing Exit := do
  if Refused (← invoke (.addSeals fd sealWrite)) then
    if Refused (← invoke (.pwrite fd [88] 0)) then
      if ← expectResizeEperm fd (payload.length + 1) then
        if ← expectResizeEperm fd (payload.length - 1) then
          let .ok buffer ← preadAll fd payload.length 0
            | cleanup fd .failure
          if buffer = payload then
            cleanup fd .success
          else
            cleanup fd .failure
        else
          cleanup fd .failure
      else
        cleanup fd .failure
    else
      cleanup fd .failure
  else
    cleanup fd .failure

/-- `main`, for any payload. -/
def mainStoring (payload : List UInt8) : Sealing Exit := do
  let .ok fd ← invoke (.memfdCreate true true)
    | cleanup (-1) .failure
  let .ok _ ← writeAll fd payload
    | cleanup fd .failure
  let .ok _ ← invoke (.addSeals fd dataSeals)
    | cleanup fd .failure
  let .ok _ ← invoke (.addSeals fd sealSeal)
    | cleanup fd .failure
  let .ok observed ← invoke (.getSeals fd)
    | cleanup fd .failure
  if observed &&& expectedSeals = expectedSeals then
    verify payload fd
  else
    cleanup fd .failure

/-- `payload`: `sealed in-memory file`. -/
def payload : List UInt8 :=
  [115, 101, 97, 108, 101, 100, 32, 105, 110, 45, 109, 101, 109, 111, 114,
    121, 32, 102, 105, 108, 101]

/-- `main`. -/
def main : Sealing Exit :=
  mainStoring payload

/--
The system that the program runs on: whether its seals do anything, and which
further seals a new file has from the beginning.
-/
structure World where
  enforces : Bool
  further : Seals
  further_high :
    ∀ sealKind : Seal, further.getLsbD sealKind.index = false

/-- The kernel: the descriptor, the file, its offset and its seals. -/
structure Kernel where
  fd : Option Fd := none
  content : List UInt8 := []
  offset : Nat := 0
  seals : Seals := 0
  deriving DecidableEq, Repr

namespace Kernel

variable (world : World) (kernel : Kernel)

/-- The file has a seal. -/
def Has (sealKind : Seal) : Prop :=
  kernel.seals.getLsbD sealKind.index = true

/-- Bytes at an offset are not to be written. -/
def KeepsFrom (bytes : List UInt8) (offset : Nat) : Prop :=
  kernel.Has .write ∨
    kernel.Has .grow ∧ kernel.content.length < offset + bytes.length

/-- The seals forbid a call. -/
def Forbids : Call → Prop
  | .write _ bytes => kernel.KeepsFrom bytes kernel.offset
  | .pwrite _ bytes offset => kernel.KeepsFrom bytes offset
  | .ftruncate _ size =>
      kernel.Has .shrink ∧ 0 ≤ size ∧ size < kernel.content.length ∨
        kernel.Has .grow ∧ kernel.content.length < size
  | .addSeals _ _ => kernel.Has .sealing
  | _ => False

/-- The effect of an answered call. -/
def next : (request : Call) → Answer request → Kernel
  | .memfdCreate _ allowSealing, .ok fd =>
      { fd := some fd
        seals :=
          world.further ||| if allowSealing then 0#32 else sealSeal }
  | .write _ bytes, .ok count =>
      { kernel with
        content :=
          stored 0 kernel.content kernel.offset (bytes.take count)
        offset := kernel.offset + count }
  | .addSeals _ seals, .ok _ =>
      { kernel with seals := kernel.seals ||| seals }
  | .pwrite _ bytes offset, .ok count =>
      { kernel with
        content := stored 0 kernel.content offset (bytes.take count) }
  | .ftruncate _ size, .ok _ =>
      { kernel with
        content := (padded 0 kernel.content size.toNat).take size.toNat }
  | .close _, _ => { kernel with fd := none }
  | _, _ => kernel

/-- A call that seals can forbid fails with `EPERM` exactly if they do. -/
def Answers
    {α : Type}
    (request : Call)
    (valid : α → Prop) : Result α → Prop
  | .error error =>
      error = eperm → world.enforces = true ∧ kernel.Forbids request
  | .ok value =>
      ¬ (world.enforces = true ∧ kernel.Forbids request) ∧ valid value

/-- What the kernel may answer.  Any call may fail. -/
def Allows : (request : Call) → Answer request → Prop
  | .memfdCreate _ _, answer => MayOpen answer
  | .write fd bytes, answer =>
      kernel.Answers world (.write fd bytes) (· ≤ bytes.length) answer
  | .addSeals fd seals, answer =>
      kernel.Answers world (.addSeals fd seals) (fun _ => True) answer
  | .getSeals _, answer =>
      (answer : Result Seals).Meets (fun _ => True) (· = kernel.seals)
  | .pwrite fd bytes offset, answer =>
      kernel.Answers world (.pwrite fd bytes offset) (· ≤ bytes.length)
        answer
  | .ftruncate fd size, answer =>
      kernel.Answers world (.ftruncate fd size) (fun _ => 0 ≤ size) answer
  | .pread _ size offset, answer =>
      (answer : Result (List UInt8)).Meets (fun _ => True)
        (Reads (kernel.content.drop offset) size)
  | .close _, _ => True

/-- Only the open file is used, and it is created once. -/
def Safe : Call → Prop
  | .memfdCreate _ _ => kernel.fd = none ∧ kernel.seals = 0
  | .write fd _ => kernel.fd = some fd
  | .addSeals fd _ => kernel.fd = some fd
  | .getSeals fd => kernel.fd = some fd
  | .pwrite fd _ _ => kernel.fd = some fd
  | .ftruncate fd _ => kernel.fd = some fd
  | .pread fd _ _ => kernel.fd = some fd
  | .close fd => kernel.fd = some fd

end Kernel

/-- An error other than one that is expected. -/
def FailsBut {α : Type} (expected : Errno) : Result α → Bool
  | .error error => error ≠ expected
  | .ok _ => false

/-- A call that has failed: not one that was interrupted or refused. -/
def Fails : (request : Call) → Answer request → Bool
  | .memfdCreate _ _, answer => (answer : Result Fd).toOption.isNone
  | .write _ _, answer =>
      FailsBut .eintr (answer : Result Nat) ||
        (answer : Result Nat).toOption = some 0
  | .addSeals _ _, answer => FailsBut eperm (answer : Result Unit)
  | .getSeals _, answer => (answer : Result Seals).toOption.isNone
  | .pwrite _ _ _, answer => FailsBut eperm (answer : Result Nat)
  | .ftruncate _ _, answer => FailsBut eperm (answer : Result Unit)
  | .pread _ _ _, answer => FailsBut .eintr (answer : Result (List UInt8))
  | .close _, answer => (answer : Result Unit).toOption.isNone

/-- The call, if it was refused. -/
def refusedBy : Event Answer → List Call
  | ⟨.addSeals fd seals, answer⟩ =>
      if Refused (answer : Result Unit) then [.addSeals fd seals] else []
  | ⟨.pwrite fd bytes offset, answer⟩ =>
      if Refused (answer : Result Nat) then
        [.pwrite fd bytes offset]
      else
        []
  | ⟨.ftruncate fd size, answer⟩ =>
      if Refused (answer : Result Unit) then [.ftruncate fd size] else []
  | _ => []

/-- The audit of the program. -/
def audit (world : World) : Audit Answer Kernel where
  next := Kernel.next world
  allows := Kernel.Allows world
  safe := Kernel.Safe
  fails := Fails

/-- The kernel, whether a call has failed, and the calls that were refused. -/
abbrev Watched := Audit.Noted Kernel Call

/-- The monitor of the program. -/
def monitor (world : World) : Monitor Answer Watched :=
  (audit world).noting refusedBy

end AdvanceUnix.MemfdSeals
