import AdvanceUnix.Audit
import AdvanceUnix.PositionedIo
import AdvanceUnix.SystemCalls

namespace AdvanceUnix.MemoryMapping

open CallTree PositionedIo

/-!
# A file that is written through memory

The program of `03_memory_mapping`.  What is stored, and whether the mapping
is shared or private, is a parameter here.
-/

/-- Whether what is stored in a mapping changes the file. -/
inductive Visibility where
  | isShared
  | isPrivate
  deriving DecidableEq, Repr

/-- The calls of the program, and `memcpy` into a mapping. -/
inductive Call where
  | sysconf
  | mkstemp
  | ftruncate (fd : Fd) (length : Nat)
  | mmap (length : Nat) (visibility : Visibility) (fd : Fd)
  | memcpy (address : Nat) (bytes : List UInt8)
  | msync (address length : Nat)
  | munmap (address length : Nat)
  | pread (fd : Fd) (size offset : Nat)
  | close (fd : Fd)
  | unlink (path : String)
  deriving DecidableEq, Repr

/-- Their answers. -/
@[reducible] def Answer : Call → Type
  | .sysconf => Int
  | .mkstemp => Result (Fd × String)
  | .ftruncate _ _ => Result Unit
  | .mmap _ _ _ => Result Nat
  | .memcpy _ _ => Unit
  | .msync _ _ => Result Unit
  | .munmap _ _ => Result Unit
  | .pread _ _ _ => Result (List UInt8)
  | .close _ => Result Unit
  | .unlink _ => Result Unit

/-- A program over these calls. -/
abbrev Mapping (α : Type) := Program Answer α

/-- Make one call. -/
def invoke (call : Call) : Mapping (Answer call) :=
  Program.request call

/-- `pread_full`: the end of the file ends it early. -/
def preadFull (fd : Fd) (size : Nat) : Mapping (Result (List UInt8)) :=
  Program.reading (· = Errno.eintr) .ok
    (fun received missing => invoke (.pread fd missing received)) size

/-- What the cleanup section finds: -1 for a descriptor that is not open. -/
structure Held where
  fd : Fd := -1
  file : Option String := none
  mapping : Option Nat := none
  mappingLength : Nat := 0
  deriving DecidableEq, Repr

/-- The mapping is removed if there is one. -/
def cleanupMapping (held : Held) (result : Exit) : Mapping Exit :=
  Program.releasingSome held.mapping
    (fun address => invoke (.munmap address held.mappingLength)) .failure
    result

/-- The file is removed if it has been created. -/
def cleanupFile (held : Held) (result : Exit) : Mapping Exit :=
  Program.releasingSome held.file (fun path => invoke (.unlink path)) .failure
    result

/-- The cleanup section. -/
def cleanup (held : Held) (result : Exit) : Mapping Exit := do
  let result ← cleanupMapping held result
  let result ←
    Program.releasing (0 ≤ held.fd) (invoke (.close held.fd)) .failure result
  cleanupFile held result

/-- `main` with the file mapped. -/
def store
    (payload : List UInt8)
    (held : Held)
    (address : Nat) : Mapping Exit := do
  invoke (.memcpy address payload)
  let mapped := { held with mapping := some address }
  let .ok _ ← invoke (.msync address held.mappingLength)
    | cleanup mapped .failure
  let .ok _ ← invoke (.munmap address held.mappingLength)
    | cleanup mapped .failure
  let observed ← preadFull held.fd payload.length
  if observed.toOption = some payload then
    cleanup held .success
  else
    cleanup held .failure

/-- `main`, for any payload and either kind of mapping. -/
def mainMapping
    (visibility : Visibility)
    (payload : List UInt8) : Mapping Exit := do
  let pageSize ← invoke .sysconf
  if pageSize ≤ 0 then
    cleanup {} .failure
  else
    let mappingLength := pageSize.toNat
    if payload.length > mappingLength then
      cleanup { mappingLength := mappingLength } .failure
    else
      let .ok created ← invoke .mkstemp
        | cleanup { mappingLength := mappingLength } .failure
      let held : Held :=
        { fd := created.1
          file := some created.2
          mappingLength := mappingLength }
      let .ok _ ← invoke (.ftruncate held.fd mappingLength)
        | cleanup held .failure
      let .ok address ← invoke (.mmap mappingLength visibility held.fd)
        | cleanup held .failure
      store payload held address

/-- `visible through MAP_SHARED`, with its final zero. -/
def payload : List UInt8 :=
  [118, 105, 115, 105, 98, 108, 101, 32, 116, 104, 114, 111, 117, 103, 104,
    32, 77, 65, 80, 95, 83, 72, 65, 82, 69, 68, 0]

/-- `main`. -/
def main : Mapping Exit :=
  mainMapping .isShared payload

/-- A part of the address space that shows a file. -/
structure Mapped where
  address : Nat
  length : Nat
  visibility : Visibility
  deriving DecidableEq, Repr

/--
The file, by descriptor, name and content, and its mapping; and whether
removing the mapping or the file has been refused.
-/
structure Kernel where
  fd : Option Fd := none
  file : Option String := none
  content : List UInt8 := []
  mapping : Option Mapped := none
  munmapFailed : Bool := false
  unlinkFailed : Bool := false
  deriving DecidableEq, Repr

namespace Kernel

variable (kernel : Kernel)

/-- Some mapping is there. -/
def Maps (address length : Nat) : Prop :=
  ∃ visibility, kernel.mapping = some ⟨address, length, visibility⟩

/-- What is stored in memory reaches the file if they are shared. -/
def stores (bytes : List UInt8) : Kernel :=
  match kernel.mapping with
  | some ⟨_, _, .isShared⟩ =>
      { kernel with content := overwrite kernel.content 0 bytes }
  | _ => kernel

/-- The effect of an answered call. -/
def next : (request : Call) → Answer request → Kernel
  | .mkstemp, .ok (fd, path) =>
      { kernel with fd := some fd, file := some path, content := [] }
  | .ftruncate _ length, .ok _ =>
      { kernel with content := padded 0 (kernel.content.take length) length }
  | .mmap length visibility _, .ok address =>
      { kernel with mapping := some ⟨address, length, visibility⟩ }
  | .memcpy _ bytes, _ => kernel.stores bytes
  | .munmap _ _, .ok _ => { kernel with mapping := none }
  | .munmap _ _, .error _ => { kernel with munmapFailed := true }
  | .close _, _ => { kernel with fd := none }
  | .unlink _, .ok _ => { kernel with file := none }
  | .unlink _, .error _ => { kernel with unlinkFailed := true }
  | _, _ => kernel

/-- What the kernel may answer. -/
def Allows (pageSize : Nat) : (request : Call) → Answer request → Prop
  | .sysconf, answer => 0 < (answer : Int) → answer = (pageSize : Int)
  | .mkstemp, answer =>
      (answer : Result (Fd × String)).Meets (fun _ => True)
        (0 ≤ ·.1)
  | .pread _ size offset, answer =>
      (answer : Result (List UInt8)).Meets (fun _ => True)
        (Reads (kernel.content.drop offset) size)
  | _, _ => True

/--
The descriptor and the mapping are only used while they are there, and what is
stored neither leaves the mapping nor the file behind it.
-/
def Safe : Call → Prop
  | .sysconf => True
  | .mkstemp => kernel.fd = none ∧ kernel.file = none
  | .ftruncate fd _ => kernel.fd = some fd
  | .mmap length _ fd =>
      kernel.fd = some fd ∧ kernel.mapping = none ∧ length ≠ 0
  | .memcpy address bytes =>
      (∃ length, kernel.Maps address length ∧ bytes.length ≤ length) ∧
        bytes.length ≤ kernel.content.length
  | .msync address length => kernel.Maps address length
  | .munmap address length => kernel.Maps address length
  | .pread fd _ _ => kernel.fd = some fd
  | .close fd => kernel.fd = some fd
  | .unlink path => kernel.file = some path

end Kernel

/-- A call that has failed. -/
def Fails : (request : Call) → Answer request → Bool
  | .sysconf, answer => (answer : Int) ≤ 0
  | .mkstemp, answer => (answer : Result (Fd × String)).toOption.isNone
  | .ftruncate _ _, answer => (answer : Result Unit).toOption.isNone
  | .mmap _ _ _, answer => (answer : Result Nat).toOption.isNone
  | .memcpy _ _, _ => false
  | .msync _ _, answer => (answer : Result Unit).toOption.isNone
  | .munmap _ _, answer => (answer : Result Unit).toOption.isNone
  | .pread _ _ _, answer =>
      FailsFor (fun _ => true) (answer : Result (List UInt8))
  | .close _, answer => (answer : Result Unit).toOption.isNone
  | .unlink _, answer => (answer : Result Unit).toOption.isNone

/-- The audit of the program, on pages of some size. -/
def audit (pageSize : Nat) : Audit Answer Kernel where
  next := Kernel.next
  allows := fun kernel => kernel.Allows pageSize
  safe := Kernel.Safe
  fails := Fails

end AdvanceUnix.MemoryMapping
