import AdvanceUnix.AttributeList
import AdvanceUnix.Audit
import AdvanceUnix.SystemCalls

namespace AdvanceUnix

/-- `ENODATA`. -/
def Errno.enodata : Errno := ⟨61, by decide⟩

namespace AttributeRoundTrip

open CallTree ExtendedAttributes

/-!
# An attribute that is set, listed, read and removed

`main` of `28_extended_attributes`.  The name and the value are parameters
here.  Attributes of other names may come and go between any two calls.
-/

/-- The calls of the program; two of them only ask for a size. -/
inductive Call where
  | mkstemp
  | fsetxattrCreate (fd : Fd) (name value : List UInt8)
  | fgetxattrSize (fd : Fd) (name : List UInt8)
  | fgetxattr (fd : Fd) (name : List UInt8) (size : Nat)
  | flistxattrSize (fd : Fd)
  | malloc (size : Nat)
  | flistxattr (fd : Fd) (size : Nat)
  | fremovexattr (fd : Fd) (name : List UInt8)
  | free
  | close (fd : Fd)
  | unlink (path : String)
  deriving DecidableEq, Repr

/-- Their answers: new memory has some content. -/
@[reducible] def Answer : Call → Type
  | .mkstemp => Result (Fd × String)
  | .fsetxattrCreate _ _ _ => Result Unit
  | .fgetxattrSize _ _ => Result Nat
  | .fgetxattr _ _ _ => Result (List UInt8)
  | .flistxattrSize _ => Result Nat
  | .malloc _ => Option (Nat → UInt8)
  | .flistxattr _ _ => Result (List UInt8)
  | .fremovexattr _ _ => Result Unit
  | .free => Unit
  | .close _ => Result Unit
  | .unlink _ => Result Unit

/-- A program over these calls. -/
abbrev Describing (α : Type) := Program Answer α

/-- Make one call. -/
def invoke (call : Call) : Describing (Answer call) :=
  Program.request call

/-- What the cleanup section finds: -1 for a descriptor that is not open. -/
structure Held where
  fd : Fd := -1
  file : Option String := none
  list : Bool := false
  deriving DecidableEq, Repr

/-- The file is removed if it has been created. -/
def cleanupFile (held : Held) (result : Exit) : Describing Exit :=
  Program.releasingSome held.file (fun path => invoke (.unlink path)) .failure
    result

/-- The cleanup section: without a list there is nothing to free. -/
def cleanup (held : Held) (result : Exit) : Describing Exit := do
  if held.list then
    invoke .free
  let result ←
    Program.releasing (0 ≤ held.fd) (invoke (.close held.fd)) .failure result
  cleanupFile held result

/-- Memory that begins with some bytes. -/
def filled (bytes : List UInt8) (stale : Nat → UInt8) (index : Nat) : UInt8 :=
  bytes.getD index (stale index)

/-- `main` once the attribute has been listed. -/
def remove
    (name value : List UInt8)
    (held : Held) : Describing Exit := do
  let .ok _ ← invoke (.fremovexattr held.fd name)
    | cleanup held .failure
  match ← invoke (.fgetxattr held.fd name (value.length + 1)) with
  | .ok _ => cleanup held .failure
  | .error error =>
      if error = .enodata then
        cleanup held .success
      else
        cleanup held .failure

/-- `main` once the attribute has been read. -/
def list
    (name value : List UInt8)
    (held : Held) : Describing Exit := do
  let .ok listSize ← invoke (.flistxattrSize held.fd)
    | cleanup held .failure
  if listSize = 0 then
    cleanup held .failure
  else
    match ← invoke (.malloc listSize) with
    | none => cleanup held .failure
    | some stale =>
        let listing := { held with list := true }
        let .ok listed ← invoke (.flistxattr held.fd listSize)
          | cleanup listing .failure
        if listed.length ≠ listSize ∨
            (listContains (filled listed stale) listed.length name).1 =
              false then
          cleanup listing .failure
        else
          remove name value listing

/-- `main` with its file open. -/
def describe
    (name value : List UInt8)
    (held : Held) : Describing Exit := do
  let .ok _ ← invoke (.fsetxattrCreate held.fd name value)
    | cleanup held .failure
  let .ok reportedSize ← invoke (.fgetxattrSize held.fd name)
    | cleanup held .failure
  if reportedSize = value.length then
    let read ← invoke (.fgetxattr held.fd name (value.length + 1))
    if read.toOption = some value then
      list name value held
    else
      cleanup held .failure
  else
    cleanup held .failure

/-- `main`, for any name and value. -/
def mainDescribing (name value : List UInt8) : Describing Exit := do
  let .ok created ← invoke .mkstemp
    | cleanup {} .failure
  describe name value { fd := created.1, file := some created.2 }

/-- `user.advance_unix`. -/
def attributeName : List UInt8 :=
  [117, 115, 101, 114, 46, 97, 100, 118, 97, 110, 99, 101, 95, 117, 110, 105,
    120]

/-- `descriptor metadata`. -/
def attributeValue : List UInt8 :=
  [100, 101, 115, 99, 114, 105, 112, 116, 111, 114, 32, 109, 101, 116, 97,
    100, 97, 116, 97]

/-- `main`. -/
def main : Describing Exit :=
  mainDescribing attributeName attributeValue

/-- An attribute: its name and its value. -/
structure Attribute where
  name : List UInt8
  value : List UInt8
  deriving DecidableEq, Repr

/-- What has been done with the attribute. -/
inductive Step where
  | set
  | read
  | listed
  | removed
  deriving DecidableEq, Repr

/--
The file, the attribute that the program has set, the list's size, what has
been done with the attribute, and whether removing the file has been refused.
-/
structure Kernel where
  fd : Option Fd := none
  file : Option String := none
  present : Option Attribute := none
  allocated : Option Nat := none
  history : List Step := []
  unlinkFailed : Bool := false
  deriving DecidableEq, Repr

namespace Kernel

variable (kernel : Kernel)

/-- The effect of an answered call. -/
def next : (request : Call) → Answer request → Kernel
  | .mkstemp, .ok (fd, path) =>
      { kernel with fd := some fd, file := some path }
  | .fsetxattrCreate _ name value, .ok _ =>
      { kernel with
        present := some ⟨name, value⟩
        history := kernel.history ++ [.set] }
  | .fgetxattr _ _ _, .ok _ =>
      { kernel with history := kernel.history ++ [.read] }
  | .malloc size, some _ => { kernel with allocated := some size }
  | .flistxattr _ _, .ok _ =>
      { kernel with history := kernel.history ++ [.listed] }
  | .fremovexattr _ _, .ok _ =>
      { kernel with
        present := none
        history := kernel.history ++ [.removed] }
  | .free, _ => { kernel with allocated := none }
  | .close _, _ => { kernel with fd := none }
  | .unlink _, .ok _ => { kernel with file := none }
  | .unlink _, .error _ => { kernel with unlinkFailed := true }
  | _, _ => kernel

/-- Names that a file with other attributes may have, as they are listed. -/
def Lists (bytes : List UInt8) : Prop :=
  ∃ names : List (List UInt8),
    (∀ name ∈ names, 0 ∉ name) ∧
      (∀ own ∈ kernel.present, own.name ∈ names) ∧
        bytes = names.flatMap (· ++ [0])

/-- What the kernel may answer. -/
def Allows : (request : Call) → Answer request → Prop
  | .mkstemp, answer =>
      (answer : Result (Fd × String)).Meets (fun _ => True) (0 ≤ ·.1)
  | .fgetxattrSize _ name, answer =>
      (answer : Result Nat).Meets (fun _ => True) fun size =>
        ∃ value, kernel.present = some ⟨name, value⟩ ∧ size = value.length
  | .fgetxattr _ name size, answer =>
      (answer : Result (List UInt8)).Meets
        (fun error => error = .enodata → kernel.present = none)
        fun value =>
          kernel.present = some ⟨name, value⟩ ∧ value.length ≤ size
  | .flistxattrSize _, answer =>
      (answer : Result Nat).Meets (fun _ => True) fun size =>
        ∃ bytes, kernel.Lists bytes ∧ size = bytes.length
  | .flistxattr _ size, answer =>
      (answer : Result (List UInt8)).Meets (fun _ => True) fun bytes =>
        kernel.Lists bytes ∧ bytes.length ≤ size
  | _, _ => True

/--
Only the open file is used, and only one attribute, which is set once; a list
fits into the memory for it.
-/
def Safe : Call → Prop
  | .mkstemp => kernel.fd = none ∧ kernel.file = none
  | .fsetxattrCreate fd _ _ =>
      kernel.fd = some fd ∧ kernel.present = none ∧ kernel.history = []
  | .fgetxattrSize fd _ => kernel.fd = some fd
  | .fgetxattr fd name size =>
      kernel.fd = some fd ∧
        ∀ own ∈ kernel.present,
          own.name = name ∧ own.value.length ≤ size
  | .flistxattrSize fd => kernel.fd = some fd
  | .malloc size => kernel.allocated = none ∧ size ≠ 0
  | .flistxattr fd size =>
      kernel.fd = some fd ∧ kernel.allocated = some size
  | .fremovexattr fd name =>
      kernel.fd = some fd ∧ ∃ value, kernel.present = some ⟨name, value⟩
  | .free => kernel.allocated ≠ none
  | .close fd => kernel.fd = some fd
  | .unlink path => kernel.file = some path

end Kernel

/--
A call that has failed: a removed attribute is read in vain, and the list may
not have changed since its size was asked for.
-/
def Fails : (request : Call) → Answer request → Bool
  | .mkstemp, answer => (answer : Result (Fd × String)).toOption.isNone
  | .fsetxattrCreate _ _ _, answer => (answer : Result Unit).toOption.isNone
  | .fgetxattrSize _ _, answer => (answer : Result Nat).toOption.isNone
  | .fgetxattr _ _ _, answer =>
      match (answer : Result (List UInt8)) with
      | .error error => error ≠ .enodata
      | .ok _ => false
  | .flistxattrSize _, answer => (answer : Result Nat).toOption.isNone
  | .malloc _, answer => (answer : Option (Nat → UInt8)).isNone
  | .flistxattr _ size, answer =>
      match (answer : Result (List UInt8)) with
      | .error _ => true
      | .ok bytes => bytes.length ≠ size
  | .fremovexattr _ _, answer => (answer : Result Unit).toOption.isNone
  | .free, _ => false
  | .close _, answer => (answer : Result Unit).toOption.isNone
  | .unlink _, answer => (answer : Result Unit).toOption.isNone

/-- The audit of the program. -/
def audit : Audit Answer Kernel where
  next := Kernel.next
  allows := Kernel.Allows
  safe := Kernel.Safe
  fails := Fails

end AttributeRoundTrip

end AdvanceUnix
