import Mathlib.Algebra.Ring.Nat
import AdvanceUnix.TransferLoop

namespace AdvanceUnix.SparseFiles

open CallTree

/-!
# Extents of a sparse file

`20_sparse_files`: four bytes at either end of a file with a hole between
them, and what `SEEK_DATA` and `SEEK_HOLE` say about it.  `tail_offset` is a
parameter here.
-/

/-- `struct extents`. -/
structure Extents where
  firstData : Int := 0
  firstHole : Int := 0
  secondData : Int := 0
  endHole : Int := 0
  deriving DecidableEq, Repr

/-- `head`, without its terminator: `HEAD`. -/
def head : List UInt8 := [72, 69, 65, 68]

/-- `tail`, without its terminator: `TAIL`. -/
def tail : List UInt8 := [84, 65, 73, 76]

/-- `pwrite_all`. -/
def pwriteAll (fd : Fd) (bytes : List UInt8) (offset : Int) :
    Sys (Result Unit) :=
  Program.iterate (fun written => do
    if written < bytes.length then
      let count ←
        Syscall.invoke
          (.pwrite fd (bytes.drop written) (offset + (written : Int)))
      return writeAnswered .eio written count
    else
      return .done (.ok ())) 0

abbrev lseek (fd : Fd) (offset : Int) (whence : Whence) :
    Sys (Result Int) :=
  Syscall.invoke (.lseek fd offset whence)

/-- `extent_query_unsupported`. -/
def extentQueryUnsupported (errorNumber : Errno) : Bool :=
  errorNumber = .einval || errorNumber = .enotsup ||
    errorNumber = .eopnotsupp

/--
`query_extents`: 1 on success, 0 when the filesystem lacks the API, and -1 on
error.
-/
def queryExtents (fd : Fd) (found : Extents) : Sys (Int × Extents) := do
  match ← lseek fd 0 .data with
  | .error error =>
      return (if extentQueryUnsupported error then 0 else -1,
        { found with firstData := -1 })
  | .ok firstData =>
      let found := { found with firstData := firstData }
      match ← lseek fd found.firstData .hole with
      | .error error =>
          return (if extentQueryUnsupported error then 0 else -1,
            { found with firstHole := -1 })
      | .ok firstHole =>
          return (1, { found with firstHole := firstHole })

/--
`query_second_extent`: 1 for two detailed extents, 0 for a legal coarse
answer, and -1 on unexpected errors.
-/
def querySecondExtent (fd : Fd) (fileSize : Int) (found : Extents) :
    Sys (Int × Extents) := do
  if found.firstData ≠ 0 ∨ found.firstHole ≥ fileSize then
    return (0, found)
  else
    match ← lseek fd found.firstHole .data with
    | .error error =>
        return (if error = .enxio ∨ extentQueryUnsupported error then 0 else -1,
          { found with secondData := -1 })
    | .ok secondData =>
        let found := { found with secondData := secondData }
        match ← lseek fd found.secondData .hole with
        | .error error =>
            return (if extentQueryUnsupported error then 0 else -1,
              { found with endHole := -1 })
        | .ok endHole =>
            return (1, { found with endHole := endHole })

/-- How `main` has taken the extents: two ways of success and a failure. -/
inductive Verdict where
  | skipped
  | verified
  | failed
  deriving DecidableEq, Repr

/-- The last check of `main`, on the bounds of two extents. -/
def unexpectedExtents
    (tailOffset expectedSize : Int)
    (found : Extents) : Bool :=
  found.firstHole ≤ 0 || found.firstHole ≥ tailOffset ||
    found.secondData < found.firstHole || found.secondData > tailOffset ||
    found.endHole ≠ expectedSize

/-- `expected_size`. -/
def expectedSize (tailOffset : Int) : Int :=
  tailOffset + tail.length

/-- The checks of `main` from the first query on. -/
def checkExtents (tailOffset : Int) (fd : Fd) : Sys Verdict := do
  let (extentResult, found) ← queryExtents fd {}
  if extentResult < 0 then
    return .failed
  else
    let (detailResult, found) ←
      if extentResult = 1 then
        querySecondExtent fd (expectedSize tailOffset) found
      else
        pure (0, found)
    if detailResult < 0 then
      return .failed
    else if extentResult = 0 ∨ detailResult = 0 then
      return .skipped
    else if unexpectedExtents tailOffset (expectedSize tailOffset) found then
      return .failed
    else
      return .verified

/-- `allocated_bytes`. -/
def allocatedBytes (status : FileStatus) : Nat :=
  status.blocks.toNat * 512 % 2 ^ 64

/-- What the cleanup section finds acquired. -/
structure Held where
  fd : Fd := -1
  path : String := ""
  fileCreated : Bool := false
  deriving DecidableEq, Repr

/-- The cleanup section of `main`, reached with a result. -/
def cleanup (held : Held) (result : Exit) : Sys Exit := do
  let result ←
    release (held.fd ≥ 0) (Syscall.invoke (.close held.fd)) none result
  release held.fileCreated (Syscall.invoke (.unlink held.path)) none result

/-- `main`, with its `tail_offset`. -/
def mainAt (tailOffset : Int) : Sys Exit := do
  let .ok (fd, path) ← Syscall.invoke .mkstemp
    | cleanup {} .failure
  let held : Held := { fd := fd, path := path, fileCreated := true }
  let .ok () ← pwriteAll fd head 0
    | cleanup held .failure
  let .ok () ← pwriteAll fd tail tailOffset
    | cleanup held .failure
  let .ok status ← Syscall.invoke (.fstat fd)
    | cleanup held .failure
  if status.size ≠ expectedSize tailOffset ∨ status.blocks < 0 then
    cleanup held .failure
  else if allocatedBytes status ≥ status.size.toNat then
    cleanup held .failure
  else
    match ← checkExtents tailOffset fd with
    | .failed => cleanup held .failure
    | .skipped => cleanup held .success
    | .verified => cleanup held .success

/-- `main`. -/
def main : Sys Exit :=
  mainAt (8 * 1024 * 1024)

end AdvanceUnix.SparseFiles
