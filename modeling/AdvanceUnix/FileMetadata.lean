import AdvanceUnix.SystemCalls

namespace AdvanceUnix.FileMetadata

open CallTree

/-!
# The metadata of a file

`main` of `19_file_metadata`: a file is created under another `umask`, which is
restored, and gets its permissions and times.
-/

/-- `file_name`. -/
def fileName : String := "sample"

/-- `experiment_mask`. -/
def experimentMask : BitVec 32 := 0o027

/-- `final_mode`. -/
def finalMode : BitVec 32 := 0o600

/-- `requested_times[0]`. -/
def requestedAccess : Timespec := ⟨1700000000, 123456789⟩

/-- `requested_times[1]`. -/
def requestedModify : Timespec := ⟨1700000123, 987654321⟩

/-- `S_ISREG`. -/
def isRegular (mode : BitVec 32) : Bool :=
  mode &&& 0o170000 = 0o100000

/-- `same_time`. -/
def sameTime (left right : Timespec) : Bool :=
  left.sec = right.sec && left.nsec = right.nsec

/-- What the cleanup section finds acquired. -/
structure Held where
  directory : Option String := none
  directoryFd : Fd := -1
  originalMask : Option (BitVec 32) := none
  fd : Fd := -1
  fileCreated : Bool := false
  deriving DecidableEq, Repr

abbrev umask (mask : BitVec 32) : Sys (BitVec 32) :=
  Syscall.invoke (.umask mask)

abbrev close (fd : Fd) : Sys (Result Unit) :=
  Syscall.invoke (.close fd)

/-- The body of `if (mask_needs_restore)`. -/
def restoreMask (held : Held) : Sys Unit :=
  match held.originalMask with
  | some originalMask => do
      let _ ← umask originalMask
      return ()
  | none => return ()

/-- The cleanup section of `main`, reached with a result. -/
def cleanup (held : Held) (result : Exit) : Sys Exit := do
  restoreMask held
  let result ← release (held.fd ≥ 0) (close held.fd) none result
  let result ←
    release held.fileCreated
      (Syscall.invoke (.unlinkat held.directoryFd fileName)) none result
  let result ←
    release (held.directoryFd ≥ 0) (close held.directoryFd) none result
  release held.directory.isSome
    (Syscall.invoke (.rmdir (held.directory.getD ""))) none result

/-- The permissions and times of the file are as requested. -/
def asRequested (status : FileStatus) : Bool :=
  status.mode &&& 0o777 = finalMode &&
    sameTime status.accessTime requestedAccess &&
    sameTime status.modifyTime requestedModify

/-- `main` once the mask is restored. -/
def setMetadata (held : Held) : Sys Exit := do
  let .ok () ← Syscall.invoke (.fchmod held.fd finalMode)
    | cleanup held .failure
  let .ok () ←
      Syscall.invoke (.futimens held.fd requestedAccess requestedModify)
    | cleanup held .failure
  let .ok status ← Syscall.invoke (.fstat held.fd)
    | cleanup held .failure
  cleanup held (if asRequested status then .success else .failure)

/-- `main` from the restoration of the mask on. -/
def restore (held : Held) (originalMask : BitVec 32) : Sys Exit := do
  let activeMask ← umask originalMask
  let held := { held with originalMask := none }
  if activeMask ≠ experimentMask then
    cleanup held .failure
  else
    let restoredMask ← umask originalMask
    if restoredMask ≠ originalMask then
      cleanup held .failure
    else
      setMetadata held

/-- `main`. -/
def main : Sys Exit := do
  let .ok directory ← Syscall.invoke .mkdtemp
    | cleanup {} .failure
  let held : Held := { directory := some directory }
  let .ok directoryFd ← Syscall.invoke (.openDirectory directory)
    | cleanup held .failure
  let held := { held with directoryFd := directoryFd }
  let originalMask ← umask experimentMask
  let held := { held with originalMask := some originalMask }
  let .ok fd ← Syscall.invoke (.openatCreate directoryFd fileName 0o666)
    | cleanup held .failure
  let held := { held with fd := fd, fileCreated := true }
  let .ok status ← Syscall.invoke (.fstat fd)
    | cleanup held .failure
  if !isRegular status.mode then
    cleanup held .failure
  else if status.mode &&& 0o777 &&& ~~~0o666 ≠ 0 then
    cleanup held .failure
  else
    restore held originalMask

end AdvanceUnix.FileMetadata
