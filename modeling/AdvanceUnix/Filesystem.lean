import AdvanceUnix.TransferLoop

namespace AdvanceUnix.Filesystem

open CallTree

/-!
# Files below a directory descriptor

`main` of `02_filesystem`: a file is created, probed through a symbolic link,
renamed and removed, all relative to a descriptor of a temporary directory.
-/

/-- `content` without its terminator: `directory-relative I/O` and a newline. -/
def content : List UInt8 :=
  [100, 105, 114, 101, 99, 116, 111, 114, 121, 45, 114, 101, 108, 97, 116,
    105, 118, 101, 32, 73, 47, 79, 10]

/-- `write_all` of `02_filesystem`. -/
def writeAll (fd : Fd) (bytes : List UInt8) : Sys (Result Unit) :=
  writeLoop .eio fd bytes

abbrev close (fd : Fd) : Sys (Result Unit) :=
  Syscall.invoke (.close fd)

abbrev unlinkat (dirfd : Fd) (name : String) : Sys (Result Unit) :=
  Syscall.invoke (.unlinkat dirfd name)

/-- `S_ISREG`. -/
def isRegular (mode : BitVec 32) : Bool :=
  mode &&& 0o170000 = 0o100000

/-- What the cleanup section finds acquired. -/
structure Held where
  directory : Option String := none
  dirfd : Fd := -1
  filefd : Fd := -1
  deriving DecidableEq, Repr

/-- The part of the cleanup section behind `if (dirfd >= 0)`. -/
def cleanupEntries (dirfd : Fd) (result : Exit) : Sys Exit := do
  let _ ← unlinkat dirfd "source.link"
  let _ ← unlinkat dirfd "source.txt"
  let _ ← unlinkat dirfd "renamed.txt"
  match ← close dirfd with
  | .error _ => return .failure
  | .ok () => return result

/-- The cleanup section of `main`, reached with a result. -/
def cleanup (held : Held) (result : Exit) : Sys Exit := do
  let result ←
    release (held.filefd ≥ 0) (close held.filefd) none result
  let result ←
    if held.dirfd ≥ 0 then
      cleanupEntries held.dirfd result
    else
      pure result
  release held.directory.isSome
    (Syscall.invoke (.rmdir (held.directory.getD ""))) none result

/-- `main` once the symbolic link is there. -/
def probeAndRename (held : Held) : Sys Exit := do
  match ← Syscall.invoke (.openatNofollow held.dirfd "source.link") with
  | .ok probe => do
      let _ ← close probe
      cleanup held .failure
  | .error error =>
      if error ≠ .eloop then
        cleanup held .failure
      else
        let .ok () ←
            Syscall.invoke (.renameat held.dirfd "source.txt" "renamed.txt")
          | cleanup held .failure
        let .ok () ← unlinkat held.dirfd "source.link"
          | cleanup held .failure
        let .ok () ← unlinkat held.dirfd "renamed.txt"
          | cleanup held .failure
        cleanup held .success

/-- `main`. -/
def main : Sys Exit := do
  let .ok directory ← Syscall.invoke .mkdtemp
    | cleanup {} .failure
  let held : Held := { directory := some directory }
  let .ok dirfd ← Syscall.invoke (.openDirectory directory)
    | cleanup held .failure
  let held := { held with dirfd := dirfd }
  let .ok filefd ←
      Syscall.invoke (.openatCreate dirfd "source.txt" 0o600)
    | cleanup held .failure
  let created := { held with filefd := filefd }
  let .ok () ← writeAll filefd content
    | cleanup created .failure
  let .ok () ← close filefd
    | cleanup held .failure
  let .ok status ← Syscall.invoke (.fstatat dirfd "source.txt")
    | cleanup held .failure
  if !isRegular status.mode || status.size ≠ content.length then
    cleanup held .failure
  else
    let .ok () ←
        Syscall.invoke (.symlinkat "source.txt" dirfd "source.link")
      | cleanup held .failure
    probeAndRename held

end AdvanceUnix.Filesystem
