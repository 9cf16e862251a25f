import AdvanceUnix.TransferLoop
import AdvanceUnix.InotifyParser

namespace AdvanceUnix.FilesystemEvents

open CallTree

/-!
# Filesystem events

`main` of `12_filesystem_events`: a directory is watched while a file in it is
created, written and removed, until the three events were observed.  The path
of the file always fits its buffer, so the check of its length is left out.
-/

/-- `write_all` of `12_filesystem_events`. -/
def writeAll (fd : Fd) (bytes : List UInt8) : Sys (Result Unit) :=
  writeLoop .eio fd bytes

/-- `content`, without its terminator. -/
def content : List UInt8 :=
  [105, 110, 111, 116, 105, 102, 121, 10]

abbrev close (fd : Fd) : Sys (Result Unit) :=
  Syscall.invoke (.close fd)

abbrev unlink (path : String) : Sys (Result Unit) :=
  Syscall.invoke (.unlink path)

abbrev rmdir (path : String) : Sys (Result Unit) :=
  Syscall.invoke (.rmdir path)

abbrev poll (fd : Fd) (timeout : Nat) : Sys (Result PollOutcome) :=
  Syscall.invoke (.poll fd timeout)

abbrev readBuffer (fd : Fd) (size : Nat) : Sys (Result Filled) :=
  Syscall.invoke (.readBuffer fd size)

abbrev inotifyRmWatch (fd : Fd) (watch : BitVec 32) : Sys (Result Unit) :=
  Syscall.invoke (.inotifyRmWatch fd watch)

/-- `buffer` holds 4096 bytes. -/
def bufferSize : Nat := 4096

/-- What becomes of `observed` once `read` has filled the buffer. -/
def batchRead
    (watch : BitVec 32)
    (observed : BitVec 32)
    (buffer : Filled) : LoopStep (BitVec 32) Exit :=
  if buffer.length = 0 then
    .done .failure
  else
    match parseEvents (observe watch buffer.memory) buffer.memory
        buffer.length 0 observed with
    | (.accepted, observed) => .again observed
    | (_, _) => .done .failure

/-- One iteration of the event loop; the loop is left before the cleanup. -/
def eventStep
    (inotifyFd : Fd)
    (watch : BitVec 32)
    (observed : BitVec 32) : Sys (LoopStep (BitVec 32) Exit) := do
  if observed &&& requiredEvents = requiredEvents then
    return .done .success
  else
    let .ok (.ready revents) ← retryEintr (poll inotifyFd 1000)
      | return .done .failure
    if revents.pollerr || revents.pollhup || revents.pollnval then
      return .done .failure
    match ← retryEintr (readBuffer inotifyFd bufferSize) with
    | .error error =>
        if error = .eagain then
          return .again observed
        else
          return .done .failure
    | .ok buffer => return batchRead watch observed buffer

/-- The event loop. -/
def eventLoop (inotifyFd : Fd) (watch : BitVec 32) : Sys Exit :=
  Program.iterate (eventStep inotifyFd watch) 0

/-- What the cleanup section finds acquired. -/
structure Held where
  fileFd : Fd := -1
  filePath : String := ""
  fileExists : Bool := false
  watch : BitVec 32 := -1
  inotifyFd : Fd := -1
  directory : Option String := none
  deriving DecidableEq, Repr

/-- The cleanup section of `main`, reached with a result. -/
def cleanup (held : Held) (result : Exit) : Sys Exit := do
  let result ←
    release (held.fileFd ≥ 0) (close held.fileFd) none result
  let result ←
    release held.fileExists (unlink held.filePath) (some .enoent) result
  let result ←
    release (held.watch ≠ -1) (inotifyRmWatch held.inotifyFd held.watch)
      (some .einval) result
  let result ←
    release (held.inotifyFd ≠ -1) (close held.inotifyFd) none result
  release held.directory.isSome (rmdir (held.directory.getD "")) none
    result

/-- `main`. -/
def main : Sys Exit := do
  let .ok directory ← Syscall.invoke .mkdtemp
    | cleanup {} .failure
  let filePath := directory ++ "/sample.txt"
  let held : Held :=
    { directory := some directory, filePath := filePath }
  let .ok inotifyFd ← Syscall.invoke .inotifyInit
    | cleanup held .failure
  let held := { held with inotifyFd := inotifyFd }
  let .ok watch ← Syscall.invoke
      (.inotifyAddWatch inotifyFd directory (requiredEvents ||| inModify))
    | cleanup held .failure
  let held := { held with watch := watch }
  let .ok fileFd ← Syscall.invoke (.openCreate filePath)
    | cleanup held .failure
  let held := { held with fileFd := fileFd, fileExists := true }
  let .ok () ← writeAll fileFd content
    | cleanup held .failure
  let closed ← close fileFd
  let held := { held with fileFd := -1 }
  let .ok () := closed
    | cleanup held .failure
  let .ok () ← unlink filePath
    | cleanup held .failure
  let held := { held with fileExists := false }
  let result ← eventLoop inotifyFd watch
  cleanup held result

end AdvanceUnix.FilesystemEvents
