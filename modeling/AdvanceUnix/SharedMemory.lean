import AdvanceUnix.ChildProcess

namespace AdvanceUnix.SharedMemory

open CallTree

/-!
# Shared memory

The parent of `08_shared_memory`.  Its name always fits the buffer, so that
check is left out; results of calls that the source does not look at are not
looked at here.
-/

/-- `terminate_and_reap`. -/
def terminateAndReap (child : Pid) : Sys Unit := do
  let _ ← ChildProcess.kill child .sigkill
  let _ ← ChildProcess.waitForChild child
  return ()

/-- The release of the semaphore and the mapping on the failure paths. -/
def giveUp : Sys Exit := do
  let _ ← Syscall.invoke .semDestroy
  let _ ← Syscall.invoke .munmap
  return .failure

/-- `main` of the parent once the child was waited for. -/
def verify (status : WaitStatus) : Sys Exit := do
  let output ← Syscall.invoke .loadOutput
  let verified := status.succeeded && output == 42
  let .ok () ← Syscall.invoke .semDestroy
    | do
      let _ ← Syscall.invoke .munmap
      return .failure
  let .ok () ← Syscall.invoke .munmap
    | return .failure
  return if verified then .success else .failure

/-- `main` of the parent after `fork`. -/
def parent (child : Pid) : Sys Exit := do
  let .ok () ← Syscall.invoke .semPost
    | do
      terminateAndReap child
      giveUp
  match ← ChildProcess.waitForChild child with
  | .error _ => do
      terminateAndReap child
      giveUp
  | .ok status => verify status

/-- `main`. -/
def main : Sys Exit := do
  let process ← Syscall.invoke .getpid
  let name := "/advance_unix_shm_" ++ toString process.number
  let .ok descriptor ← Syscall.invoke (.shmOpen name)
    | return .failure
  let .ok () ← Syscall.invoke (.ftruncate descriptor)
    | do
      let _ ← Syscall.invoke (.close descriptor)
      let _ ← Syscall.invoke (.shmUnlink name)
      return .failure
  let .ok () ← Syscall.invoke (.mmap descriptor)
    | do
      let _ ← Syscall.invoke (.close descriptor)
      let _ ← Syscall.invoke (.shmUnlink name)
      return .failure
  let _ ← Syscall.invoke (.close descriptor)
  let .ok () ← Syscall.invoke (.shmUnlink name)
    | do
      let _ ← Syscall.invoke .munmap
      return .failure
  let .ok () ← Syscall.invoke .semInit
    | do
      let _ ← Syscall.invoke .munmap
      return .failure
  let .ok child ← Syscall.invoke .fork
    | giveUp
  parent child

end AdvanceUnix.SharedMemory
