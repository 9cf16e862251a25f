import AdvanceUnix.DescriptorReceive
import AdvanceUnix.ChildProcess
import AdvanceUnix.TransferLoop

namespace AdvanceUnix.FdPassing

open CallTree

/-!
# Sending a descriptor

The parent and the child of `09_fd_passing` around `receiveDescriptor`.  The
payload is a parameter of both: `main` passes `expected`.
-/

/-- `expected`, without its terminator: `descriptor-passing-ok`. -/
def expected : List UInt8 :=
  [100, 101, 115, 99, 114, 105, 112, 116, 111, 114, 45, 112, 97, 115, 115,
    105, 110, 103, 45, 111, 107]

abbrev sendmsg
    (fd : Fd)
    (payload : UInt8)
    (descriptor : Fd) : Sys (Result Nat) :=
  Syscall.invoke (.sendmsg fd payload descriptor)

/-- `wait_for_child`. -/
def waitForChild (child : Pid) : Sys (Result WaitStatus) :=
  ChildProcess.waitForChild child

/-- `terminate_and_reap`. -/
def terminateAndReap (child : Pid) : Sys Unit := do
  let _ ← retryEintr (ChildProcess.kill child .sigkill)
  let _ ← waitForChild child
  return ()

/-- `send_descriptor`. -/
def sendDescriptor (socketFd descriptor : Fd) : Sys (Result Unit) := do
  match ← retryEintr (sendmsg socketFd payloadByte descriptor) with
  | .error error => return .error error
  | .ok sent => return if sent = 1 then .ok () else .error .eio

/-- `matches`: all was read and is what was expected. -/
def received
    (payload : List UInt8) : Result Unit × List UInt8 → Bool
  | (.ok (), buffer) => buffer == payload
  | (.error _, _) => false

/-- `main` of the child. -/
def child (payload : List UInt8) (channels : Fd × Fd) : Sys Unit := do
  let _ ← close channels.1
  match ← receiveDescriptor channels.2 with
  | .error _ => Syscall.invoke (.exit 2)
  | .ok receivedFd => do
      let answer ← readAll receivedFd payload.length
      let _ ← close receivedFd
      let _ ← close channels.2
      Syscall.invoke (.exit (if received payload answer then 0 else 3))

/-- The end of a failure path: kill, reap, report. -/
def fail (child : Pid) : Sys Exit := do
  terminateAndReap child
  return .failure

/-- `main` of the parent after `fork`. -/
def parent
    (payload : List UInt8)
    (channels : Fd × Fd)
    (child : Pid) : Sys Exit := do
  let _ ← close channels.2
  let .ok (readEnd, writeEnd) ← Syscall.invoke .pipe
    | do
      let _ ← close channels.1
      fail child
  let .ok () ← writeAll writeEnd payload
    | do
      let _ ← close readEnd
      let _ ← close writeEnd
      let _ ← close channels.1
      fail child
  let _ ← close writeEnd
  let .ok () ← sendDescriptor channels.1 readEnd
    | do
      let _ ← close readEnd
      let _ ← close channels.1
      fail child
  let _ ← close readEnd
  let _ ← close channels.1
  match ← waitForChild child with
  | .ok status =>
      return if status.succeeded then .success else .failure
  | .error _ => return .failure

/-- `main` as the parent sees it. -/
def main : Sys Exit := do
  let .ok channels ← Syscall.invoke .socketpair
    | return .failure
  let .ok child ← Syscall.invoke .fork
    | do
      let _ ← close channels.1
      let _ ← close channels.2
      return .failure
  parent expected channels child

end AdvanceUnix.FdPassing
