import AdvanceUnix.ChildProcess

namespace AdvanceUnix.SysvMessageQueue

open CallTree

/-!
# A System V message queue

The parent of `26_sysv_message_queue`.
-/

/-- `payload`, with its terminator: `hello from a System V message queue`. -/
def payload : List UInt8 :=
  [104, 101, 108, 108, 111, 32, 102, 114, 111, 109, 32, 97, 32, 83, 121, 115,
    116, 101, 109, 32, 86, 32, 109, 101, 115, 115, 97, 103, 101, 32, 113, 117,
    101, 117, 101, 0]

/-- `wait_for_child`. -/
def waitForChild (child : Pid) : Sys (Result WaitStatus) :=
  ChildProcess.waitForChild child

/-- What the cleanup section finds acquired. -/
structure Held where
  queueId : Int := -1
  child : Option Pid := none
  childReaped : Bool := false
  deriving DecidableEq, Repr

/-- The cleanup section of `main`, reached with a result. -/
def cleanup (held : Held) (result : Exit) : Sys Exit := do
  let result ←
    release (held.queueId ≥ 0) (Syscall.invoke (.msgctlRmid held.queueId))
      none result
  ChildProcess.cleanupChild held.child held.childReaped result

/-- `main` of the parent once the sender has succeeded, for any text. -/
def receive (text : List UInt8) (held : Held) : Sys Exit := do
  let .ok 1 ← Syscall.invoke (.msgctlStat held.queueId)
    | cleanup held .failure
  let .ok received ← retryEintr (Syscall.invoke (.msgrcv held.queueId))
    | cleanup held .failure
  if received = text then
    let .ok 0 ← Syscall.invoke (.msgctlStat held.queueId)
      | cleanup held .failure
    cleanup held .success
  else
    cleanup held .failure

/-- `main` of the parent after `fork`, for any text. -/
def parentReceiving
    (text : List UInt8)
    (held : Held)
    (child : Pid) : Sys Exit := do
  match ← waitForChild child with
  | .error error =>
      cleanup { held with childReaped := error = .echild } .failure
  | .ok childStatus =>
      let held := { held with childReaped := true }
      if childStatus.succeeded then
        receive text held
      else
        cleanup held .failure

/-- `main` of the parent after `fork`. -/
def parent (held : Held) (child : Pid) : Sys Exit :=
  parentReceiving payload held child

/-- `main`. -/
def main : Sys Exit := do
  let .ok queueId ← Syscall.invoke .msgget
    | cleanup {} .failure
  let held : Held := { queueId := queueId }
  let .ok child ← Syscall.invoke .fork
    | cleanup held .failure
  parent { held with child := some child } child

end AdvanceUnix.SysvMessageQueue
