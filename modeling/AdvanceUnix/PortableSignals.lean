import AdvanceUnix.ChildProcess

namespace AdvanceUnix.PortableSignals

open CallTree

/-!
# Waiting for a signal

The parent and the child of `23_portable_signals`.  Reading the flag that the
handler sets is a call, since the handler may run between any two calls.
-/

abbrev sigprocmask
    (how : MaskChange)
    (set : SignalSet) : Sys (Result SignalSet) :=
  Syscall.invoke (.sigprocmask how set)

abbrev sigaction (new : Disposition) : Sys (Result Disposition) :=
  Syscall.invoke (.sigaction new)

abbrev sigsuspend (mask : SignalSet) : Sys (Result Unit) :=
  Syscall.invoke (.sigsuspend mask)

abbrev loadReceived (place : FlagCheck) : Sys Bool :=
  Syscall.invoke (.loadReceived place)

/-- `wait_for_child`. -/
def waitForChild (child : Pid) : Sys (Result WaitStatus) :=
  ChildProcess.waitForChild child

/-- What the cleanup section finds changed: `none` for a flag that is 0. -/
structure Held where
  child : Option Pid := none
  childReaped : Bool := false
  oldMask : Option SignalSet := none
  oldAction : Option Disposition := none
  deriving DecidableEq, Repr

/-- The cleanup of a child that was forked and not reaped. -/
def cleanupChild (held : Held) (result : Exit) : Sys Exit :=
  match held.child with
  | some child =>
      if held.childReaped then
        return result
      else do
        match ← waitForChild child with
        | .error error =>
            return if error = .echild then result else .failure
        | .ok _ => return result
  | none => return result

/-- The restoration of the mask. -/
def restoreMask (held : Held) (result : Exit) : Sys Exit :=
  match held.oldMask with
  | some oldMask => do
      match ← sigprocmask .setmask oldMask with
      | .error _ => return .failure
      | .ok _ => return result
  | none => return result

/-- The restoration of the disposition. -/
def restoreAction (held : Held) (result : Exit) : Sys Exit :=
  match held.oldAction with
  | some oldAction => do
      match ← sigaction oldAction with
      | .error _ => return .failure
      | .ok _ => return result
  | none => return result

/-- The cleanup section of `main`, reached with a result. -/
def cleanup (held : Held) (result : Exit) : Sys Exit := do
  let result ← cleanupChild held result
  let result ← restoreMask held result
  restoreAction held result

/-- The `sigsuspend` loop. -/
def suspendLoop (waitMask : SignalSet) : Sys (Result Unit) :=
  Program.iterate (fun _ => do
    if ← loadReceived .loopHead then
      return .done (.ok ())
    else
      match ← sigsuspend waitMask with
      | .error error =>
          if error = .eintr then
            return .again ()
          else
            return .done (.error error)
      | .ok () => return .again ()) ()

/-- `main` from the reaped child to the end of the loop. -/
def awaitSignal (held : Held) (oldMask : SignalSet) : Sys Exit := do
  let .ok pending ← Syscall.invoke .sigpending
    | cleanup held .failure
  let .ok isPending ← Syscall.invoke (.sigismember pending)
    | cleanup held .failure
  if isPending then
    if ← loadReceived .afterPending then
      cleanup held .failure
    else
      let .ok waitMask ← Syscall.invoke (.sigdelset oldMask)
        | cleanup held .failure
      match ← suspendLoop waitMask with
      | .error _ => cleanup held .failure
      | .ok () => cleanup held .success
  else
    cleanup held .failure

/-- `main` of the parent after `fork`. -/
def afterFork
    (held : Held)
    (oldMask : SignalSet)
    (child : Pid) : Sys Exit := do
  let .ok childStatus ← waitForChild child
    | cleanup held .failure
  let held := { held with childReaped := true }
  if childStatus.succeeded then
    awaitSignal held oldMask
  else
    cleanup held .failure

/-- `main` from the block on. -/
def afterBlock (oldMask : SignalSet) : Sys Exit := do
  let held : Held := { oldMask := some oldMask }
  let .ok oldAction ← sigaction .handleSigusr1
    | cleanup held .failure
  let held := { held with oldAction := some oldAction }
  let .ok child ← Syscall.invoke .fork
    | cleanup held .failure
  afterFork { held with child := some child } oldMask child

/-- `main` of the parent. -/
def main : Sys Exit := do
  let .ok _ ← Syscall.invoke .sigemptyset
    | cleanup {} .failure
  let .ok empty ← Syscall.invoke .sigemptyset
    | cleanup {} .failure
  let .ok blocked ← Syscall.invoke (.sigaddset empty)
    | cleanup {} .failure
  let .ok oldMask ← sigprocmask .block blocked
    | cleanup {} .failure
  afterBlock oldMask

/-- `main` of the child. -/
def child : Sys Unit := do
  let parent ← Syscall.invoke .getppid
  match ← ChildProcess.kill parent .sigusr1 with
  | .ok () => Syscall.invoke (.exit 0)
  | .error _ => Syscall.invoke (.exit 127)

end AdvanceUnix.PortableSignals
