import AdvanceUnix.TransferLoop

namespace AdvanceUnix.PosixAio

open CallTree

/-!
# An asynchronous read

`27_posix_aio`: one request is submitted, waited for and reaped, or cancelled
and reaped by the cleanup.  An error number of 0 that a variable holds for
"no error" is `none` here, and a status is the value that `aio_error` returns.
-/

/-- `EINPROGRESS`. -/
def einprogress : Nat := 115

/-- `payload`, without its terminator: `POSIX asynchronous file read`. -/
def payload : List UInt8 :=
  [80, 79, 83, 73, 88, 32, 97, 115, 121, 110, 99, 104, 114, 111, 110, 111,
    117, 115, 32, 102, 105, 108, 101, 32, 114, 101, 97, 100]

/-- `write_all` of `27_posix_aio`. -/
def writeAll (fd : Fd) (bytes : List UInt8) : Sys (Result Unit) :=
  writeLoop .eio fd bytes

abbrev aioError : Sys (Result Nat) :=
  Syscall.invoke .aioError

abbrev aioSuspend : Sys (Result Unit) :=
  Syscall.invoke .aioSuspend

abbrev aioCancel (fd : Fd) : Sys (Result Unit) :=
  Syscall.invoke (.aioCancel fd)

abbrev aioReturn : Sys (Except (Option Errno) (List UInt8)) :=
  Syscall.invoke .aioReturn

/-- One iteration of the loop of `wait_until_complete`. -/
def waitStep : Sys (LoopStep Unit (Result Nat)) := do
  match ← aioError with
  | .error error => return .done (.error error)
  | .ok current =>
      if current ≠ einprogress then
        return .done (.ok current)
      else
        match ← retryEintr aioSuspend with
        | .error error => return .done (.error error)
        | .ok () => return .again ()

/-- `wait_until_complete`: the final status, or -1 with an error. -/
def waitUntilComplete : Sys (Result Nat) :=
  Program.iterate (fun _ => waitStep) ()

/-- The first part of `cancel_and_reap`: its `first_error` after cancelling. -/
def cancelPending (fd : Fd) : Sys (Option Errno) := do
  match ← aioError with
  | .error error => return some error
  | .ok status =>
      if status = einprogress then
        match ← aioCancel fd with
        | .error error => return some error
        | .ok () => return none
      else
        return none

/-- The second part: `first_error` after waiting and reaping. -/
def reap (firstError : Option Errno) : Sys (Option Errno) := do
  match ← waitUntilComplete with
  | .error error => return firstError.or (some error)
  | .ok status =>
      match ← aioReturn with
      | .error left =>
          if status = 0 then
            return firstError.or (some (left.getD .eio))
          else
            return firstError
      | .ok _ => return firstError

/-- `cancel_and_reap`. -/
def cancelAndReap (fd : Fd) : Sys (Result Unit) := do
  match ← reap (← cancelPending fd) with
  | some error => return .error error
  | none => return .ok ()

section Returns

variable {script : Script Answer} {index : Nat}

/-- From some call on the request is in progress no more. -/
def EventuallyEnded (script : Script Answer) : Prop :=
  ∃ last, ∀ index, last ≤ index → script index .aioError ≠ .ok einprogress

/-- Waiting for the request returns once it has ended. -/
theorem waitUntilComplete_returns
    (ceasing : script.Ceasing Interrupted)
    (ended : EventuallyEnded script) :
    waitUntilComplete.Returns script (fun _ _ => True) index := by
  obtain ⟨last, stops⟩ := ended
  refine .iterate (fun _ _ => True) (fun _ current => last - current) ?_
    trivial
  intro _ current _
  refine .bind ((Syscall.invoke_returns .aioError current).mono ?_)
  rintro (error | status) _ ⟨given, rfl⟩
  · exact .pure trivial
  by_cases running : status = einprogress
  · have early : current < last := by
      refine Nat.lt_of_not_le fun late => stops current late ?_
      rw [← given, running]
    subst running
    refine .bind (retryEintr_returns .aioSuspend
      (fun current => script current .aioSuspend)
      (Syscall.invoke_returns .aioSuspend)
      (fun _ given => ⟨Unit, heq_of_eq given⟩) ceasing ?_)
    rintro (error | done) after later _
    · exact .pure trivial
    · exact .pure ⟨trivial, by omega⟩
  · simp only [ne_eq, running, not_false_eq_true, ↓reduceIte]
    exact .pure trivial

/-- Cancelling makes at most two calls. -/
theorem cancelPending_returns (fd : Fd) :
    (cancelPending fd).Returns script (fun _ _ => True) index := by
  refine .request_bind ?_
  rcases script index .aioError with error | status
  · exact .pure trivial
  by_cases running : status = einprogress
  · simp only [running, ↓reduceIte]
    refine .request_bind ?_
    rcases script _ (.aioCancel fd) with error | done
    · exact .pure trivial
    · exact .pure trivial
  · simp only [running, ↓reduceIte]
    exact .pure trivial

/-- `cancel_and_reap` returns once the request has ended. -/
theorem cancelAndReap_returns
    (ceasing : script.Ceasing Interrupted)
    (ended : EventuallyEnded script)
    (fd : Fd) :
    (cancelAndReap fd).Returns script (fun _ _ => True) index := by
  refine .bind ((cancelPending_returns fd).mono ?_)
  intro firstError after _
  have reaps :
      (reap firstError).Returns script (fun _ _ => True) after := by
    refine .bind (.mono (waitUntilComplete_returns ceasing ended) ?_)
    rintro (error | status) waited _
    · exact .pure trivial
    refine .request_bind ?_
    rcases script waited .aioReturn with left | received
    · dsimp only
      split
      · exact .pure trivial
      · exact .pure trivial
    · exact .pure trivial
  refine .bind (reaps.mono ?_)
  rintro (_ | error) reaped _
  · exact .pure trivial
  · exact .pure trivial

end Returns

/-- What the cleanup section finds acquired. -/
structure Held where
  fd : Fd := -1
  path : String := ""
  pathExists : Bool := false
  requestPending : Bool := false
  deriving DecidableEq, Repr

/-- The cleanup section of `main`, reached with a result. -/
def cleanup (held : Held) (result : Exit) : Sys Exit := do
  let result ←
    release held.requestPending (cancelAndReap held.fd) none result
  let result ←
    release (held.fd ≥ 0) (Syscall.invoke (.close held.fd)) none result
  release held.pathExists (Syscall.invoke (.unlink held.path)) none result

/-- `main` once the request was submitted. -/
def afterSubmission (held : Held) : Sys Exit := do
  let .ok aioStatus ← waitUntilComplete
    | cleanup held .failure
  if aioStatus ≠ 0 then
    cleanup held .failure
  else
    let received ← aioReturn
    let held := { held with requestPending := false }
    let .ok buffer := received
      | cleanup held .failure
    if buffer = payload then
      cleanup held .success
    else
      cleanup held .failure

/-- `main`. -/
def main : Sys Exit := do
  let .ok (fd, path) ← Syscall.invoke .mkstemp
    | cleanup {} .failure
  let held : Held := { fd := fd, path := path, pathExists := true }
  let .ok () ← Syscall.invoke (.unlink path)
    | cleanup held .failure
  let held := { held with pathExists := false }
  let .ok () ← writeAll fd payload
    | cleanup held .failure
  let .ok () ← Syscall.invoke (.aioRead fd)
    | cleanup held .failure
  afterSubmission { held with requestPending := true }

end AdvanceUnix.PosixAio
