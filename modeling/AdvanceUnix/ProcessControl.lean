import AdvanceUnix.ChildProcess
import AdvanceUnix.InotifyParser

namespace AdvanceUnix.ProcessControl

open CallTree
open ChildProcess
open FilesystemEvents (strcmp)

/-!
# A spawned program and its captured output

`05_process_control` on Linux: a pipe becomes the standard output of a spawned
program, whose text and exit status are checked.
-/

/-- `STDOUT_FILENO`. -/
def stdoutFileno : Fd := 1

/-- `expected`, without its terminator: `child: posix_spawnp` and a newline. -/
def expected : List UInt8 :=
  [99, 104, 105, 108, 100, 58, 32, 112, 111, 115, 105, 120, 95, 115, 112,
    97, 119, 110, 112, 10]

/-- `sizeof(captured) - 1`. -/
def captureLimit : Nat := 127

/-- `make_cloexec_pipe`. -/
def makeCloexecPipe : Sys (Result (Fd × Fd)) :=
  Syscall.invoke .pipe2

abbrev addFileAction (action : FileAction) : Sys (Result Unit) :=
  Syscall.invoke (.spawnActionsAdd action)

/-- `add_file_actions`. -/
def addFileActions (pipefd : Fd × Fd) : Sys (Result Unit) := do
  match ← addFileAction (.close pipefd.1) with
  | .error error => return .error error
  | .ok () =>
      match ← addFileAction (.dup2 pipefd.2 stdoutFileno) with
      | .error error => return .error error
      | .ok () =>
          if pipefd.2 ≠ stdoutFileno then
            addFileAction (.close pipefd.2)
          else
            return .ok ()

/-- The rest of a capture iteration once `read` has answered. -/
def captureAnswered
    (captured : List UInt8) :
    Result (List UInt8) → LoopStep (List UInt8) (Result (List UInt8))
  | .ok [] => .done (.ok captured)
  | .ok bytes => .again (captured ++ bytes)
  | .error error =>
      if error = .eintr then .again captured else .done (.error error)

/-- One iteration of the capture loop. -/
def captureStep
    (fd : Fd)
    (captured : List UInt8) :
    Sys (LoopStep (List UInt8) (Result (List UInt8))) := do
  if captured.length < captureLimit then
    let answer ←
      Syscall.invoke (.read fd (captureLimit - captured.length))
    return captureAnswered captured answer
  else
    return .done (.ok captured)

/-- The capture loop: until the end of the file or a full buffer. -/
def capture (fd : Fd) : Sys (Result (List UInt8)) :=
  Program.iterate (captureStep fd) []

/--
The array `captured` once it is terminated; `stale` is what it holds behind
the terminator.
-/
def terminated
    (captured : List UInt8)
    (stale : Nat → UInt8) : Nat → UInt8 :=
  fun index =>
    if index = captured.length then
      0
    else
      captured.getD index (stale index)

/-- What the cleanup section finds acquired. -/
structure Held where
  pipefd : Fd × Fd := (-1, -1)
  actionsReady : Bool := false
  child : Option Pid := none
  childWaited : Bool := false
  deriving DecidableEq, Repr

/-- The last part of the cleanup section: wait for a child not waited for. -/
def cleanupWait (held : Held) (result : Exit) : Sys Exit :=
  match held.child with
  | some child => do
      if held.childWaited then
        return result
      else
        let _ ← waitForChild child
        return result
  | none => return result

/-- The part of the cleanup section that closes both ends of the pipe. -/
def cleanupPipe (held : Held) (result : Exit) : Sys Exit := do
  let result ←
    release (held.pipefd.1 ≥ 0) (Syscall.invoke (.close held.pipefd.1)) none
      result
  let result ←
    release (held.pipefd.2 ≥ 0) (Syscall.invoke (.close held.pipefd.2)) none
      result
  cleanupWait held result

/-- The cleanup section of `main`, reached with a result. -/
def cleanup (held : Held) (result : Exit) : Sys Exit := do
  if held.actionsReady then
    let _ ← Syscall.invoke .spawnActionsDestroy
    cleanupPipe held result
  else
    cleanupPipe held result

/-- The verification of `main`, from the wait on. -/
def verify
    (stale : Nat → UInt8)
    (held : Held)
    (child : Pid)
    (captured : List UInt8) : Sys Exit := do
  let .ok status ← waitForChild child
    | cleanup held .failure
  let held := { held with childWaited := true }
  if status.succeeded then
    if (strcmp (terminated captured stale) 0 (expected ++ [0])).1 ≠ 0 then
      cleanup held .failure
    else
      cleanup held .success
  else
    cleanup held .failure

/-- `main` once the child runs. -/
def afterSpawn
    (stale : Nat → UInt8)
    (held : Held)
    (child : Pid) : Sys Exit := do
  let destroyed ← Syscall.invoke .spawnActionsDestroy
  let held := { held with actionsReady := false }
  let .ok () := destroyed
    | cleanup held .failure
  let closed ← Syscall.invoke (.close held.pipefd.2)
  let held := { held with pipefd := (held.pipefd.1, -1) }
  let .ok () := closed
    | cleanup held .failure
  let .ok captured ← capture held.pipefd.1
    | cleanup held .failure
  verify stale held child captured

/-- `main`; `stale` is what the array `captured` holds when it is declared. -/
def main (stale : Nat → UInt8) : Sys Exit := do
  let .ok pipefd ← makeCloexecPipe
    | cleanup {} .failure
  let held : Held := { pipefd := pipefd }
  let .ok () ← Syscall.invoke .spawnActionsInit
    | cleanup held .failure
  let held := { held with actionsReady := true }
  let .ok () ← addFileActions pipefd
    | cleanup held .failure
  let .ok child ← Syscall.invoke .posixSpawnp
    | cleanup held .failure
  afterSpawn stale { held with child := some child } child

section Cleanup

variable {State : Type} {monitor : Monitor Answer State} {state : State}

/-- A monitor that has an opinion about spawning only. -/
def Indifferent (monitor : Monitor Answer State) : Prop :=
  ∀ state call, call ≠ .posixSpawnp → monitor.safe state call

/-- An indifferent monitor is content with waiting. -/
theorem waitForChild_indifferent
    (indifferent : Indifferent monitor)
    (child : Pid) :
    (waitForChild child).Ensures monitor (fun _ _ => True) state := by
  refine retryEintr_ensures (fun _ => True) ?_ trivial
  intro current _
  refine .request (indifferent current _ nofun) ?_
  intro answer _
  cases answer with
  | error error => exact ⟨fun _ => trivial, fun _ => trivial⟩
  | ok status => trivial

variable {conclusion : Prop}

/-- Releasing a descriptor makes no success. -/
theorem release_indifferent
    (indifferent : Indifferent monitor)
    (held : Bool)
    (fd : Fd)
    {result : Exit}
    (concluded : result = .success → conclusion) :
    (release held (Syscall.invoke (.close fd)) none result).Ensures monitor
      (fun final _ => final = .success → conclusion) state := by
  apply release_ensures
  · exact fun _ => concluded
  · intro _
    refine .request (indifferent state _ nofun) ?_
    exact fun _ _ => ⟨concluded, nofun⟩

/-- The wait of the cleanup makes no success. -/
theorem cleanupWait_indifferent
    (indifferent : Indifferent monitor)
    (held : Held)
    {result : Exit}
    (concluded : result = .success → conclusion) :
    (cleanupWait held result).Ensures monitor
      (fun final _ => final = .success → conclusion) state := by
  unfold cleanupWait
  cases held.child with
  | none => exact .pure concluded
  | some child =>
      cases held.childWaited with
      | true => exact .pure concluded
      | false =>
          refine .bind ((waitForChild_indifferent indifferent child).mono ?_)
          exact fun _ _ _ => .pure concluded

/-- The cleanup makes no success. -/
theorem cleanup_indifferent
    (indifferent : Indifferent monitor)
    (held : Held)
    {result : Exit}
    (concluded : result = .success → conclusion) :
    (cleanup held result).Ensures monitor
      (fun final _ => final = .success → conclusion) state := by
  have pipe :
      ∀ current,
        (cleanupPipe held result).Ensures monitor
          (fun final _ => final = .success → conclusion) current := by
    intro current
    refine .bind
      ((release_indifferent indifferent _ _ concluded).mono ?_)
    intro reader afterReader readerConcluded
    refine .bind
      ((release_indifferent indifferent _ _ readerConcluded).mono ?_)
    intro writer afterWriter writerConcluded
    exact cleanupWait_indifferent indifferent held writerConcluded
  unfold cleanup
  cases held.actionsReady with
  | false => exact pipe state
  | true =>
      exact .request_bind (indifferent state _ nofun) fun _ _ => pipe _

end Cleanup

end AdvanceUnix.ProcessControl
