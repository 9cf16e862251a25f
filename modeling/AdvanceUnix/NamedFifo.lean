import AdvanceUnix.ChildProcess

namespace AdvanceUnix.Fifo

open CallTree ChildProcess

/-!
# A named FIFO

The parent of `25_fifo`.  The path of the FIFO always fits its buffer, so
that check is left out.
-/

/-- `message`, with its terminator: `hello through a named FIFO`. -/
def message : List UInt8 :=
  [104, 101, 108, 108, 111, 32, 116, 104, 114, 111, 117, 103, 104, 32, 97,
    32, 110, 97, 109, 101, 100, 32, 70, 73, 70, 79, 0]

/-- `wait_for_child`. -/
def waitForChild (child : Pid) : Sys (Result WaitStatus) :=
  ChildProcess.waitForChild child

/-- What a reading iteration does with the bytes that `read` returned. -/
def readAnswered
    (used : List UInt8) :
    Result (List UInt8) → LoopStep (List UInt8) (Result (List UInt8))
  | .error error => .done (.error error)
  | .ok [] => .done (.error .epipe)
  | .ok bytes => .again (used ++ bytes)

/-- `read_exact_with_poll`: the filled buffer, or -1 with an error. -/
def readExactWithPoll
    (descriptor : Fd)
    (size : Nat) : Sys (Result (List UInt8)) :=
  Program.iterate (fun used => do
    if used.length < size then
      match ← retryEintr (Syscall.invoke (.poll descriptor 3000)) with
      | .error error => return .done (.error error)
      | .ok .timedOut => return .done (.error .etimedout)
      | .ok (.ready revents) =>
          if revents.pollnval then
            return .done (.error .ebadf)
          else if revents.pollerr then
            return .done (.error .eio)
          else
            let bytes ←
              retryEintr
                (Syscall.invoke (.read descriptor (size - used.length)))
            return readAnswered used bytes
    else
      return .done (.ok used)) []

/--
`read_exact_with_poll` returns, unless a call of it is interrupted for ever:
every other iteration leaves less to be read.
-/
theorem readExactWithPoll_returns
    {script : Script Answer}
    (ceasing : script.Ceasing Interrupted)
    (descriptor : Fd)
    (size index : Nat) :
    (readExactWithPoll descriptor size).Returns script (fun _ _ => True)
      index := by
  refine .iterate (fun _ _ => True) (fun used _ => size - used.length) ?_
    trivial
  intro used current _
  by_cases unfinished : used.length < size
  · simp only [unfinished, ↓reduceIte]
    refine .bind (retryEintr_returns (.poll descriptor 3000)
      (fun current => script current (.poll descriptor 3000))
      (Syscall.invoke_returns (.poll descriptor 3000))
      (fun _ given => ⟨PollOutcome, heq_of_eq given⟩) ceasing ?_)
    rintro (error | timedOut | revents) polled _ _
    · exact .pure trivial
    · exact .pure trivial
    dsimp only
    split
    · exact .pure trivial
    split
    · exact .pure trivial
    refine .bind (retryEintr_returns (.read descriptor _)
      (fun current => script current (.read descriptor _))
      (Syscall.invoke_returns (.read descriptor _))
      (fun _ given => ⟨List UInt8, heq_of_eq given⟩) ceasing ?_)
    rintro (error | _ | ⟨byte, rest⟩) after _ _
    · exact .pure trivial
    · exact .pure trivial
    · refine .pure ⟨trivial, ?_⟩
      have longer := @List.length_append _ used (byte :: rest)
      rw [List.length_cons] at longer
      omega
  · simp only [unfinished, ↓reduceIte]
    exact .pure trivial

/-- What the cleanup section finds acquired. -/
structure Held where
  directory : Option String := none
  fifoPath : String := ""
  fifoCreated : Bool := false
  readDescriptor : Fd := -1
  child : Option Pid := none
  childReaped : Bool := false
  deriving DecidableEq, Repr

/-- The cleanup section of `main`, reached with a result. -/
def cleanup (held : Held) (result : Exit) : Sys Exit := do
  let result ←
    ChildProcess.cleanupChild held.child held.childReaped result
  let result ←
    release (held.readDescriptor ≥ 0)
      (Syscall.invoke (.close held.readDescriptor)) none result
  let result ←
    release held.fifoCreated (Syscall.invoke (.unlink held.fifoPath)) none
      result
  release held.directory.isSome
    (Syscall.invoke (.rmdir (held.directory.getD ""))) none result

/-- `main` of the parent after `fork`, for any message. -/
def parentReceiving
    (message : List UInt8)
    (held : Held)
    (child : Pid) : Sys Exit := do
  match ← waitForChild child with
  | .error error =>
      cleanup { held with childReaped := error = .echild } .failure
  | .ok childStatus =>
      let held := { held with childReaped := true }
      if childStatus.succeeded then
        let .ok received ←
            readExactWithPoll held.readDescriptor message.length
          | cleanup held .failure
        cleanup held (if received = message then .success else .failure)
      else
        cleanup held .failure

section Returns

variable {script : Script Answer} {index : Nat}

/-- The cleanup section returns, unless its wait is interrupted for ever. -/
theorem cleanup_returns
    (ceasing : script.Ceasing Interrupted)
    (held : Held)
    (result : Exit) :
    (cleanup held result).Returns script (fun _ _ => True) index := by
  refine .bind (.mono (cleanupChild_returns ceasing _ _ _) ?_)
  intro cleaned after _
  refine .bind (release_returns (Syscall.invoke_ends (.close _)) ?_)
  intro closed afterClose
  refine .bind (release_returns (Syscall.invoke_ends (.unlink _)) ?_)
  intro unlinked afterUnlink
  exact release_returns (Syscall.invoke_ends (.rmdir _)) fun _ _ => trivial

/-- The parent returns, unless one of its calls is interrupted for ever. -/
theorem parentReceiving_returns
    (ceasing : script.Ceasing Interrupted)
    (message : List UInt8)
    (held : Held)
    (child : Pid) :
    (parentReceiving message held child).Returns script
      (fun _ _ => True) index := by
  refine .bind (.mono (waitForChild_returns ceasing child _) ?_)
  rintro (error | status) after _
  · exact cleanup_returns ceasing _ _
  dsimp only
  split
  · refine .bind (.mono (readExactWithPoll_returns ceasing _ _ _) ?_)
    rintro (error | received) read _
    · exact cleanup_returns ceasing _ _
    · exact cleanup_returns ceasing _ _
  · exact cleanup_returns ceasing _ _

end Returns

/-- `main` of the parent after `fork`. -/
def parent (held : Held) (child : Pid) : Sys Exit :=
  parentReceiving message held child

/-- `main`. -/
def main : Sys Exit := do
  let .ok directory ← Syscall.invoke .mkdtemp
    | cleanup {} .failure
  let fifoPath := directory ++ "/channel"
  let held : Held :=
    { directory := some directory, fifoPath := fifoPath }
  let .ok () ← Syscall.invoke (.mkfifo fifoPath)
    | cleanup held .failure
  let held := { held with fifoCreated := true }
  let .ok true ← Syscall.invoke (.lstat fifoPath)
    | cleanup held .failure
  let .ok readDescriptor ← Syscall.invoke (.openReader fifoPath)
    | cleanup held .failure
  let held := { held with readDescriptor := readDescriptor }
  let .ok child ← Syscall.invoke .fork
    | cleanup held .failure
  parent { held with child := some child } child

end AdvanceUnix.Fifo
