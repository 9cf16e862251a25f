import AdvanceUnix.ChildProcess
import AdvanceUnix.LittleEndian
import AdvanceUnix.TransferLoop

namespace AdvanceUnix.ProcessGroups

open CallTree ChildProcess
open LittleEndian

/-!
# A session and its report

`22_process_groups`: the child creates a session and reports over a pipe what
it observes, as the five 32-bit fields of a structure.
-/

/-- `struct session_report`; `pid_t` and `int` have 32 bits. -/
structure Report where
  pid : BitVec 32
  pgid : BitVec 32
  sid : BitVec 32
  errorNumber : BitVec 32
  relationOk : BitVec 32
  deriving DecidableEq, Repr

/-- `sizeof(struct session_report)`. -/
def reportSize : Nat := 20

/-- A field of the structure as it lies in memory. -/
def fieldBytes (field : BitVec 32) : List UInt8 :=
  leBytes 4 field.toNat

/-- The structure as it lies in memory. -/
def Report.encode (report : Report) : List UInt8 :=
  fieldBytes report.pid ++
    (fieldBytes report.pgid ++
      (fieldBytes report.sid ++
        (fieldBytes report.errorNumber ++
          (fieldBytes report.relationOk ++ []))))

/-- The field that lies at an offset. -/
def fieldAt (bytes : List UInt8) (offset : Nat) : BitVec 32 :=
  BitVec.ofNat 32 (leNat ((bytes.drop offset).take 4))

/-- The structure that some memory holds. -/
def Report.decode (bytes : List UInt8) : Report where
  pid := fieldAt bytes 0
  pgid := fieldAt bytes 4
  sid := fieldAt bytes 8
  errorNumber := fieldAt bytes 12
  relationOk := fieldAt bytes 16

/-- A process id as a `pid_t`. -/
def pidBits (pid : Pid) : BitVec 32 :=
  BitVec.ofNat 32 pid.number

/-- An error number as an `int`. -/
def errorBits (error : Errno) : BitVec 32 :=
  BitVec.ofNat 32 error.code

abbrev exit (status : Nat) : Sys Unit :=
  Syscall.invoke (.exit status)

/-- `report` before anything has been observed. -/
def Report.initial (pid : Pid) : Report where
  pid := pidBits pid
  pgid := -1
  sid := -1
  errorNumber := 0
  relationOk := 0

/-- `created_sid == report.pid && ...`. -/
def relationOk (pid created pgid sid : Pid) : BitVec 32 :=
  if pidBits created = pidBits pid ∧ pidBits pgid = pidBits pid ∧
      pidBits sid = pidBits pid then
    1
  else
    0

/-- The first part of `child_main`: the report. -/
def observe : Sys Report := do
  let pid ← Syscall.invoke .getpid
  let report := Report.initial pid
  match ← Syscall.invoke .setsid with
  | .error error => return { report with errorNumber := errorBits error }
  | .ok created =>
      match ← Syscall.invoke .getpgid with
      | .error error => return { report with errorNumber := errorBits error }
      | .ok pgid =>
          let report := { report with pgid := pidBits pgid }
          match ← Syscall.invoke .getsid with
          | .error error =>
              return { report with errorNumber := errorBits error }
          | .ok sid =>
              return { report with
                sid := pidBits sid
                relationOk := relationOk pid created pgid sid }

/-- `child_main`. -/
def childMain (reportFd : Fd) : Sys Unit := do
  let report ← observe
  let writeResult ← writeAll reportFd report.encode
  let _ ← Syscall.invoke (.close reportFd)
  match writeResult with
  | .error _ => exit 3
  | .ok () =>
      exit (if report.errorNumber = 0 ∧ report.relationOk ≠ 0 then 0 else 2)

/-- The body of `if (child == 0)`. -/
def child (pipeFds : Fd × Fd) : Sys Unit := do
  let _ ← Syscall.invoke (.close pipeFds.1)
  childMain pipeFds.2

/-- What the cleanup section finds acquired. -/
structure Held where
  pipeFds : Fd × Fd := (-1, -1)
  child : Option Pid := none
  reaped : Bool := false
  deriving DecidableEq, Repr

/-- `wait_for`, where the status does not matter. -/
def waitFor (child : Option Pid) : Sys (Result Unit) :=
  match child with
  | some child => do
      match ← waitForChild child with
      | .error error => return .error error
      | .ok _ => return .ok ()
  | none => return .ok ()

/-- The cleanup section of `main`, reached with a result. -/
def cleanup (held : Held) (result : Exit) : Sys Exit := do
  let result ←
    release (held.pipeFds.1 ≥ 0) (Syscall.invoke (.close held.pipeFds.1)) none
      result
  let result ←
    release (held.pipeFds.2 ≥ 0) (Syscall.invoke (.close held.pipeFds.2)) none
      result
  release (held.child.isSome && !held.reaped) (waitFor held.child) none result

/-- The report is about this child. -/
def Report.Consistent (report : Report) (child : Pid) : Prop :=
  report.pid = pidBits child ∧ report.relationOk ≠ 0 ∧
    report.pgid = pidBits child ∧ report.sid = pidBits child

instance (report : Report) (child : Pid) :
    Decidable (report.Consistent child) := by
  unfold Report.Consistent
  infer_instance

/-- `main` of the parent once the report has been read, or has not. -/
def afterRead
    (held : Held)
    (child : Pid)
    (received : Result Unit × List UInt8) : Sys Exit := do
  let (.ok (), bytes) := received
    | cleanup held .failure
  let report := Report.decode bytes
  let closed ← Syscall.invoke (.close held.pipeFds.1)
  let held := { held with pipeFds := (-1, held.pipeFds.2) }
  let .ok () := closed
    | cleanup held .failure
  let .ok childStatus ← waitForChild child
    | cleanup held .failure
  let held := { held with reaped := true }
  if report.errorNumber ≠ 0 then
    cleanup held .failure
  else if report.Consistent child then
    cleanup held (if childStatus.succeeded then .success else .failure)
  else
    cleanup held .failure

/-- `main` of the parent after `fork`. -/
def parent (pipeFds : Fd × Fd) (child : Pid) : Sys Exit := do
  let closed ← Syscall.invoke (.close pipeFds.2)
  let held : Held := { pipeFds := (pipeFds.1, -1), child := some child }
  let .ok () := closed
    | cleanup held .failure
  let received ← readAll pipeFds.1 reportSize
  afterRead held child received

/-- `main` of the parent. -/
def main : Sys Exit := do
  let .ok pipeFds ← Syscall.invoke .pipe
    | cleanup {} .failure
  let .ok child ← Syscall.invoke .fork
    | cleanup { pipeFds := pipeFds } .failure
  parent pipeFds child

section Returns

variable {script : Script Answer} {index : Nat}

/-- The report is put together by calls that are made once each. -/
theorem observe_returns :
    observe.Returns script (fun _ _ => True) index := by
  refine .request_bind (.request_bind ?_)
  rcases script (index + 1) .setsid with error | created
  · exact .pure trivial
  refine .request_bind ?_
  rcases script _ .getpgid with error | pgid
  · exact .pure trivial
  refine .request_bind ?_
  rcases script _ .getsid with error | sid
  · exact .pure trivial
  · exact .pure trivial

/-- The child ends, unless its write is interrupted for ever. -/
theorem child_returns
    (ceasing : script.Ceasing Interrupted)
    (pipeFds : Fd × Fd) :
    (child pipeFds).Returns script (fun _ _ => True) index := by
  refine .request_bind (.bind (observe_returns.mono ?_))
  intro report reported _
  refine .bind (.mono (writeLoop_returns ceasing _ _ _ _) ?_)
  intro written wrote _
  refine .request_bind ?_
  cases written with
  | error error => exact Syscall.invoke_ends (.exit 3)
  | ok done => exact Syscall.invoke_ends (.exit _)

/-- The cleanup section ends, unless its wait is interrupted for ever. -/
theorem cleanup_returns
    (ceasing : script.Ceasing Interrupted)
    (held : Held)
    (result : Exit) :
    (cleanup held result).Returns script (fun _ _ => True) index := by
  refine .bind (release_returns (Syscall.invoke_ends (.close _)) ?_)
  intro first closedReader
  refine .bind (release_returns (Syscall.invoke_ends (.close _)) ?_)
  intro second closedWriter
  refine release_returns ?_ fun _ _ => trivial
  unfold waitFor
  cases held.child with
  | none => exact .pure trivial
  | some child =>
      refine .bind (.mono (waitForChild_returns ceasing child _) ?_)
      rintro (error | status) after _
      · exact .pure trivial
      · exact .pure trivial

/-- What the parent does with the report ends. -/
theorem afterRead_returns
    (ceasing : script.Ceasing Interrupted)
    (held : Held)
    (child : Pid)
    (received : Result Unit × List UInt8) :
    (afterRead held child received).Returns script (fun _ _ => True)
      index := by
  obtain ⟨error | done, bytes⟩ := received
  · exact cleanup_returns ceasing _ _
  refine .request_bind ?_
  rcases script _ (.close held.pipeFds.1) with error | closed
  · exact cleanup_returns ceasing _ _
  refine .bind (.mono (waitForChild_returns ceasing child _) ?_)
  rintro (error | status) after _
  · exact cleanup_returns ceasing _ _
  dsimp only
  split
  · exact cleanup_returns ceasing _ _
  split
  · exact cleanup_returns ceasing _ _
  · exact cleanup_returns ceasing _ _

/-- The parent returns, unless one of its calls is interrupted for ever. -/
theorem parent_returns
    (ceasing : script.Ceasing Interrupted)
    (pipeFds : Fd × Fd)
    (child : Pid) :
    (parent pipeFds child).Returns script (fun _ _ => True) index := by
  refine .request_bind ?_
  rcases script _ (.close pipeFds.2) with error | closed
  · exact cleanup_returns ceasing _ _
  refine .bind (.mono (readLoop_returns ceasing _ _ _ _) ?_)
  intro received after _
  exact afterRead_returns ceasing _ child received

/-- And so does `main`. -/
theorem main_returns (ceasing : script.Ceasing Interrupted) :
    main.Returns script (fun _ _ => True) index := by
  refine .request_bind ?_
  rcases script _ .pipe with error | pipeFds
  · exact cleanup_returns ceasing _ _
  refine .request_bind ?_
  rcases script _ .fork with error | child
  · exact cleanup_returns ceasing _ _
  · exact parent_returns ceasing pipeFds child

end Returns

/-- The first field of some bytes. -/
theorem fieldAt_zero
    (field : BitVec 32)
    (rest : List UInt8) :
    fieldAt (fieldBytes field ++ rest) 0 = field := by
  have small : field.toNat < 256 ^ 4 := field.isLt
  have front : ((fieldBytes field ++ rest).drop 0).take 4 =
      fieldBytes field :=
    List.take_left' (length_leBytes 4 field.toNat)
  rw [fieldAt, front, fieldBytes, leNat_leBytes small]
  rw [BitVec.ofNat_toNat, BitVec.setWidth_eq]

/-- The fields behind the first. -/
theorem fieldAt_add
    (field : BitVec 32)
    (rest : List UInt8)
    (offset : Nat) :
    fieldAt (fieldBytes field ++ rest) (4 + offset) =
      fieldAt rest offset := by
  have skipped : (fieldBytes field ++ rest).drop (4 + offset) =
      rest.drop offset := by
    rw [← List.drop_drop, fieldBytes,
      List.drop_left' (length_leBytes 4 field.toNat)]
  rw [fieldAt, skipped, fieldAt]

/-- The structure is read from memory as it was written there. -/
theorem decode_encode (report : Report) :
    Report.decode report.encode = report := by
  have fields :
      fieldAt report.encode 0 = report.pid ∧
        fieldAt report.encode (4 + 0) = report.pgid ∧
        fieldAt report.encode (4 + (4 + 0)) = report.sid ∧
        fieldAt report.encode (4 + (4 + (4 + 0))) =
          report.errorNumber ∧
        fieldAt report.encode (4 + (4 + (4 + (4 + 0)))) =
          report.relationOk := by
    simp only [Report.encode, fieldAt_add, fieldAt_zero, and_self]
  obtain ⟨pid, pgid, sid, errorNumber, relationOk⟩ := fields
  rw [Report.decode, pid, pgid, sid, errorNumber, relationOk]

/-- The structure fills its size. -/
theorem length_encode (report : Report) :
    report.encode.length = reportSize := by
  simp [Report.encode, fieldBytes, reportSize]

end AdvanceUnix.ProcessGroups
