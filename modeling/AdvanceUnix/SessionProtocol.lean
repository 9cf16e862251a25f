import AdvanceUnix.SessionHandover

namespace AdvanceUnix.ProcessGroups

open CallTree ChildProcess Processes
open FdPassing.Handover (ChildLife)

/-!
# The report as both sides know it

What the child has written is always the front of the report that its answers
call for, and its exit status says whether that report is complete and good.
The parent decodes nothing but a complete report.
-/

/-- What the parent has been told. -/
structure Receiving where
  writerClosed : Bool := false
  received : List UInt8 := []
  reaps : List WaitStatus := []
  failed : Bool := false
  waitFailed : Bool := false

/-- Follow one answered call of the parent. -/
def Receiving.next
    (setting : Setting)
    (receiving : Receiving)
    (request : Syscall)
    (answer : Answer request) : Receiving where
  writerClosed :=
    receiving.writerClosed || request = .close setting.pipeFds.2
  received := receiving.received ++ readBy ⟨request, answer⟩
  reaps := receiving.reaps ++ reapedBy ⟨request, answer⟩
  failed := receiving.failed || Fails request answer
  waitFailed := receiving.waitFailed || WaitFails request answer

/-- The parent closes its write end first, and waits until it has reaped. -/
def Receiving.Safe
    (setting : Setting)
    (receiving : Receiving) : Syscall → Prop
  | .read _ _ => receiving.writerClosed = true
  | .waitpid child =>
      child = setting.child ∧ receiving.writerClosed = true ∧
        receiving.reaps = []
  | _ => True

/-- A read gives no more than was asked for. -/
def Receiving.Allows : (request : Syscall) → Answer request → Prop
  | .read _ size, answer =>
      ((answer : Result (List UInt8)).toOption.getD []).length ≤ size
  | _, _ => True

/-- What the child has been told. -/
structure Reporting where
  created : List (Result Pid) := []
  pgid : List (Result Pid) := []
  sid : List (Result Pid) := []
  written : List UInt8 := []

/-- Follow one answered call of the child. -/
def Reporting.next
    (reporting : Reporting)
    (request : Syscall)
    (answer : Answer request) : Reporting where
  created := reporting.created ++ setsidBy ⟨request, answer⟩
  pgid := reporting.pgid ++ getpgidBy ⟨request, answer⟩
  sid := reporting.sid ++ getsidBy ⟨request, answer⟩
  written := reporting.written ++ writtenBy ⟨request, answer⟩

/-- The report that the answers so far call for. -/
def Reporting.report (reporting : Reporting) (pid : Pid) : Report :=
  match reporting.created with
  | .ok created :: _ =>
      match reporting.pgid with
      | .ok pgid :: _ =>
          let report := { Report.initial pid with pgid := pidBits pgid }
          match reporting.sid with
          | .ok sid :: _ =>
              { report with
                sid := pidBits sid
                relationOk := relationOk pid created pgid sid }
          | .error error :: _ =>
              { report with errorNumber := errorBits error }
          | [] => report
      | .error error :: _ =>
          { Report.initial pid with errorNumber := errorBits error }
      | [] => Report.initial pid
  | .error error :: _ =>
      { Report.initial pid with errorNumber := errorBits error }
  | [] => Report.initial pid

/-- All three calls succeeded and gave the child's own process id. -/
structure Own (child : Pid) (reporting : Reporting) : Prop where
  created : reporting.created = [.ok child]
  pgid : reporting.pgid = [.ok child]
  sid : reporting.sid = [.ok child]

/-- The child observes, writes its report and exits by how that went. -/
def Reporting.Safe
    (setting : Setting)
    (reporting : Reporting) : Syscall → Prop
  | .close _ => True
  | .getpid => True
  | .setsid => reporting.written = []
  | .getpgid => reporting.written = []
  | .getsid => reporting.written = []
  | .write _ bytes =>
      reporting.written ++ bytes = (reporting.report setting.child).encode
  | .exit status =>
      status = 0 ↔
        Own setting.child reporting ∧ reporting.written.length = reportSize
  | _ => False

/-- What the child may be answered. -/
def Reporting.Allows
    (setting : Setting) : (request : Syscall) → Answer request → Prop
  | .getpid, answer => (answer : Pid) = setting.child
  | .setsid, answer => SmallResult answer
  | .getpgid, answer => SmallResult answer
  | .getsid, answer => SmallResult answer
  | .write _ bytes, answer =>
      (answer : Result Nat).toOption.getD 0 ≤ bytes.length
  | _, _ => True

/-- The state of each monitor. -/
@[reducible] def Watch : Role → Type
  | .parent => Receiving
  | .child => Reporting

/-- The monitors of both processes. -/
def monitor (setting : Setting) :
    (role : Role) → Monitor Answer (Watch role)
  | .parent =>
      ⟨Receiving.next setting, fun _ => Receiving.Allows,
        Receiving.Safe setting⟩
  | .child =>
      ⟨Reporting.next, fun _ => Reporting.Allows setting,
        Reporting.Safe setting⟩

/-- Both monitors at `fork`. -/
def watchStart : (role : Role) → Watch role
  | .parent => {}
  | .child => {}

/-- The parent has a complete and good report of a child that exited with 0. -/
structure Verified (setting : Setting) (receiving : Receiving) : Prop where
  complete : receiving.received.length = reportSize
  noError : (Report.decode receiving.received).errorNumber = 0
  consistent : (Report.decode receiving.received).Consistent setting.child
  exited : receiving.reaps = [.exited 0]

/-- What the parent establishes. -/
structure Returned
    (setting : Setting)
    (result : Exit)
    (receiving : Receiving) : Prop where
  verified : result = .success → Verified setting receiving
  succeeds :
    receiving.failed = false → Verified setting receiving → result = .success
  reaped : receiving.waitFailed = false → receiving.reaps.length = 1

/-- What the processes establish when they return. -/
def post (setting : Setting) :
    (role : Role) → Outcome role → Watch role → Prop
  | .parent => Returned setting
  | .child => fun _ _ => True

section Child

variable {setting : Setting} {reporting : Reporting}

/-- Process ids that fit are told apart by their bits. -/
theorem pidBits_inj
    {first second : Pid}
    (firstSmall : first.number < 2147483648)
    (secondSmall : second.number < 2147483648) :
    pidBits first = pidBits second ↔ first = second := by
  constructor
  · intro same
    have numbers := congrArg BitVec.toNat same
    simp only [pidBits, BitVec.toNat_ofNat] at numbers
    rw [Nat.mod_eq_of_lt (by omega), Nat.mod_eq_of_lt (by omega)] at numbers
    cases first
    cases second
    simpa using numbers
  · rintro rfl
    rfl

/-- An error number that fits is not 0. -/
theorem errorBits_ne_zero
    {error : Errno}
    (small : error.code < 2147483648) :
    errorBits error ≠ 0 := by
  intro zero
  have code := congrArg BitVec.toNat zero
  have positive := error.code_pos
  simp only [errorBits, BitVec.toNat_ofNat, BitVec.ofNat_eq_ofNat] at code
  rw [Nat.mod_eq_of_lt (by omega)] at code
  simp only [Nat.zero_mod] at code
  omega

/-- A report that is worth an exit with 0. -/
def Report.Good (report : Report) : Prop :=
  report.errorNumber = 0 ∧ report.relationOk ≠ 0

instance (report : Report) : Decidable report.Good := by
  unfold Report.Good
  infer_instance

/-- The relation holds exactly for the child's own process id. -/
theorem relationOk_ne_zero
    {pid created pgid sid : Pid}
    (small : pid.number < 2147483648)
    (createdSmall : created.number < 2147483648)
    (pgidSmall : pgid.number < 2147483648)
    (sidSmall : sid.number < 2147483648) :
    relationOk pid created pgid sid ≠ 0 ↔
      created = pid ∧ pgid = pid ∧ sid = pid := by
  simp only [relationOk, pidBits_inj createdSmall small,
    pidBits_inj pgidSmall small, pidBits_inj sidSmall small]
  split
  next own => exact iff_of_true (by decide) own
  next other => exact iff_of_false (by simp) other

/-- The report that the child has made of its answers. -/
structure Observed
    (setting : Setting)
    (report : Report)
    (reporting : Reporting) : Prop where
  nothing : reporting.written = []
  called : reporting.report setting.child = report
  good : report.Good ↔ Own setting.child reporting

/-- The child observes its session. -/
theorem observe_ensures
    (fresh : reporting = {}) :
    observe.Ensures (monitor setting .child) (Observed setting)
      reporting := by
  subst fresh
  refine .request_bind trivial ?_
  rintro _ rfl
  refine .request_bind rfl ?_
  rintro (error | created) createdSmall
  · refine .pure ⟨rfl, rfl, ?_⟩
    refine iff_of_false (fun good => ?_) (fun own => ?_)
    · exact errorBits_ne_zero createdSmall good.1
    · cases own.created
  refine .request_bind rfl ?_
  rintro (error | pgid) pgidSmall
  · refine .pure ⟨rfl, rfl, ?_⟩
    refine iff_of_false (fun good => ?_) (fun own => ?_)
    · exact errorBits_ne_zero pgidSmall good.1
    · cases own.pgid
  refine .request_bind rfl ?_
  rintro (error | sid) sidSmall
  · refine .pure ⟨rfl, rfl, ?_⟩
    refine iff_of_false (fun good => ?_) (fun own => ?_)
    · exact errorBits_ne_zero sidSmall good.1
    · cases own.sid
  refine .pure ⟨rfl, rfl, ?_⟩
  have relation :=
    relationOk_ne_zero setting.child_small createdSmall pgidSmall sidSmall
  constructor
  · rintro ⟨_, related⟩
    obtain ⟨rfl, rfl, rfl⟩ := relation.mp related
    exact ⟨rfl, rfl, rfl⟩
  · intro own
    refine ⟨rfl, relation.mpr ⟨?_, ?_, ?_⟩⟩
    · simpa [monitor, Reporting.next, setsidBy] using own.created
    · simpa [monitor, Reporting.next, getpgidBy] using own.pgid
    · simpa [monitor, Reporting.next, getsidBy] using own.sid

/-- A write moves some of the report, and nothing else changes. -/
theorem next_write
    (fd : Fd)
    (bytes : List UInt8)
    (answer : Result Nat) :
    reporting.next (.write fd bytes) answer =
      { reporting with
        written :=
          reporting.written ++ bytes.take (answer.toOption.getD 0) } := by
  simp [Reporting.next, setsidBy, getpgidBy, getsidBy, writtenBy]

/-- A close changes nothing. -/
theorem next_close
    (fd : Fd)
    (answer : Result Unit) :
    reporting.next (.close fd) answer = reporting := by
  simp [Reporting.next, setsidBy, getpgidBy, getsidBy, writtenBy]

/-- The loop writes the whole report, or stops before its end. -/
theorem writeAll_ensures
    {report : Report}
    (observed : Observed setting report reporting) :
    (writeAll setting.pipeFds.2 report.encode).Ensures
      (monitor setting .child)
      (fun result after =>
        ∃ written,
          after = { reporting with written := written } ∧
            result.Meets (fun _ => written.length ≠ reportSize)
              (fun _ => written.length = reportSize))
      reporting := by
  refine .iterate
    (fun written current =>
      current = { reporting with written := report.encode.take written }) ?_ ?_
  · rintro written _ rfl
    by_cases unfinished : written < report.encode.length
    · simp only [unfinished, ↓reduceIte]
      have front :
          report.encode.take written ++ report.encode.drop written =
            (reporting.report setting.child).encode := by
        rw [observed.called, List.take_append_drop]
      refine .request_bind front ?_
      intro answer _
      refine .pure ?_
      have short : (report.encode.take written).length ≠ reportSize := by
        rw [List.length_take_of_le (Nat.le_of_lt unfinished),
          ← length_encode report]
        exact Nat.ne_of_lt unfinished
      cases answer with
      | error error =>
          have unchanged :
              (monitor setting .child).next
                  { reporting with written := report.encode.take written }
                  (.write setting.pipeFds.2 (report.encode.drop written))
                  (.error error) =
                { reporting with
                  written := report.encode.take written } := by
            simp [monitor, next_write, Except.toOption]
          rw [unchanged]
          simp only [writeAnswered]
          split
          · rfl
          · exact ⟨_, rfl, short⟩
      | ok count =>
          cases count with
          | zero =>
              refine ⟨report.encode.take written, ?_, short⟩
              simp [monitor, next_write, Except.toOption]
          | succ count =>
              simp only [writeAnswered, LoopStep.Meets, monitor, next_write,
                Except.toOption, Option.getD_some, ← List.take_add]
    · simp only [unfinished, ↓reduceIte]
      refine .pure ⟨_, rfl, ?_⟩
      rw [List.take_of_length_le (Nat.not_lt.mp unfinished)]
      exact length_encode report
  · rw [List.take_zero, ← observed.nothing]

/-- The child exits by what it has observed and written. -/
theorem child_ensures :
    (child setting.pipeFds).Ensures (monitor setting .child)
      (post setting .child) {} := by
  refine .request_bind trivial ?_
  intro _ _
  refine .bind ((observe_ensures rfl).mono ?_)
  intro report observing observed
  refine .bind ((writeAll_ensures observed).mono ?_)
  rintro result _ ⟨written, rfl, met⟩
  refine .request_bind trivial ?_
  intro closed _
  have unchanged :
      (monitor setting .child).next
          { observing with written := written }
          (.close setting.pipeFds.2) closed =
        { observing with written := written } :=
    next_close _ closed
  rw [unchanged]
  have sameOwn :
      Own setting.child { observing with written := written } ↔
        report.Good := by
    rw [observed.good]
    exact ⟨fun own => ⟨own.created, own.pgid, own.sid⟩,
      fun own => ⟨own.created, own.pgid, own.sid⟩⟩
  cases result with
  | error error =>
      refine .request ?_ fun _ _ => trivial
      exact iff_of_false (by decide) fun both => met both.2
  | ok done =>
      refine .request ?_ fun _ _ => trivial
      simp only [monitor, Reporting.Safe, sameOwn]
      split
      next good => exact iff_of_true rfl ⟨good, met⟩
      next bad => exact iff_of_false (by decide) fun both => bad both.1

end Child

section Parent

variable {setting : Setting} {receiving : Receiving}

/-- The answer to a close may be a failure, and nothing else changes. -/
theorem next_parentClose
    (fd : Fd)
    (answer : Result Unit) :
    receiving.next setting (.close fd) answer =
      { receiving with
        writerClosed := receiving.writerClosed || fd = setting.pipeFds.2
        failed := receiving.failed || answer.toOption.isNone } := by
  simp [Receiving.next, readBy, reapedBy, Fails, WaitFails]

/-- Waiting reports the end of the child, or fails for good. -/
theorem waitForChild_ensures
    (writerClosed : receiving.writerClosed = true)
    (notReaped : receiving.reaps = []) :
    (waitForChild setting.child).Ensures (monitor setting .parent)
      (fun result after =>
        result.Meets
          (fun _ =>
            after =
              { receiving with failed := true, waitFailed := true })
          (fun status => after = { receiving with reaps := [status] }))
      receiving := by
  refine retryEintr_ensures (fun current => current = receiving) ?_ rfl
  rintro current rfl
  refine .request ⟨rfl, writerClosed, notReaped⟩ ?_
  intro answer _
  cases answer with
  | error error =>
      constructor
      · rintro rfl
        simp [monitor, Receiving.next, readBy, reapedBy, Fails, WaitFails,
          Except.toOption]
      · intro permanent
        simp [monitor, Receiving.next, readBy, reapedBy, Fails, WaitFails,
          Except.toOption, Result.Meets, permanent]
  | ok status =>
      simp [monitor, Receiving.next, readBy, reapedBy, Fails, WaitFails,
        Except.toOption, Result.Meets, notReaped]

/-- A read adds to what was received, and nothing else but a failure. -/
theorem next_read
    (fd : Fd)
    (size : Nat)
    (answer : Result (List UInt8)) :
    receiving.next setting (.read fd size) answer =
      { receiving with
        received := receiving.received ++ answer.toOption.getD []
        failed :=
          receiving.failed || Fails (.read fd size) answer } := by
  simp [Receiving.next, readBy, reapedBy, WaitFails]

/-- What the parent has when the loop of `read_all` ends. -/
structure ReadEnd
    (start : Receiving)
    (answer : Result Unit × List UInt8)
    (after : Receiving) : Prop where
  same :
    ∃ failed, after = { start with received := answer.2, failed := failed }
  met :
    answer.1.Meets (fun _ => answer.2.length ≠ reportSize)
      (fun _ => answer.2.length = reportSize)

/-- The loop of `read_all` gets exactly as many bytes as the report has. -/
theorem readAll_ensures
    (writerClosed : receiving.writerClosed = true)
    (nothing : receiving.received = [])
    (fd : Fd) :
    (readAll fd reportSize).Ensures (monitor setting .parent)
      (ReadEnd receiving) receiving := by
  refine .iterate
    (fun used current =>
      used.length ≤ reportSize ∧
        current = { receiving with received := used }) ?_ ?_
  · rintro used _ ⟨bounded, rfl⟩
    by_cases unfinished : used.length < reportSize
    · simp only [unfinished, ↓reduceIte]
      refine .request_bind writerClosed ?_
      intro answer allowed
      refine .pure ?_
      have short := Nat.ne_of_lt unfinished
      simp only [monitor, next_read]
      cases answer with
      | error error =>
          simp only [readAnswered]
          split
          next interrupted =>
            simp [LoopStep.Meets, Except.toOption, Fails, interrupted,
              bounded]
          · refine ⟨⟨receiving.failed ||
              Fails (.read fd (reportSize - used.length)) (.error error),
              ?_⟩, short⟩
            simp [Except.toOption]
      | ok bytes =>
          cases bytes with
          | nil =>
              refine ⟨⟨receiving.failed ||
                Fails (.read fd (reportSize - used.length)) (.ok []),
                ?_⟩, short⟩
              simp [Except.toOption]
          | cons byte bytes =>
              simp only [readAnswered, LoopStep.Meets, Fails,
                Except.toOption, Option.getD_some, Bool.or_false,
                and_true, List.length_append]
              have fits : (byte :: bytes).length ≤
                  reportSize - used.length := allowed
              omega
    · simp only [unfinished, ↓reduceIte]
      refine .pure ⟨⟨_, rfl⟩, ?_⟩
      exact Nat.le_antisymm bounded (Nat.not_lt.mp unfinished)
  · exact ⟨Nat.zero_le _, by rw [← nothing]⟩

/-- What releasing a descriptor may change: it can only make things worse. -/
structure Released
    (before : Receiving)
    (result final : Exit)
    (after : Receiving) : Prop where
  received : after.received = before.received
  reaps : after.reaps = before.reaps
  waitFailed : after.waitFailed = before.waitFailed
  writerClosed : before.writerClosed = true → after.writerClosed = true
  verdict : final = .success → result = .success
  fine : after.failed = false → final = result ∧ before.failed = false

/-- Two releases, one after the other. -/
theorem Released.trans
    {first second third : Receiving}
    {result between final : Exit}
    (one : Released first result between second)
    (other : Released second between final third) :
    Released first result final third where
  received := other.received.trans one.received
  reaps := other.reaps.trans one.reaps
  waitFailed := other.waitFailed.trans one.waitFailed
  writerClosed := fun closed => other.writerClosed (one.writerClosed closed)
  verdict := fun success => one.verdict (other.verdict success)
  fine := by
    intro nothing
    obtain ⟨sameFinal, fineBetween⟩ := other.fine nothing
    obtain ⟨sameBetween, fineFirst⟩ := one.fine fineBetween
    exact ⟨sameFinal.trans sameBetween, fineFirst⟩

/-- Releasing a descriptor. -/
theorem release_ensures_released
    (held : Bool)
    (fd : Fd)
    (result : Exit) :
    (release held (Syscall.invoke (.close fd)) none result).Ensures
      (monitor setting .parent)
      (fun final after => Released receiving result final after)
      receiving := by
  apply release_answers
  · exact fun _ =>
      ⟨rfl, rfl, rfl, id, id, fun fine => ⟨rfl, fine⟩⟩
  · intro _
    refine .request trivial ?_
    rintro (error | ⟨⟩) _
    · simp only [monitor, next_parentClose]
      refine ⟨rfl, rfl, rfl, fun closed => ?_, nofun, fun fine => ?_⟩
      · simp [closed]
      · simp [Except.toOption] at fine
    · simp only [monitor, next_parentClose]
      refine ⟨rfl, rfl, rfl, fun closed => ?_, id, fun fine => ⟨rfl, ?_⟩⟩
      · simp [closed]
      · simpa [Except.toOption] using fine

/-- The cleanup of a parent that has reaped its child. -/
theorem cleanup_reaped
    {held : Held}
    (result : Exit)
    (reaped : held.reaped = true) :
    (cleanup held result).Ensures (monitor setting .parent)
      (fun final after => Released receiving result final after)
      receiving := by
  refine .bind ((release_ensures_released _ _ result).mono ?_)
  intro between second one
  refine .bind ((release_ensures_released _ _ between).mono ?_)
  intro final third other
  rw [reaped, Bool.not_true, Bool.and_false]
  exact .pure (one.trans other)

/-- The cleanup of a parent that has failed before it reaped its child. -/
theorem cleanup_unreaped
    {held : Held}
    (same : held.child = some setting.child)
    (notYet : held.reaped = false)
    (writerClosed : receiving.writerClosed = true)
    (notReaped : receiving.reaps = []) :
    (cleanup held .failure).Ensures (monitor setting .parent)
      (fun final after =>
        final ≠ .success ∧
          after.received = receiving.received ∧
          (receiving.failed = true → after.failed = true) ∧
          (after.waitFailed = false → after.reaps.length = 1))
      receiving := by
  refine .bind ((release_ensures_released _ _ .failure).mono ?_)
  intro between second one
  refine .bind ((release_ensures_released _ _ between).mono ?_)
  intro final third other
  have released := one.trans other
  have failing : final ≠ .success := fun success =>
    absurd (released.verdict success) (by decide)
  have closed := released.writerClosed writerClosed
  have reaps := released.reaps.trans notReaped
  have stays : receiving.failed = true → third.failed = true := by
    intro failed
    by_contra fine
    have before := (released.fine ((Bool.not_eq_true _).mp fine)).2
    rw [failed] at before
    cases before
  rw [same, notYet]
  apply release_answers
  · exact nofun
  · intro _
    refine .bind ((waitForChild_ensures closed reaps).mono ?_)
    rintro (error | status) after waited
    · obtain rfl : after =
          { third with failed := true, waitFailed := true } := waited
      exact .pure ⟨nofun, released.received, fun _ => rfl, nofun⟩
    · obtain rfl : after = { third with reaps := [status] } := waited
      exact .pure ⟨failing, released.received, stays, fun _ => rfl⟩

/-- A failure that has not reaped the child yet. -/
theorem failed_unreaped
    {held : Held}
    (same : held.child = some setting.child)
    (notYet : held.reaped = false)
    (writerClosed : receiving.writerClosed = true)
    (notReaped : receiving.reaps = [])
    (cause :
      receiving.failed = true ∨
        receiving.received.length ≠ reportSize) :
    (cleanup held .failure).Ensures (monitor setting .parent)
      (Returned setting) receiving := by
  refine
    (cleanup_unreaped same notYet writerClosed notReaped).mono ?_
  rintro final after ⟨failing, received, stays, reaped⟩
  refine ⟨fun success => (failing success).elim, ?_, reaped⟩
  intro fine verified
  rcases cause with failed | short
  · rw [stays failed] at fine
    cases fine
  · rw [← received] at short
    exact (short verified.complete).elim

/-- What the parent makes of a complete report and the end of the child. -/
theorem verdict_ensures
    {held : Held}
    {bytes : List UInt8}
    {result : Exit}
    (status : WaitStatus)
    (reaped : held.reaped = true)
    (received : receiving.received = bytes)
    (reaps : receiving.reaps = [status])
    (complete : bytes.length = reportSize)
    (decides :
      result = .success ↔
        (Report.decode bytes).errorNumber = 0 ∧
          (Report.decode bytes).Consistent setting.child ∧
          status = .exited 0) :
    (cleanup held result).Ensures (monitor setting .parent)
      (Returned setting) receiving := by
  refine (cleanup_reaped result reaped).mono ?_
  intro final after released
  have sameReceived := released.received.trans received
  have sameReaps := released.reaps.trans reaps
  refine ⟨?_, ?_, ?_⟩
  · intro success
    obtain ⟨noError, consistent, rfl⟩ :=
      decides.mp (released.verdict success)
    refine ⟨?_, ?_, ?_, sameReaps⟩
    · rw [sameReceived]
      exact complete
    · rw [sameReceived]
      exact noError
    · rw [sameReceived]
      exact consistent
  · intro fine verified
    have noError := verified.noError
    have consistent := verified.consistent
    have exited := verified.exited
    rw [sameReceived] at noError consistent
    rw [sameReaps, List.cons.injEq] at exited
    rw [(released.fine fine).1]
    exact decides.mpr ⟨noError, consistent, exited.1⟩
  · intro _
    rw [sameReaps, List.length_singleton]

/-- The exit status of `main` follows that of the child. -/
theorem exit_eq_success {status : WaitStatus} :
    (if status.succeeded then Exit.success else .failure) = .success ↔
      status = .exited 0 := by
  by_cases exited : status = .exited 0
  · subst exited
    exact iff_of_true rfl rfl
  · have unsuccessful : status.succeeded = false := beq_false_of_ne exited
    rw [unsuccessful]
    exact iff_of_false nofun exited

/-- The parent once the report has been read, or has not. -/
theorem afterRead_ensures
    {held : Held}
    {answer : Result Unit × List UInt8}
    (same : held.child = some setting.child)
    (notYet : held.reaped = false)
    (writerClosed : receiving.writerClosed = true)
    (notReaped : receiving.reaps = [])
    (received : receiving.received = answer.2)
    (met :
      answer.1.Meets (fun _ => answer.2.length ≠ reportSize)
        (fun _ => answer.2.length = reportSize)) :
    (afterRead held setting.child answer).Ensures (monitor setting .parent)
      (Returned setting) receiving := by
  obtain ⟨error | ⟨⟩, bytes⟩ := answer
  · exact failed_unreaped same notYet writerClosed notReaped
      (.inr (by rw [received]; exact met))
  refine .request_bind trivial ?_
  intro closed _
  have told :
      (monitor setting .parent).next receiving (.close held.pipeFds.1)
          closed =
        { receiving with
          writerClosed :=
            receiving.writerClosed ||
              held.pipeFds.1 = setting.pipeFds.2
          failed := receiving.failed || closed.toOption.isNone } :=
    next_parentClose _ closed
  have stillClosed :
      (receiving.writerClosed ||
        decide (held.pipeFds.1 = setting.pipeFds.2)) = true := by
    rw [writerClosed, Bool.true_or]
  rw [told]
  rcases closed with error | ⟨⟩
  · refine failed_unreaped same notYet stillClosed notReaped (.inl ?_)
    simp [Except.toOption]
  refine .bind (Program.Ensures.mono (waitForChild_ensures ?_ ?_) ?_)
  · exact stillClosed
  · exact notReaped
  rintro (error | status) after waited
  · obtain rfl : after = _ := waited
    refine failed_unreaped same notYet ?_ ?_ (.inl rfl)
    · exact stillClosed
    · exact notReaped
  obtain rfl : after = _ := waited
  dsimp only
  split
  next someError =>
    refine verdict_ensures status rfl received ?_ met ?_
    · rfl
    · exact iff_of_false nofun fun all => someError all.1
  next noError =>
    split
    next consistent =>
      refine verdict_ensures status rfl received ?_ met ?_
      · rfl
      · rw [exit_eq_success]
        constructor
        · exact fun exited => ⟨not_not.mp noError, consistent, exited⟩
        · exact fun all => all.2.2
    next inconsistent =>
      refine verdict_ensures status rfl received ?_ met ?_
      · rfl
      · exact iff_of_false nofun fun all => inconsistent all.2.1

/-- The parent keeps its side. -/
theorem parent_ensures :
    (parent setting.pipeFds setting.child).Ensures (monitor setting .parent)
      (post setting .parent) {} := by
  refine .request_bind trivial ?_
  intro closed _
  have told :
      (monitor setting .parent).next {} (.close setting.pipeFds.2) closed =
        { ({} : Receiving) with
          writerClosed := true
          failed := closed.toOption.isNone } := by
    refine (next_parentClose _ closed).trans ?_
    simp
  rw [told]
  rcases closed with error | ⟨⟩
  · exact failed_unreaped rfl rfl rfl rfl (.inl rfl)
  refine .bind ((readAll_ensures rfl rfl _).mono ?_)
  rintro answer _ ⟨⟨failed, rfl⟩, met⟩
  refine afterRead_ensures rfl rfl ?_ ?_ ?_ ?_
  · rfl
  · rfl
  · rfl
  · exact met

end Parent

/-- What the kernel and the two monitors know together. -/
structure Joint
    (setting : Setting)
    (kernel : Kernel)
    (watch : (role : Role) → Watch role) : Prop where
  contents :
    (watch .parent).received ++ kernel.pipe = (watch .child).written
  front :
    (watch .child).written <+:
      ((watch .child).report setting.child).encode
  reaped :
    ∀ status ∈ (watch .parent).reaps, kernel.life = .ended status
  atMost : (watch .parent).reaps.length ≤ 1
  exited :
    ∀ status,
      kernel.life = .ended (.exited status) →
      (status = 0 ↔
        Own setting.child (watch .child) ∧
          (watch .child).written.length = reportSize)

section Kernel

variable {setting : Setting} {kernel : Kernel}
  {watch : (role : Role) → Watch role}

/-- What the parent receives is taken out of the pipe, and nothing else. -/
theorem Joint.parentTold
    (joint : Joint setting kernel watch)
    {after : Kernel}
    {told : Receiving}
    (contents :
      told.received ++ after.pipe = (watch .parent).received ++ kernel.pipe)
    (life : after.life = kernel.life)
    (reaped : ∀ status ∈ told.reaps, kernel.life = .ended status)
    (atMost : told.reaps.length ≤ 1) :
    Joint setting after (Function.update watch .parent told) where
  contents := by
    rw [Function.update_self, Function.update_of_ne (by decide), contents]
    exact joint.contents
  front := by
    rw [Function.update_of_ne (by decide)]
    exact joint.front
  reaped := by
    rw [Function.update_self, life]
    exact reaped
  atMost := by
    rw [Function.update_self]
    exact atMost
  exited := by
    rw [Function.update_of_ne (by decide), life]
    exact joint.exited

/-- What the child does while it runs keeps the parent's account. -/
theorem Joint.childTold
    (joint : Joint setting kernel watch)
    (running : kernel.life = .running)
    {after : Kernel}
    {told : Reporting}
    (contents : (watch .parent).received ++ after.pipe = told.written)
    (front : told.written <+: (told.report setting.child).encode)
    (life : after.life = .running) :
    Joint setting after (Function.update watch .child told) where
  contents := by
    rw [Function.update_self, Function.update_of_ne (by decide)]
    exact contents
  front := by
    rw [Function.update_self]
    exact front
  reaped := by
    rw [Function.update_of_ne (by decide)]
    intro status reaped
    have ended := joint.reaped status reaped
    rw [running] at ended
    cases ended
  atMost := by
    rw [Function.update_of_ne (by decide)]
    exact joint.atMost
  exited := by
    rw [life]
    exact nofun

/-- What the child observes before it has written anything. -/
theorem Joint.observed
    (joint : Joint setting kernel watch)
    (running : kernel.life = .running)
    {told : Reporting}
    (nothing : (watch .child).written = [])
    (same : told.written = (watch .child).written) :
    Joint setting kernel (Function.update watch .child told) := by
  refine joint.childTold running ?_ ?_ running
  · rw [same]
    exact joint.contents
  · rw [same, nothing]
    exact List.nil_prefix

/-- A child that ends has exited with 0 only if its report is its own. -/
theorem Joint.childEnded
    (joint : Joint setting kernel watch)
    (running : kernel.life = .running)
    {status : WaitStatus}
    {told : Reporting}
    (written : told.written = (watch .child).written)
    (report :
      told.report setting.child = (watch .child).report setting.child)
    (exitsWith :
      ∀ code,
        status = .exited code →
        (code = 0 ↔
          Own setting.child told ∧ told.written.length = reportSize)) :
    Joint setting (kernel.ended status)
      (Function.update watch .child told) where
  contents := by
    rw [Function.update_self, Function.update_of_ne (by decide), written]
    exact joint.contents
  front := by
    rw [Function.update_self, written, report]
    exact joint.front
  reaped := by
    rw [Function.update_of_ne (by decide)]
    intro reported reaped
    have ended := joint.reaped reported reaped
    rw [running] at ended
    cases ended
  atMost := by
    rw [Function.update_of_ne (by decide)]
    exact joint.atMost
  exited := by
    rw [Function.update_self]
    intro code ended
    exact exitsWith code (ChildLife.ended.inj ended)

/-- Calls that move no bytes and reap nobody leave the account as it is. -/
theorem Joint.parentUntold
    (joint : Joint setting kernel watch)
    {after : Kernel}
    {told : Receiving}
    (received : told.received = (watch .parent).received)
    (reaps : told.reaps = (watch .parent).reaps)
    (pipe : after.pipe = kernel.pipe)
    (life : after.life = kernel.life) :
    Joint setting after (Function.update watch .parent told) := by
  refine joint.parentTold ?_ life ?_ ?_
  · rw [received, pipe]
  · rw [reaps]
    exact joint.reaped
  · rw [reaps]
    exact joint.atMost

/-- An answer is allowed and keeps the account. -/
theorem Joint.answered
    (joint : Joint setting kernel watch)
    {role : Role}
    {request : Syscall}
    {answer : Answer request}
    {after : Kernel}
    (safe : (monitor setting role).safe (watch role) request)
    (given : (rules setting).answers kernel role request answer after) :
    (monitor setting role).allows (watch role) request answer ∧
      Joint setting after
        (Function.update watch role
          ((monitor setting role).next (watch role) request answer)) := by
  cases given with
  | close answer =>
      exact ⟨trivial, joint.parentUntold (List.append_nil _)
        (List.append_nil _) rfl rfl⟩
  | readFailed error =>
      exact ⟨Nat.zero_le _, joint.parentUntold (List.append_nil _)
        (List.append_nil _) rfl rfl⟩
  | @read size bytes rest front some ended =>
      refine ⟨some, ?_⟩
      simp only [monitor, next_read]
      refine joint.parentTold ?_ rfl joint.reaped joint.atMost
      rw [front, ← List.append_assoc]
      rfl
  | waitFailed error =>
      exact ⟨trivial, joint.parentUntold (List.append_nil _)
        (List.append_nil _) rfl rfl⟩
  | @wait status ended notReaped =>
      have told :
          (watch .parent).next setting (.waitpid setting.child)
              (.ok status) =
            { watch .parent with reaps := [status] } := by
        simp [Receiving.next, readBy, reapedBy, Fails, WaitFails,
          Except.toOption, safe.2.2]
      refine ⟨trivial, ?_⟩
      simp only [monitor, told]
      refine joint.parentTold rfl rfl ?_ (Nat.le_refl 1)
      intro reported member
      obtain rfl : reported = status := List.mem_singleton.mp member
      exact ended
  | childClose running answer =>
      refine ⟨trivial, ?_⟩
      simp only [monitor, next_close]
      exact joint.childTold running joint.contents joint.front running
  | getpid running =>
      have unchanged :
          (watch .child).next .getpid setting.child = watch .child := by
        simp [Reporting.next, setsidBy, getpgidBy, getsidBy, writtenBy]
      refine ⟨rfl, ?_⟩
      simp only [monitor, unchanged]
      exact joint.childTold running joint.contents joint.front running
  | setsid running small =>
      exact ⟨small, joint.observed running safe (List.append_nil _)⟩
  | getpgid running small =>
      exact ⟨small, joint.observed running safe (List.append_nil _)⟩
  | getsid running small =>
      exact ⟨small, joint.observed running safe (List.append_nil _)⟩
  | @writeFailed fd bytes running error =>
      have unchanged :
          (watch .child).next (.write fd bytes) (.error error) =
            watch .child := by
        simp [next_write, Except.toOption]
      refine ⟨Nat.zero_le _, ?_⟩
      simp only [monitor, unchanged]
      exact joint.childTold running joint.contents joint.front running
  | @write bytes count running isOpen some room =>
      refine ⟨some, ?_⟩
      simp only [monitor, next_write]
      refine joint.childTold running ?_ ?_ running
      · rw [← List.append_assoc, joint.contents]
        rfl
      · have whole : (watch .child).written ++ bytes =
            ((watch .child).report setting.child).encode := safe
        refine ⟨bytes.drop count, ?_⟩
        simp only [Except.toOption, Option.getD_some]
        rw [List.append_assoc, List.take_append_drop]
        exact whole
  | @exit status running =>
      have unchanged :
          (watch .child).next (.exit status) () = watch .child := by
        simp [Reporting.next, setsidBy, getpgidBy, getsidBy, writtenBy]
      refine ⟨trivial, ?_⟩
      simp only [monitor, unchanged]
      refine joint.childEnded running rfl rfl ?_
      rintro code ⟨⟩
      exact safe

/-- The child may be killed at any moment. -/
theorem Joint.evolved
    (joint : Joint setting kernel watch)
    {after : Kernel}
    (evolved : (rules setting).evolves kernel after) :
    Joint setting after watch := by
  cases evolved with
  | childKilled signal running =>
      have ended :
          Joint setting (kernel.ended (.signaled signal))
            (Function.update watch .child (watch .child)) :=
        joint.childEnded running rfl rfl nofun
      rwa [Function.update_eq_self] at ended

/-- The contract of the two processes. -/
abbrev Contract (setting : Setting) (state : State) : Prop :=
  Composed (monitor setting) watchStart (Joint setting) (post setting)
    state

/-- The contract holds at `fork`. -/
theorem Contract.start (fuel : Nat) :
    Contract setting (ProcessGroups.start setting fuel) := by
  apply Composed.start
  · exact ⟨rfl, List.nil_prefix, nofun, Nat.zero_le 1, nofun⟩
  · intro role
    cases role with
    | parent => exact parent_ensures fuel
    | child => exact child_ensures fuel

/-- The contract holds of every state that is reached. -/
theorem Contract.reaches
    {fuel : Nat}
    {state : State}
    (reaches :
      Reaches (rules setting) (ProcessGroups.start setting fuel) state) :
    Contract setting state := by
  refine Composed.reaches ?_ ?_ (Contract.start fuel) reaches
  · intro kernel watch role request answer after joint safe given
    exact joint.answered safe given
  · intro kernel watch after joint evolved
    exact joint.evolved evolved

/-- What each process was answered is what its monitor allows. -/
theorem Contract.legal
    {fuel : Nat}
    {state : State}
    (reaches :
      Reaches (rules setting) (ProcessGroups.start setting fuel) state)
    (role : Role) :
    (monitor setting role).Legal (watchStart role) (state.events role) := by
  refine Composed.legal ?_ ?_ (Contract.start fuel) reaches role
  · intro kernel watch role request answer after joint safe given
    exact joint.answered safe given
  · intro kernel watch after joint evolved
    exact joint.evolved evolved

end Kernel

end AdvanceUnix.ProcessGroups
