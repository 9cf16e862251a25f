import AdvanceUnix.AioLifecycle

namespace AdvanceUnix.PosixAio

open CallTree

/-!
# The error that `cancel_and_reap` reports

A log collects what fails while a request is cancelled and reaped, in order.
`cancel_and_reap` returns 0 when the log stays empty, and otherwise -1 with
the first error of the log.
-/

/-- What has failed so far, and the last status that was reported. -/
structure FailureLog where
  errors : List Errno
  status : Nat

namespace FailureLog

/-- Nothing has failed. -/
def empty : FailureLog where
  errors := []
  status := 0

/-- Log an error. -/
def add (log : FailureLog) (error : Errno) : FailureLog :=
  { log with errors := log.errors ++ [error] }

/--
Log one answered call.  An interrupted `aio_suspend` is no failure, and a
failed `aio_return` is one only when the final status was 0.
-/
def enter (log : FailureLog) : (call : Syscall) → Answer call → FailureLog
  | .aioError, .error error => log.add error
  | .aioError, .ok status => { log with status := status }
  | .aioCancel _, .error error => log.add error
  | .aioSuspend, .error error =>
      if error = .eintr then log else log.add error
  | .aioReturn, .error left =>
      if log.status = 0 then log.add (left.getD .eio) else log
  | _, _ => log

end FailureLog

/-- The monitor that keeps the log. -/
abbrev logMonitor : Monitor Answer FailureLog :=
  .observe FailureLog.enter

/-- The failures of a run, in order. -/
def failures (events : Events) : List Errno :=
  (logMonitor.after .empty events).errors

/-- The first failure stays first. -/
theorem head_add
    (log : FailureLog)
    (error : Errno) :
    (log.add error).errors.head? = log.errors.head?.or (some error) := by
  simp [FailureLog.add, List.head?_append]

/-- What waiting adds to the log: its error if it fails, else nothing. -/
def WaitLogged
    (log : FailureLog)
    (result : Result Nat)
    (after : FailureLog) : Prop :=
  Result.Meets (fun error => after.errors = (log.add error).errors)
    (fun status => after.errors = log.errors ∧ after.status = status)
    result

/-- One iteration of the waiting loop logs what it fails with. -/
theorem waitStep_logged (log before : FailureLog)
    (sameErrors : before.errors = log.errors) :
    waitStep.Ensures logMonitor
      (LoopStep.Meets (fun _ after => after.errors = log.errors)
        (WaitLogged log))
      before := by
  have suspended :
      ∀ current : FailureLog,
        current.errors = log.errors →
        (retryEintr aioSuspend).Ensures logMonitor
          (fun answer after =>
            Result.Meets
              (fun error => after.errors = (log.add error).errors)
              (fun _ => after.errors = log.errors) answer)
          current := by
    intro current same
    refine retryEintr_ensures (fun now => now.errors = log.errors) ?_ same
    intro now same
    refine .request trivial ?_
    intro answer _
    cases answer with
    | error error =>
        refine ⟨?_, ?_⟩
        · rintro rfl
          exact same
        · intro permanent
          have entered :
              logMonitor.next now .aioSuspend (.error error) =
                now.add error :=
            if_neg permanent
          rw [entered]
          exact congrArg (· ++ [error]) same
    | ok done => exact same
  refine .request_bind trivial ?_
  intro answer _
  cases answer with
  | error error => exact .pure (congrArg (· ++ [error]) sameErrors)
  | ok status =>
      dsimp only
      split
      · exact .pure ⟨sameErrors, rfl⟩
      · refine .bind ((suspended (before.enter .aioError (.ok status))
          sameErrors).mono ?_)
        intro answer after logged
        cases answer with
        | error error => exact .pure logged
        | ok done => exact .pure logged

/-- `wait_until_complete` logs one failure exactly when it fails with it. -/
theorem waitUntilComplete_logged (log : FailureLog) :
    waitUntilComplete.Ensures logMonitor (WaitLogged log) log :=
  .iterate (fun _ after => after.errors = log.errors)
    (fun _ before same => waitStep_logged log before same) rfl

/-- `first_error` is the first failure in the log. -/
def FirstLogged
    (firstError : Option Errno)
    (log : FailureLog) : Prop :=
  firstError = log.errors.head?

/-- Cancelling starts the log. -/
theorem cancelPending_logged (fd : Fd) :
    (cancelPending fd).Ensures logMonitor FirstLogged .empty := by
  refine .request_bind trivial ?_
  intro answer _
  cases answer with
  | error error => exact .pure rfl
  | ok status =>
      dsimp only
      split
      · refine .request_bind trivial ?_
        intro cancelled _
        cases cancelled with
        | error error => exact .pure rfl
        | ok done => exact .pure rfl
      · exact .pure rfl

/-- A failed `aio_return` is logged where the final status was 0. -/
theorem enter_aioReturn
    (log : FailureLog)
    (left : Option Errno) :
    log.enter .aioReturn (.error left) =
      if log.status = 0 then log.add (left.getD .eio) else log :=
  rfl

/-- Waiting and reaping keep the first failure first. -/
theorem reap_logged
    {firstError : Option Errno}
    {log : FailureLog}
    (first : FirstLogged firstError log) :
    (reap firstError).Ensures logMonitor FirstLogged log := by
  refine .bind ((waitUntilComplete_logged log).mono ?_)
  intro result after logged
  cases result with
  | error error =>
      refine .pure ?_
      have same : after.errors = (log.add error).errors := logged
      rw [FirstLogged, same, head_add, first]
  | ok status =>
      obtain ⟨sameErrors, finalStatus⟩ := logged
      have still : FirstLogged firstError after := by
        rw [FirstLogged, sameErrors]
        exact first
      refine .request_bind trivial ?_
      intro answer _
      cases answer with
      | ok received => exact .pure still
      | error left =>
          change Program.Ensures _ _ _ (after.enter .aioReturn (.error left))
          rw [enter_aioReturn, finalStatus]
          dsimp only
          split
          · refine .pure ?_
            rw [FirstLogged, head_add, ← still]
          · exact .pure still

/-- `cancel_and_reap` returns the first failure of its log. -/
theorem cancelAndReap_logged (fd : Fd) :
    (cancelAndReap fd).Ensures logMonitor
      (fun result log =>
        (result = .ok () ↔ log.errors = []) ∧
          ∀ error,
            result = .error error ↔ log.errors.head? = some error)
      .empty := by
  refine .bind ((cancelPending_logged fd).mono ?_)
  intro firstError log first
  refine .bind ((reap_logged first).mono ?_)
  intro final after logged
  cases final with
  | none =>
      have nothing : after.errors = [] :=
        List.head?_eq_none_iff.mp logged.symm
      refine .pure ⟨iff_of_true rfl nothing, fun error => ?_⟩
      rw [nothing]
      exact iff_of_false nofun nofun
  | some error =>
      have headed : after.errors.head? = some error := logged.symm
      refine .pure ⟨iff_of_false nofun ?_, fun other => ?_⟩
      · intro nothing
        rw [nothing] at headed
        cases headed
      · rw [headed]
        constructor
        · rintro ⟨⟩
          rfl
        · rintro ⟨⟩
          rfl

/--
The life cycle of the request.  In every run of `main` the request is reaped
at most once, after a query that reported its end.  With a dependable kernel
every ended run that submitted the request has reaped it exactly once, before
any close.  `cancel_and_reap` returns 0 exactly when nothing failed, and
otherwise the error of the earliest failure, where `wait_until_complete` counts
as one failure.
-/
theorem aio_life_cycle
    {events : Events} :
    (∀ outcome,
      main.Run events outcome →
      (requestMonitor False).Legal .none events →
      LifeCycle events) ∧
      (∀ exit,
        main.Run events (some exit) →
        (requestMonitor True).Legal .none events →
        Submitted events →
        returns events = 1 ∧
          ∀ before fd answer later,
            events = before ++ ⟨.close fd, answer⟩ :: later →
            returns before = 1) ∧
      (∀ fd result,
        (cancelAndReap fd).Run events (some result) →
        (result = .ok () ↔ failures events = []) ∧
          ∀ error,
            result = .error error ↔
              (failures events).head? = some error) ∧
      ∀ result,
        waitUntilComplete.Run events (some result) →
        Result.Meets (fun error => failures events = [error])
          (fun _ => failures events = []) result := by
  refine ⟨?_, ?_, ?_, ?_⟩
  · intro outcome run legal
    exact .of_safe (main_ensures.sound run legal).1
  · intro exit run legal submitted
    obtain ⟨safe, ended⟩ := main_ensures.sound run legal
    refine ⟨?_, ?_⟩
    · have reaped := ended exit rfl trivial (after_submitted submitted)
      rw [after_returned] at reaped
      simpa [Request.none] using reaped
    · rintro before fd answer later rfl
      exact returns_before_close safe submitted
  · intro fd result run
    exact (cancelAndReap_logged fd).observed run
  · intro result run
    have logged := (waitUntilComplete_logged .empty).observed run
    cases result with
    | error error => exact logged
    | ok status => exact logged.1

/-- A run whose status is an error: it is reaped by the cleanup. -/
def failedRead : Events :=
  [⟨.mkstemp, .ok (3, "./lab")⟩, ⟨.unlink "./lab", .ok ()⟩,
    ⟨.write 3 payload, .ok 28⟩, ⟨.aioRead 3, .ok ()⟩,
    ⟨.aioError, .ok einprogress⟩, ⟨.aioSuspend, .error .eintr⟩,
    ⟨.aioSuspend, .ok ()⟩, ⟨.aioError, .ok 5⟩,
    ⟨.aioError, .ok 5⟩, ⟨.aioError, .ok 5⟩,
    ⟨.aioReturn, .error (some .eio)⟩, ⟨.close 3, .ok ()⟩]

/-- It is a run of `main`. -/
theorem failedRead_run :
    main.Run failedRead (some .failure) :=
  ⟨2, .call _ (.call _ (.call _ (.call _ (.call _ (.call _ (.call _ (.call _
    (.call _ (.call _ (.call _ (.call _ (.ret _))))))))))))⟩

/-- Its status stays, and nothing else in it depends on the kernel. -/
theorem failedRead_legal :
    (requestMonitor True).Legal .none failedRead :=
  ⟨trivial, trivial, trivial, trivial, nofun, fun _ => rfl, trivial, nofun,
    fun _ => Option.some.inj, fun _ => Option.some.inj, trivial, trivial,
    trivial⟩

/-- The life cycle of a request whose status is an error. -/
theorem aio_life_cycle_failedRead :
    returns failedRead = 1 :=
  (aio_life_cycle.2.1 .failure failedRead_run failedRead_legal
    ⟨3, by simp [failedRead]⟩).1

end AdvanceUnix.PosixAio
