import AdvanceUnix.SessionProtocol

namespace AdvanceUnix.ProcessGroups

open CallTree ChildProcess Processes
open FdPassing.Handover (ChildLife)

/-!
# What the report means

The contract of parent and child, read off in every state that they reach: the
child's exit status and the parent's result say the same of the session.
-/

variable {setting : Setting} {state : State}

/-- What a process has been answered. -/
abbrev Events := List (Event Answer)

/-- All three calls succeeded and gave one process id. -/
structure OwnSession (child : Pid) (events : Events) : Prop where
  created : events.flatMap setsidBy = [.ok child]
  pgid : events.flatMap getpgidBy = [.ok child]
  sid : events.flatMap getsidBy = [.ok child]

/-- The complete report of a session of its own arrived, and an exit with 0. -/
structure Agreed (setting : Setting) (state : State) : Prop where
  complete :
    ((state.events .parent).flatMap readBy).length = reportSize
  own : OwnSession setting.child (state.events .child)
  exited : state.kernel.life = .ended (.exited 0)

/-- The report in a state that was reached. -/
structure ReportAgreement (setting : Setting) (state : State) : Prop where
  afterFork :
    ∀ fuel events,
      (main fuel).Run events (some .success) →
      ∃ pipeFds child rest,
        events = ⟨.pipe, .ok pipeFds⟩ :: ⟨.fork, .ok child⟩ :: rest ∧
          (parent pipeFds child fuel).Run rest (some .success)
  exits :
    ∀ status,
      state.kernel.life = .ended (.exited status) →
      (status = 0 ↔
        OwnSession setting.child (state.events .child) ∧
          ((state.events .child).flatMap writtenBy).length = reportSize)
  neverInterpreted :
    ∀ closed middle later answer,
      state.events .parent =
        ⟨.close setting.pipeFds.2, closed⟩ :: (middle ++ later) →
      (readAll setting.pipeFds.1 reportSize).Run middle (some answer) →
      (middle.flatMap readBy).length < reportSize →
      ∀ held,
        afterRead held setting.child answer = cleanup held .failure
  success :
    state.rest .parent = .ret .success → Agreed setting state
  succeeds :
    ∀ result,
      state.rest .parent = .ret result →
      Agreed setting state →
      (∀ event ∈ state.events .parent,
        Fails event.call event.answer = false) →
      result = .success
  reapedOnce :
    ∀ result,
      state.rest .parent = .ret result →
      (∀ event ∈ state.events .parent,
        WaitFails event.call event.answer = false) →
      ((state.events .parent).flatMap reapedBy).length = 1
  reapedAtMostOnce :
    ((state.events .parent).flatMap reapedBy).length ≤ 1
  closesFirst :
    ∀ before event later,
      state.events .parent = before ++ event :: later →
      ((∃ fd size, event.call = .read fd size) ∨
        ∃ child, event.call = .waitpid child) →
      ∃ closing ∈ before, closing.call = .close setting.pipeFds.2

section Watched

variable (setting) (events : Events)

/-- What the parent's monitor has counted as received. -/
theorem received_after :
    ((monitor setting .parent).after (watchStart .parent) events).received =
      events.flatMap readBy :=
  (monitor setting .parent).collected Receiving.received readBy rfl _ events

/-- What the parent's monitor has counted as reaped. -/
theorem reaps_after :
    ((monitor setting .parent).after (watchStart .parent) events).reaps =
      events.flatMap reapedBy :=
  (monitor setting .parent).collected Receiving.reaps reapedBy rfl _ events

/-- What the child's monitor has counted as written. -/
theorem written_after :
    ((monitor setting .child).after (watchStart .child) events).written =
      events.flatMap writtenBy :=
  (monitor setting .child).collected Reporting.written writtenBy rfl _ events

/-- The child's monitor has its answers on record. -/
theorem own_after :
    Own setting.child
        ((monitor setting .child).after (watchStart .child) events) ↔
      OwnSession setting.child events := by
  have created :=
    (monitor setting .child).collected Reporting.created setsidBy rfl
      (watchStart .child) events
  have pgid :=
    (monitor setting .child).collected Reporting.pgid getpgidBy rfl
      (watchStart .child) events
  have sid :=
    (monitor setting .child).collected Reporting.sid getsidBy rfl
      (watchStart .child) events
  constructor
  · exact fun own =>
      ⟨created.symm.trans own.created, pgid.symm.trans own.pgid,
        sid.symm.trans own.sid⟩
  · exact fun own =>
      ⟨created.trans own.created, pgid.trans own.pgid, sid.trans own.sid⟩

variable {setting events}

/-- Where no call fails no failure is on the record. -/
theorem failed_after
    (nothing : ∀ event ∈ events, Fails event.call event.answer = false) :
    ((monitor setting .parent).after (watchStart .parent) events).failed =
      false :=
  (monitor setting .parent).unraised Receiving.failed
    (fun event => Fails event.call event.answer) rfl rfl nothing

/-- Where no wait fails for good no such failure is on the record. -/
theorem waitFailed_after
    (nothing :
      ∀ event ∈ events, WaitFails event.call event.answer = false) :
    ((monitor setting .parent).after (watchStart .parent)
      events).waitFailed = false :=
  (monitor setting .parent).unraised Receiving.waitFailed
    (fun event => WaitFails event.call event.answer) rfl rfl nothing

/-- A write end on the record as closed has been closed. -/
theorem closing_of_after
    (closed :
      ((monitor setting .parent).after (watchStart .parent)
        events).writerClosed = true) :
    ∃ closing ∈ events, closing.call = .close setting.pipeFds.2 := by
  rcases (monitor setting .parent).raised
    (fun watched => watched.writerClosed = true)
    (fun event => event.call = .close setting.pipeFds.2)
    (fun after =>
      ((Bool.or_eq_true _ _).mp after).imp_right of_decide_eq_true)
    closed with already | found
  · cases already
  · exact found

end Watched

/-- A good report says so, once it is read from memory. -/
theorem good_of_own
    {reporting : Reporting}
    (own : Own setting.child reporting) :
    (reporting.report setting.child).errorNumber = 0 ∧
      (reporting.report setting.child).Consistent setting.child := by
  obtain ⟨created, pgid, sid⟩ := own
  simp [Reporting.report, created, pgid, sid, Report.Consistent,
    Report.initial, relationOk]

/-- What has arrived of a complete report is that report. -/
theorem Contract.arrived
    (contract : Contract setting state)
    (complete :
      ((state.events .parent).flatMap readBy).length = reportSize) :
    Report.decode ((state.events .parent).flatMap readBy) =
      (watched (monitor setting) watchStart state.events
        .child).report setting.child := by
  have joint := contract.holds
  have received :
      (watched (monitor setting) watchStart state.events
        .parent).received = (state.events .parent).flatMap readBy :=
    received_after setting _
  have arrived :
      (state.events .parent).flatMap readBy <+:
        ((watched (monitor setting) watchStart state.events
          .child).report setting.child).encode := by
    refine List.IsPrefix.trans ⟨state.kernel.pipe, ?_⟩ joint.front
    rw [← received]
    exact joint.contents
  rw [arrived.eq_of_length (complete.trans (length_encode _).symm),
    decode_encode]

/-- A success means the same on both sides. -/
theorem Contract.success
    (contract : Contract setting state)
    (position : state.rest .parent = .ret .success) :
    Agreed setting state := by
  have joint := contract.holds
  have returned : Returned setting .success _ := contract.returned position
  have verified := returned.verified rfl
  have ended := joint.reaped (.exited 0) (by rw [verified.exited]; simp)
  refine ⟨?_, ?_, ended⟩
  · rw [← received_after setting]
    exact verified.complete
  · exact (own_after setting _).mp ((joint.exited 0 ended).mp rfl).1

/-- An agreement is a success if nothing the parent does fails. -/
theorem Contract.succeeds
    (contract : Contract setting state)
    {result : Exit}
    (position : state.rest .parent = .ret result)
    (agreed : Agreed setting state)
    (nothing :
      ∀ event ∈ state.events .parent,
        Fails event.call event.answer = false) :
    result = .success := by
  have joint := contract.holds
  have returned : Returned setting result _ := contract.returned position
  have waitsWell : ∀ event ∈ state.events .parent,
      WaitFails event.call event.answer = false := by
    rintro ⟨request, answer⟩ member
    cases request with
    | waitpid child => exact nothing _ member
    | _ => rfl
  have once := returned.reaped (waitFailed_after waitsWell)
  obtain ⟨status, reaps⟩ := List.length_eq_one_iff.mp once
  have ended := joint.reaped status (by rw [reaps]; simp)
  rw [agreed.exited] at ended
  obtain rfl : status = .exited 0 := (ChildLife.ended.inj ended).symm
  obtain ⟨noError, consistent⟩ :=
    good_of_own ((own_after setting _).mpr agreed.own)
  have received := received_after setting (state.events .parent)
  have arrived := contract.arrived agreed.complete
  rw [← received] at arrived
  refine returned.succeeds (failed_after nothing) ⟨?_, ?_, ?_, reaps⟩
  · exact (congrArg List.length received).trans agreed.complete
  · exact (congrArg Report.errorNumber arrived).trans noError
  · exact arrived.symm ▸ consistent

/-- A report that has not arrived completely is not looked at. -/
theorem neverInterpreted_of_legal
    {closed : Result Unit}
    {middle later : Events}
    {answer : Result Unit × List UInt8}
    (legal :
      (monitor setting .parent).Legal {}
        (⟨.close setting.pipeFds.2, closed⟩ :: (middle ++ later)))
    (reads :
      (readAll setting.pipeFds.1 reportSize).Run middle (some answer))
    (short : (middle.flatMap readBy).length < reportSize)
    (held : Held) :
    afterRead held setting.child answer = cleanup held .failure := by
  obtain ⟨middleLegal, _⟩ :=
    (monitor setting .parent).legal_append.mp legal.2
  have told :
      (monitor setting .parent).next {} (.close setting.pipeFds.2) closed =
        { ({} : Receiving) with
          writerClosed := true
          failed := closed.toOption.isNone } := by
    refine (next_parentClose _ closed).trans ?_
    simp
  simp only [told] at middleLegal
  obtain ⟨⟨failed, same⟩, met⟩ :=
    ((readAll_ensures rfl rfl _).sound reads middleLegal).2 _ rfl
  have collected :=
    (monitor setting .parent).collected Receiving.received readBy rfl
      { ({} : Receiving) with
        writerClosed := true
        failed := closed.toOption.isNone } middle
  rw [same, List.nil_append] at collected
  obtain ⟨error | done, bytes⟩ := answer
  · rfl
  · have all : bytes = middle.flatMap readBy := collected
    rw [← all] at short
    exact (Nat.ne_of_lt short met).elim

/-- A monitor to which nothing happens. -/
def unconcerned : Monitor Answer Unit :=
  .observe fun _ _ _ => ()

/-- Releasing a descriptor does not mend a failure. -/
theorem release_failing
    (held : Bool)
    (fd : Fd) :
    (release held (Syscall.invoke (.close fd)) none .failure).Ensures
      unconcerned (fun final _ => final = .failure) () := by
  apply release_ensures
  · exact fun _ => rfl
  · exact fun _ => .request trivial fun _ _ => ⟨rfl, rfl⟩

/-- A cleanup after a failure without a child is no success. -/
theorem cleanup_failing
    {held : Held}
    (noChild : held.child = none) :
    (cleanup held .failure).Ensures unconcerned
      (fun final _ => final = .failure) () := by
  refine .bind ((release_failing _ _).mono ?_)
  rintro _ ⟨⟩ rfl
  refine .bind ((release_failing _ _).mono ?_)
  rintro _ ⟨⟩ rfl
  rw [noChild]
  exact .pure rfl

/-- No run of such a cleanup ends in success. -/
theorem cleanup_unsuccessful
    {held : Held}
    {fuel : Nat}
    {events : Events}
    (noChild : held.child = none)
    (run : (cleanup held .failure fuel).Run events (some .success)) :
    False := by
  cases (cleanup_failing noChild).observed ⟨fuel, run⟩

/-- `main` succeeds only as a parent, after `pipe` and `fork`. -/
theorem main_success
    {fuel : Nat}
    {events : Events}
    (run : (main fuel).Run events (some .success)) :
    ∃ pipeFds child rest,
      events = ⟨.pipe, .ok pipeFds⟩ :: ⟨.fork, .ok child⟩ :: rest ∧
        (parent pipeFds child fuel).Run rest (some .success) := by
  cases run with
  | call piped later =>
      cases piped with
      | error error => exact (cleanup_unsuccessful rfl later).elim
      | ok pipeFds =>
          cases later with
          | call forked rest =>
              cases forked with
              | error error => exact (cleanup_unsuccessful rfl rest).elim
              | ok child => exact ⟨pipeFds, child, _, rfl, rest⟩

/--
Whatever the three calls of the child answer and however its report travels:
an exit with 0 and a success of the parent mean the same complete report.
-/
theorem report_agreement
    {setting : Setting}
    {fuel : Nat}
    {state : State}
    (reaches : Reaches (rules setting) (start setting fuel) state) :
    ReportAgreement setting state := by
  have contract := Contract.reaches reaches
  have joint := contract.holds
  constructor
  · exact fun fuel events => main_success
  · intro status ended
    rw [← own_after setting, ← written_after setting]
    exact joint.exited status ended
  · intro closed middle later answer events reads short held
    have legal := Contract.legal reaches .parent
    rw [events] at legal
    exact neverInterpreted_of_legal legal reads short held
  · exact contract.success
  · exact fun result position => contract.succeeds position
  · intro result position waitsWell
    have returned : Returned setting result _ := contract.returned position
    rw [← reaps_after setting]
    exact returned.reaped (waitFailed_after waitsWell)
  · rw [← reaps_after setting]
    exact joint.atMost
  · intro before event later events call
    have safe := contract.history .parent
    rw [events] at safe
    have here := (monitor setting .parent).safe_at safe
    apply closing_of_after
    rcases call with ⟨fd, size, reads⟩ | ⟨child, waits⟩
    · rw [reads] at here
      exact here
    · rw [waits] at here
      exact here.2.1

/-- A child 501 and a pipe with room for the report. -/
def roomy : Setting where
  pipeFds := (3, 4)
  child := ⟨501, Nat.succ_pos 500⟩
  capacity := 4096
  child_small := by decide

/-- The report of the child 501 as it lies in memory. -/
def roomyReport : List UInt8 :=
  [245, 1, 0, 0, 245, 1, 0, 0, 245, 1, 0, 0, 0, 0, 0, 0, 1, 0, 0, 0]

/-- The report arrives in two pieces, and the parent returns with success. -/
theorem report_agreement_twoPieces :
    ∃ state,
      Reaches (rules roomy) (start roomy 3) state ∧
        state.rest .parent = .ret .success ∧
        ReportAgreement roomy state := by
  have start : Reaches (rules roomy) (start roomy 3) (start roomy 3) :=
    .refl
  have own : SmallResult (.ok roomy.child) := roomy.child_small
  have closed := start.call .parent rfl (.ok ()) (.close _)
  have began := closed.call .child rfl (.ok ()) (.childClose rfl _)
  have named := began.call .child rfl roomy.child (.getpid rfl)
  have created := named.call .child rfl (.ok roomy.child) (.setsid rfl own)
  have grouped :=
    created.call .child rfl (.ok roomy.child) (.getpgid rfl own)
  have observed :=
    grouped.call .child rfl (.ok roomy.child) (.getsid rfl own)
  have wrote :=
    observed.call .child rfl (.ok 20)
      (.write rfl rfl (by decide) (by decide))
  have readSome :=
    wrote.call .parent rfl (.ok (roomyReport.take 8))
      (.read rfl (by decide) (fun nothing => by cases nothing))
  have readAll :=
    readSome.call .parent rfl (.ok (roomyReport.drop 8))
      (.read rfl (by decide) (fun nothing => by cases nothing))
  have closedWriter := readAll.call .child rfl (.ok ()) (.childClose rfl _)
  have exited := closedWriter.call .child rfl () (.exit rfl)
  have closedReader := exited.call .parent rfl (.ok ()) (.close _)
  have reaped :=
    closedReader.call .parent rfl (.ok (.exited 0)) (.wait rfl rfl)
  exact ⟨_, reaped, rfl, report_agreement reaped⟩

end AdvanceUnix.ProcessGroups
