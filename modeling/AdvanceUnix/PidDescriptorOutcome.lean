import AdvanceUnix.PidDescriptor
import Mathlib.Logic.Basic

namespace AdvanceUnix.PidDescriptor

open CallTree Audit

/-!
# The child is waited for once

Wherever something fails the child is waited for, exactly once, and neither its
number nor the descriptor is used after that.  The program succeeds exactly if
nothing fails and no signal has ended the child.
-/

variable {world : World} {held : Held} {kernel : Kernel}
  {audited : Audited Kernel}

section Cleanup

/-- The program remembers what it has to give back. -/
structure Owns (held : Held) (kernel : Kernel) : Prop where
  pidfd : 0 ≤ held.pidfd → kernel.pidfd = some held.pidfd
  noPidfd : ¬ 0 ≤ held.pidfd → kernel.pidfd = none
  child : kernel.child = held.child
  reaped : held.child ≠ none → kernel.reaped = held.childReaped

/-- What the program leaves behind. -/
structure Settled
    (world : World)
    (result : Exit)
    (after : Audited Kernel) : Prop where
  closed : after.kernel.pidfd = none
  reaped :
    after.kernel.child ≠ none →
    after.kernel.reaped = true ∨ world.ignored = true ∨
      after.kernel.waitFailed = true

/-- The child is waited for unless that has been done. -/
theorem cleanupChild_ensures
    {result : Exit}
    (closed : kernel.pidfd = none)
    (child : kernel.child = held.child)
    (reaped : held.child ≠ none → kernel.reaped = held.childReaped)
    (failed : Bool) :
    (cleanupChild held result).Ensures (audit world).monitor
      (Cleaned .failure result failed (Settled world))
      { kernel := kernel, failed := failed } := by
  cases isChild : held.child with
  | none =>
      simp only [cleanupChild, isChild]
      refine .pure ⟨⟨closed, fun some => ?_⟩, .inl ⟨rfl, rfl⟩⟩
      exact (some (child.trans isChild)).elim
  | some pid =>
  have sameReaped :=
    reaped fun nothing => Option.some_ne_none _ (isChild.symm.trans nothing)
  cases isReaped : held.childReaped with
  | true =>
      simp only [cleanupChild, isChild, isReaped, ↓reduceIte]
      exact .pure ⟨⟨closed, fun _ => .inl (sameReaped.trans isReaped)⟩,
        .inl ⟨rfl, rfl⟩⟩
  | false =>
  simp only [cleanupChild, isChild, isReaped, Bool.false_eq_true, ↓reduceIte]
  have unreaped : kernel.reaped = false := sameReaped.trans isReaped
  have waiting :
      (Program.retry (· = Errno.eintr) (invoke (.waitpid pid))).Ensures
        (audit world).monitor
        (fun answer after =>
          (answer : Result WaitStatus).Meets
            (fun error =>
              if error = .echild then
                after = { kernel := kernel, failed := failed } ∧
                  world.ignored = true
              else
                after =
                  { kernel := { kernel with waitFailed := true }
                    failed := true })
            (fun _ =>
              after =
                { kernel := { kernel with ended := true, reaped := true }
                  failed := failed }))
        { kernel := kernel, failed := failed } := by
    refine .retry (· = { kernel := kernel, failed := failed }) ?_ rfl
    rintro _ rfl
    refine .request ⟨child.trans isChild, unreaped⟩ ?_
    rintro (error | status) allowed
    · refine ⟨?_, fun permanent => ?_⟩
      · rintro rfl
        exact congrArg (Audited.mk kernel) (Bool.or_false failed)
      by_cases gone : error = .echild
      · obtain rfl := gone
        have isIgnored := (allowed rfl).resolve_right fun isReaped =>
          Bool.noConfusion (unreaped.symm.trans isReaped)
        exact ⟨congrArg (Audited.mk kernel) (Bool.or_false failed), isIgnored⟩
      · simp [Result.Meets, monitor, audit, Kernel.next, Fails, gone,
          permanent]
    · exact congrArg (Audited.mk _) (Bool.or_false failed)
  refine .bind (waiting.mono ?_)
  rintro (error | status) after met
  · simp only [Result.Meets] at met
    by_cases gone : error = .echild
    · simp only [gone, ↓reduceIte] at met ⊢
      obtain ⟨rfl, isIgnored⟩ := met
      exact .pure ⟨⟨closed, fun _ => .inr (.inl isIgnored)⟩, .inl ⟨rfl, rfl⟩⟩
    · simp only [gone, ↓reduceIte] at met ⊢
      obtain rfl := met
      exact .pure ⟨⟨closed, fun _ => .inr (.inr rfl)⟩, .inr ⟨rfl, rfl⟩⟩
  · obtain rfl := met
    exact .pure ⟨⟨closed, fun _ => .inl rfl⟩, .inl ⟨rfl, rfl⟩⟩

/-- The cleanup section. -/
theorem cleanup_ensures
    {result : Exit}
    (owns : Owns held audited.kernel) :
    (cleanup held result).Ensures (audit world).monitor
      (Cleaned .failure result audited.failed (Settled world)) audited := by
  have closing :
      (Program.releasing (0 ≤ held.pidfd) (invoke (.close held.pidfd))
        .failure result).Ensures (audit world).monitor
        (Released (· = { audited.kernel with pidfd := none }) .failure result
          audited.failed) audited := by
    refine releasing_ensures ?_ fun isOpen => .request
      (owns.pidfd (of_decide_eq_true isOpen)) ?_
    · intro notOpen
      have closed := owns.noPidfd (of_decide_eq_false notOpen)
      exact congrArg (fun pidfd => { audited.kernel with pidfd := pidfd })
        closed
    · rintro (error | done) _
      · exact ⟨rfl, Bool.or_true _⟩
      · exact ⟨rfl, Bool.or_false _⟩
  refine .bind (closing.mono ?_)
  rintro middle ⟨_, failed⟩ ⟨rfl, spoils⟩
  have ending :=
    @cleanupChild_ensures world held
      { audited.kernel with pidfd := none } middle rfl owns.child owns.reaped
      failed
  refine ending.mono ?_
  rintro final after ⟨settled, spoilsChild⟩
  exact ⟨settled, spoils.trans spoilsChild⟩

end Cleanup

section Verdict

variable {child : Pid} {fd : Fd}

/-- No signal has ended the child. -/
def World.Undisturbed (world : World) : Prop :=
  world.fate = .exited childStatus

/-- What `main` is to establish. -/
abbrev Establishes (world : World) : Exit → Audited Kernel → Prop :=
  Returned Exit.success world.Undisturbed (Settled world)

/-- Giving up after a failure, or over the end of the child. -/
theorem giveUp_ensures
    (owns : Owns held audited.kernel)
    (reason : audited.failed = true ∨ ¬ world.Undisturbed) :
    (cleanup held .failure).Ensures (audit world).monitor
      (Establishes world) audited :=
  Cleaned.givenUp (cleanup_ensures owns) nofun reason

/-- What the program holds once it has the descriptor. -/
theorem owns_child
    {ended reaped : Bool}
    (valid : 0 ≤ fd) :
    Owns { pidfd := fd, child := some child, childReaped := reaped }
      { child := some child
        ended := ended
        reaped := reaped
        pidfd := some fd } where
  pidfd := fun _ => rfl
  noPidfd := fun invalid => (invalid valid).elim
  child := rfl
  reaped := fun _ => rfl

/-- A report is the expected one exactly if the child exited by itself. -/
theorem unexpected_iff
    {info : Siginfo}
    (isChild : kernel.child = some child)
    (reports : kernel.Reports world info) :
    (info.code ≠ .exited ∨ info.status ≠ childStatus ∨ info.pid ≠ child) ↔
      ¬ world.Undisturbed := by
  obtain ⟨own, agrees⟩ := reports
  obtain rfl := Option.some.inj (own.symm.trans isChild)
  unfold World.Undisturbed
  cases fate : world.fate with
  | exited status =>
      rw [fate] at agrees
      simp [agrees.1, agrees.2]
  | signaled signal =>
      rw [fate] at agrees
      simp [agrees.1]

/-- The kernel while the program holds the descriptor. -/
def heldKernel (child : Pid) (fd : Fd) (ended reaped : Bool) : Kernel where
  child := some child
  ended := ended
  reaped := reaped
  pidfd := some fd

/-- `main` once the descriptor can be read. -/
theorem reap_ensures (valid : 0 ≤ fd) :
    (reap child fd).Ensures (audit world).monitor (Establishes world)
      { kernel := heldKernel child fd true false } := by
  have waiting :
      (Program.retry (· = Errno.eintr) (invoke (.waitid fd))).Ensures
        (audit world).monitor
        (fun answer after =>
          (answer : Result Siginfo).Meets
            (fun _ =>
              after =
                { kernel := heldKernel child fd true false, failed := true })
            (fun info =>
              (heldKernel child fd true false).Reports world info ∧
                after = { kernel := heldKernel child fd true true }))
        { kernel := heldKernel child fd true false } := by
    refine .retry (· = { kernel := heldKernel child fd true false }) ?_ rfl
    rintro _ rfl
    refine .request ⟨rfl, rfl, rfl⟩ ?_
    rintro (error | info) allowed
    · refine ⟨?_, fun permanent => ?_⟩
      · rintro rfl
        rfl
      · exact congrArg (Audited.mk _) (decide_eq_true permanent)
    · exact ⟨allowed.2.2, rfl⟩
  refine .bind (waiting.mono ?_)
  rintro (error | info) after met
  · obtain rfl := met
    exact giveUp_ensures (owns_child valid) (.inl rfl)
  obtain ⟨reports, rfl⟩ := met
  have unexpected :=
    @unexpected_iff world (heldKernel child fd true false) child info rfl
      reports
  dsimp only
  split
  next differs =>
    exact giveUp_ensures (owns_child valid) (.inr (unexpected.mp differs))
  next asExpected =>
    have undisturbed : world.Undisturbed :=
      not_not.mp (mt unexpected.mpr asExpected)
    exact Cleaned.succeeded (cleanup_ensures (owns_child valid)) nofun rfl
      undisturbed

/-- Waiting for the end of the child, with a limit. -/
theorem pollRetry_ensures {timeout : Nat} :
    (pollRetry fd timeout).Ensures (audit world).monitor
      (fun answer after =>
        ∃ ended,
          after.kernel = heldKernel child fd ended false ∧
            (answer : Result (Nat × BitVec 16)).Meets
              (fun _ => after.failed = true)
              (fun polled =>
                if polled.1 = 0 ∨ polled.2 &&& pollin = 0 then
                  after.failed = true
                else
                  ended = true ∧ after.failed = false))
      { kernel := heldKernel child fd false false } := by
  refine .retry (· = { kernel := heldKernel child fd false false }) ?_ rfl
  rintro _ rfl
  refine .request rfl ?_
  rintro (error | ⟨count, revents⟩) allowed
  · refine ⟨?_, fun permanent => ⟨false, rfl, decide_eq_true permanent⟩⟩
    rintro rfl
    rfl
  · refine ⟨_, rfl, ?_⟩
    have asked : revents &&& pollin &&& pollin = revents &&& pollin := by
      rw [BitVec.and_assoc, BitVec.and_self]
    by_cases nothing : count = 0 ∨ revents &&& pollin = 0
    · have fails : ¬ (count ≠ 0 ∧ revents &&& pollin ≠ 0) :=
        fun some => nothing.elim some.1 some.2
      simp only [Result.Meets, nothing, ↓reduceIte]
      simp only [monitor, audit, Fails, FailsFor, fails, decide_false,
        Bool.not_false, Bool.or_true]
    · have works : count ≠ 0 ∧ revents &&& pollin ≠ 0 := not_or.mp nothing
      simp only [Result.Meets, nothing, ↓reduceIte]
      have fails : decide (count ≠ 0 ∧ revents &&& pollin ≠ 0) = true :=
        decide_eq_true works
      simp only [monitor, audit, Fails, FailsFor, asked, heldKernel, fails,
        decide_eq_true works.2, Bool.or_true, Bool.not_true, Bool.or_self,
        and_self]

/-- What `main` establishes. -/
theorem main_ensures (world : World) :
    main.Ensures (audit world).monitor (Establishes world)
      { kernel := {} } := by
  refine .request_bind rfl ?_
  rintro (error | child) _
  · exact giveUp_ensures ⟨nofun, fun _ => rfl, rfl, nofun⟩ (.inl rfl)
  have opening :
      (pidfdOpenCompat child 0).Ensures (audit world).monitor
        (fun answer after =>
          (answer : Result Fd).Meets
            (fun _ =>
              after = { kernel := { child := some child }, failed := true })
            (fun fd =>
              0 ≤ fd ∧ after = { kernel := heldKernel child fd false false }))
        { kernel := { child := some child } } := by
    refine .request_bind ⟨rfl, rfl, rfl⟩ ?_
    rintro (error | value) allowed
    · exact .pure rfl
    · obtain ⟨valid, narrow⟩ : 0 ≤ value ∧ value ≤ intMax := allowed
      have fits : ¬ value > intMax := Int.not_lt.mpr narrow
      simp only [narrowed, fits, ↓reduceIte]
      exact .pure ⟨valid, rfl⟩
  refine .bind (opening.mono ?_)
  rintro (error | fd) after met
  · obtain rfl := met
    exact giveUp_ensures ⟨nofun, fun _ => rfl, rfl, fun _ => rfl⟩ (.inl rfl)
  obtain ⟨valid, rfl⟩ := met
  refine .bind (pollRetry_ensures.mono ?_)
  rintro (error | ⟨count, revents⟩) ⟨_, failed⟩ ⟨ended, rfl, told⟩
  · exact giveUp_ensures (owns_child valid) (.inl told)
  dsimp only [Result.Meets] at told ⊢
  by_cases nothing : count = 0
  · simp only [nothing, true_or, ↓reduceIte] at told ⊢
    exact giveUp_ensures (owns_child valid) (.inl told)
  by_cases quiet : revents &&& pollin = 0
  · simp only [nothing, quiet, or_true, ↓reduceIte] at told ⊢
    exact giveUp_ensures (owns_child valid) (.inl told)
  simp only [nothing, quiet, or_self, ↓reduceIte] at told ⊢
  obtain ⟨rfl, rfl⟩ := told
  exact reap_ensures valid

end Verdict

section Runs

variable {events : List (Event Answer)} {outcome : Option Exit}

/--
However the child ends and whatever fails: it is waited for once, unless the
kernel has cleared it away, the number and the descriptor are not used after
that, waiting does not wait, and the program succeeds exactly if nothing fails
and no signal has ended the child.
-/
theorem pidfd_verdict
    (run : main.Run events outcome)
    (legal : (audit world).Legal {} events) :
    (audit world).Report {} .success world.Undisturbed (Settled world) events
      outcome :=
  .of_ensures (main_ensures world) run legal

/-- The child is killed before it can exit. -/
def killed : World where
  fate := .signaled 9
  ignored := false
  ends := .inr ⟨9, rfl⟩

/-- Its end is seen at once, but it is not the expected one. -/
def killedEvents : List (Event Answer) :=
  [⟨.fork, .ok ⟨815, by decide⟩⟩, ⟨.pidfdOpen ⟨815, by decide⟩ 0, .ok 3⟩,
    ⟨.poll 3 pollin 2000, .error .eintr⟩,
    ⟨.poll 3 pollin 2000, .ok (1, pollin)⟩,
    ⟨.waitid 3, .ok ⟨.killed, 9, ⟨815, by decide⟩⟩⟩, ⟨.close 3, .ok ()⟩]

/-- It is a run of `main`. -/
theorem killedEvents_run : main.Run killedEvents (some .failure) :=
  ⟨3, .call _ (.call _ (.call _ (.call _ (.call _ (.call _ (.ret _))))))⟩

/-- The kernel may answer so. -/
theorem killedEvents_legal : (audit killed).Legal {} killedEvents := by
  have named : ChildCode.killed ≠ .exited := by decide
  have polled : 1 ≤ 1 ∧ (1 = 0 ↔ pollin = 0) ∧
      (pollin &&& pollin ≠ 0 → pollin &&& pollin ≠ 0) := by decide
  exact ⟨trivial, (by decide : (0 : Int) ≤ 3 ∧ (3 : Int) ≤ intMax), trivial,
    polled, ⟨rfl, rfl, rfl, named, rfl⟩, trivial, trivial⟩

/-- No call fails, and yet the program does. -/
theorem pidfd_verdict_killed :
    (audit killed).Report {} .success killed.Undisturbed (Settled killed)
      killedEvents (some .failure) :=
  pidfd_verdict killedEvents_run killedEvents_legal

end Runs

end AdvanceUnix.PidDescriptor
