import AdvanceUnix.EventLoopInvariant

namespace AdvanceUnix.EventLoop

open Transition

/-!
# What the event loop ends with

As long as nothing fails, `main` leaves the loop with both flags set, and both
values are then what has arrived.  A measure that every step but an interrupted
call decreases shows that it gets there.
-/

variable {setting : Setting} {labels : List Label} {state next : State}
variable {label : Label}

/-- Behind the loop. -/
def Control.PastLoop : Control → Prop
  | .closing _ _ => True
  | .done => True
  | _ => False

/-- A run in which nothing fails leaves the loop with success only. -/
structure Succeeding
    (setting : Setting)
    (labels : List Label)
    (state : State) : Prop where
  invariant : Invariant setting labels state
  past :
    state.control.PastLoop →
    state.main.result = .success ∧
      ∀ source, state.main.saw source = true

/-- The cleanup section keeps a success. -/
theorem State.closeNext_success
    {descriptors : List Descriptor}
    (success : state.main.result = .success)
    (seen : ∀ source, state.main.saw source = true) :
    (state.closeNext descriptors).main.result = .success ∧
      ∀ source, (state.closeNext descriptors).main.saw source = true := by
  rw [State.closeNext_eq]
  exact ⟨success, seen⟩

/-- A batch leads to success or not out of the loop. -/
theorem State.handle_success
    {sources : List Source}
    (accounts : Accounts setting labels (state.handle setting sources))
    (past : (state.handle setting sources).control.PastLoop) :
    (state.handle setting sources).main.result = .success ∧
      ∀ source,
        (state.handle setting sources).main.saw source = true := by
  have keeps := state.handle_keeps setting sources
  rcases state.handle_cases setting sources with
    ⟨skipped, source, rest, _, _, reads⟩ | ⟨_, _, waits⟩ | ⟨seen, ends⟩
  · rw [reads] at past
    exact past.elim
  · rw [waits] at past
    exact past.elim
  · have before :
        ∀ source, state.main.value source = setting.amount source := by
      intro source
      rw [← keeps.value, accounts.value, keeps.saw, seen]
      rfl
    rw [ends]
    refine closeNext_success ?_ ?_
    · exact if_pos ⟨before .eventfd, before .timerfd⟩
    · intro source
      have saw := seen source
      cases source <;> exact saw

/-- The event loop with no failure succeeds, one step further. -/
theorem Succeeding.step
    (succeeding : Succeeding setting labels state)
    (noFailure : ¬ label.Fails)
    (stepped : step setting state label = some next) :
    Succeeding setting (labels ++ [label]) next := by
  have invariant := succeeding.invariant.step stepped
  refine ⟨invariant, ?_⟩
  cases step_cases stepped with
  | fire armed => exact succeeding.past
  | create descriptor fd control valid => cases descriptor <;> exact False.elim
  | add source control => cases source <;> exact False.elim
  | setTime control => exact False.elim
  | writeInterrupted control => exact succeeding.past
  | write control =>
      exact State.handle_success invariant.accounts
  | waitInterrupted control => exact succeeding.past
  | report sources control some readable =>
      exact State.handle_success invariant.accounts
  | readInterrupted source rest control => exact succeeding.past
  | read source rest control something =>
      exact State.handle_success invariant.accounts
  | close descriptor rest control =>
      have past := succeeding.past (by rw [control]; trivial)
      exact fun _ => State.closeNext_success past.1 past.2
  | createFailed | addFailed | setTimeFailed | timedOut | closeFailed =>
      exact (noFailure rfl).elim
  | writeFailed error control permanent => exact (noFailure permanent).elim
  | waitFailed error control permanent => exact (noFailure permanent).elim
  | readFailed source rest error control permanent =>
      exact (noFailure permanent).elim

/-- At the start nothing has been seen. -/
theorem Succeeding.start (setting : Setting) :
    Succeeding setting [] (system setting).initial :=
  ⟨.start setting, False.elim⟩

/-- It holds in every run in which nothing fails. -/
theorem Succeeding.run
    (accepted : (system setting).run labels = some state)
    (noFailure : ∀ label ∈ labels, ¬ label.Fails) :
    Succeeding setting labels state :=
  System.run_allowed_invariant (Succeeding setting)
    (.start setting)
    (fun succeeding harmless stepped => succeeding.step harmless stepped)
    accepted noFailure

/-- How many of the two `main` has not seen. -/
def Main.unseen (main : Main) : Nat :=
  (!main.sawEvent).toNat + (!main.sawTimer).toNat

/-- How far `main` is from its end. -/
def State.rank (state : State) : Nat :=
  match state.control with
  | .creating .epoll => 16
  | .creating .event => 15
  | .creating .timer => 14
  | .adding .eventfd => 13
  | .adding .timerfd => 12
  | .settingTime => 11
  | .writing => 10
  | .waiting => 2 * state.main.unseen + 5
  | .reading _ _ => 2 * state.main.unseen + 4
  | .closing _ rest => rest.length + 1
  | .done => 0

/-- What every step decreases, be it one of `main` or of the timer. -/
def State.measure (state : State) : Nat :=
  2 * state.rank + if state.kernel.armed then 1 else 0

/-- An interrupted call. -/
def Label.Interrupts : Label → Prop
  | .wrote answer => answer = .error .eintr
  | .waited answer => answer = .error .eintr
  | .readBack _ answer => answer = .error .eintr
  | _ => False

/-- At most both. -/
theorem Main.unseen_le (main : Main) : main.unseen ≤ 2 :=
  Nat.add_le_add (Bool.toNat_le _) (Bool.toNat_le _)

/-- There is one less to see. -/
theorem Main.unseen_see
    {main : Main}
    {source : Source}
    (notSeen : main.saw source = false)
    (value : BitVec 64) :
    (main.see value source).unseen + 1 = main.unseen := by
  cases source with
  | eventfd =>
      have event : main.sawEvent = false := notSeen
      simp [unseen, see, event, Nat.add_comm]
  | timerfd =>
      have timer : main.sawTimer = false := notSeen
      simp [unseen, see, timer]

/-- The cleanup section is short. -/
theorem State.closeNext_rank
    (state : State)
    (descriptors : List Descriptor) :
    (state.closeNext descriptors).rank ≤ descriptors.length := by
  rcases state.closeNext_control descriptors with
    control | ⟨descriptor, rest, control, less⟩
  · simp [rank, control]
  · simp only [rank, control]
    exact less

/-- After a batch `main` is at most about to wait again. -/
theorem State.handle_rank
    (setting : Setting)
    (state : State)
    (sources : List Source) :
    (state.handle setting sources).rank ≤ 2 * state.main.unseen + 5 := by
  rcases state.handle_cases setting sources with
    ⟨skipped, source, rest, _, _, reads⟩ | ⟨_, _, waits⟩ | ⟨_, ends⟩
  · rw [reads]
    exact Nat.le_succ _
  · rw [waits]
    exact Nat.le_refl _
  · rw [ends]
    refine Nat.le_trans (closeNext_rank _ _) ?_
    exact Nat.le_trans (by decide : 3 ≤ 5) (Nat.le_add_left 5 _)

/-- After a batch with something new `main` reads. -/
theorem State.handle_rank_new
    (setting : Setting)
    {source : Source}
    {sources : List Source}
    (member : source ∈ sources)
    (notSeen : state.main.saw source = false) :
    (state.handle setting sources).rank = 2 * state.main.unseen + 4 := by
  rcases state.handle_cases setting sources with
    ⟨skipped, unseen, rest, _, _, reads⟩ | ⟨seen, _⟩ | ⟨seen, _⟩
  · rw [reads]
    rfl
  · rw [seen source member] at notSeen
    cases notSeen
  · rw [seen source] at notSeen
    cases notSeen

/-- A step that leaves the timer alone. -/
theorem State.measure_lt
    (nearer : next.rank < state.rank)
    (sameTimer : next.kernel.armed = state.kernel.armed) :
    next.measure < state.measure := by
  unfold measure
  rw [sameTimer]
  omega

/-- An interruption leaves everything as it is. -/
theorem eq_of_interrupted
    (interrupted : label.Interrupts)
    (stepped : step setting state label = some next) :
    next = state := by
  cases step_cases stepped with
  | writeInterrupted | waitInterrupted | readInterrupted => rfl
  | writeFailed error control permanent =>
      exact (permanent (Except.error.inj interrupted)).elim
  | waitFailed error control permanent =>
      exact (permanent (Except.error.inj interrupted)).elim
  | readFailed source rest error control permanent =>
      exact (permanent (Except.error.inj interrupted)).elim
  | _ => cases interrupted

/-- Every other step that does not fail brings the end nearer. -/
theorem Succeeding.decreases
    (succeeding : Succeeding setting labels state)
    (noFailure : ¬ label.Fails)
    (notInterrupted : ¬ label.Interrupts)
    (stepped : EventLoop.step setting state label = some next) :
    next.measure < state.measure := by
  cases step_cases stepped with
  | fire armed =>
      simp [State.measure, State.rank, Kernel.fire, armed]
  | create descriptor fd control valid =>
      refine State.measure_lt ?_ rfl
      cases descriptor <;> simp [State.rank, State.created, control]
  | add source control =>
      refine State.measure_lt ?_ rfl
      cases source <;> simp [State.rank, State.added, control]
  | setTime control =>
      simp [State.measure, State.rank, State.timeSet, control]
      omega
  | write control =>
      have keeps := State.handle_keeps setting
        { state with kernel := state.kernel.written setting.wakeValue } []
      refine State.measure_lt ?_ (congrArg (·.armed) keeps.kernel)
      refine Nat.lt_of_le_of_lt (State.handle_rank setting _ _) ?_
      have two := state.main.unseen_le
      simp only [State.rank, control]
      omega
  | report sources control some readable =>
      have keeps := state.handle_keeps setting sources
      refine State.measure_lt ?_ (congrArg (·.armed) keeps.kernel)
      obtain ⟨source, rest, rfl⟩ := List.exists_cons_of_ne_nil some
      have notSeen := (succeeding.invariant.accounts.arrived_of_pending
        (readable source (.head rest))).2.1
      rw [State.handle_rank_new setting (.head rest) notSeen]
      simp [State.rank, control]
  | read source rest control something =>
      have keeps := State.handle_keeps setting
        { state with
          kernel := state.kernel.drained source
          main := state.main.see (state.kernel.pending source) source } rest
      have sameTimer :
          (state.kernel.drained source).armed = state.kernel.armed := by
        cases source <;> rfl
      refine State.measure_lt ?_
        ((congrArg (·.armed) keeps.kernel).trans sameTimer)
      refine Nat.lt_of_le_of_lt (State.handle_rank setting _ _) ?_
      have notSeen := (succeeding.invariant.accounts.arrived_of_pending
        something).2.1
      have less := Main.unseen_see notSeen (state.kernel.pending source)
      simp only [State.rank, control]
      omega
  | close descriptor rest control =>
      have nearer := state.closeNext_rank rest
      refine State.measure_lt ?_ ?_
      · simp only [State.rank, control] at nearer ⊢
        omega
      · rw [State.closeNext_eq]
  | writeInterrupted | waitInterrupted | readInterrupted =>
      exact (notInterrupted rfl).elim
  | createFailed | addFailed | setTimeFailed | timedOut | closeFailed =>
      exact (noFailure rfl).elim
  | writeFailed error control permanent => exact (noFailure permanent).elim
  | waitFailed error control permanent => exact (noFailure permanent).elim
  | readFailed source rest error control permanent =>
      exact (noFailure permanent).elim

/-- What is pending and not seen is reported by some answer of the kernel. -/
theorem report_possible
    {source : Source}
    (control : state.control = .waiting)
    (watched : state.kernel.interest = [.eventfd, .timerfd])
    (something : state.kernel.pending source ≠ 0) :
    step setting state (.waited (.ok [source])) =
      some (state.handle setting [source]) := by
  have reports : state.kernel.MayReport (.ok [source]) := by
    refine ⟨by simp, ?_⟩
    intro other member
    obtain rfl := List.mem_singleton.mp member
    refine ⟨?_, something⟩
    rw [watched]
    cases other <;> decide
  exact if_pos ⟨control, reports⟩

/-- The timer fires, or a call succeeds. -/
def Label.succeeds : Label → Bool
  | .fire => true
  | .created answer => answer.isOk
  | .added answer => answer.isOk
  | .timeSet answer => answer.isOk
  | .wrote answer => answer.isOk
  | .waited answer => answer.isOk && answer.toOption ≠ some []
  | .readBack _ answer => answer.isOk
  | .closed answer => answer.isOk

/-- That is neither a failure nor an interruption. -/
theorem Label.of_succeeds
    (succeeds : label.succeeds = true) :
    ¬ label.Fails ∧ ¬ label.Interrupts := by
  cases label with
  | fire => exact ⟨not_false, not_false⟩
  | created answer | added answer | timeSet answer | closed answer =>
      simpa [Fails, Interrupts, Label.succeeds] using succeeds
  | wrote answer | readBack _ answer =>
      cases answer with
      | error error => cases succeeds
      | ok taken => simp [Fails, Interrupts, Result.Meets]
  | waited answer =>
      cases answer with
      | error error => cases succeeds
      | ok sources =>
          simpa [Fails, Interrupts, Result.Meets, Label.succeeds,
            Except.isOk, Except.toBool, Except.toOption] using succeeds

/-- Until `main` has returned, something other than a failure can happen. -/
theorem Succeeding.possible
    (succeeding : Succeeding setting labels state)
    (running : state.control ≠ .done) :
    ∃ label next,
      label.succeeds = true ∧
        EventLoop.step setting state label = some next := by
  have accounts := succeeding.invariant.accounts
  have position := succeeding.invariant.position
  cases control : state.control with
  | creating descriptor =>
      refine ⟨.created (.ok 0), state.created descriptor (.ok 0), rfl, ?_⟩
      simp [EventLoop.step, control, MayOpen, Result.Meets]
  | adding source =>
      refine ⟨.added (.ok ()), state.added source (.ok ()), rfl, ?_⟩
      simp [EventLoop.step, control]
  | settingTime =>
      refine ⟨.timeSet (.ok ()), state.timeSet (.ok ()), rfl, ?_⟩
      simp [EventLoop.step, control]
  | writing =>
      simp only [State.Position, control] at position
      have empty : state.kernel.counter = 0 :=
        (accounts.absent position.2).2
      have allowed :
          state.kernel.MayWrite setting.wakeValue (.ok 8) := by
        refine ⟨rfl, ?_⟩
        rw [empty]
        simpa using setting.bounded
      exact ⟨.wrote (.ok 8), state.wrote setting (.ok 8), rfl,
        if_pos ⟨control, allowed⟩⟩
  | waiting =>
      simp only [State.Position, control] at position
      obtain ⟨prepared, written, source, notSeen⟩ := position
      by_cases there : arrived labels source = true
      · have something : state.kernel.pending source ≠ 0 := by
          rw [accounts.pending, there, notSeen]
          exact setting.amount_ne_zero source
        exact ⟨.waited (.ok [source]), _, by cases source <;> rfl,
          report_possible control prepared.interest something⟩
      · have armed : state.kernel.armed = true := by
          cases source with
          | eventfd => exact (there written).elim
          | timerfd => exact prepared.timer.resolve_right there
        exact ⟨.fire, { state with kernel := state.kernel.fire }, rfl,
          if_pos armed⟩
  | reading source rest =>
      have something := succeeding.invariant.pending_reading control
      refine ⟨.readBack source (.ok (8, state.kernel.pending source)),
        state.readBack setting source rest
          (.ok (8, state.kernel.pending source)),
        rfl, ?_⟩
      have allowed :
          state.kernel.MayRead source
            (.ok (8, state.kernel.pending source)) :=
        ⟨rfl, something, rfl⟩
      simp [EventLoop.step, control, allowed]
  | closing descriptor rest =>
      refine ⟨.closed (.ok ()), state.closed rest (.ok ()), rfl, ?_⟩
      simp [EventLoop.step, control]
  | done => exact (running control).elim

/-- `main` has returned with success and with what has arrived. -/
structure Finished (setting : Setting) (state : State) : Prop where
  control : state.control = .done
  result : state.main.result = .success
  eventValue : state.main.eventValue = setting.wakeValue
  timerExpirations : state.main.timerExpirations = 1

/-- Behind the loop `main` has seen both values. -/
theorem Succeeding.outcome
    (succeeding : Succeeding setting labels state)
    (past : state.control.PastLoop) :
    state.main.result = .success ∧
      state.main.eventValue = setting.wakeValue ∧
      state.main.timerExpirations = 1 ∧
      ∀ source, readCount labels source = 1 := by
  have accounts := succeeding.invariant.accounts
  obtain ⟨success, seen⟩ := succeeding.past past
  have event := accounts.value .eventfd
  have timer := accounts.value .timerfd
  rw [seen] at event timer
  refine ⟨success, event, timer, fun source => ?_⟩
  rw [accounts.reads, seen]
  rfl

/-- As long as nothing fails, `main` gets there, whatever comes first. -/
theorem finished_inevitable (setting : Setting) :
    System.Inevitable (system setting) (fun label => ¬ label.Fails)
      (Finished setting) (system setting).initial := by
  apply System.Inevitable.of_measure
    (fun state => ∃ labels, Succeeding setting labels state)
    Label.Interrupts State.measure
  case possible =>
    rintro state ⟨labels, succeeding⟩ unfinished
    have running : state.control ≠ .done := by
      intro control
      obtain ⟨result, event, timer, _⟩ :=
        succeeding.outcome (control ▸ trivial)
      exact unfinished ⟨control, result, event, timer⟩
    obtain ⟨label, next, succeeds, stepped⟩ :=
      succeeding.possible running
    obtain ⟨noFailure, notInterrupted⟩ := Label.of_succeeds succeeds
    exact ⟨label, next, noFailure, notInterrupted, stepped⟩
  case unchanged =>
    exact fun _ interrupted stepped => eq_of_interrupted interrupted stepped
  case preserved =>
    rintro state label next ⟨labels, succeeding⟩ noFailure stepped
    exact ⟨labels ++ [label], succeeding.step noFailure stepped⟩
  case decreases =>
    rintro state label next ⟨labels, succeeding⟩
    exact succeeding.decreases
  case holds => exact ⟨[], .start setting⟩

/-- The event loop in a state that a run has reached. -/
structure EventLoopRun
    (setting : Setting)
    (labels : List Label)
    (state : State) : Prop where
  drained :
    ∀ source,
      state.main.saw source = true ↔
        arrived labels source = true ∧ state.kernel.pending source = 0
  reads :
    ∀ source,
      readCount labels source = if state.main.saw source then 1 else 0
  noAgain :
    ∀ source, .readBack source (.error .eagain) ∉ labels
  outcome :
    (∀ label ∈ labels, ¬ label.Fails) →
    state.control.PastLoop →
    state.main.result = .success ∧
      state.main.eventValue = setting.wakeValue ∧
      state.main.timerExpirations = 1 ∧
      ∀ source, readCount labels source = 1

/--
For every wake value: in every run each flag is in step with its counter and
each descriptor is read at most once and never in vain, and as long as nothing
fails `main` returns with the two values.
-/
theorem event_loop (setting : Setting) :
    (∀ labels state,
      (system setting).run labels = some state →
      EventLoopRun setting labels state) ∧
      System.Inevitable (system setting) (fun label => ¬ label.Fails)
        (Finished setting) (system setting).initial := by
  refine ⟨?_, finished_inevitable setting⟩
  intro labels state accepted
  have invariant := Invariant.run accepted
  have accounts := invariant.accounts
  constructor
  case drained =>
    intro source
    constructor
    · intro saw
      refine ⟨accounts.seen source saw, ?_⟩
      rw [accounts.pending, saw, Bool.not_true, Bool.and_false]
      rfl
    · rintro ⟨there, nothing⟩
      by_contra notSeen
      rw [accounts.pending, there, Bool.eq_false_iff.mpr notSeen] at nothing
      exact setting.amount_ne_zero source nothing
  case reads => exact accounts.reads
  case noAgain => exact invariant.noAgain
  case outcome =>
    intro noFailure past
    exact (Succeeding.run accepted noFailure).outcome past

/-- The value of the source. -/
def seven : Setting where
  wakeValue := 7
  positive := by decide
  bounded := by decide

/-- Both arrive in one batch, the timer first. -/
def bothAtOnce : List Label :=
  [.created (.ok 3), .created (.ok 4), .created (.ok 5), .added (.ok ()),
    .added (.ok ()), .timeSet (.ok ()), .wrote (.error .eintr),
    .wrote (.ok 8), .waited (.error .eintr), .fire,
    .waited (.ok [.timerfd, .eventfd]), .readBack .timerfd (.ok (8, 1)),
    .readBack .eventfd (.error .eintr), .readBack .eventfd (.ok (8, 7)),
    .closed (.ok ()), .closed (.ok ()), .closed (.ok ())]

/-- The event loop where both arrive at once. -/
theorem event_loop_bothAtOnce :
    ∃ state,
      (system seven).run bothAtOnce = some state ∧
        state.main.result = .success ∧
        EventLoopRun seven bothAtOnce state :=
  ⟨_, rfl, rfl, (event_loop seven).1 bothAtOnce _ rfl⟩

end AdvanceUnix.EventLoop
