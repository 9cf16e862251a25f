import AdvanceUnix.EventLoopSteps

namespace AdvanceUnix.EventLoop

open Transition

/-!
# The flags of the event loop

Each flag stays in step with its counter in the kernel: what has arrived and
was not seen is pending, and what was seen is gone (`Accounts`).  The call that
`main` is in tells what has arrived so far.
-/

variable {setting : Setting} {labels : List Label} {state next : State}
variable {label : Label}

/-- One more label in a run. -/
theorem arrived_append
    (labels : List Label)
    (label : Label)
    (source : Source) :
    arrived (labels ++ [label]) source =
      (arrived labels source || label.arrives source) := by
  simp [arrived]

/-- And what it reads. -/
theorem readCount_append
    (labels : List Label)
    (label : Label)
    (source : Source) :
    readCount (labels ++ [label]) source =
      readCount labels source + if label.reads source then 1 else 0 := by
  simp [readCount, List.countP_append, List.countP_singleton]

/-- What arrives at a descriptor. -/
def Setting.amount (setting : Setting) : Source → BitVec 64
  | .eventfd => setting.wakeValue
  | .timerfd => 1

/-- It is never nothing. -/
theorem Setting.amount_ne_zero (setting : Setting) (source : Source) :
    setting.amount source ≠ 0 := by
  cases source with
  | eventfd =>
      intro zero
      have positive := setting.positive
      rw [show setting.wakeValue = 0 from zero] at positive
      exact Nat.lt_irrefl 0 positive
  | timerfd => exact of_decide_eq_true rfl

/--
The flags and the values of `main` against the counters of the kernel and
against what has happened.
-/
structure Accounts
    (setting : Setting)
    (labels : List Label)
    (state : State) : Prop where
  pending :
    ∀ source,
      state.kernel.pending source =
        if arrived labels source && !state.main.saw source then
          setting.amount source
        else
          0
  value :
    ∀ source,
      state.main.value source =
        if state.main.saw source then setting.amount source else 0
  seen :
    ∀ source,
      state.main.saw source = true → arrived labels source = true
  reads :
    ∀ source,
      readCount labels source = if state.main.saw source then 1 else 0

/-- A label with which nothing arrives, is read or is found missing. -/
def Label.quiet : Label → Bool
  | .fire => false
  | .wrote answer => !answer.isOk
  | .readBack _ (.ok _) => false
  | .readBack _ (.error error) => error ≠ .eagain
  | _ => true

/-- Nothing arrives with a quiet label. -/
theorem Label.arrives_of_quiet
    (quiet : label.quiet = true)
    (source : Source) :
    label.arrives source = false := by
  cases source with
  | eventfd =>
      cases label with
      | wrote answer => simpa [Label.quiet, Label.arrives] using quiet
      | _ => rfl
  | timerfd =>
      cases label with
      | fire => cases quiet
      | _ => rfl

/-- And nothing is read. -/
theorem Label.reads_of_quiet
    (quiet : label.quiet = true)
    (source : Source) :
    label.reads source = false := by
  cases label with
  | readBack read answer =>
      cases answer with
      | error error => exact Bool.and_false _
      | ok taken => cases quiet
  | _ => rfl

/-- No read finds nothing. -/
theorem Label.ne_of_quiet
    (quiet : label.quiet = true)
    (source : Source) :
    label ≠ .readBack source (.error .eagain) := by
  rintro rfl
  simp [Label.quiet] at quiet

/-- What has arrived stays what it is. -/
theorem arrived_of_quiet
    (quiet : label.quiet = true)
    (labels : List Label) :
    arrived (labels ++ [label]) = arrived labels := by
  funext source
  rw [arrived_append, Label.arrives_of_quiet quiet, Bool.or_false]

/-- The accounts are about the pending counters, the flags and the values. -/
theorem Accounts.keep
    (accounts : Accounts setting labels state)
    (pending :
      ∀ source,
        next.kernel.pending source = state.kernel.pending source)
    (saw : ∀ source, next.main.saw source = state.main.saw source)
    (value : ∀ source, next.main.value source = state.main.value source) :
    Accounts setting labels next := by
  constructor <;> intro source <;> simp only [pending, saw, value]
  · exact accounts.pending source
  · exact accounts.value source
  · exact accounts.seen source
  · exact accounts.reads source

/-- A quiet label does not matter to them. -/
theorem Accounts.quiet
    (accounts : Accounts setting labels state)
    (quiet : label.quiet = true) :
    Accounts setting (labels ++ [label]) state := by
  have same := arrived_of_quiet quiet labels
  constructor
  case pending =>
    rw [same]
    exact accounts.pending
  case value => exact accounts.value
  case seen =>
    rw [same]
    exact accounts.seen
  case reads =>
    intro source
    rw [readCount_append, Label.reads_of_quiet quiet]
    exact accounts.reads source

/-- What has not arrived was not seen and is not pending. -/
theorem Accounts.absent
    (accounts : Accounts setting labels state)
    {source : Source}
    (absent : arrived labels source = false) :
    state.main.saw source = false ∧ state.kernel.pending source = 0 := by
  constructor
  · refine Bool.eq_false_iff.mpr fun saw => ?_
    rw [accounts.seen source saw] at absent
    cases absent
  · rw [accounts.pending, absent]
    rfl

/-- Something arrives at one descriptor, and nothing is read. -/
theorem Accounts.arrive
    (accounts : Accounts setting labels state)
    {source : Source}
    (absent : arrived labels source = false)
    (arrives : ∀ other, label.arrives other = decide (other = source))
    (noRead : ∀ other, label.reads other = false)
    {kernel : Kernel}
    (pending :
      ∀ other,
        kernel.pending other =
          if other = source then
            state.kernel.pending other + setting.amount other
          else
            state.kernel.pending other) :
    Accounts setting (labels ++ [label])
      { state with kernel := kernel } := by
  obtain ⟨notSeen, nothing⟩ := accounts.absent absent
  constructor <;> intro other <;>
    simp only [arrived_append, readCount_append, arrives, noRead, pending,
      Bool.false_eq_true, ↓reduceIte, Nat.add_zero]
  · by_cases same : other = source
    · subst same
      simp [notSeen, nothing]
    · simp [same, accounts.pending other]
  · exact accounts.value other
  · intro saw
    simp [accounts.seen other saw]
  · exact accounts.reads other

/-- What is pending at a descriptor is all that has arrived there. -/
theorem Accounts.arrived_of_pending
    (accounts : Accounts setting labels state)
    {source : Source}
    (something : state.kernel.pending source ≠ 0) :
    arrived labels source = true ∧ state.main.saw source = false ∧
      state.kernel.pending source = setting.amount source := by
  have pending := accounts.pending source
  cases there : arrived labels source <;>
    cases saw : state.main.saw source <;>
    simp_all

/-- A pending counter is read. -/
theorem Accounts.read
    (accounts : Accounts setting labels state)
    {source : Source}
    (something : state.kernel.pending source ≠ 0) :
    Accounts setting
      (labels ++
        [.readBack source (.ok (8, state.kernel.pending source))])
      { state with
        kernel := state.kernel.drained source
        main := state.main.see (state.kernel.pending source) source } := by
  obtain ⟨there, notSeen, amount⟩ := accounts.arrived_of_pending something
  constructor <;> intro other <;>
    simp only [arrived_append, readCount_append, Kernel.pending_drained,
      Main.saw_see, Main.value_see, Label.arrives, Label.reads,
      Bool.or_false]
  · by_cases same : other = source
    · simp [same]
    · simp [same, accounts.pending other]
  · by_cases same : other = source
    · simp [same, amount]
    · simp [same, accounts.value other]
  · by_cases same : other = source
    · simp [same, there]
    · simpa [same] using accounts.seen other
  · by_cases same : other = source
    · subst same
      simp [accounts.reads other, notSeen, Except.isOk, Except.toBool]
    · simp [same, Ne.symm same, accounts.reads other]

/-- Before the timer is set nothing has happened yet. -/
structure Preparing
    (interest : List Source)
    (there : Source → Bool)
    (kernel : Kernel) : Prop where
  interest : kernel.interest = interest
  unarmed : kernel.armed = false
  nothing : ∀ source, there source = false

/-- So the timer cannot fire yet. -/
theorem Preparing.not_armed
    {interest : List Source}
    {there : Source → Bool}
    {kernel : Kernel}
    (preparing : Preparing interest there kernel) :
    ¬ kernel.armed = true := by
  rw [preparing.unarmed]
  exact Bool.false_ne_true

/-- From then on the timer runs or has fired, and both are watched. -/
structure Prepared (there : Source → Bool) (kernel : Kernel) : Prop where
  interest : kernel.interest = [.eventfd, .timerfd]
  timer : kernel.armed = true ∨ there .timerfd = true

/-- What has arrived where, as the call that `main` is in tells. -/
def State.Position (there : Source → Bool) (state : State) : Prop :=
  match state.control with
  | .creating _ => Preparing [] there state.kernel
  | .adding .eventfd => Preparing [] there state.kernel
  | .adding .timerfd => Preparing [.eventfd] there state.kernel
  | .settingTime => Preparing [.eventfd, .timerfd] there state.kernel
  | .writing => Prepared there state.kernel ∧ there .eventfd = false
  | .waiting =>
      Prepared there state.kernel ∧ there .eventfd = true ∧
        ∃ source, state.main.saw source = false
  | .reading source rest =>
      Prepared there state.kernel ∧ there .eventfd = true ∧
        state.main.saw source = false ∧
        ∀ reported ∈ source :: rest, there reported = true
  | .closing _ _ | .done => True

/-- The cleanup section is always a fine place. -/
theorem State.closeNext_position
    (there : Source → Bool)
    (state : State)
    (descriptors : List Descriptor) :
    (state.closeNext descriptors).Position there := by
  rcases state.closeNext_control descriptors with
    control | ⟨descriptor, rest, control, _⟩ <;>
    simp [Position, control]

/-- So is the next call after a batch of what has arrived. -/
theorem State.handle_position
    (setting : Setting)
    {there : Source → Bool}
    {sources : List Source}
    (prepared : Prepared there state.kernel)
    (written : there .eventfd = true)
    (reported : ∀ source ∈ sources, there source = true) :
    (state.handle setting sources).Position there := by
  rcases state.handle_cases setting sources with
    ⟨skipped, source, rest, rfl, notSeen, reads⟩ |
    ⟨_, unseen, waits⟩ | ⟨_, ends⟩
  · rw [reads]
    refine ⟨prepared, written, notSeen, fun other member => ?_⟩
    exact reported other (List.mem_append_right skipped member)
  · rw [waits]
    exact ⟨prepared, written, unseen⟩
  · rw [ends]
    exact closeNext_position there _ _

/-- The timer may fire wherever it has been set. -/
theorem State.Position.fire
    {there after : Source → Bool}
    (position : state.Position there)
    (armed : state.kernel.armed = true)
    (fired : ∀ source, after source = (there source || source = .timerfd)) :
    State.Position after { state with kernel := state.kernel.fire } := by
  have timer : after .timerfd = true := by simp [fired]
  have event : after .eventfd = there .eventfd := by simp [fired]
  cases control : state.control with
  | creating descriptor =>
      simp only [State.Position, control] at position
      exact (position.not_armed armed).elim
  | adding source =>
      cases source <;> simp only [State.Position, control] at position <;>
        exact (position.not_armed armed).elim
  | settingTime =>
      simp only [State.Position, control] at position
      exact (position.not_armed armed).elim
  | writing =>
      simp only [State.Position, control, event] at position ⊢
      exact ⟨⟨position.1.interest, .inr timer⟩, position.2⟩
  | waiting =>
      simp only [State.Position, control, event] at position ⊢
      exact ⟨⟨position.1.interest, .inr timer⟩, position.2⟩
  | reading source rest =>
      simp only [State.Position, control, event] at position ⊢
      obtain ⟨prepared, written, notSeen, reported⟩ := position
      refine ⟨⟨prepared.interest, .inr timer⟩, written, notSeen, ?_⟩
      intro other member
      simp [fired, reported other member]
  | closing descriptor rest => simp [State.Position]
  | done => simp [State.Position]

/-- The invariant of the event loop. -/
structure Invariant
    (setting : Setting)
    (labels : List Label)
    (state : State) : Prop where
  accounts : Accounts setting labels state
  position : state.Position (arrived labels)
  unfired :
    state.kernel.armed = true → arrived labels .timerfd = false
  noAgain :
    ∀ source, .readBack source (.error .eagain) ∉ labels

/-- It holds at the start. -/
theorem Invariant.start (setting : Setting) :
    Invariant setting [] (system setting).initial := by
  constructor
  case accounts =>
    constructor <;> intro source <;> cases source <;>
      simp [system, arrived, readCount, Kernel.pending, Main.saw,
        Main.value]
  case position => exact ⟨rfl, rfl, fun _ => rfl⟩
  case unfired => exact nofun
  case noAgain => exact fun _ => List.not_mem_nil

/-- No read finds nothing after a label that is no such read. -/
theorem Invariant.noAgain_append
    (invariant : Invariant setting labels state)
    (notAgain : ∀ source, label ≠ .readBack source (.error .eagain))
    (source : Source) :
    .readBack source (.error .eagain) ∉ labels ++ [label] := by
  intro member
  rcases List.mem_append.mp member with earlier | here
  · exact invariant.noAgain source earlier
  · exact notAgain source (List.mem_singleton.mp here).symm

/-- A quiet step that leaves the counters, flags and values as they are. -/
theorem Invariant.keep
    (invariant : Invariant setting labels state)
    (quiet : label.quiet = true)
    (accounts : Accounts setting labels next)
    (position : next.Position (arrived labels))
    (unfired :
      next.kernel.armed = true → arrived labels .timerfd = false) :
    Invariant setting (labels ++ [label]) next where
  accounts := accounts.quiet quiet
  position := arrived_of_quiet quiet labels ▸ position
  unfired := arrived_of_quiet quiet labels ▸ unfired
  noAgain := invariant.noAgain_append (Label.ne_of_quiet quiet)

/-- Going through the cleanup section keeps it, whatever the result is. -/
theorem Invariant.closeNext
    (invariant : Invariant setting labels state)
    (quiet : label.quiet = true)
    (result : Exit)
    (descriptors : List Descriptor) :
    Invariant setting (labels ++ [label])
      (State.closeNext
        { state with main := { state.main with result := result } }
        descriptors) := by
  have keeps := state.closeNext_keeps result descriptors
  refine invariant.keep quiet ?_ (State.closeNext_position _ _ _) ?_
  · exact invariant.accounts.keep
      (fun source => congrArg (·.pending source) keeps.kernel)
      keeps.saw keeps.value
  · rw [keeps.kernel]
    exact invariant.unfired

/-- Giving up keeps it. -/
theorem Invariant.cleanup
    (invariant : Invariant setting labels state)
    (quiet : label.quiet = true) :
    Invariant setting (labels ++ [label]) state.cleanup :=
  invariant.closeNext quiet state.main.result _

/-- An interrupted call is made again. -/
theorem Invariant.interrupted
    (invariant : Invariant setting labels state)
    (quiet : label.quiet = true) :
    Invariant setting (labels ++ [label]) state :=
  invariant.keep quiet invariant.accounts invariant.position
    invariant.unfired

/-- Looking at a batch of what has arrived establishes it. -/
theorem Invariant.of_handle
    {sources : List Source}
    (accounts : Accounts setting labels state)
    (prepared : Prepared (arrived labels) state.kernel)
    (written : arrived labels .eventfd = true)
    (reported : ∀ source ∈ sources, arrived labels source = true)
    (unfired :
      state.kernel.armed = true → arrived labels .timerfd = false)
    (noAgain :
      ∀ source, .readBack source (.error .eagain) ∉ labels) :
    Invariant setting labels (state.handle setting sources) where
  accounts :=
    have keeps := state.handle_keeps setting sources
    accounts.keep (fun source => congrArg (·.pending source) keeps.kernel)
      keeps.saw keeps.value
  position := state.handle_position setting prepared written reported
  unfired := (state.handle_keeps setting sources).kernel ▸ unfired
  noAgain := noAgain

/-- The timer fires. -/
theorem Invariant.fire
    (invariant : Invariant setting labels state)
    (armed : state.kernel.armed = true) :
    Invariant setting (labels ++ [.fire])
      { state with kernel := state.kernel.fire } := by
  have absent := invariant.unfired armed
  have fired :
      ∀ source,
        arrived (labels ++ [.fire]) source =
          (arrived labels source || source = .timerfd) := by
    intro source
    rw [arrived_append]
    cases source <;> rfl
  constructor
  case accounts =>
    refine invariant.accounts.arrive absent ?_ (fun _ => rfl) ?_
    · intro source
      cases source <;> rfl
    · intro source
      rw [Kernel.pending_fire]
      cases source <;> rfl
  case position => exact invariant.position.fire armed fired
  case unfired => exact nofun
  case noAgain => exact invariant.noAgain_append nofun

/-- The value is written. -/
theorem Invariant.write
    (invariant : Invariant setting labels state)
    (control : state.control = .writing) :
    Invariant setting (labels ++ [.wrote (.ok 8)])
      (State.handle setting
        { state with kernel := state.kernel.written setting.wakeValue }
        []) := by
  have position := invariant.position
  simp only [State.Position, control] at position
  obtain ⟨prepared, absent⟩ := position
  have there :
      arrived (labels ++ [.wrote (.ok 8)]) .timerfd =
        arrived labels .timerfd := by
    rw [arrived_append]
    exact Bool.or_false _
  apply Invariant.of_handle
  case accounts =>
    refine invariant.accounts.arrive absent ?_ (fun _ => rfl) ?_
    · intro source
      cases source <;> rfl
    · intro source
      rw [Kernel.pending_written]
      cases source <;> rfl
  case prepared =>
    refine ⟨prepared.interest, ?_⟩
    rw [there]
    exact prepared.timer
  case written =>
    rw [arrived_append]
    exact Bool.or_true _
  case reported => exact nofun
  case unfired =>
    rw [there]
    exact invariant.unfired
  case noAgain => exact invariant.noAgain_append nofun

/-- A pending counter is read. -/
theorem Invariant.read
    (invariant : Invariant setting labels state)
    {source : Source}
    {rest : List Source}
    (control : state.control = .reading source rest)
    (something : state.kernel.pending source ≠ 0) :
    Invariant setting
      (labels ++ [.readBack source (.ok (8, state.kernel.pending source))])
      (State.handle setting
        { state with
          kernel := state.kernel.drained source
          main := state.main.see (state.kernel.pending source) source }
        rest) := by
  have position := invariant.position
  simp only [State.Position, control] at position
  obtain ⟨prepared, written, _, reported⟩ := position
  have there :
      ∀ other,
        arrived
            (labels ++
              [.readBack source (.ok (8, state.kernel.pending source))])
            other =
          arrived labels other := by
    intro other
    rw [arrived_append]
    cases other <;> exact Bool.or_false _
  have sameTimer :
      (state.kernel.drained source).armed = state.kernel.armed ∧
        (state.kernel.drained source).interest = state.kernel.interest := by
    cases source <;> exact ⟨rfl, rfl⟩
  apply Invariant.of_handle
  case accounts => exact invariant.accounts.read something
  case prepared =>
    refine ⟨sameTimer.2.trans prepared.interest, ?_⟩
    rw [there, sameTimer.1]
    exact prepared.timer
  case written => exact (there .eventfd).trans written
  case reported =>
    intro other member
    exact (there other).trans
      (reported other (List.mem_cons_of_mem source member))
  case unfired =>
    rw [there, sameTimer.1]
    exact invariant.unfired
  case noAgain => exact invariant.noAgain_append nofun

/-- What `main` is about to read is pending. -/
theorem Invariant.pending_reading
    (invariant : Invariant setting labels state)
    {source : Source}
    {rest : List Source}
    (control : state.control = .reading source rest) :
    state.kernel.pending source ≠ 0 := by
  have position := invariant.position
  simp only [State.Position, control] at position
  obtain ⟨_, _, notSeen, reported⟩ := position
  rw [invariant.accounts.pending source, notSeen,
    reported source List.mem_cons_self]
  exact setting.amount_ne_zero source

/-- The invariant of the event loop is kept by every step. -/
theorem Invariant.step
    (invariant : Invariant setting labels state)
    (stepped : step setting state label = some next) :
    Invariant setting (labels ++ [label]) next := by
  have position := invariant.position
  have accounts := invariant.accounts
  cases step_cases stepped with
  | fire armed => exact invariant.fire armed
  | createFailed descriptor error control => exact invariant.cleanup rfl
  | create descriptor fd control valid =>
      simp only [State.Position, control] at position
      refine invariant.keep rfl ?_ ?_ invariant.unfired
      · refine accounts.keep (fun _ => rfl) (fun source => ?_)
          (fun source => ?_) <;>
          cases descriptor <;> cases source <;> rfl
      · cases descriptor <;> exact position
  | addFailed source error control => exact invariant.cleanup rfl
  | add source control =>
      simp only [State.Position, control] at position
      refine invariant.keep rfl ?_ ?_ invariant.unfired
      · refine accounts.keep (fun other => ?_) (fun _ => rfl) (fun _ => rfl)
        cases other <;> rfl
      · cases source with
        | eventfd =>
            refine ⟨?_, position.unarmed, position.nothing⟩
            exact congrArg (· ++ [Source.eventfd]) position.interest
        | timerfd =>
            refine ⟨?_, position.unarmed, position.nothing⟩
            exact congrArg (· ++ [Source.timerfd]) position.interest
  | setTimeFailed error control => exact invariant.cleanup rfl
  | setTime control =>
      simp only [State.Position, control] at position
      refine invariant.keep rfl ?_ ?_ (fun _ => position.nothing .timerfd)
      · refine accounts.keep (fun other => ?_) (fun _ => rfl) (fun _ => rfl)
        cases other <;> rfl
      · exact ⟨⟨position.interest, .inl rfl⟩, position.nothing .eventfd⟩
  | writeInterrupted control => exact invariant.interrupted rfl
  | writeFailed error control permanent => exact invariant.cleanup rfl
  | write control => exact invariant.write control
  | waitInterrupted control => exact invariant.interrupted rfl
  | waitFailed error control permanent => exact invariant.cleanup rfl
  | timedOut control => exact invariant.cleanup rfl
  | report sources control some readable =>
      simp only [State.Position, control] at position
      obtain ⟨prepared, written, _⟩ := position
      have same :
          arrived (labels ++ [.waited (.ok sources)]) = arrived labels :=
        arrived_of_quiet rfl labels
      refine .of_handle (accounts.quiet rfl) ?_ ?_ ?_ ?_
        (invariant.noAgain_append nofun) <;> rw [same]
      · exact prepared
      · exact written
      · exact fun source member =>
          (accounts.arrived_of_pending (readable source member)).1
      · exact invariant.unfired
  | readInterrupted source rest control => exact invariant.interrupted rfl
  | readFailed source rest error control permanent nothing =>
      refine invariant.cleanup (decide_eq_true fun again => ?_)
      exact invariant.pending_reading control (nothing again)
  | read source rest control something =>
      exact invariant.read control something
  | closeFailed descriptor rest error control =>
      exact invariant.closeNext rfl .failure rest
  | close descriptor rest control =>
      exact invariant.closeNext rfl state.main.result rest

/-- It holds in every run. -/
theorem Invariant.run
    (accepted : (system setting).run labels = some state) :
    Invariant setting labels state :=
  System.run_invariant (Invariant setting) (.start setting)
    (fun invariant stepped => invariant.step stepped) accepted

end AdvanceUnix.EventLoop
