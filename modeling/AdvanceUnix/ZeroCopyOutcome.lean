import AdvanceUnix.ZeroCopyInvariant

namespace AdvanceUnix.ZeroCopy

open Transition

/-!
# When the pipeline ends

As long as nothing fails `main` gets nearer to its end with every call, unless
it splices into a full pipe, which happens exactly if the payload does not fit.
-/

variable {setting : Setting} {labels : List Label} {state next : State}
variable {label : Label}

/-- The whole payload has come through the pipe. -/
structure Delivered (setting : Setting) (state : State) : Prop where
  fits : setting.size ≤ setting.capacity
  result : state.main.result = .success
  received : state.main.received = setting.payload
  inputOffset : state.main.inputOffset = setting.size

/-- A run in which nothing fails reaches the cleanup section with success. -/
structure Succeeding (setting : Setting) (state : State) : Prop where
  position : state.Position setting
  past : state.control.Releasing → Delivered setting state

/-- Only the head of the loop of `read_all` leads there. -/
theorem State.readHead_success
    (holds : Reading setting state)
    (releasing : (state.readHead setting).control.Releasing) :
    Delivered setting (state.readHead setting) := by
  unfold readHead at releasing ⊢
  by_cases more : state.main.received.length < setting.size
  · rw [if_pos more] at releasing
    exact releasing.elim
  · have whole : state.main.received = setting.payload := by
      have pieces := holds.pieces
      have lengths := congrArg List.length pieces
      rw [List.length_append] at lengths
      have empty : state.kernel.pipe = [] := by
        refine List.length_eq_zero_iff.mp ?_
        unfold Setting.size at more
        omega
      rwa [empty, List.append_nil] at pieces
    have verified :
        ¬ (state.main.received ≠ setting.payload ∨
          state.main.inputOffset ≠ setting.size) := by
      simp [whole, holds.offset]
    rw [if_neg more, verdict, if_neg verified, cleanup, releaseNext_eq]
    exact ⟨holds.fits, rfl, whole, holds.offset⟩

/-- A head of a loop is not in the cleanup section. -/
theorem State.writeHead_not_releasing
    (setting : Setting)
    (state : State)
    (written : Nat) :
    ¬ (state.writeHead setting written).control.Releasing := by
  unfold writeHead
  split <;> exact not_false

/-- Neither is the other. -/
theorem State.spliceHead_not_releasing
    (setting : Setting)
    (state : State) :
    ¬ (state.spliceHead setting).control.Releasing := by
  unfold spliceHead
  split <;> exact not_false

/-- The pipeline with no failure succeeds, one step further. -/
theorem Succeeding.step
    (succeeding : Succeeding setting state)
    (noFailure : ¬ label.Fails)
    (stepped : step setting state label = some next) :
    Succeeding setting next := by
  refine ⟨succeeding.position.step stepped, ?_⟩
  have position := succeeding.position
  unfold State.Position at position
  cases step_cases stepped with
  | failed fails => exact (noFailure fails).elim
  | make fd control => exact False.elim
  | unlink control =>
      exact fun releasing =>
        (State.writeHead_not_releasing _ _ _ releasing).elim
  | writeInterrupted written control =>
      exact fun releasing =>
        (State.writeHead_not_releasing _ _ _ releasing).elim
  | write written count control positive given =>
      exact fun releasing =>
        (State.writeHead_not_releasing _ _ _ releasing).elim
  | pipe fds control =>
      exact fun releasing =>
        (State.spliceHead_not_releasing _ _ releasing).elim
  | spliceInterrupted control =>
      exact fun releasing =>
        (State.spliceHead_not_releasing _ _ releasing).elim
  | splice count control positive asked room =>
      exact fun releasing =>
        (State.spliceHead_not_releasing _ _ releasing).elim
  | closeWriter control =>
      rw [control] at position
      exact State.readHead_success (position.1.close position.2)
  | readInterrupted control =>
      rw [control] at position
      exact State.readHead_success position.1
  | read bytes control some front =>
      rw [control] at position
      exact State.readHead_success (position.1.take front)
  | release resource rest control =>
      have past := succeeding.past (by rw [control]; trivial)
      rw [State.releaseNext_eq]
      exact fun _ =>
        ⟨past.fits, past.result, past.received, past.inputOffset⟩

/-- At the start nothing has been transferred. -/
theorem Succeeding.start (setting : Setting) :
    Succeeding setting (system setting).initial :=
  ⟨⟨rfl, rfl, rfl⟩, False.elim⟩

/-- It holds in every run in which nothing fails. -/
theorem Succeeding.run
    (accepted : (system setting).run labels = some state)
    (noFailure : ∀ label ∈ labels, ¬ label.Fails) :
    Succeeding setting state :=
  System.run_allowed_invariant (fun _ => Succeeding setting)
    (.start setting)
    (fun succeeding harmless stepped => succeeding.step harmless stepped)
    accepted noFailure

/-- An interrupted call. -/
def Label.Interrupts : Label → Prop
  | .wrote answer => answer = .error .eintr
  | .spliced answer => answer = .error .eintr
  | .readBack answer => answer = .error .eintr
  | _ => False

/-- How far `main` is from its end. -/
def State.measure (setting : Setting) (state : State) : Nat :=
  match state.control with
  | .making => 3 * setting.size + 12
  | .unlinking => 3 * setting.size + 11
  | .writing written =>
      2 * setting.size + 10 + (setting.size - written)
  | .piping => 2 * setting.size + 9
  | .splicing =>
      setting.size + 8 + (setting.size - state.main.moved)
  | .closingWriter => setting.size + 7
  | .reading => 6 + (setting.size - state.main.received.length)
  | .releasing _ rest => rest.length + 1
  | .done => 0

section Measure

/-- The cleanup section is short. -/
theorem State.releaseNext_measure
    (setting : Setting)
    (state : State)
    (resources : List Resource) :
    (state.releaseNext resources).measure setting ≤ resources.length := by
  rcases state.releaseNext_control resources with
    control | ⟨resource, rest, control, less⟩
  · simp [measure, control]
  · simp only [measure, control]
    exact less

/-- What is left to write, or less. -/
theorem State.writeHead_measure
    (setting : Setting)
    (state : State)
    (written : Nat) :
    (state.writeHead setting written).measure setting ≤
      2 * setting.size + 10 + (setting.size - written) := by
  unfold writeHead
  split
  · exact Nat.le_refl _
  · simp only [measure]
    omega

/-- What is left to move, or less. -/
theorem State.spliceHead_measure
    (setting : Setting)
    (state : State) :
    (state.spliceHead setting).measure setting ≤
      setting.size + 8 + (setting.size - state.main.moved) := by
  unfold spliceHead
  split
  · exact Nat.le_refl _
  · simp only [measure]
    omega

/-- What is left to read, or less. -/
theorem State.readHead_measure
    (setting : Setting)
    (state : State) :
    (state.readHead setting).measure setting ≤
      6 + (setting.size - state.main.received.length) := by
  unfold readHead
  split
  · exact Nat.le_refl _
  · have short : (state.verdict setting).measure setting ≤ 4 := by
      unfold verdict
      split <;> exact releaseNext_measure setting _ _
    omega

end Measure

/-- An interruption leaves everything as it is. -/
theorem State.Position.eq_of_interrupted
    (position : state.Position setting)
    (interrupted : label.Interrupts)
    (stepped : ZeroCopy.step setting state label = some next) :
    next = state := by
  unfold State.Position at position
  cases step_cases stepped with
  | failed fails =>
      cases label <;> cases interrupted <;> exact (fails rfl).elim
  | writeInterrupted written control =>
      rw [control] at position
      rw [State.writeHead, if_pos position.2, ← control]
  | spliceInterrupted control =>
      rw [control] at position
      rw [State.spliceHead, if_pos position.2, ← control]
  | readInterrupted control =>
      rw [control] at position
      rw [State.readHead, if_pos position.2, ← control]
  | _ => cases interrupted

/-- Every other step that does not fail brings the end nearer. -/
theorem State.Position.decreases
    (position : state.Position setting)
    (noFailure : ¬ label.Fails)
    (notInterrupted : ¬ label.Interrupts)
    (stepped : ZeroCopy.step setting state label = some next) :
    next.measure setting < state.measure setting := by
  unfold State.Position at position
  cases step_cases stepped with
  | failed fails => exact (noFailure fails).elim
  | make fd control =>
      simp only [State.measure, State.made, control]
      omega
  | unlink control =>
      refine Nat.lt_of_le_of_lt (State.writeHead_measure setting _ _) ?_
      simp only [State.measure, control]
      omega
  | write written count control positive given =>
      rw [control] at position
      refine Nat.lt_of_le_of_lt (State.writeHead_measure setting _ _) ?_
      simp only [State.measure, control]
      omega
  | pipe fds control =>
      refine Nat.lt_of_le_of_lt (State.spliceHead_measure setting _) ?_
      simp only [State.measure, control]
      omega
  | splice count control positive asked room =>
      rw [control] at position
      refine Nat.lt_of_le_of_lt (State.spliceHead_measure setting _) ?_
      simp only [State.measure, control]
      omega
  | closeWriter control =>
      refine Nat.lt_of_le_of_lt (State.readHead_measure setting _) ?_
      simp only [State.measure, control]
      omega
  | read bytes control some front =>
      rw [control] at position
      refine Nat.lt_of_le_of_lt (State.readHead_measure setting _) ?_
      have positive := List.length_pos_iff.mpr some
      simp only [State.measure, control, List.length_append]
      omega
  | release resource rest control =>
      refine Nat.lt_of_le_of_lt (state.releaseNext_measure setting rest) ?_
      simp only [State.measure, control]
      exact Nat.lt_succ_self _
  | writeInterrupted | spliceInterrupted | readInterrupted =>
      exact (notInterrupted rfl).elim

/-- As long as something is missing, something is in the pipe. -/
theorem Reading.takes
    (holds : Reading setting state)
    (more : state.main.received.length < setting.size) :
    ∃ byte, state.MayRead setting (.ok [byte]) := by
  cases pipe : state.kernel.pipe with
  | nil =>
      have whole := congrArg List.length holds.pieces
      rw [pipe, List.append_nil] at whole
      exact (Nat.ne_of_lt more whole).elim
  | cons byte rest =>
      refine ⟨byte, Nat.le_sub_of_add_le' more, ?_, nofun⟩
      rw [pipe]
      exact ⟨rest, rfl⟩

/-- A call succeeds, and it has moved something if it is to. -/
def Label.succeeds : Label → Bool
  | .made answer => answer.isOk
  | .unlinked answer => answer.isOk
  | .wrote answer => answer.isOk && answer.toOption ≠ some 0
  | .piped answer => answer.isOk
  | .spliced answer => answer.isOk && answer.toOption ≠ some 0
  | .writerClosed answer => answer.isOk
  | .readBack answer => answer.isOk && answer.toOption ≠ some []
  | .released answer => answer.isOk

/-- That is neither a failure nor an interruption. -/
theorem Label.of_succeeds
    (succeeds : label.succeeds = true) :
    ¬ label.Fails ∧ ¬ label.Interrupts := by
  cases label with
  | made answer | unlinked answer | piped answer | writerClosed answer
  | released answer =>
      simpa [Fails, Interrupts, Label.succeeds] using succeeds
  | wrote answer | spliced answer | readBack answer =>
      cases answer with
      | error error => cases succeeds
      | ok moved =>
          simpa [Fails, Interrupts, Result.Meets, Label.succeeds,
            Except.isOk, Except.toBool, Except.toOption] using succeeds

/-- Until `main` has returned it can go on, unless the pipe is full. -/
theorem State.Position.possible
    (position : state.Position setting)
    (running : state.control ≠ .done) :
    (∃ label next,
        label.succeeds = true ∧
          ZeroCopy.step setting state label = some next) ∨
      (state.control = .splicing ∧
        state.main.moved = setting.capacity) := by
  unfold State.Position at position
  cases control : state.control with
  | making =>
      exact .inl ⟨.made (.ok 0), _, rfl,
        if_pos ⟨control, Int.le_refl 0⟩⟩
  | unlinking =>
      exact .inl ⟨.unlinked (.ok ()), _, rfl, if_pos control⟩
  | writing written =>
      rw [control] at position
      have given : State.MayWrite setting written (.ok 1) := by
        have more := position.2
        simp only [State.MayWrite, Result.Meets, List.length_drop,
          Setting.size] at more ⊢
        omega
      refine .inl ⟨.wrote (.ok 1), state.wrote setting written (.ok 1),
        rfl, ?_⟩
      simp [ZeroCopy.step, control, given]
  | piping =>
      exact .inl ⟨.piped (.ok (0, 0)), _, rfl,
        if_pos ⟨control, Int.le_refl 0, Int.le_refl 0⟩⟩
  | splicing =>
      rw [control] at position
      obtain ⟨splicing, more⟩ := position
      rcases Nat.lt_or_eq_of_le splicing.fits with free | full
      · have allowed : state.MaySplice setting (.ok 1) := by
          refine ⟨?_, ?_, ?_, fun none => absurd none Nat.one_ne_zero⟩
          · unfold State.unmoved
            omega
          · rw [State.unspliced, splicing.file, ← splicing.offset,
              List.length_drop]
            exact Nat.le_sub_of_add_le' more
          · rw [State.room, splicing.pipe_length]
            exact Nat.le_sub_of_add_le' free
        exact .inl ⟨.spliced (.ok 1), _, rfl,
          if_pos ⟨control, allowed⟩⟩
      · exact .inr ⟨rfl, full⟩
  | closingWriter =>
      exact .inl ⟨.writerClosed (.ok ()), _, rfl, if_pos control⟩
  | reading =>
      rw [control] at position
      obtain ⟨byte, allowed⟩ := position.1.takes position.2
      exact .inl ⟨.readBack (.ok [byte]), _, rfl,
        if_pos ⟨control, allowed⟩⟩
  | releasing resource rest =>
      refine .inl ⟨.released (.ok ()), state.released rest (.ok ()), rfl,
        ?_⟩
      simp [ZeroCopy.step, control]
  | done => exact (running control).elim

/-- Nothing can happen any more but a failure or an interruption. -/
def Blocked (setting : Setting) (state : State) : Prop :=
  ∀ label next,
    ¬ label.Fails →
    ZeroCopy.step setting state label = some next →
    next = state

/-- `main` is in a splice into a full pipe, which nobody else can drain. -/
structure SpliceBlocked (setting : Setting) (state : State) : Prop where
  control : state.control = .splicing
  full : state.kernel.pipe.length = setting.capacity
  blocked : Blocked setting state

/-- A splice into a full pipe moves nothing. -/
theorem State.Position.blocked
    (position : state.Position setting)
    (control : state.control = .splicing)
    (full : state.main.moved = setting.capacity) :
    SpliceBlocked setting state := by
  have here := position
  simp only [State.Position, control] at here
  have held : state.kernel.pipe.length = setting.capacity :=
    here.1.pipe_length.trans full
  refine ⟨control, held, ?_⟩
  intro label next noFailure stepped
  by_contra changed
  have noInterrupt : ¬ label.Interrupts := fun interrupted =>
    changed (position.eq_of_interrupted interrupted stepped)
  cases step_cases stepped with
  | failed fails => exact noFailure fails
  | splice count _ positive asked room =>
      rw [State.room, held, Nat.sub_self] at room
      exact Nat.not_lt.mpr room positive
  | spliceInterrupted => exact noInterrupt rfl
  | _ => simp_all

/-- A run that can go on is not blocked. -/
theorem State.Position.not_blocked
    (position : state.Position setting)
    (running : state.control ≠ .done)
    (fits : setting.size ≤ setting.capacity) :
    ¬ Blocked setting state := by
  intro blocked
  rcases position.possible running with
    ⟨label, next, succeeds, stepped⟩ | ⟨control, full⟩
  · obtain ⟨noFailure, noInterrupt⟩ := Label.of_succeeds succeeds
    have less := position.decreases noFailure noInterrupt stepped
    rw [blocked label next noFailure stepped] at less
    exact Nat.lt_irrefl _ less
  · simp only [State.Position, control] at position
    omega

/-- As long as nothing fails, `main` returns or fills the pipe. -/
theorem ends_inevitably
    (setting : Setting)
    {target : State → Prop}
    (returned :
      ∀ {state},
        Delivered setting state → state.control = .done → target state)
    (filled :
      ∀ {state},
        state.Position setting →
        state.control = .splicing →
        state.main.moved = setting.capacity →
        target state) :
    System.Inevitable (system setting) (fun label => ¬ label.Fails) target
      (system setting).initial := by
  apply System.Inevitable.of_measure (Succeeding setting)
    Label.Interrupts (State.measure setting)
  case possible =>
    intro state succeeding elsewhere
    have position := succeeding.position
    have running : state.control ≠ .done := fun done =>
      elsewhere (returned (succeeding.past (done ▸ trivial)) done)
    rcases position.possible running with
      ⟨label, next, succeeds, stepped⟩ | ⟨control, full⟩
    · obtain ⟨noFailure, noInterrupt⟩ := Label.of_succeeds succeeds
      exact ⟨label, next, noFailure, noInterrupt, stepped⟩
    · exact (elsewhere (filled position control full)).elim
  case unchanged =>
    exact fun succeeding interrupted stepped =>
      succeeding.position.eq_of_interrupted interrupted stepped
  case preserved =>
    exact fun succeeding noFailure stepped =>
      succeeding.step noFailure stepped
  case decreases =>
    exact fun succeeding noFailure noInterrupt stepped =>
      succeeding.position.decreases noFailure noInterrupt stepped
  case holds => exact .start setting

/-- In the loop that splices, or at its end. -/
def Control.Splices : Control → Prop
  | .splicing => True
  | .closingWriter => True
  | _ => False

/-- The pipeline in a state that a run has reached. -/
structure PipelineRun
    (setting : Setting)
    (labels : List Label)
    (state : State) : Prop where
  inStep :
    state.control.Splices →
    state.main.moved = state.main.inputOffset ∧
      state.kernel.pipe = state.kernel.file.take state.main.moved
  neverBlocked :
    setting.size ≤ setting.capacity →
    state.control ≠ .done →
    ¬ Blocked setting state
  delivered :
    (∀ label ∈ labels, ¬ label.Fails) →
    state.control = .done →
    Delivered setting state
  neverPast :
    setting.capacity < setting.size →
    state.control ≠ .closingWriter ∧ state.control ≠ .reading

/--
For every payload and capacity: the three counters stay in step in every run,
and as long as nothing fails `main` returns with the payload if that fits into
the pipe, and otherwise ends up in a splice that blocks for good.
-/
theorem zero_copy_pipeline (setting : Setting) :
    (∀ labels state,
      (system setting).run labels = some state →
      PipelineRun setting labels state) ∧
      (setting.size ≤ setting.capacity →
        System.Inevitable (system setting) (fun label => ¬ label.Fails)
          (fun state => state.control = .done ∧ Delivered setting state)
          (system setting).initial) ∧
      (setting.capacity < setting.size →
        System.Inevitable (system setting) (fun label => ¬ label.Fails)
          (SpliceBlocked setting) (system setting).initial) := by
  refine ⟨?_, ?_, ?_⟩
  · intro labels state accepted
    have position := State.Position.run accepted
    constructor
    case inStep =>
      intro splices
      have splicing : Splicing setting state := by
        unfold State.Position at position
        cases control : state.control <;>
          rw [control] at splices position <;>
          first | exact splices.elim | exact position.1
      exact ⟨splicing.offset, splicing.file ▸ splicing.pipe⟩
    case neverBlocked =>
      exact fun fits running => position.not_blocked running fits
    case delivered =>
      intro noFailure done
      exact (Succeeding.run accepted noFailure).past (done ▸ trivial)
    case neverPast =>
      intro small
      constructor <;> intro control <;>
        simp only [State.Position, control] at position
      · have fits := position.1.fits
        omega
      · have fits := position.1.fits
        omega
  · intro fits
    refine ends_inevitably setting (fun delivered done => ⟨done, delivered⟩)
      ?_
    intro state position control full
    simp only [State.Position, control] at position
    omega
  · intro small
    refine ends_inevitably setting ?_ State.Position.blocked
    exact fun delivered _ => absurd delivered.fits (Nat.not_le.mpr small)

/-- Three bytes through a pipe of two bytes, or of three. -/
def threeBytes (capacity : Nat) (positive : 0 < capacity) : Setting where
  payload := [1, 2, 3]
  capacity := capacity
  nonempty := by decide
  positive := positive

/-- A run with short transfers and interruptions, up to a full pipe. -/
def shortTransfers : List Label :=
  [.made (.ok 3), .unlinked (.ok ()), .wrote (.ok 2),
    .wrote (.error .eintr), .wrote (.ok 1), .piped (.ok (4, 5)),
    .spliced (.ok 1), .spliced (.error .eintr), .spliced (.ok 1)]

/-- Where the pipe is too small this is where it ends. -/
theorem zero_copy_pipeline_shortTransfers :
    ∃ state,
      (system (threeBytes 2 (by decide))).run shortTransfers = some state ∧
        state.control = .splicing ∧
        PipelineRun (threeBytes 2 (by decide)) shortTransfers state ∧
        System.Inevitable (system (threeBytes 2 (by decide)))
          (fun label => ¬ label.Fails)
          (SpliceBlocked (threeBytes 2 (by decide)))
          (system (threeBytes 2 (by decide))).initial :=
  ⟨_, rfl, rfl, (zero_copy_pipeline _).1 shortTransfers _ rfl,
    (zero_copy_pipeline _).2.2 (by decide)⟩

end AdvanceUnix.ZeroCopy
