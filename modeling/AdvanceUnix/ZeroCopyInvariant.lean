import AdvanceUnix.ZeroCopy

namespace AdvanceUnix.ZeroCopy

open Transition

/-!
# The three transfers of the pipeline

Each transition that does not fail is named once.  The file, the pipe and the
buffer then hold what the progress counters say: what is written is a part of
the payload from its front, the pipe holds what was moved, and what was read
and what is left in the pipe make up the payload.
-/

variable {setting : Setting} {labels : List Label} {state next : State}
variable {label : Label}

/-- In the cleanup section or behind it. -/
def Control.Releasing : Control → Prop
  | .releasing _ _ => True
  | .done => True
  | _ => False

/-- What a step can do: it fails and leads to the cleanup section, or not. -/
inductive PipelineStep
    (setting : Setting)
    (state : State) : Label → State → Prop where
  | failed
      {label : Label}
      {next : State}
      (fails : label.Fails)
      (releasing : next.control.Releasing) :
      PipelineStep setting state label next
  | make
      (fd : Fd)
      (control : state.control = .making) :
      PipelineStep setting state (.made (.ok fd)) (state.made (.ok fd))
  | unlink
      (control : state.control = .unlinking) :
      PipelineStep setting state (.unlinked (.ok ()))
        (state.unlinked setting (.ok ()))
  | writeInterrupted
      (written : Nat)
      (control : state.control = .writing written) :
      PipelineStep setting state (.wrote (.error .eintr))
        (state.writeHead setting written)
  | write
      (written count : Nat)
      (control : state.control = .writing written)
      (positive : 0 < count)
      (given : count ≤ (setting.payload.drop written).length) :
      PipelineStep setting state (.wrote (.ok count))
        (State.writeHead setting
          (state.appended setting written (.ok count)) (written + count))
  | pipe
      (fds : Fd × Fd)
      (control : state.control = .piping) :
      PipelineStep setting state (.piped (.ok fds))
        (state.piped setting (.ok fds))
  | spliceInterrupted
      (control : state.control = .splicing) :
      PipelineStep setting state (.spliced (.error .eintr))
        (state.spliceHead setting)
  | splice
      (count : Nat)
      (control : state.control = .splicing)
      (positive : 0 < count)
      (asked : count ≤ state.unmoved setting)
      (room : count ≤ state.room setting) :
      PipelineStep setting state (.spliced (.ok count))
        (State.spliceHead setting
          { kernel :=
              { state.kernel with
                pipe := state.kernel.pipe ++ state.unspliced.take count }
            main :=
              { state.main with
                inputOffset := state.main.inputOffset + count
                moved := state.main.moved + count }
            control := state.control })
  | closeWriter
      (control : state.control = .closingWriter) :
      PipelineStep setting state (.writerClosed (.ok ()))
        (state.writerClosed setting (.ok ()))
  | readInterrupted
      (control : state.control = .reading) :
      PipelineStep setting state (.readBack (.error .eintr))
        (state.readHead setting)
  | read
      (bytes : List UInt8)
      (control : state.control = .reading)
      (some : bytes ≠ [])
      (front : bytes <+: state.kernel.pipe) :
      PipelineStep setting state (.readBack (.ok bytes))
        (State.readHead setting
          { kernel :=
              { state.kernel with
                pipe := state.kernel.pipe.drop bytes.length }
            main :=
              { state.main with
                received := state.main.received ++ bytes }
            control := state.control })
  | release
      (resource : Resource)
      (rest : List Resource)
      (control : state.control = .releasing resource rest) :
      PipelineStep setting state (.released (.ok ()))
        (state.releaseNext rest)

section Effects

/-- The cleanup section only goes from call to call. -/
theorem State.releaseNext_eq
    (state : State)
    (resources : List Resource) :
    state.releaseNext resources =
      { state with control := (state.releaseNext resources).control } := by
  induction resources with
  | nil => rfl
  | cons resource rest inductionHypothesis =>
      unfold releaseNext
      split
      · rfl
      · exact inductionHypothesis

/-- It has no other calls. -/
theorem State.releaseNext_control
    (state : State)
    (resources : List Resource) :
    (state.releaseNext resources).control = .done ∨
      ∃ resource rest,
        (state.releaseNext resources).control =
            .releasing resource rest ∧
          rest.length < resources.length := by
  induction resources with
  | nil => exact .inl rfl
  | cons resource rest inductionHypothesis =>
      unfold releaseNext
      split
      · exact .inr ⟨resource, rest, rfl, Nat.lt_succ_self _⟩
      · refine inductionHypothesis.imp_right ?_
        rintro ⟨releasing, later, control, less⟩
        exact ⟨releasing, later, control, Nat.lt_succ_of_lt less⟩

/-- So it stays in the cleanup section. -/
theorem State.releaseNext_releasing
    (state : State)
    (resources : List Resource) :
    (state.releaseNext resources).control.Releasing := by
  rcases state.releaseNext_control resources with
    control | ⟨resource, rest, control, _⟩ <;>
    rw [control] <;> trivial

end Effects

/-- Every step is one of them. -/
theorem step_cases
    (stepped : step setting state label = some next) :
    PipelineStep setting state label next := by
  cases label with
  | made answer =>
      simp only [step, Option.ite_none_right_eq_some, Option.some.injEq]
        at stepped
      obtain ⟨⟨control, _⟩, rfl⟩ := stepped
      cases answer with
      | error error => exact .failed rfl (state.releaseNext_releasing _)
      | ok fd => exact .make fd control
  | unlinked answer =>
      simp only [step, Option.ite_none_right_eq_some, Option.some.injEq]
        at stepped
      obtain ⟨control, rfl⟩ := stepped
      cases answer with
      | error error => exact .failed rfl (state.releaseNext_releasing _)
      | ok done => exact .unlink control
  | wrote answer =>
      cases control : state.control with
      | writing written =>
          simp only [step, control, Option.ite_none_right_eq_some,
            Option.some.injEq] at stepped
          obtain ⟨given, rfl⟩ := stepped
          cases answer with
          | error error =>
              by_cases interrupted : error = .eintr
              · subst interrupted
                exact .writeInterrupted written control
              · simp only [State.wrote, writeAnswered, interrupted,
                  ↓reduceIte]
                exact .failed interrupted (state.releaseNext_releasing _)
          | ok count =>
              cases count with
              | zero => exact .failed rfl (state.releaseNext_releasing _)
              | succ count =>
                  exact .write written (count + 1) control
                    (Nat.succ_pos count) given
      | _ => simp [step, control] at stepped
  | piped answer =>
      simp only [step, Option.ite_none_right_eq_some, Option.some.injEq]
        at stepped
      obtain ⟨⟨control, _⟩, rfl⟩ := stepped
      cases answer with
      | error error => exact .failed rfl (state.releaseNext_releasing _)
      | ok fds => exact .pipe fds control
  | spliced answer =>
      simp only [step, Option.ite_none_right_eq_some, Option.some.injEq]
        at stepped
      obtain ⟨⟨control, allowed⟩, rfl⟩ := stepped
      cases answer with
      | error error =>
          by_cases interrupted : error = .eintr
          · subst interrupted
            exact .spliceInterrupted control
          · simp only [State.spliced, spliceAnswered, interrupted,
              ↓reduceIte]
            exact .failed interrupted (State.releaseNext_releasing _ _)
      | ok count =>
          cases count with
          | zero => exact .failed rfl (State.releaseNext_releasing _ _)
          | succ count =>
              exact .splice (count + 1) control (Nat.succ_pos count)
                allowed.1 allowed.2.2.1
  | writerClosed answer =>
      simp only [step, Option.ite_none_right_eq_some, Option.some.injEq]
        at stepped
      obtain ⟨control, rfl⟩ := stepped
      cases answer with
      | error error => exact .failed rfl (State.releaseNext_releasing _ _)
      | ok done => exact .closeWriter control
  | readBack answer =>
      simp only [step, Option.ite_none_right_eq_some, Option.some.injEq]
        at stepped
      obtain ⟨⟨control, allowed⟩, rfl⟩ := stepped
      cases answer with
      | error error =>
          by_cases interrupted : error = .eintr
          · subst interrupted
            exact .readInterrupted control
          · simp only [State.readBack, readAnswered, interrupted,
              ↓reduceIte]
            exact .failed interrupted (State.releaseNext_releasing _ _)
      | ok bytes =>
          cases bytes with
          | nil => exact .failed rfl (State.releaseNext_releasing _ _)
          | cons byte rest =>
              exact .read (byte :: rest) control (List.cons_ne_nil _ _)
                allowed.2.1
  | released answer =>
      cases control : state.control with
      | releasing resource rest =>
          simp only [step, control, Option.some.injEq] at stepped
          subst next
          cases answer with
          | error error =>
              exact .failed rfl (State.releaseNext_releasing _ _)
          | ok done => exact .release resource rest control
      | _ => simp [step, control] at stepped

/-- Before the pipe: a part of the payload has been written. -/
structure Written
    (setting : Setting)
    (written : Nat)
    (state : State) : Prop where
  file : state.kernel.file = setting.payload.take written
  pipe : state.kernel.pipe = []
  received : state.main.received = []

/-- In the loop that splices: the pipe holds what was moved. -/
structure Splicing (setting : Setting) (state : State) : Prop where
  file : state.kernel.file = setting.payload
  offset : state.main.moved = state.main.inputOffset
  pipe : state.kernel.pipe = setting.payload.take state.main.moved
  within : state.main.moved ≤ setting.size
  fits : state.main.moved ≤ setting.capacity
  received : state.main.received = []

/-- Behind it: what was read and what is left make up the payload. -/
structure Reading (setting : Setting) (state : State) : Prop where
  fits : setting.size ≤ setting.capacity
  offset : state.main.inputOffset = setting.size
  pieces :
    state.main.received ++ state.kernel.pipe = setting.payload

/-- What has been transferred, as the call that `main` is in tells. -/
def State.Position (setting : Setting) (state : State) : Prop :=
  match state.control with
  | .making => Written setting 0 state
  | .unlinking => Written setting 0 state
  | .writing written =>
      Written setting written state ∧ written < setting.size
  | .piping => Written setting setting.size state
  | .splicing =>
      Splicing setting state ∧ state.main.moved < setting.size
  | .closingWriter =>
      Splicing setting state ∧ state.main.moved = setting.size
  | .reading =>
      Reading setting state ∧
        state.main.received.length < setting.size
  | .releasing _ _ | .done => True

section Heads

/-- The cleanup section is always a fine place. -/
theorem State.Position.of_releasing
    (releasing : state.control.Releasing) :
    state.Position setting := by
  unfold Position
  cases control : state.control <;> rw [control] at releasing <;>
    first | exact releasing.elim | trivial

/-- The head of the loop of `write_all`. -/
theorem State.writeHead_position
    {written : Nat}
    (holds : Written setting written state)
    (within : written ≤ setting.size) :
    (state.writeHead setting written).Position setting := by
  unfold writeHead
  by_cases more : written < setting.size
  · rw [if_pos more]
    exact ⟨⟨holds.file, holds.pipe, holds.received⟩, more⟩
  · rw [if_neg more]
    obtain rfl := Nat.le_antisymm within (Nat.not_lt.mp more)
    exact ⟨holds.file, holds.pipe, holds.received⟩

/-- The head of the loop that splices. -/
theorem State.spliceHead_position
    (holds : Splicing setting state) :
    (state.spliceHead setting).Position setting := by
  unfold spliceHead
  by_cases more : state.main.moved < setting.size
  · rw [if_pos more]
    exact ⟨⟨holds.file, holds.offset, holds.pipe, holds.within,
      holds.fits, holds.received⟩, more⟩
  · rw [if_neg more]
    exact ⟨⟨holds.file, holds.offset, holds.pipe, holds.within,
      holds.fits, holds.received⟩,
      Nat.le_antisymm holds.within (Nat.not_lt.mp more)⟩

/-- The head of the loop of `read_all`. -/
theorem State.readHead_position
    (holds : Reading setting state) :
    (state.readHead setting).Position setting := by
  unfold readHead
  by_cases more : state.main.received.length < setting.size
  · rw [if_pos more]
    exact ⟨⟨holds.fits, holds.offset, holds.pieces⟩, more⟩
  · rw [if_neg more]
    unfold verdict
    split <;> exact .of_releasing (releaseNext_releasing _ _)

end Heads

/-- A write goes on where the last one has stopped. -/
theorem Written.append
    {written count : Nat}
    (holds : Written setting written state) :
    Written setting (written + count)
      (state.appended setting written (.ok count)) := by
  refine ⟨?_, holds.pipe, holds.received⟩
  rw [List.take_add, ← holds.file]
  rfl

/-- The pipe holds as much as was moved. -/
theorem Splicing.pipe_length
    (holds : Splicing setting state) :
    state.kernel.pipe.length = state.main.moved := by
  rw [holds.pipe]
  exact List.length_take_of_le holds.within

/-- A splice goes on too, and moves at most what the pipe has room for. -/
theorem Splicing.append
    {count : Nat}
    (holds : Splicing setting state)
    (asked : count ≤ state.unmoved setting)
    (room : count ≤ state.room setting) :
    Splicing setting
      { kernel :=
          { state.kernel with
            pipe := state.kernel.pipe ++ state.unspliced.take count }
        main :=
          { state.main with
            inputOffset := state.main.inputOffset + count
            moved := state.main.moved + count }
        control := state.control } := by
  have within := holds.within
  have held := holds.pipe_length
  unfold State.unmoved at asked
  unfold State.room at room
  constructor
  case file => exact holds.file
  case offset => exact congrArg (· + count) holds.offset
  case pipe =>
    rw [List.take_add, ← holds.pipe, holds.offset, ← holds.file]
    rfl
  case within =>
    show state.main.moved + count ≤ setting.size
    omega
  case fits =>
    have fits := holds.fits
    show state.main.moved + count ≤ setting.capacity
    omega
  case received => exact holds.received

/-- Once all of it was moved, all of it is in the pipe. -/
theorem Splicing.close
    (holds : Splicing setting state)
    (complete : state.main.moved = setting.size) :
    Reading setting
      { state with
        kernel := { state.kernel with writerOpen := false }
        main := { state.main with writerFd := -1 } } := by
  constructor
  case fits => exact complete ▸ holds.fits
  case offset => exact holds.offset.symm.trans complete
  case pieces =>
    show state.main.received ++ state.kernel.pipe = setting.payload
    rw [holds.received, holds.pipe, complete]
    exact List.take_length

/-- A read takes off the pipe what it adds to the buffer. -/
theorem Reading.take
    {bytes : List UInt8}
    (holds : Reading setting state)
    (front : bytes <+: state.kernel.pipe) :
    Reading setting
      { kernel :=
          { state.kernel with
            pipe := state.kernel.pipe.drop bytes.length }
        main :=
          { state.main with received := state.main.received ++ bytes }
        control := state.control } := by
  refine ⟨holds.fits, holds.offset, ?_⟩
  obtain ⟨rest, split⟩ := front
  have pieces := holds.pieces
  rw [← split] at pieces ⊢
  simpa using pieces

/-- The transfers go on where they are in every step. -/
theorem State.Position.step
    (position : state.Position setting)
    (stepped : step setting state label = some next) :
    next.Position setting := by
  unfold State.Position at position
  cases step_cases stepped with
  | failed fails releasing => exact .of_releasing releasing
  | make fd control =>
      rw [control] at position
      exact ⟨position.file, position.pipe, position.received⟩
  | unlink control =>
      rw [control] at position
      refine writeHead_position ?_ (Nat.zero_le _)
      exact ⟨position.file, position.pipe, position.received⟩
  | writeInterrupted written control =>
      rw [control] at position
      exact writeHead_position position.1 (Nat.le_of_lt position.2)
  | write written count control positive given =>
      rw [control] at position
      refine writeHead_position position.1.append ?_
      rw [List.length_drop] at given
      exact Nat.add_le_of_le_sub' (Nat.le_of_lt position.2) given
  | pipe fds control =>
      rw [control] at position
      refine spliceHead_position ⟨?_, rfl, position.pipe, Nat.zero_le _,
        Nat.zero_le _, position.received⟩
      exact position.file.trans (List.take_length)
  | spliceInterrupted control =>
      rw [control] at position
      exact spliceHead_position position.1
  | splice count control positive asked room =>
      rw [control] at position
      exact spliceHead_position (position.1.append asked room)
  | closeWriter control =>
      rw [control] at position
      exact readHead_position (position.1.close position.2)
  | readInterrupted control =>
      rw [control] at position
      exact readHead_position position.1
  | read bytes control some front =>
      rw [control] at position
      exact readHead_position (position.1.take front)
  | release resource rest control =>
      exact .of_releasing (state.releaseNext_releasing rest)

/-- They are somewhere in every run. -/
theorem State.Position.run
    (accepted : (system setting).run labels = some state) :
    state.Position setting :=
  System.run_invariant (fun _ state => state.Position setting)
    ⟨rfl, rfl, rfl⟩ (fun position stepped => position.step stepped)
    accepted

end AdvanceUnix.ZeroCopy
