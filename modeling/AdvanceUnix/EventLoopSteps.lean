import AdvanceUnix.EventLoop

namespace AdvanceUnix.EventLoop

open Transition

/-!
# The steps of the event loop

Each transition is named once, with its guard and the state after it.  What
`main` does between two calls, in a batch or in the cleanup section, changes
no counter and no flag.
-/

variable {setting : Setting} {state next : State} {label : Label}

/-- What a step can do. -/
inductive EventLoopStep
    (setting : Setting)
    (state : State) : Label → State → Prop where
  | fire
      (armed : state.kernel.armed = true) :
      EventLoopStep setting state .fire
        { state with kernel := state.kernel.fire }
  | createFailed
      (descriptor : Descriptor)
      (error : Errno)
      (control : state.control = .creating descriptor) :
      EventLoopStep setting state (.created (.error error)) state.cleanup
  | create
      (descriptor : Descriptor)
      (fd : Fd)
      (control : state.control = .creating descriptor)
      (valid : 0 ≤ fd) :
      EventLoopStep setting state (.created (.ok fd))
        (state.created descriptor (.ok fd))
  | addFailed
      (source : Source)
      (error : Errno)
      (control : state.control = .adding source) :
      EventLoopStep setting state (.added (.error error)) state.cleanup
  | add
      (source : Source)
      (control : state.control = .adding source) :
      EventLoopStep setting state (.added (.ok ()))
        (state.added source (.ok ()))
  | setTimeFailed
      (error : Errno)
      (control : state.control = .settingTime) :
      EventLoopStep setting state (.timeSet (.error error)) state.cleanup
  | setTime
      (control : state.control = .settingTime) :
      EventLoopStep setting state (.timeSet (.ok ()))
        (state.timeSet (.ok ()))
  | writeInterrupted
      (control : state.control = .writing) :
      EventLoopStep setting state (.wrote (.error .eintr)) state
  | writeFailed
      (error : Errno)
      (control : state.control = .writing)
      (permanent : error ≠ .eintr) :
      EventLoopStep setting state (.wrote (.error error)) state.cleanup
  | write
      (control : state.control = .writing) :
      EventLoopStep setting state (.wrote (.ok 8))
        (State.handle setting
          { state with kernel := state.kernel.written setting.wakeValue }
          [])
  | waitInterrupted
      (control : state.control = .waiting) :
      EventLoopStep setting state (.waited (.error .eintr)) state
  | waitFailed
      (error : Errno)
      (control : state.control = .waiting)
      (permanent : error ≠ .eintr) :
      EventLoopStep setting state (.waited (.error error)) state.cleanup
  | timedOut
      (control : state.control = .waiting) :
      EventLoopStep setting state (.waited (.ok [])) state.cleanup
  | report
      (sources : List Source)
      (control : state.control = .waiting)
      (some : sources ≠ [])
      (readable :
        ∀ source ∈ sources, state.kernel.pending source ≠ 0) :
      EventLoopStep setting state (.waited (.ok sources))
        (state.handle setting sources)
  | readInterrupted
      (source : Source)
      (rest : List Source)
      (control : state.control = .reading source rest) :
      EventLoopStep setting state (.readBack source (.error .eintr)) state
  | readFailed
      (source : Source)
      (rest : List Source)
      (error : Errno)
      (control : state.control = .reading source rest)
      (permanent : error ≠ .eintr)
      (nothing : error = .eagain → state.kernel.pending source = 0) :
      EventLoopStep setting state (.readBack source (.error error))
        state.cleanup
  | read
      (source : Source)
      (rest : List Source)
      (control : state.control = .reading source rest)
      (something : state.kernel.pending source ≠ 0) :
      EventLoopStep setting state
        (.readBack source (.ok (8, state.kernel.pending source)))
        (State.handle setting
          { state with
            kernel := state.kernel.drained source
            main := state.main.see (state.kernel.pending source) source }
          rest)
  | closeFailed
      (descriptor : Descriptor)
      (rest : List Descriptor)
      (error : Errno)
      (control : state.control = .closing descriptor rest) :
      EventLoopStep setting state (.closed (.error error))
        (state.closed rest (.error error))
  | close
      (descriptor : Descriptor)
      (rest : List Descriptor)
      (control : state.control = .closing descriptor rest) :
      EventLoopStep setting state (.closed (.ok ())) (state.closeNext rest)

/-- Every step is one of them. -/
theorem step_cases
    (stepped : step setting state label = some next) :
    EventLoopStep setting state label next := by
  cases label with
  | fire =>
      simp only [step, Option.ite_none_right_eq_some, Option.some.injEq]
        at stepped
      obtain ⟨armed, rfl⟩ := stepped
      exact .fire armed
  | created answer =>
      cases control : state.control with
      | creating descriptor =>
          simp only [step, control, Option.ite_none_right_eq_some,
            Option.some.injEq] at stepped
          obtain ⟨valid, rfl⟩ := stepped
          cases answer with
          | error error => exact .createFailed descriptor error control
          | ok fd => exact .create descriptor fd control valid
      | _ => simp [step, control] at stepped
  | added answer =>
      cases control : state.control with
      | adding source =>
          simp only [step, control, Option.some.injEq] at stepped
          subst next
          cases answer with
          | error error => exact .addFailed source error control
          | ok done => exact .add source control
      | _ => simp [step, control] at stepped
  | timeSet answer =>
      cases control : state.control with
      | settingTime =>
          simp only [step, control, Option.some.injEq] at stepped
          subst next
          cases answer with
          | error error => exact .setTimeFailed error control
          | ok done => exact .setTime control
      | _ => simp [step, control] at stepped
  | wrote answer =>
      simp only [step, Option.ite_none_right_eq_some, Option.some.injEq]
        at stepped
      obtain ⟨⟨control, allowed⟩, rfl⟩ := stepped
      cases answer with
      | error error =>
          by_cases interrupted : error = .eintr
          · subst interrupted
            exact .writeInterrupted control
          · simp only [State.wrote, State.writeCounter, interrupted,
              ↓reduceIte]
            exact .writeFailed error control interrupted
      | ok count =>
          obtain ⟨rfl, _⟩ := allowed
          exact .write control
  | waited answer =>
      simp only [step, Option.ite_none_right_eq_some, Option.some.injEq]
        at stepped
      obtain ⟨⟨control, allowed⟩, rfl⟩ := stepped
      cases answer with
      | error error =>
          by_cases interrupted : error = .eintr
          · subst interrupted
            exact .waitInterrupted control
          · simp only [State.waited, interrupted, ↓reduceIte]
            exact .waitFailed error control interrupted
      | ok sources =>
          cases sources with
          | nil => exact .timedOut control
          | cons source rest =>
              refine .report (source :: rest) control
                (List.cons_ne_nil source rest) ?_
              exact fun reported member => (allowed.2 reported member).2
  | readBack source answer =>
      cases control : state.control with
      | reading expected rest =>
          simp only [step, control, Option.ite_none_right_eq_some,
            Option.some.injEq] at stepped
          obtain ⟨⟨rfl, allowed⟩, rfl⟩ := stepped
          cases answer with
          | error error =>
              by_cases interrupted : error = .eintr
              · subst interrupted
                exact .readInterrupted source rest control
              · simp only [State.readBack, State.readCounter, interrupted,
                  ↓reduceIte]
                exact .readFailed source rest error control interrupted
                  allowed
          | ok taken =>
              obtain ⟨count, value⟩ := taken
              obtain ⟨rfl, something, rfl⟩ := allowed
              exact .read source rest control something
      | _ => simp [step, control] at stepped
  | closed answer =>
      cases control : state.control with
      | closing descriptor rest =>
          simp only [step, control, Option.some.injEq] at stepped
          subst next
          cases answer with
          | error error => exact .closeFailed descriptor rest error control
          | ok done => exact .close descriptor rest control
      | _ => simp [step, control] at stepped

section Effects

/-- Reading takes what was pending. -/
theorem Kernel.pending_drained (kernel : Kernel) (source other : Source) :
    (kernel.drained source).pending other =
      if other = source then 0 else kernel.pending other := by
  cases source <;> cases other <;> rfl

/-- Firing leaves the eventfd alone. -/
theorem Kernel.pending_fire (kernel : Kernel) (source : Source) :
    kernel.fire.pending source =
      if source = .timerfd then kernel.pending source + 1
      else kernel.pending source := by
  cases source <;> rfl

/-- Writing leaves the timer alone. -/
theorem Kernel.pending_written
    (kernel : Kernel)
    (value : BitVec 64)
    (source : Source) :
    (kernel.written value).pending source =
      if source = .eventfd then kernel.pending source + value
      else kernel.pending source := by
  cases source <;> rfl

/-- Seeing one descriptor sets its flag. -/
theorem Main.saw_see
    (main : Main)
    (value : BitVec 64)
    (source other : Source) :
    (main.see value source).saw other =
      if other = source then true else main.saw other := by
  cases source <;> cases other <;> rfl

/-- And its value. -/
theorem Main.value_see
    (main : Main)
    (value : BitVec 64)
    (source other : Source) :
    (main.see value source).value other =
      if other = source then value else main.value other := by
  cases source <;> cases other <;> rfl

/-- A state with the same kernel, flags and values. -/
structure State.Keeps (state next : State) : Prop where
  kernel : next.kernel = state.kernel
  saw : ∀ source, next.main.saw source = state.main.saw source
  value : ∀ source, next.main.value source = state.main.value source

/-- The cleanup section only goes from call to call. -/
theorem State.closeNext_eq
    (state : State)
    (descriptors : List Descriptor) :
    state.closeNext descriptors =
      { state with control := (state.closeNext descriptors).control } := by
  induction descriptors with
  | nil => rfl
  | cons descriptor rest inductionHypothesis =>
      unfold closeNext
      split
      · rfl
      · exact inductionHypothesis

/-- It keeps everything, and so it does with another result. -/
theorem State.closeNext_keeps
    (state : State)
    (result : Exit)
    (descriptors : List Descriptor) :
    state.Keeps
      (closeNext { state with main := { state.main with result := result } }
        descriptors) := by
  rw [closeNext_eq]
  refine ⟨rfl, fun source => ?_, fun source => ?_⟩ <;>
    cases source <;> rfl

/-- The loop over a batch does nothing before its next read. -/
theorem State.handle_keeps
    (setting : Setting)
    (state : State)
    (sources : List Source) :
    state.Keeps (state.handle setting sources) := by
  induction sources with
  | nil =>
      unfold handle loopHead
      split
      · exact ⟨rfl, fun _ => rfl, fun _ => rfl⟩
      · exact state.closeNext_keeps _ _
  | cons source rest inductionHypothesis =>
      unfold handle
      split
      · exact ⟨rfl, fun _ => rfl, fun _ => rfl⟩
      · exact inductionHypothesis

/-- The cleanup section has no other calls. -/
theorem State.closeNext_control
    (state : State)
    (descriptors : List Descriptor) :
    (state.closeNext descriptors).control = .done ∨
      ∃ descriptor rest,
        (state.closeNext descriptors).control = .closing descriptor rest ∧
          rest.length < descriptors.length := by
  induction descriptors with
  | nil => exact .inl rfl
  | cons descriptor rest inductionHypothesis =>
      unfold closeNext
      split
      · exact .inr ⟨descriptor, rest, rfl, Nat.lt_succ_self _⟩
      · refine inductionHypothesis.imp_right ?_
        rintro ⟨closing, later, control, less⟩
        exact ⟨closing, later, control, Nat.lt_succ_of_lt less⟩

/--
After a batch `main` reads what it has not seen yet, or waits because there
is something that it has not seen, or has seen both.
-/
theorem State.handle_cases
    (setting : Setting)
    (state : State)
    (sources : List Source) :
    (∃ skipped source rest,
        sources = skipped ++ source :: rest ∧
          state.main.saw source = false ∧
          state.handle setting sources =
            { state with control := .reading source rest }) ∨
      ((∀ source ∈ sources, state.main.saw source = true) ∧
        (∃ source, state.main.saw source = false) ∧
        state.handle setting sources = { state with control := .waiting }) ∨
      ((∀ source, state.main.saw source = true) ∧
        state.handle setting sources = state.verdict setting) := by
  induction sources with
  | nil =>
      right
      by_cases event : state.main.sawEvent
      · by_cases timer : state.main.sawTimer
        · refine .inr ⟨fun source => ?_, by simp [handle, loopHead, *]⟩
          cases source with
          | eventfd => exact event
          | timerfd => exact timer
        · refine .inl ⟨nofun, ⟨.timerfd, ?_⟩, by simp [handle, loopHead, *]⟩
          exact Bool.eq_false_iff.mpr timer
      · refine .inl ⟨nofun, ⟨.eventfd, ?_⟩, by simp [handle, loopHead, *]⟩
        exact Bool.eq_false_iff.mpr event
  | cons source rest inductionHypothesis =>
      cases saw : state.main.saw source with
      | false =>
          exact .inl ⟨[], source, rest, rfl, saw, by simp [handle, saw]⟩
      | true =>
          have skip :
              state.handle setting (source :: rest) =
                state.handle setting rest := by
            simp [handle, saw]
          rw [skip]
          rcases inductionHypothesis with
            ⟨skipped, unseen, later, rfl, notSeen, reads⟩ |
            ⟨seen, waits⟩ | ends
          · exact .inl ⟨source :: skipped, unseen, later, rfl, notSeen, reads⟩
          · refine .inr (.inl ⟨?_, waits⟩)
            exact List.forall_mem_cons.mpr ⟨saw, seen⟩
          · exact .inr (.inr ends)

end Effects

end AdvanceUnix.EventLoop
