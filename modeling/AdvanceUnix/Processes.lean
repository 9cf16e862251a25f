import AdvanceUnix.CallTree
import Mathlib.Logic.Relation
import Mathlib.Logic.Function.Basic

namespace Processes

open CallTree

/-!
# Processes over a shared kernel

Several call trees run interleaved.  A kernel answers their calls, one at a
time and depending on its own state, and may also change by itself.  The
composition rule takes a monitor for each process and an invariant of the
kernel and the monitors' states: each process may rely on the answers that
its monitor allows and guarantees that its calls are safe.
-/

variable {Call : Type} {Answer : Call → Type} {Role Kernel : Type}
  {Outcome : Role → Type}

/-- A kernel: what it may answer to whom, and how it evolves by itself. -/
structure Rules
    (Answer : Call → Type)
    (Role Kernel : Type) where
  answers :
    Kernel → Role → (request : Call) → Answer request → Kernel → Prop
  evolves : Kernel → Kernel → Prop

/-- What is left of each process, what it has done, and the kernel. -/
structure State
    (Answer : Call → Type)
    (Kernel : Type)
    (Outcome : Role → Type) where
  rest : (role : Role) → Tree Answer (Outcome role)
  events : Role → List (Event Answer)
  kernel : Kernel

/-- The start of some programs over a kernel. -/
def State.start
    (programs : (role : Role) → Tree Answer (Outcome role))
    (kernel : Kernel) : State Answer Kernel Outcome where
  rest := programs
  events := fun _ => []
  kernel := kernel

section Composition

variable {Watch : Role → Type}
  (monitor : (role : Role) → Monitor Answer (Watch role))
  (initial : (role : Role) → Watch role)

/-- The states of the monitors after what the processes have done. -/
def watched
    (events : Role → List (Event Answer))
    (role : Role) : Watch role :=
  (monitor role).after (initial role) (events role)

/--
The contract of the processes: their kernel and monitors satisfy an invariant,
what each has done was safe, and what is left of it is ensured by its monitor.
-/
structure Composed
    (invariant : Kernel → ((role : Role) → Watch role) → Prop)
    (post : (role : Role) → Outcome role → Watch role → Prop)
    (state : State Answer Kernel Outcome) : Prop where
  holds : invariant state.kernel (watched monitor initial state.events)
  history :
    ∀ role, (monitor role).Safe (initial role) (state.events role)
  ensured :
    ∀ role,
      (state.rest role).Ensures (monitor role) (post role)
        (watched monitor initial state.events role)

variable {monitor initial}
  {invariant : Kernel → ((role : Role) → Watch role) → Prop}
  {post : (role : Role) → Outcome role → Watch role → Prop}

/-- The programs start in the contract if their monitors ensure them. -/
theorem Composed.start
    {programs : (role : Role) → Tree Answer (Outcome role)}
    {kernel : Kernel}
    (holds : invariant kernel initial)
    (ensured :
      ∀ role,
        (programs role).Ensures (monitor role) (post role) (initial role)) :
    Composed monitor initial invariant post (.start programs kernel) where
  holds := holds
  history := fun _ => trivial
  ensured := ensured

/-- A process that is about to make a call makes a safe one. -/
theorem Composed.safe
    {state : State Answer Kernel Outcome}
    (composed : Composed monitor initial invariant post state)
    {role : Role}
    {request : Call}
    {next : Answer request → Tree Answer (Outcome role)}
    (position : state.rest role = .call request next) :
    (monitor role).safe (watched monitor initial state.events role)
      request := by
  have ensuredHere := composed.ensured role
  rw [position] at ensuredHere
  exact ensuredHere.1

/-- A process that has returned has established its postcondition. -/
theorem Composed.returned
    {state : State Answer Kernel Outcome}
    (composed : Composed monitor initial invariant post state)
    {role : Role}
    {value : Outcome role}
    (position : state.rest role = .ret value) :
    post role value (watched monitor initial state.events role) := by
  have ensuredHere := composed.ensured role
  rw [position] at ensuredHere
  exact ensuredHere

end Composition

variable [DecidableEq Role]

/-- The state after a process has received an answer. -/
def State.answered
    (state : State Answer Kernel Outcome)
    (role : Role)
    {request : Call}
    (next : Answer request → Tree Answer (Outcome role))
    (answer : Answer request)
    (after : Kernel) : State Answer Kernel Outcome where
  rest := Function.update state.rest role (next answer)
  events :=
    Function.update state.events role
      (state.events role ++ [⟨request, answer⟩])
  kernel := after

section Answered

variable {state : State Answer Kernel Outcome} {role other : Role}
  {request : Call} {next : Answer request → Tree Answer (Outcome role)}
  {answer : Answer request} {after : Kernel}

@[simp]
theorem answered_rest_self :
    (state.answered role next answer after).rest role = next answer :=
  Function.update_self ..

@[simp]
theorem answered_rest_other (different : other ≠ role) :
    (state.answered role next answer after).rest other =
      state.rest other :=
  Function.update_of_ne different ..

@[simp]
theorem answered_events_self :
    (state.answered role next answer after).events role =
      state.events role ++ [⟨request, answer⟩] :=
  Function.update_self ..

@[simp]
theorem answered_events_other (different : other ≠ role) :
    (state.answered role next answer after).events other =
      state.events other :=
  Function.update_of_ne different ..

/-- What a process has done before stays on its record. -/
theorem mem_answered
    {event : Event Answer}
    (member : event ∈ state.events other) :
    event ∈ (state.answered role next answer after).events other := by
  by_cases same : other = role
  · subst same
    rw [answered_events_self]
    exact List.mem_append_left _ member
  · rwa [answered_events_other same]

end Answered

/-- One step: a call of some process is answered, or the kernel evolves. -/
inductive Step (rules : Rules Answer Role Kernel) :
    State Answer Kernel Outcome → State Answer Kernel Outcome → Prop where
  | call
      {state : State Answer Kernel Outcome}
      {after : Kernel}
      (role : Role)
      {request : Call}
      {next : Answer request → Tree Answer (Outcome role)}
      (position : state.rest role = .call request next)
      (answer : Answer request)
      (given : rules.answers state.kernel role request answer after) :
      Step rules state (state.answered role next answer after)
  | evolve
      {state : State Answer Kernel Outcome}
      {after : Kernel}
      (evolved : rules.evolves state.kernel after) :
      Step rules state { state with kernel := after }

/-- Some steps, in any interleaving. -/
abbrev Reaches
    (rules : Rules Answer Role Kernel) :
    State Answer Kernel Outcome → State Answer Kernel Outcome → Prop :=
  Relation.ReflTransGen (Step rules)

namespace Reaches

variable {rules : Rules Answer Role Kernel}
  {first state : State Answer Kernel Outcome}

/-- One more call is answered. -/
theorem call
    (reaches : Reaches rules first state)
    (role : Role)
    {request : Call}
    {next : Answer request → Tree Answer (Outcome role)}
    (position : state.rest role = .call request next)
    (answer : Answer request)
    {after : Kernel}
    (given : rules.answers state.kernel role request answer after) :
    Reaches rules first (state.answered role next answer after) :=
  .tail reaches (.call role position answer given)

/-- The kernel evolves once more. -/
theorem evolve
    (reaches : Reaches rules first state)
    {after : Kernel}
    (evolved : rules.evolves state.kernel after) :
    Reaches rules first { state with kernel := after } :=
  .tail reaches (.evolve evolved)

end Reaches

section Preservation

variable {Watch : Role → Type}
  {monitor : (role : Role) → Monitor Answer (Watch role)}
  {initial : (role : Role) → Watch role}
  {rules : Rules Answer Role Kernel}
  {invariant : Kernel → ((role : Role) → Watch role) → Prop}
  {post : (role : Role) → Outcome role → Watch role → Prop}

/-- The monitors follow the process that was answered. -/
theorem watched_answered
    (state : State Answer Kernel Outcome)
    (role : Role)
    {request : Call}
    (next : Answer request → Tree Answer (Outcome role))
    (answer : Answer request)
    (after : Kernel) :
    watched monitor initial (state.answered role next answer after).events =
      Function.update (watched monitor initial state.events) role
        ((monitor role).next (watched monitor initial state.events role)
          request answer) := by
  funext other
  by_cases same : other = role
  · subst same
    rw [watched, answered_events_self, Function.update_self,
      Monitor.after_append]
    rfl
  · rw [watched, answered_events_other same, Function.update_of_ne same]
    rfl

/--
The step lemma: a kernel that keeps the invariant and answers safe calls as
the monitors allow keeps the contract.
-/
theorem Composed.step
    (answered :
      ∀ {kernel watch role request answer after},
        invariant kernel watch →
        (monitor role).safe (watch role) request →
        rules.answers kernel role request answer after →
        (monitor role).allows (watch role) request answer ∧
          invariant after
            (Function.update watch role
              ((monitor role).next (watch role) request answer)))
    (evolved :
      ∀ {kernel watch after},
        invariant kernel watch →
        rules.evolves kernel after →
        invariant after watch)
    {state next : State Answer Kernel Outcome}
    (composed : Composed monitor initial invariant post state)
    (step : Step rules state next) :
    Composed monitor initial invariant post next := by
  cases step with
  | evolve change =>
      exact ⟨evolved composed.holds change, composed.history,
        composed.ensured⟩
  | @call after role request continuation position answer given =>
      have ensuredHere := composed.ensured role
      rw [position] at ensuredHere
      obtain ⟨allowed, kept⟩ :=
        answered composed.holds ensuredHere.1 given
      constructor
      · rw [watched_answered]
        exact kept
      · intro other
        by_cases same : other = role
        · subst same
          rw [answered_events_self]
          exact (monitor other).safe_append.mpr
            ⟨composed.history other, ensuredHere.1, trivial⟩
        · rw [answered_events_other same]
          exact composed.history other
      · intro other
        rw [watched_answered]
        by_cases same : other = role
        · subst same
          rw [answered_rest_self, Function.update_self]
          exact ensuredHere.2 answer allowed
        · rw [answered_rest_other same, Function.update_of_ne same]
          exact composed.ensured other

/-- The run lemma: the contract holds of every state that is reached. -/
theorem Composed.reaches
    (answered :
      ∀ {kernel watch role request answer after},
        invariant kernel watch →
        (monitor role).safe (watch role) request →
        rules.answers kernel role request answer after →
        (monitor role).allows (watch role) request answer ∧
          invariant after
            (Function.update watch role
              ((monitor role).next (watch role) request answer)))
    (evolved :
      ∀ {kernel watch after},
        invariant kernel watch →
        rules.evolves kernel after →
        invariant after watch)
    {state final : State Answer Kernel Outcome}
    (composed : Composed monitor initial invariant post state)
    (reaches : Reaches rules state final) :
    Composed monitor initial invariant post final := by
  induction reaches with
  | refl =>
      exact composed
  | tail _ step inductionHypothesis =>
      exact inductionHypothesis.step answered evolved step

/-- What the processes of a state that is reached were answered is legal. -/
theorem Composed.legal
    (answered :
      ∀ {kernel watch role request answer after},
        invariant kernel watch →
        (monitor role).safe (watch role) request →
        rules.answers kernel role request answer after →
        (monitor role).allows (watch role) request answer ∧
          invariant after
            (Function.update watch role
              ((monitor role).next (watch role) request answer)))
    (evolved :
      ∀ {kernel watch after},
        invariant kernel watch →
        rules.evolves kernel after →
        invariant after watch)
    {programs : (role : Role) → Tree Answer (Outcome role)}
    {kernel : Kernel}
    {final : State Answer Kernel Outcome}
    (composed :
      Composed monitor initial invariant post (.start programs kernel))
    (reaches : Reaches rules (.start programs kernel) final)
    (role : Role) :
    (monitor role).Legal (initial role) (final.events role) := by
  induction reaches with
  | refl =>
      trivial
  | @tail state next before step inductionHypothesis =>
      cases step with
      | evolve change =>
          exact inductionHypothesis
      | @call after other request continuation position answer given =>
          have here := composed.reaches answered evolved before
          by_cases same : role = other
          · subst same
            rw [answered_events_self]
            apply (monitor role).legal_append.mpr
            exact ⟨inductionHypothesis,
              (answered here.holds (here.safe position) given).1, trivial⟩
          · rw [answered_events_other same]
            exact inductionHypothesis

end Preservation

end Processes
