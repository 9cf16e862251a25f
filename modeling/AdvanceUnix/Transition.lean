import Mathlib.Logic.Function.Basic

namespace Transition

/-!
# Executable labelled transition systems

A system is one initial state and a partial step function.  The label of a
step carries every choice that the environment makes in it, so a run is the
list of its labels and can be evaluated.  The induction over runs is packaged
here once: an invariant may relate a state to the labels that led to it.
-/

/-- One initial state and a step function that refuses disabled labels. -/
structure System (State Label : Type) where
  initial : State
  step : State → Label → Option State

namespace System

variable {State Label : Type} (system : System State Label)

/-- Follow a list of labels from a given state. -/
def runFrom : State → List Label → Option State
  | state, [] =>
      some state
  | state, label :: rest =>
      match system.step state label with
      | none => none
      | some next => runFrom next rest

/-- Follow a list of labels from the initial state. -/
def run (labels : List Label) : Option State :=
  system.runFrom system.initial labels

/-- A state that some run reaches. -/
def Reachable (state : State) : Prop :=
  ∃ labels, system.run labels = some state

/-- A label is enabled when its step is not refused. -/
def Enabled (state : State) (label : Label) : Prop :=
  ∃ next, system.step state label = some next

variable {system}

/-- A run over a cons is one step followed by the rest. -/
theorem runFrom_cons
    {state final : State}
    {label : Label}
    {rest : List Label}
    (accepted :
      system.runFrom state (label :: rest) = some final) :
    ∃ next,
      system.step state label = some next ∧
        system.runFrom next rest = some final := by
  unfold runFrom at accepted
  cases stepped : system.step state label with
  | none =>
      simp [stepped] at accepted
  | some next =>
      exact ⟨next, rfl, by simpa [stepped] using accepted⟩

/-- A run passes through the state after any of its beginnings. -/
theorem runFrom_split
    {state final : State}
    {leading trailing : List Label}
    (accepted :
      system.runFrom state (leading ++ trailing) = some final) :
    ∃ middle,
      system.runFrom state leading = some middle ∧
        system.runFrom middle trailing = some final := by
  induction leading generalizing state with
  | nil =>
      exact ⟨state, rfl, accepted⟩
  | cons label rest inductionHypothesis =>
      obtain ⟨next, stepped, later⟩ := runFrom_cons accepted
      obtain ⟨middle, before, after⟩ := inductionHypothesis later
      exact ⟨middle, by simpa [runFrom, stepped] using before, after⟩

/-- A run goes on with one more step. -/
theorem runFrom_snoc
    {state final next : State}
    {labels : List Label}
    {label : Label}
    (accepted : system.runFrom state labels = some final)
    (stepped : system.step final label = some next) :
    system.runFrom state (labels ++ [label]) = some next := by
  induction labels generalizing state with
  | nil =>
      obtain rfl := Option.some.inj accepted
      simp [runFrom, stepped]
  | cons first rest inductionHypothesis =>
      obtain ⟨middle, steppedFirst, later⟩ := runFrom_cons accepted
      simpa [runFrom, steppedFirst] using inductionHypothesis later

/--
A property of the labels so far and the current state holds along a run when
every step preserves it.
-/
theorem runFrom_invariant
    {invariant : List Label → State → Prop}
    (preserved :
      ∀ {done state label next},
        invariant done state →
        system.step state label = some next →
        invariant (done ++ [label]) next)
    {done labels : List Label}
    {state final : State}
    (holds : invariant done state)
    (accepted : system.runFrom state labels = some final) :
    invariant (done ++ labels) final := by
  induction labels generalizing done state with
  | nil =>
      simp only [runFrom, Option.some.injEq] at accepted
      subst final
      simpa using holds
  | cons label rest inductionHypothesis =>
      obtain ⟨next, stepped, later⟩ := runFrom_cons accepted
      simpa using
        inductionHypothesis (preserved holds stepped) later

/-- The same from the initial state, with no labels done. -/
theorem run_invariant
    (invariant : List Label → State → Prop)
    (initially : invariant [] system.initial)
    (preserved :
      ∀ {done state label next},
        invariant done state →
        system.step state label = some next →
        invariant (done ++ [label]) next)
    {labels : List Label}
    {final : State}
    (accepted : system.run labels = some final) :
    invariant labels final := by
  simpa using runFrom_invariant preserved initially accepted

/-- The same for the runs in which every label is allowed. -/
theorem run_allowed_invariant
    {allowed : Label → Prop}
    (invariant : List Label → State → Prop)
    (initially : invariant [] system.initial)
    (preserved :
      ∀ {done state label next},
        invariant done state →
        allowed label →
        system.step state label = some next →
        invariant (done ++ [label]) next)
    {labels : List Label}
    {final : State}
    (accepted : system.run labels = some final)
    (each : ∀ label ∈ labels, allowed label) :
    invariant labels final := by
  refine run_invariant
    (fun done state =>
      (∀ label ∈ done, allowed label) → invariant done state)
    (fun _ => initially) ?_ accepted each
  intro done state label next holds stepped all
  have earlier := holds fun other member =>
    all other (List.mem_append_left [label] member)
  exact preserved earlier
    (all label (List.mem_append_right done (.head _))) stepped

/--
Whatever happens, a target is reached: it is reached already, or some allowed
step changes the state and every one that does leads on.  A step that leaves
the state as it is may come any number of times and says nothing.
-/
inductive Inevitable
    (system : System State Label)
    (allowed : Label → Prop)
    (target : State → Prop) : State → Prop where
  | reached
      {state : State}
      (here : target state) :
      Inevitable system allowed target state
  | advance
      {state : State}
      (possible :
        ∃ label next,
          allowed label ∧
            system.step state label = some next ∧
            next ≠ state)
      (leads :
        ∀ label next,
          allowed label →
          system.step state label = some next →
          next ≠ state →
          Inevitable system allowed target next) :
      Inevitable system allowed target state

/--
The rule for it: an invariant under which some step is possible as long as
the target is not reached, and a measure that every step decreases but the
idle ones, which change nothing.
-/
theorem Inevitable.of_measure
    {allowed : Label → Prop}
    {target : State → Prop}
    (invariant : State → Prop)
    (idle : Label → Prop)
    (measure : State → Nat)
    (possible :
      ∀ {state},
        invariant state →
        ¬ target state →
        ∃ label next,
          allowed label ∧ ¬ idle label ∧
            system.step state label = some next)
    (unchanged :
      ∀ {state label next},
        invariant state →
        idle label →
        system.step state label = some next →
        next = state)
    (preserved :
      ∀ {state label next},
        invariant state →
        allowed label →
        system.step state label = some next →
        invariant next)
    (decreases :
      ∀ {state label next},
        invariant state →
        allowed label →
        ¬ idle label →
        system.step state label = some next →
        measure next < measure state)
    {state : State}
    (holds : invariant state) :
    Inevitable system allowed target state := by
  generalize bounded : measure state = bound
  induction bound using Nat.strongRecOn generalizing state with
  | _ bound inductionHypothesis =>
      subst bounded
      by_cases here : target state
      · exact .reached here
      · apply Inevitable.advance
        · obtain ⟨label, next, permitted, busy, stepped⟩ :=
            possible holds here
          have less := decreases holds permitted busy stepped
          refine ⟨label, next, permitted, stepped, ?_⟩
          rintro rfl
          exact Nat.lt_irrefl _ less
        · intro label next permitted stepped changed
          have busy : ¬ idle label := fun rests =>
            changed (unchanged holds rests stepped)
          exact inductionHypothesis (measure next)
            (decreases holds permitted busy stepped)
            (preserved holds permitted stepped) rfl

end System

end Transition
