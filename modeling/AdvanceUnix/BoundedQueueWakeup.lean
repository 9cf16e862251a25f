import AdvanceUnix.BoundedQueueInvariant

namespace AdvanceUnix.Threads

open Transition

/-!
# No lost wakeup in the bounded queue

A thread that is asleep and not woken still has a true wait predicate, since
every section that could make it false signals that thread.  The two wait
predicates exclude each other, and each excludes that the partner is done, so
some thread can always take a step of its own.
-/

/-- A label that only the environment's spurious wakeups carry. -/
def Label.IsSpurious : Label → Prop
  | .spurious _ => True
  | _ => False

namespace Scheduled

variable {capacity itemCount : Nat} {state : State}

/-- The wait predicates of the two roles exclude each other. -/
theorem not_both_sleeping
    (scheduled : Scheduled capacity itemCount state)
    (positive : 0 < capacity) :
    ¬ (state.control .producer = .sleeping ∧
      state.control .consumer = .sleeping) := by
  rintro ⟨producerAsleep, consumerAsleep⟩
  have full : state.queue.count = capacity :=
    scheduled.asleep .producer producerAsleep
  have empty : state.queue.count = 0 :=
    scheduled.asleep .consumer consumerAsleep
  omega

/-- A finished partner has made the sleeper's wait predicate impossible. -/
theorem not_sleeping_of_partner_finished
    (scheduled : Scheduled capacity itemCount state)
    (shape : state.queue.Shape capacity)
    (positive : 0 < capacity)
    {role : Role}
    (partnerFinished : state.control role.partner = .finished) :
    state.control role ≠ .sleeping := by
  intro asleep
  have balance := shape.balance
  have unfinished : role.progress state.queue ≠ itemCount := by
    intro complete
    have finished := (scheduled.finishedProgress role).mpr complete
    simp [asleep] at finished
  have bound := scheduled.progressBound role
  have partnerDone :=
    (scheduled.finishedProgress role.partner).mp partnerFinished
  have blocked := scheduled.asleep role asleep
  cases role with
  | producer =>
      -- The consumer has taken every item, yet the queue is full.
      simp only [Role.mustWait, Role.partner, Role.progress] at *
      omega
  | consumer =>
      -- Every item was produced and none is left, yet some are not taken.
      simp only [Role.mustWait, Role.partner, Role.progress] at *
      omega

/-- The holder of the mutex can finish its critical section or wait. -/
theorem enabled_of_holder
    (role : Role)
    (holds : state.control role = .checking) :
    ∃ label,
      ¬ label.IsSpurious ∧
        (system capacity itemCount).Enabled state label := by
  by_cases blocked : role.mustWait capacity state.queue
  · exact ⟨.wait role, id, state.wait role,
      by simp [system, step, holds, blocked]⟩
  · cases role with
    | producer =>
        refine ⟨.put (state.counter .producer), id,
          state.release itemCount .producer
            (state.queue.put capacity (state.counter .producer)), ?_⟩
        simp [system, step, holds, blocked]
    | consumer =>
        refine ⟨.take state.queue.front, id,
          state.release itemCount .consumer
            (state.queue.take capacity), ?_⟩
        simp [system, step, holds, blocked]

/-- With the mutex free, a thread before its lock or woken can take it. -/
theorem enabled_of_awake
    (role : Role)
    (free : state.mutex = none)
    (awake :
      state.control role = .locking ∨ state.control role = .woken) :
    ∃ label,
      ¬ label.IsSpurious ∧
        (system capacity itemCount).Enabled state label := by
  rcases awake with locking | woken
  · exact ⟨.lock role, id, state.acquire role,
      by simp [system, step, free, locking]⟩
  · exact ⟨.reacquire role, id, state.acquire role,
      by simp [system, step, free, woken]⟩

/-- While a thread is unfinished, some thread can take a step of its own. -/
theorem progress
    (scheduled : Scheduled capacity itemCount state)
    (shape : state.queue.Shape capacity)
    (positive : 0 < capacity)
    {role : Role}
    (unfinished : state.control role ≠ .finished) :
    ∃ label,
      ¬ label.IsSpurious ∧
        (system capacity itemCount).Enabled state label := by
  cases held : state.mutex with
  | some holder =>
      exact enabled_of_holder holder ((scheduled.owner holder).mpr held)
  | none =>
      have notChecking : ∀ any, state.control any ≠ .checking := by
        intro any checking
        have holds := (scheduled.owner any).mp checking
        simp [held] at holds
      have sleeping_of_not_awake :
          ∀ any,
            state.control any ≠ .finished →
            ¬ (state.control any = .locking ∨
              state.control any = .woken) →
            state.control any = .sleeping := by
        intro any anyUnfinished notAwake
        cases at_ : state.control any <;>
          simp_all
      by_cases awake :
          state.control role = .locking ∨ state.control role = .woken
      · exact enabled_of_awake role held awake
      · have asleep :=
          sleeping_of_not_awake role unfinished awake
        have partnerUnfinished :
            state.control role.partner ≠ .finished := by
          intro partnerFinished
          exact scheduled.not_sleeping_of_partner_finished
            shape positive partnerFinished asleep
        by_cases partnerAwake :
            state.control role.partner = .locking ∨
              state.control role.partner = .woken
        · exact enabled_of_awake role.partner held partnerAwake
        · have partnerAsleep :=
            sleeping_of_not_awake role.partner
              partnerUnfinished partnerAwake
          have excluded := scheduled.not_both_sleeping positive
          cases role
          · exact (excluded ⟨asleep, partnerAsleep⟩).elim
          · exact (excluded ⟨partnerAsleep, asleep⟩).elim

end Scheduled

/--
No reachable state is stuck: while a thread is unfinished a step other than a
spurious wakeup is enabled, the two threads never sleep unwoken together, and
none sleeps unwoken once its partner has finished.
-/
theorem no_lost_wakeup
    {capacity itemCount : Nat}
    (positive : 0 < capacity)
    {state : State}
    (reachable : (system capacity itemCount).Reachable state) :
    ((∃ role, state.control role ≠ .finished) →
        ∃ label,
          ¬ label.IsSpurious ∧
            (system capacity itemCount).Enabled state label) ∧
      ¬ (state.control .producer = .sleeping ∧
        state.control .consumer = .sleeping) ∧
      ∀ role : Role,
        state.control role.partner = .finished →
        state.control role ≠ .sleeping := by
  obtain ⟨labels, accepted⟩ := reachable
  have invariant := Invariant.run positive accepted
  refine ⟨?_, invariant.scheduled.not_both_sleeping positive, ?_⟩
  · rintro ⟨role, unfinished⟩
    exact invariant.scheduled.progress
      invariant.shape positive unfinished
  · intro role partnerFinished
    exact invariant.scheduled.not_sleeping_of_partner_finished
      invariant.shape positive partnerFinished

/-- The consumer of a one-item queue asleep, and the producer still to run. -/
theorem no_lost_wakeup_consumerAsleep :
    ∃ state,
      (system 1 1).run [.lock .consumer, .wait .consumer] = some state ∧
        state.control .consumer = .sleeping ∧
        ∃ label,
          ¬ label.IsSpurious ∧ (system 1 1).Enabled state label :=
  ⟨_, rfl, rfl,
    (no_lost_wakeup (by decide)
      ⟨[.lock .consumer, .wait .consumer], rfl⟩).1
      ⟨.consumer, by decide⟩⟩

end AdvanceUnix.Threads
