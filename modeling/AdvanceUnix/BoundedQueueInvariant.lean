import AdvanceUnix.BoundedQueue
import Mathlib.Tactic.Ring

namespace AdvanceUnix.Threads

open Transition

/-!
# Safety of the bounded queue

The queue's own invariant (`Shape`) is preserved by `put` and `take` whatever
the threads do; the thread invariant (`Scheduled`) ties the loop variables,
the control positions and the mutex to the counters of the queue.  Together
with the history of taken values they give what `main` checks at the end.
-/

/-- The values `1, ..., count` in order. -/
def firstValues (count : Nat) : List Nat :=
  List.range' 1 count

/-- One more value extends the list at its end. -/
theorem firstValues_succ (count : Nat) :
    firstValues (count + 1) = firstValues count ++ [count + 1] := by
  simp [firstValues, List.range'_concat, Nat.add_comm]

/-- The sum of the first values, as `main` computes the expected one. -/
theorem sum_firstValues (count : Nat) :
    (firstValues count).sum = count * (count + 1) / 2 := by
  have doubled :
      2 * (firstValues count).sum = count * (count + 1) := by
    induction count with
    | zero =>
        rfl
    | succ count inductionHypothesis =>
        rw [firstValues_succ, List.sum_append, Nat.mul_add,
          inductionHypothesis]
        simp only [List.sum_cons, List.sum_nil]
        ring
  omega

/-- What the counters and the slots of the queue say about each other. -/
structure Queue.Shape (capacity : Nat) (queue : Queue) : Prop where
  headInRange : queue.head < capacity
  tailSlot : queue.tail = (queue.head + queue.count) % capacity
  countBound : queue.count ≤ capacity
  balance : queue.produced = queue.consumed + queue.count
  contents :
    RingWindow.window queue.items capacity queue.head queue.count =
      List.range' (queue.consumed + 1) queue.count
  sum : queue.consumedSum = (firstValues queue.consumed).sum

namespace Queue.Shape

/-- The static queue of `main` is empty and well formed. -/
theorem zero
    {capacity : Nat}
    (positive : 0 < capacity) :
    Queue.zero.Shape capacity where
  headInRange := positive
  tailSlot := by simp [Queue.zero]
  countBound := Nat.zero_le capacity
  balance := rfl
  contents := rfl
  sum := rfl

/-- The tail index is always a slot of the array. -/
theorem tailInRange
    {capacity : Nat}
    {queue : Queue}
    (shape : queue.Shape capacity) :
    queue.tail < capacity := by
  rw [shape.tailSlot]
  exact Nat.mod_lt _ (Nat.zero_lt_of_lt shape.headInRange)

/-- The slot that `put` writes holds no value still waiting. -/
theorem tail_free
    {capacity : Nat}
    {queue : Queue}
    (shape : queue.Shape capacity)
    (space : queue.count ≠ capacity)
    {offset : Nat}
    (occupied : offset < queue.count) :
    queue.tail ≠ (queue.head + offset) % capacity := by
  have bound := shape.countBound
  rw [shape.tailSlot]
  exact RingWindow.free_slot_ne (by omega) occupied

/-- The front of a nonempty queue is the next value to consume. -/
theorem front_eq
    {capacity : Nat}
    {queue : Queue}
    (shape : queue.Shape capacity)
    (nonempty : queue.count ≠ 0) :
    queue.front = queue.consumed + 1 := by
  obtain ⟨count, countShape⟩ := Nat.exists_eq_succ_of_ne_zero nonempty
  have contents := shape.contents
  rw [countShape, RingWindow.window_pop _ shape.headInRange,
    List.range'_succ] at contents
  exact (List.cons.inj contents).1

/-- Storing the next value keeps the shape. -/
theorem put
    {capacity : Nat}
    {queue : Queue}
    (shape : queue.Shape capacity)
    (space : queue.count ≠ capacity) :
    (queue.put capacity (queue.produced + 1)).Shape capacity where
  headInRange := shape.headInRange
  tailSlot := by
    simp only [Queue.put, shape.tailSlot, Nat.mod_add_mod, Nat.add_assoc]
  countBound := by
    have bound := shape.countBound
    simp only [Queue.put]
    omega
  balance := by
    have balance := shape.balance
    simp only [Queue.put]
    omega
  contents := by
    have bound := shape.countBound
    have balance := shape.balance
    simp only [Queue.put, shape.tailSlot]
    rw [RingWindow.window_push _ (by omega), shape.contents,
      List.range'_concat]
    congr 2
    omega
  sum := shape.sum

/-- Consuming the front keeps the shape. -/
theorem take
    {capacity : Nat}
    {queue : Queue}
    (shape : queue.Shape capacity)
    (nonempty : queue.count ≠ 0) :
    (queue.take capacity).Shape capacity := by
  have frontValue := shape.front_eq nonempty
  obtain ⟨count, countShape⟩ := Nat.exists_eq_succ_of_ne_zero nonempty
  have contents := shape.contents
  rw [countShape, RingWindow.window_pop _ shape.headInRange,
    List.range'_succ] at contents
  exact {
    headInRange :=
      Nat.mod_lt _ (Nat.zero_lt_of_lt shape.headInRange)
    tailSlot := by
      simp only [Queue.take, shape.tailSlot, Nat.mod_add_mod]
      congr 1
      omega
    countBound := by
      have bound := shape.countBound
      simp only [Queue.take]
      omega
    balance := by
      have balance := shape.balance
      simp only [Queue.take]
      omega
    contents := by
      simpa [Queue.take, countShape] using (List.cons.inj contents).2
    sum := by
      simp [Queue.take, frontValue, shape.sum, firstValues_succ]
  }

end Queue.Shape

/-- How far the item counter of a role's queue side has come. -/
def Role.progress (queue : Queue) : Role → Nat
  | .producer => queue.produced
  | .consumer => queue.consumed

/-- The loop variables, control positions and mutex of the two threads. -/
structure Scheduled (capacity itemCount : Nat) (state : State) : Prop where
  counters :
    ∀ role : Role,
      state.counter role =
        role.firstCounter + role.progress state.queue
  progressBound :
    ∀ role : Role, role.progress state.queue ≤ itemCount
  finishedProgress :
    ∀ role : Role,
      state.control role = .finished ↔
        role.progress state.queue = itemCount
  owner :
    ∀ role, state.control role = .checking ↔ state.mutex = some role
  asleep :
    ∀ role : Role,
      state.control role = .sleeping →
        role.mustWait capacity state.queue

/-- A role's `for` loop leaves exactly when its progress is complete. -/
theorem Role.loopHead_eq_finished
    {itemCount progress : Nat}
    (role : Role)
    (bound : progress ≤ itemCount) :
    role.loopHead itemCount (role.firstCounter + progress) = .finished ↔
      progress = itemCount := by
  have stops :
      ¬ role.continues itemCount (role.firstCounter + progress) ↔
        progress = itemCount := by
    cases role <;>
      simp only [Role.continues, Role.firstCounter] <;>
      omega
  rw [← stops]
  unfold Role.loopHead
  split <;> simp_all

/-- The head of a `for` loop is before the lock or past the loop. -/
theorem Role.loopHead_cases
    (itemCount counter : Nat)
    (role : Role) :
    role.loopHead itemCount counter = .locking ∨
      role.loopHead itemCount counter = .finished := by
  unfold Role.loopHead
  split
  · exact Or.inl rfl
  · exact Or.inr rfl

/-- A signal wakes a sleeping partner and is lost on any other. -/
theorem signal_partner
    (control : Role → Control)
    (role : Role) :
    (control role.partner = .sleeping ∧
        signal control role role.partner = .woken) ∨
      (control role.partner ≠ .sleeping ∧
        signal control role role.partner = control role.partner) := by
  unfold signal
  by_cases asleep : control role.partner = .sleeping
  · simp [asleep]
  · simp [asleep]

/-- The threads start before their loops with no mutex held. -/
theorem Scheduled.start (capacity itemCount : Nat) :
    Scheduled capacity itemCount (State.start itemCount) where
  counters := by
    intro role
    cases role <;> rfl
  progressBound := by
    intro role
    cases role <;> exact Nat.zero_le itemCount
  finishedProgress := by
    intro role
    have progressZero : role.progress Queue.zero = 0 := by
      cases role <;> rfl
    simpa [State.start, progressZero] using
      role.loopHead_eq_finished (Nat.zero_le itemCount)
  owner := by
    intro role
    rcases role.loopHead_cases itemCount role.firstCounter with
      locking | finished
    · simp [State.start, locking]
    · simp [State.start, finished]
  asleep := by
    intro role sleeping
    rcases role.loopHead_cases itemCount role.firstCounter with
      locking | finished
    · simp [State.start, locking] at sleeping
    · simp [State.start, finished] at sleeping

namespace Scheduled

variable {capacity itemCount : Nat} {state : State}

/-- Taking the mutex keeps the thread invariant. -/
theorem acquire
    (scheduled : Scheduled capacity itemCount state)
    (role : Role)
    (free : state.mutex = none)
    (awake :
      state.control role = .locking ∨ state.control role = .woken) :
    Scheduled capacity itemCount (state.acquire role) where
  counters := scheduled.counters
  progressBound := scheduled.progressBound
  finishedProgress := by
    intro other
    have unfinished : state.control role ≠ .finished := by
      rcases awake with locking | woken <;> simp [*]
    by_cases same : other = role
    · subst other
      have progress := scheduled.finishedProgress role
      simpa [State.acquire, unfinished] using progress
    · simpa [State.acquire, same] using scheduled.finishedProgress other
  owner := by
    intro other
    by_cases same : other = role
    · simp [State.acquire, same]
    · have notHolder := scheduled.owner other
      simp only [free, reduceCtorEq, iff_false] at notHolder
      simp [State.acquire, same, notHolder, Ne.symm same]
  asleep := by
    intro other sleeping
    by_cases same : other = role
    · simp [State.acquire, same] at sleeping
    · exact scheduled.asleep other
        (by simpa [State.acquire, same] using sleeping)

/-- Falling asleep on a blocked predicate keeps the thread invariant. -/
theorem wait
    (scheduled : Scheduled capacity itemCount state)
    (role : Role)
    (holds : state.control role = .checking)
    (blocked : role.mustWait capacity state.queue) :
    Scheduled capacity itemCount (state.wait role) where
  counters := scheduled.counters
  progressBound := scheduled.progressBound
  finishedProgress := by
    intro other
    by_cases same : other = role
    · subst other
      simpa [State.wait, holds] using scheduled.finishedProgress role
    · simpa [State.wait, same] using scheduled.finishedProgress other
  owner := by
    intro other
    by_cases same : other = role
    · simp [State.wait, same]
    · have holder := (scheduled.owner role).mp holds
      have notHolder := scheduled.owner other
      simp only [holder, Option.some.injEq, Ne.symm same,
        iff_false] at notHolder
      simp [State.wait, same, notHolder]
  asleep := by
    intro other sleeping
    by_cases same : other = role
    · subst other
      exact blocked
    · exact scheduled.asleep other
        (by simpa [State.wait, same] using sleeping)

/-- A spurious wakeup keeps the thread invariant. -/
theorem spurious
    (scheduled : Scheduled capacity itemCount state)
    (role : Role)
    (asleep : state.control role = .sleeping) :
    Scheduled capacity itemCount
      { state with
        control := Function.update state.control role .woken } where
  counters := scheduled.counters
  progressBound := scheduled.progressBound
  finishedProgress := by
    intro other
    by_cases same : other = role
    · subst other
      simpa [asleep] using scheduled.finishedProgress role
    · simpa [same] using scheduled.finishedProgress other
  owner := by
    intro other
    by_cases same : other = role
    · subst other
      simpa [asleep] using scheduled.owner role
    · simpa [same] using scheduled.owner other
  asleep := by
    intro other sleeping
    by_cases same : other = role
    · simp [same] at sleeping
    · exact scheduled.asleep other (by simpa [same] using sleeping)

/--
Completing a critical section keeps the thread invariant: the role advances
its own counter by one and the other role's not at all, and the signal wakes
the partner out of any wait whose predicate the section may have changed.
-/
theorem release
    (scheduled : Scheduled capacity itemCount state)
    (role : Role)
    (holds : state.control role = .checking)
    (queue : Queue)
    (own : role.progress queue = role.progress state.queue + 1)
    (other :
      role.partner.progress queue = role.partner.progress state.queue) :
    Scheduled capacity itemCount
      (state.release itemCount role queue) := by
  have holder := (scheduled.owner role).mp holds
  have bound : role.progress queue ≤ itemCount := by
    have unfinished : role.progress state.queue ≠ itemCount := by
      intro complete
      have finished := (scheduled.finishedProgress role).mpr complete
      simp [holds] at finished
    have before := scheduled.progressBound role
    omega
  have ownCounter :
      state.counter role + 1 = role.firstCounter + role.progress queue := by
    rw [scheduled.counters role, own, Nat.add_assoc]
  have partnerNe : role.partner ≠ role := by
    cases role <;> decide
  have eitherRole :
      ∀ {motive : Role → Prop},
        motive role → motive role.partner → ∀ any, motive any := by
    intro motive atRole atPartner any
    cases role <;> cases any <;> assumption
  have ownControl :
      (state.release itemCount role queue).control role =
        role.loopHead itemCount
          (role.firstCounter + role.progress queue) := by
    simp [State.release, ownCounter]
  have partnerControl :
      (state.release itemCount role queue).control role.partner =
        signal state.control role role.partner := by
    simp [State.release, partnerNe]
  have partnerNotHolder : state.control role.partner ≠ .checking := by
    intro checking
    have partnerHolds := (scheduled.owner role.partner).mp checking
    rw [holder] at partnerHolds
    exact partnerNe (Option.some.inj partnerHolds).symm
  constructor
  case counters =>
    refine eitherRole ?_ ?_
    · simp [State.release, ownCounter]
    · simp [State.release, partnerNe, other,
        scheduled.counters role.partner]
  case progressBound =>
    refine eitherRole bound ?_
    simpa [State.release, other] using
      scheduled.progressBound role.partner
  case finishedProgress =>
    refine eitherRole ?_ ?_
    · rw [ownControl]
      exact role.loopHead_eq_finished bound
    · have before := scheduled.finishedProgress role.partner
      rw [partnerControl]
      rcases signal_partner state.control role with
        ⟨asleep, woken⟩ | ⟨_, unchanged⟩
      · simpa [State.release, woken, asleep, other] using before
      · simpa [State.release, unchanged, other] using before
  case owner =>
    refine eitherRole ?_ ?_
    · rw [ownControl]
      rcases role.loopHead_cases itemCount
          (role.firstCounter + role.progress queue) with
        locking | finished
      · simp [locking, State.release]
      · simp [finished, State.release]
    · rw [partnerControl]
      rcases signal_partner state.control role with
        ⟨_, woken⟩ | ⟨_, unchanged⟩
      · simp [woken, State.release]
      · simp [unchanged, partnerNotHolder, State.release]
  case asleep =>
    refine eitherRole ?_ ?_
    · intro sleeping
      rw [ownControl] at sleeping
      rcases role.loopHead_cases itemCount
          (role.firstCounter + role.progress queue) with
        locking | finished
      · simp [locking] at sleeping
      · simp [finished] at sleeping
    · intro sleeping
      rw [partnerControl] at sleeping
      rcases signal_partner state.control role with
        ⟨_, woken⟩ | ⟨awake, unchanged⟩
      · simp [woken] at sleeping
      · exact (awake (unchanged ▸ sleeping)).elim

end Scheduled

/-- The whole invariant, with the values taken by the labels so far. -/
structure Invariant
    (capacity itemCount : Nat)
    (labels : List Label)
    (state : State) : Prop where
  shape : state.queue.Shape capacity
  scheduled : Scheduled capacity itemCount state
  taken : takenValues labels = firstValues state.queue.consumed

namespace Invariant

variable {capacity itemCount : Nat}

/-- The invariant holds before either thread runs. -/
theorem start (positive : 0 < capacity) :
    Invariant capacity itemCount [] (State.start itemCount) where
  shape := Queue.Shape.zero positive
  scheduled := Scheduled.start capacity itemCount
  taken := rfl

/-- The step lemma: every accepted step keeps the invariant. -/
theorem step
    {labels : List Label}
    {state next : State}
    {label : Label}
    (invariant : Invariant capacity itemCount labels state)
    (accepted : Threads.step capacity itemCount state label = some next) :
    Invariant capacity itemCount (labels ++ [label]) next := by
  obtain ⟨shape, scheduled, taken⟩ := invariant
  cases step_cases accepted with
  | acquire role labelShape free awake =>
      refine ⟨shape, scheduled.acquire role free awake, ?_⟩
      rcases labelShape with rfl | rfl <;>
        simpa [takenValues, State.acquire] using taken
  | wait role holds blocked =>
      exact ⟨shape, scheduled.wait role holds blocked,
        by simpa [takenValues, State.wait] using taken⟩
  | spurious role asleep =>
      exact ⟨shape, scheduled.spurious role asleep,
        by simpa [takenValues] using taken⟩
  | put holds space =>
      have nextValue :
          state.counter .producer = state.queue.produced + 1 := by
        rw [scheduled.counters .producer]
        exact Nat.add_comm 1 state.queue.produced
      refine ⟨?_, ?_, ?_⟩
      · simpa [State.release, nextValue] using shape.put space
      · exact scheduled.release .producer holds _ rfl rfl
      · simpa [takenValues, State.release, Queue.put] using taken
  | take holds nonempty =>
      refine ⟨shape.take nonempty,
        scheduled.release .consumer holds _ rfl rfl, ?_⟩
      have frontValue := shape.front_eq nonempty
      simp only [takenValues] at taken
      simp [takenValues, State.release, Queue.take, frontValue,
        firstValues_succ, taken]

/-- The run lemma: every run from the start satisfies the invariant. -/
theorem run
    (positive : 0 < capacity)
    {labels : List Label}
    {state : State}
    (accepted :
      (system capacity itemCount).run labels = some state) :
    Invariant capacity itemCount labels state :=
  System.run_invariant (Invariant capacity itemCount)
    (start positive)
    (fun invariant accepted => invariant.step accepted)
    accepted

end Invariant

/-- Every C variable of the program stays within its type. -/
structure InRange (itemCount : Nat) (state : State) : Prop where
  counters : ∀ role, state.counter role ≤ intMax
  produced : state.queue.produced ≤ intMax
  consumed : state.queue.consumed ≤ intMax
  consumedSum : state.queue.consumedSum ≤ longMax
  expectedSum : itemCount * (itemCount + 1) ≤ longMax

/-- With fewer than `INT_MAX` items no signed arithmetic overflows. -/
theorem Invariant.inRange
    {capacity itemCount : Nat}
    {labels : List Label}
    {state : State}
    (invariant : Invariant capacity itemCount labels state)
    (belowMax : itemCount < intMax) :
    InRange itemCount state := by
  have producedBound : state.queue.produced ≤ itemCount :=
    invariant.scheduled.progressBound .producer
  have consumedBound : state.queue.consumed ≤ itemCount :=
    invariant.scheduled.progressBound .consumer
  have squareBound : itemCount * (itemCount + 1) ≤ longMax :=
    calc
      itemCount * (itemCount + 1)
          ≤ intMax * intMax := Nat.mul_le_mul (by omega) (by omega)
      _ ≤ longMax := by decide
  constructor
  case counters =>
    intro role
    rw [invariant.scheduled.counters role]
    cases role <;>
      simp only [Role.firstCounter, Role.progress] <;>
      omega
  case produced => omega
  case consumed => omega
  case consumedSum =>
    rw [invariant.shape.sum, sum_firstValues]
    have smaller :
        state.queue.consumed * (state.queue.consumed + 1) ≤
          itemCount * (itemCount + 1) :=
      Nat.mul_le_mul consumedBound (by omega)
    omega
  case expectedSum => exact squareBound

/-- What every schedule guarantees about the queue and the consumer. -/
structure Guarantee
    (capacity itemCount : Nat)
    (labels : List Label)
    (state : State) : Prop where
  countBound : state.queue.count ≤ capacity
  headInRange : state.queue.head < capacity
  tailInRange : state.queue.tail < capacity
  tailSlot :
    state.queue.tail = (state.queue.head + state.queue.count) % capacity
  consumedBound : state.queue.consumed ≤ state.queue.produced
  count : state.queue.count = state.queue.produced - state.queue.consumed
  contents :
    RingWindow.window state.queue.items capacity
        state.queue.head state.queue.count =
      List.range' (state.queue.consumed + 1) state.queue.count
  noOverwrite :
    state.queue.count ≠ capacity →
      ∀ offset, offset < state.queue.count →
        state.queue.tail ≠ (state.queue.head + offset) % capacity
  takenInOrder : takenValues labels = firstValues state.queue.consumed
  consumedSum :
    state.queue.consumedSum = (firstValues state.queue.consumed).sum
  inRange : InRange itemCount state
  finished :
    (∀ role, state.control role = .finished) →
      takenValues labels = firstValues itemCount ∧
        verified itemCount state.queue

/--
Every reachable state, whether or not a thread holds the mutex at the head of
its predicate loop, satisfies the guarantee.
-/
theorem queue_guarantee
    {capacity itemCount : Nat}
    (positive : 0 < capacity)
    (belowMax : itemCount < intMax)
    {labels : List Label}
    {state : State}
    (accepted :
      (system capacity itemCount).run labels = some state) :
    Guarantee capacity itemCount labels state := by
  have invariant := Invariant.run positive accepted
  have balance := invariant.shape.balance
  constructor
  case countBound => exact invariant.shape.countBound
  case headInRange => exact invariant.shape.headInRange
  case tailInRange => exact invariant.shape.tailInRange
  case tailSlot => exact invariant.shape.tailSlot
  case consumedBound => omega
  case count => omega
  case contents => exact invariant.shape.contents
  case noOverwrite =>
    intro space offset occupied
    exact invariant.shape.tail_free space occupied
  case takenInOrder => exact invariant.taken
  case consumedSum => exact invariant.shape.sum
  case inRange => exact invariant.inRange belowMax
  case finished =>
    intro allFinished
    have produced : state.queue.produced = itemCount :=
      (invariant.scheduled.finishedProgress .producer).mp
        (allFinished .producer)
    have consumed : state.queue.consumed = itemCount :=
      (invariant.scheduled.finishedProgress .consumer).mp
        (allFinished .consumer)
    refine ⟨by rw [invariant.taken, consumed], produced, consumed, ?_, ?_⟩
    · omega
    · rw [invariant.shape.sum, consumed, sum_firstValues]

/-- One item through a one-slot queue, the consumer waiting first. -/
def onePassLabels : List Label :=
  [.lock .consumer, .wait .consumer, .lock .producer, .put 1,
    .reacquire .consumer, .take 1]

/-- The guarantee at the end of a run that sleeps, is signalled and ends. -/
theorem queue_guarantee_onePass :
    ∃ state,
      (system 1 1).run onePassLabels = some state ∧
        Guarantee 1 1 onePassLabels state :=
  ⟨_, rfl, queue_guarantee (by decide) (by decide) rfl⟩

end AdvanceUnix.Threads
