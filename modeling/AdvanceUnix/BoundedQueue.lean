import AdvanceUnix.Transition
import AdvanceUnix.RingWindow
import Mathlib.Algebra.Ring.Nat

namespace AdvanceUnix.Threads

open Transition

/-!
# The bounded queue of two threads

The producer and the consumer of `07_threads` as one transition system.  A
thread holds the mutex from `pthread_mutex_lock` (or from the return of
`pthread_cond_wait`) until it unlocks or waits, so nothing else is observable
in between and each critical section is one step.  `QUEUE_CAPACITY` and
`ITEM_COUNT` are parameters.  Counters are natural numbers; the invariant
module bounds each of them by the C type that holds it.
-/

/-- `INT_MAX` for the 32-bit `int` of the value and item counters. -/
def intMax : Nat := 2 ^ 31 - 1

/-- `LONG_MAX` for the 64-bit `long` of the running sum. -/
def longMax : Nat := 2 ^ 63 - 1

/-- `struct queue` without its synchronization objects. -/
structure Queue where
  items : Nat → Nat
  head : Nat
  tail : Nat
  count : Nat
  produced : Nat
  consumed : Nat
  consumedSum : Nat

/-- The static queue of `main`: every member is zero. -/
def Queue.zero : Queue where
  items := fun _ => 0
  head := 0
  tail := 0
  count := 0
  produced := 0
  consumed := 0
  consumedSum := 0

/-- The body of the producer's critical section. -/
def Queue.put
    (capacity : Nat)
    (queue : Queue)
    (value : Nat) : Queue :=
  { queue with
    items := Function.update queue.items queue.tail value
    tail := (queue.tail + 1) % capacity
    count := queue.count + 1
    produced := queue.produced + 1 }

/-- The value that the consumer's critical section reads. -/
def Queue.front (queue : Queue) : Nat :=
  queue.items queue.head

/-- The body of the consumer's critical section. -/
def Queue.take
    (capacity : Nat)
    (queue : Queue) : Queue :=
  { queue with
    head := (queue.head + 1) % capacity
    count := queue.count - 1
    consumed := queue.consumed + 1
    consumedSum := queue.consumedSum + queue.front }

/-- The two threads that `main` creates. -/
inductive Role where
  | producer
  | consumer
  deriving DecidableEq, Repr

/-- The thread that a role signals. -/
def Role.partner : Role → Role
  | .producer => .consumer
  | .consumer => .producer

/--
Where a thread is: before `pthread_mutex_lock`, at the head of its predicate
loop with the mutex held, asleep on its condition variable, woken there but
without the mutex, or past its `for` loop.
-/
inductive Control where
  | locking
  | checking
  | sleeping
  | woken
  | finished
  deriving DecidableEq, Repr

/-- The predicate of a role's `while` loop around `pthread_cond_wait`. -/
def Role.mustWait
    (capacity : Nat)
    (queue : Queue) : Role → Prop
  | .producer => queue.count = capacity
  | .consumer => queue.count = 0

instance (capacity : Nat) (queue : Queue) (role : Role) :
    Decidable (role.mustWait capacity queue) :=
  match role with
  | .producer => inferInstanceAs (Decidable (queue.count = capacity))
  | .consumer => inferInstanceAs (Decidable (queue.count = 0))

/-- The initial value of a role's loop variable, `value` or `index`. -/
def Role.firstCounter : Role → Nat
  | .producer => 1
  | .consumer => 0

/-- The condition of a role's `for` loop. -/
def Role.continues
    (itemCount counter : Nat) : Role → Prop
  | .producer => counter ≤ itemCount
  | .consumer => counter < itemCount

instance (itemCount counter : Nat) (role : Role) :
    Decidable (role.continues itemCount counter) :=
  match role with
  | .producer => inferInstanceAs (Decidable (counter ≤ itemCount))
  | .consumer => inferInstanceAs (Decidable (counter < itemCount))

/-- The head of a role's `for` loop: lock once more or leave the thread. -/
def Role.loopHead
    (itemCount counter : Nat)
    (role : Role) : Control :=
  if role.continues itemCount counter then .locking else .finished

/-- The queue, the owner of its mutex, and both threads' local states. -/
structure State where
  queue : Queue
  mutex : Option Role
  control : Role → Control
  counter : Role → Nat

/-- Both threads created, neither scheduled yet. -/
def State.start (itemCount : Nat) : State where
  queue := .zero
  mutex := none
  control := fun role => role.loopHead itemCount role.firstCounter
  counter := Role.firstCounter

/-- `pthread_cond_signal` wakes the partner if it waits, else it is lost. -/
def signal
    (control : Role → Control)
    (role : Role) : Role → Control :=
  if control role.partner = .sleeping then
    Function.update control role.partner .woken
  else
    control

/-- A role takes the mutex and arrives at the head of its predicate loop. -/
def State.acquire (state : State) (role : Role) : State :=
  { state with
    mutex := some role
    control := Function.update state.control role .checking }

/-- `pthread_cond_wait` releases the mutex and sleeps in one step. -/
def State.wait (state : State) (role : Role) : State :=
  { state with
    mutex := none
    control := Function.update state.control role .sleeping }

/-- Store the section's result, signal, unlock and advance the `for` loop. -/
def State.release
    (itemCount : Nat)
    (state : State)
    (role : Role)
    (queue : Queue) : State where
  queue := queue
  mutex := none
  control :=
    Function.update (signal state.control role) role
      (role.loopHead itemCount (state.counter role + 1))
  counter := Function.update state.counter role (state.counter role + 1)

/-- What can happen next; `put` and `take` carry the value moved. -/
inductive Label where
  | lock (role : Role)
  | reacquire (role : Role)
  | wait (role : Role)
  | spurious (role : Role)
  | put (value : Nat)
  | take (value : Nat)
  deriving DecidableEq, Repr

/-- One scheduled step of either thread, or a spurious wakeup. -/
def step
    (capacity itemCount : Nat)
    (state : State) : Label → Option State
  | .lock role =>
      if state.mutex = none ∧ state.control role = .locking then
        some (state.acquire role)
      else
        none
  | .reacquire role =>
      if state.mutex = none ∧ state.control role = .woken then
        some (state.acquire role)
      else
        none
  | .wait role =>
      if state.control role = .checking ∧
          role.mustWait capacity state.queue then
        some (state.wait role)
      else
        none
  | .spurious role =>
      if state.control role = .sleeping then
        some { state with
          control := Function.update state.control role .woken }
      else
        none
  | .put value =>
      if state.control .producer = .checking ∧
          ¬ Role.producer.mustWait capacity state.queue ∧
          value = state.counter .producer then
        some (state.release itemCount .producer
          (state.queue.put capacity value))
      else
        none
  | .take value =>
      if state.control .consumer = .checking ∧
          ¬ Role.consumer.mustWait capacity state.queue ∧
          value = state.queue.front then
        some (state.release itemCount .consumer
          (state.queue.take capacity))
      else
        none

/-- The program `07_threads` for one capacity and one item count. -/
def system (capacity itemCount : Nat) : System State Label where
  initial := State.start itemCount
  step := step capacity itemCount

/-- The values that the consumer took, in order. -/
def takenValues (labels : List Label) : List Nat :=
  labels.filterMap fun
    | .take value => some value
    | _ => none

/-- The check that `main` makes after joining both threads. -/
def verified (itemCount : Nat) (queue : Queue) : Prop :=
  queue.produced = itemCount ∧
    queue.consumed = itemCount ∧
    queue.count = 0 ∧
    queue.consumedSum = itemCount * (itemCount + 1) / 2

instance (itemCount : Nat) (queue : Queue) :
    Decidable (verified itemCount queue) :=
  inferInstanceAs (Decidable (_ ∧ _ ∧ _ ∧ _))

/--
Everything a step can do, with the guard under which it does it.  The
invariants below are case analyses over this predicate.
-/
inductive Stepped
    (capacity itemCount : Nat)
    (state : State) : Label → State → Prop where
  | acquire
      {label : Label}
      (role : Role)
      (shape : label = .lock role ∨ label = .reacquire role)
      (free : state.mutex = none)
      (awake :
        state.control role = .locking ∨ state.control role = .woken) :
      Stepped capacity itemCount state label (state.acquire role)
  | wait
      (role : Role)
      (holds : state.control role = .checking)
      (blocked : role.mustWait capacity state.queue) :
      Stepped capacity itemCount state (.wait role) (state.wait role)
  | spurious
      (role : Role)
      (asleep : state.control role = .sleeping) :
      Stepped capacity itemCount state (.spurious role)
        { state with
          control := Function.update state.control role .woken }
  | put
      (holds : state.control .producer = .checking)
      (space : state.queue.count ≠ capacity) :
      Stepped capacity itemCount state
        (.put (state.counter .producer))
        (state.release itemCount .producer
          (state.queue.put capacity (state.counter .producer)))
  | take
      (holds : state.control .consumer = .checking)
      (nonempty : state.queue.count ≠ 0) :
      Stepped capacity itemCount state
        (.take state.queue.front)
        (state.release itemCount .consumer
          (state.queue.take capacity))

/-- Inversion of one accepted step. -/
theorem step_cases
    {capacity itemCount : Nat}
    {state next : State}
    {label : Label}
    (accepted : step capacity itemCount state label = some next) :
    Stepped capacity itemCount state label next := by
  cases label with
  | lock role =>
      simp only [step, Option.ite_none_right_eq_some,
        Option.some.injEq] at accepted
      obtain ⟨⟨free, locking⟩, rfl⟩ := accepted
      exact .acquire role (.inl rfl) free (.inl locking)
  | reacquire role =>
      simp only [step, Option.ite_none_right_eq_some,
        Option.some.injEq] at accepted
      obtain ⟨⟨free, woken⟩, rfl⟩ := accepted
      exact .acquire role (.inr rfl) free (.inr woken)
  | wait role =>
      simp only [step, Option.ite_none_right_eq_some,
        Option.some.injEq] at accepted
      obtain ⟨⟨holds, blocked⟩, rfl⟩ := accepted
      exact .wait role holds blocked
  | spurious role =>
      simp only [step, Option.ite_none_right_eq_some,
        Option.some.injEq] at accepted
      obtain ⟨asleep, rfl⟩ := accepted
      exact .spurious role asleep
  | put value =>
      simp only [step, Option.ite_none_right_eq_some,
        Option.some.injEq] at accepted
      obtain ⟨⟨holds, space, rfl⟩, rfl⟩ := accepted
      exact .put holds space
  | take value =>
      simp only [step, Option.ite_none_right_eq_some,
        Option.some.injEq] at accepted
      obtain ⟨⟨holds, nonempty, rfl⟩, rfl⟩ := accepted
      exact .take holds nonempty

end AdvanceUnix.Threads
