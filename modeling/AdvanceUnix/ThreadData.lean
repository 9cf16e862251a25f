import AdvanceUnix.Transition
import AdvanceUnix.SystemCalls

namespace AdvanceUnix.ThreadData

open Transition

/-!
# Thread-specific data

The workers and `main` of `24_thread_specific_data` as one transition system,
for any `THREAD_COUNT`.  Every call and every access that another thread could
notice is a step of its own.  `main` looks at what the workers left only after
it has joined them all, so its last checks are one step.  `pthread_once` and
`pthread_join` succeed.
-/

/-- `key_once`: not run yet, running in a thread, or over. -/
inductive Once where
  | fresh
  | running (thread : Nat)
  | done
  deriving DecidableEq, Repr

/--
Where a thread is: not created, in `worker` before some call with the block
that it has allocated, past its `return`, or in `destroy_thread_value` before
some access to the block.
-/
inductive Phase where
  | absent
  | calling
  | initializing
  | initialized
  | checking
  | allocating
  | storing (address : Nat)
  | setting (address : Nat)
  | freeing (address : Nat)
  | reading (address : Nat)
  | comparing (address : Nat) (observed : Option Nat)
  | returned
  | counting (address : Nat)
  | summing (address : Nat)
  | destroying (address : Nat)
  | exited
  | joined
  deriving DecidableEq, Repr

/-- A thread, its value of the key, and `contexts[index].verified`. -/
structure Thread where
  phase : Phase := .absent
  specific : Option Nat := none
  verified : Bool := false
  deriving DecidableEq, Repr

/-- Where `main` is; `deleting` remembers `verified`. -/
inductive Control where
  | creating (index : Nat)
  | joining (index : Nat)
  | deciding
  | deleting (verified : Bool)
  | done (result : Exit)
  deriving DecidableEq, Repr

/--
The globals, the blocks from `malloc` with the `id` in them once it is stored,
the threads and `main`.
-/
structure State where
  once : Once
  keyError : Nat
  keyInitialized : Bool
  destructorCount : BitVec 32
  destructorIdSum : BitVec 32
  heap : Nat → Option (Option (BitVec 32))
  threads : Nat → Thread
  created : Nat
  main : Control

/-- `contexts[index].id`. -/
def idOf (index : Nat) : BitVec 32 :=
  BitVec.ofNat 32 (index + 1)

/-- The head of the loop that joins. -/
def joinHead (created index : Nat) : Control :=
  if index < created then .joining index else .deciding

/-- The head of the loop that creates. -/
def createHead (threadCount created index : Nat) : Control :=
  if index < threadCount then .creating index else joinHead created 0

/-- The start of `main`. -/
def State.start (threadCount : Nat) : State where
  once := .fresh
  keyError := 0
  keyInitialized := false
  destructorCount := 0
  destructorIdSum := 0
  heap := fun _ => none
  threads := fun _ => {}
  created := 0
  main := createHead threadCount 0 0

/-- A thread has changed. -/
def State.set (state : State) (index : Nat) (thread : Thread) : State :=
  { state with threads := Function.update state.threads index thread }

/-- A thread has moved on. -/
def State.move (state : State) (index : Nat) (phase : Phase) : State :=
  state.set index { state.threads index with phase := phase }

/-- The `id` in a block. -/
def State.idAt (state : State) (address : Nat) : BitVec 32 :=
  ((state.heap address).getD none).getD 0

/-- `verified` of `main`. -/
def verdict (threadCount : Nat) (state : State) : Bool :=
  state.created = threadCount &&
    ((List.range state.created).all fun index =>
      (state.threads index).verified) &&
    state.keyInitialized && state.keyError = 0 &&
    state.destructorCount = BitVec.ofNat 32 threadCount &&
    state.destructorIdSum =
      BitVec.ofNat 32 (threadCount * (threadCount + 1) / 2)

/-- What can happen next, with what the calls answer. -/
inductive Label where
  | create (ok : Bool)
  | once (index : Nat)
  | keyCreate (index error : Nat)
  | onceReturn (index : Nat)
  | check (index : Nat)
  | malloc (index : Nat) (result : Option Nat)
  | store (index : Nat)
  | setSpecific (index : Nat) (ok : Bool)
  | freeUnset (index address : Nat)
  | getSpecific (index : Nat) (observed : Option Nat)
  | compare (index : Nat)
  | exit (index : Nat)
  | count (index : Nat)
  | sum (index : Nat)
  | destroy (index address : Nat)
  | join
  | conclude
  | keyDelete (ok : Bool)
  deriving DecidableEq, Repr

/-- `pthread_once` by a thread: another one may be in the routine. -/
def stepOnce (state : State) (index : Nat) : Option State :=
  match state.once with
  | .fresh =>
      some { state.move index .initializing with once := .running index }
  | .running _ => none
  | .done => some (state.move index .checking)

/-- `malloc`: a block that is not allocated, or nothing. -/
def stepMalloc
    (state : State)
    (index : Nat) : Option Nat → Option State
  | none => some (state.move index .returned)
  | some address =>
      if state.heap address = none then
        some { state.move index (.storing address) with
          heap := Function.update state.heap address (some none) }
      else
        none

/-- `pthread_setspecific`. -/
def stepSet
    (state : State)
    (index address : Nat)
    (ok : Bool) : State :=
  if ok then
    state.set index
      { state.threads index with
        phase := .reading address
        specific := some address }
  else
    state.move index (.freeing address)

/-- `free`, and on to another phase. -/
def stepFree
    (state : State)
    (index address : Nat)
    (phase : Phase) : State :=
  { state.move index phase with
    heap := Function.update state.heap address none }

/-- The end of a thread: the destructor gets a value that is not null. -/
def stepExit (state : State) (index : Nat) : State :=
  match (state.threads index).specific with
  | some address =>
      state.set index
        { state.threads index with
          phase := .counting address
          specific := none }
  | none => state.move index .exited

/-- One step of the thread with an index, from its phase. -/
def stepThread
    (state : State)
    (index : Nat) : Phase → Label → Option State
  | .calling, .once _ => stepOnce state index
  | .initializing, .keyCreate _ error =>
      some { state.move index .initialized with
        keyError := error
        keyInitialized := error = 0 }
  | .initialized, .onceReturn _ =>
      some { state.move index .checking with once := .done }
  | .checking, .check _ =>
      some (state.move index
        (if state.keyError ≠ 0 then .returned else .allocating))
  | .allocating, .malloc _ result => stepMalloc state index result
  | .storing address, .store _ =>
      some { state.move index (.setting address) with
        heap :=
          Function.update state.heap address (some (some (idOf index))) }
  | .setting address, .setSpecific _ ok =>
      some (stepSet state index address ok)
  | .freeing address, .freeUnset _ freed =>
      if freed = address then
        some (stepFree state index address .returned)
      else
        none
  | .reading address, .getSpecific _ observed =>
      if observed = (state.threads index).specific then
        some (state.move index (.comparing address observed))
      else
        none
  | .comparing address observed, .compare _ =>
      some (state.set index
        { state.threads index with
          phase := .returned
          verified :=
            observed = some address && state.idAt address = idOf index })
  | .returned, .exit _ => some (stepExit state index)
  | .counting address, .count _ =>
      some { state.move index (.summing address) with
        destructorCount := state.destructorCount + 1 }
  | .summing address, .sum _ =>
      some { state.move index (.destroying address) with
        destructorIdSum := state.destructorIdSum + state.idAt address }
  | .destroying address, .destroy _ freed =>
      if freed = address then
        some (stepFree state index address .exited)
      else
        none
  | _, _ => none

/-- `pthread_create`: the loop is left when it fails. -/
def stepCreate
    (threadCount : Nat)
    (state : State)
    (index : Nat)
    (ok : Bool) : State :=
  if ok then
    { state.move index .calling with
      created := state.created + 1
      main := createHead threadCount (state.created + 1) (index + 1) }
  else
    { state with main := joinHead state.created 0 }

/-- What `main` does once it has joined all that it created. -/
def conclusion (threadCount : Nat) (state : State) : Control :=
  if state.keyError ≠ 0 then
    .done .failure
  else if !state.keyInitialized then
    .done .failure
  else
    .deleting (verdict threadCount state)

/-- One step of `main`. -/
def stepMain
    (threadCount : Nat)
    (state : State) : Control → Label → Option State
  | .creating index, .create ok =>
      some (stepCreate threadCount state index ok)
  | .joining index, .join =>
      if (state.threads index).phase = .exited then
        some { state.move index .joined with
          main := joinHead state.created (index + 1) }
      else
        none
  | .deciding, .conclude =>
      some { state with main := conclusion threadCount state }
  | .deleting verified, .keyDelete ok =>
      some { state with
        main := .done (if ok && verified then .success else .failure) }
  | _, _ => none

/-- The thread that a label belongs to: the worker with an index, or `main`. -/
def Label.index : Label → Option Nat
  | .create _ => none
  | .once index => some index
  | .keyCreate index _ => some index
  | .onceReturn index => some index
  | .check index => some index
  | .malloc index _ => some index
  | .store index => some index
  | .setSpecific index _ => some index
  | .freeUnset index _ => some index
  | .getSpecific index _ => some index
  | .compare index => some index
  | .exit index => some index
  | .count index => some index
  | .sum index => some index
  | .destroy index _ => some index
  | .join => none
  | .conclude => none
  | .keyDelete _ => none

/-- One step of any thread. -/
def step
    (threadCount : Nat)
    (state : State)
    (label : Label) : Option State :=
  match label.index with
  | some index =>
      stepThread state index (state.threads index).phase label
  | none => stepMain threadCount state state.main label

/-- The program for one thread count. -/
def system (threadCount : Nat) : System State Label where
  initial := State.start threadCount
  step := step threadCount

/-- What a thread has done. -/
structure Tally where
  allocated : List Nat := []
  unsetFreed : List Nat := []
  destroyed : List Nat := []
  stored : Nat := 0
  readBack : List (Option Nat) := []
  counted : Nat := 0
  summed : Nat := 0
  deriving DecidableEq, Repr

/-- What a thread has done with one more step of its own. -/
def Tally.add (tally : Tally) : Label → Tally
  | .malloc _ (some address) =>
      { tally with allocated := tally.allocated ++ [address] }
  | .setSpecific _ true => { tally with stored := tally.stored + 1 }
  | .freeUnset _ address =>
      { tally with unsetFreed := tally.unsetFreed ++ [address] }
  | .getSpecific _ observed =>
      { tally with readBack := tally.readBack ++ [observed] }
  | .count _ => { tally with counted := tally.counted + 1 }
  | .sum _ => { tally with summed := tally.summed + 1 }
  | .destroy _ address =>
      { tally with destroyed := tally.destroyed ++ [address] }
  | _ => tally

/-- What a thread has done with one more step of any thread. -/
def Tally.next (index : Nat) (tally : Tally) (label : Label) : Tally :=
  if label.index = some index then tally.add label else tally

/-- What a thread has done in a run. -/
def tallyOf (labels : List Label) (index : Nat) : Tally :=
  labels.foldl (Tally.next index) {}

/-- What `pthread_key_create` has answered, whenever it was called. -/
def keyErrors (labels : List Label) : List Nat :=
  labels.filterMap fun
    | .keyCreate _ error => some error
    | _ => none

/-- What `pthread_key_delete` has answered, whenever it was called. -/
def keyDeletes (labels : List Label) : List Bool :=
  labels.filterMap fun
    | .keyDelete ok => some ok
    | _ => none

end AdvanceUnix.ThreadData
