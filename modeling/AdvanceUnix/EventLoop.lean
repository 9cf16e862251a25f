import AdvanceUnix.Transition
import AdvanceUnix.SystemCalls
import Mathlib.Algebra.Ring.Nat

namespace AdvanceUnix.EventLoop

open CallTree Transition

/-!
# An event loop over two descriptors

`main` of `11_event_loop` with what the kernel keeps for it.  A step is the
answer of the call that `main` is in, together with all that `main` does up to
its next call; only the timer fires by itself.
-/

/-- `EVENTFD_ID` and `TIMERFD_ID`: what epoll watches. -/
inductive Source where
  | eventfd
  | timerfd
  deriving DecidableEq, Repr

/-- The descriptors that `main` opens. -/
inductive Descriptor where
  | epoll
  | event
  | timer
  deriving DecidableEq, Repr

/-- What a counter of the kernel holds at most. -/
def counterMax : Nat :=
  2 ^ 64 - 2

/-- `wake_value`, which is 7 in the source. -/
structure Setting where
  wakeValue : BitVec 64
  positive : 0 < wakeValue.toNat
  bounded : wakeValue.toNat ≤ counterMax

/-- The two counters, the timer and the interest list of the epoll instance. -/
structure Kernel where
  counter : BitVec 64 := 0
  expirations : BitVec 64 := 0
  armed : Bool := false
  interest : List Source := []
  deriving DecidableEq, Repr

/-- What a read of a descriptor would take. -/
def Kernel.pending (kernel : Kernel) : Source → BitVec 64
  | .eventfd => kernel.counter
  | .timerfd => kernel.expirations

/-- The one expiration of a timer without an interval. -/
def Kernel.fire (kernel : Kernel) : Kernel :=
  { kernel with
    armed := false
    expirations := kernel.expirations + 1 }

/-- A successful write adds to the counter. -/
def Kernel.written (kernel : Kernel) (value : BitVec 64) : Kernel :=
  { kernel with counter := kernel.counter + value }

/-- A successful read takes all there is. -/
def Kernel.drained (kernel : Kernel) : Source → Kernel
  | .eventfd => { kernel with counter := 0 }
  | .timerfd => { kernel with expirations := 0 }

/-- A write of 8 bytes that must not overflow the counter. -/
def Kernel.MayWrite
    (kernel : Kernel)
    (value : BitVec 64) : Result Nat → Prop
  | .ok count =>
      count = 8 ∧ kernel.counter.toNat + value.toNat ≤ counterMax
  | .error error =>
      error = .eagain →
      ¬ kernel.counter.toNat + value.toNat ≤ counterMax

/-- A read of 8 bytes, which does not wait for anything to be there. -/
def Kernel.MayRead
    (kernel : Kernel)
    (source : Source) : Result (Nat × BitVec 64) → Prop
  | .ok (count, value) =>
      count = 8 ∧ kernel.pending source ≠ 0 ∧
        value = kernel.pending source
  | .error error => error = .eagain → kernel.pending source = 0

/--
What `epoll_wait` reports: some of the descriptors that are readable now, in
any order, or none of them after a timeout.
-/
def Kernel.MayReport (kernel : Kernel) : Result (List Source) → Prop
  | .ok sources =>
      sources.Nodup ∧
        ∀ source ∈ sources,
          source ∈ kernel.interest ∧ kernel.pending source ≠ 0
  | .error _ => True

instance (kernel : Kernel) (value : BitVec 64) (answer : Result Nat) :
    Decidable (kernel.MayWrite value answer) := by
  cases answer <;> unfold Kernel.MayWrite <;> infer_instance

instance
    (kernel : Kernel)
    (source : Source)
    (answer : Result (Nat × BitVec 64)) :
    Decidable (kernel.MayRead source answer) := by
  cases answer <;> unfold Kernel.MayRead <;> infer_instance

instance (kernel : Kernel) (answer : Result (List Source)) :
    Decidable (kernel.MayReport answer) := by
  cases answer <;> unfold Kernel.MayReport <;> infer_instance

/-- The variables of `main`. -/
structure Main where
  epollFd : Fd := -1
  eventFd : Fd := -1
  timerFd : Fd := -1
  result : Exit := .failure
  eventValue : BitVec 64 := 0
  timerExpirations : BitVec 64 := 0
  sawEvent : Bool := false
  sawTimer : Bool := false
  deriving DecidableEq, Repr

/-- The variable of a descriptor. -/
def Main.fd (main : Main) : Descriptor → Fd
  | .epoll => main.epollFd
  | .event => main.eventFd
  | .timer => main.timerFd

/-- A descriptor has been opened. -/
def Main.opened (main : Main) (fd : Fd) : Descriptor → Main
  | .epoll => { main with epollFd := fd }
  | .event => { main with eventFd := fd }
  | .timer => { main with timerFd := fd }

/-- `saw_event` and `saw_timer`. -/
def Main.saw (main : Main) : Source → Bool
  | .eventfd => main.sawEvent
  | .timerfd => main.sawTimer

/-- `event_value` and `timer_expirations`. -/
def Main.value (main : Main) : Source → BitVec 64
  | .eventfd => main.eventValue
  | .timerfd => main.timerExpirations

/-- A counter has been read. -/
def Main.see (main : Main) (value : BitVec 64) : Source → Main
  | .eventfd => { main with eventValue := value, sawEvent := true }
  | .timerfd => { main with timerExpirations := value, sawTimer := true }

/--
The call that `main` is in.  A read remembers what is left of the batch, and a
`close` which descriptors the cleanup section has still to look at.
-/
inductive Control where
  | creating (descriptor : Descriptor)
  | adding (source : Source)
  | settingTime
  | writing
  | waiting
  | reading (source : Source) (rest : List Source)
  | closing (descriptor : Descriptor) (rest : List Descriptor)
  | done
  deriving DecidableEq, Repr

/-- `main` and the kernel. -/
structure State where
  kernel : Kernel := {}
  main : Main := {}
  control : Control := .creating .epoll
  deriving DecidableEq, Repr

/-- What happens next: the timer fires, or a call of `main` is answered. -/
inductive Label where
  | fire
  | created (answer : Result Fd)
  | added (answer : Result Unit)
  | timeSet (answer : Result Unit)
  | wrote (answer : Result Nat)
  | waited (answer : Result (List Source))
  | readBack (source : Source) (answer : Result (Nat × BitVec 64))
  | closed (answer : Result Unit)

namespace State

/-- The cleanup section from some descriptor on. -/
def closeNext (state : State) : List Descriptor → State
  | [] => { state with control := .done }
  | descriptor :: rest =>
      if state.main.fd descriptor ≠ -1 then
        { state with control := .closing descriptor rest }
      else
        state.closeNext rest

/-- `cleanup`. -/
def cleanup (state : State) : State :=
  state.closeNext [.timer, .event, .epoll]

/-- The verdict behind the loop. -/
def verdict (setting : Setting) (state : State) : State :=
  let verified :=
    state.main.eventValue = setting.wakeValue ∧
      state.main.timerExpirations = 1
  cleanup
    { state with
      main :=
        { state.main with
          result := if verified then .success else .failure } }

/-- The head of the loop. -/
def loopHead (setting : Setting) (state : State) : State :=
  if !state.main.sawEvent || !state.main.sawTimer then
    { state with control := .waiting }
  else
    state.verdict setting

/-- The loop over a batch, from some event on. -/
def handle (setting : Setting) (state : State) : List Source → State
  | [] => state.loopHead setting
  | source :: rest =>
      if !state.main.saw source then
        { state with control := .reading source rest }
      else
        state.handle setting rest

/-- `epoll_create1`, `eventfd` and `timerfd_create`. -/
def created
    (state : State)
    (descriptor : Descriptor) : Result Fd → State
  | .error _ => state.cleanup
  | .ok fd =>
      { state with
        main := state.main.opened fd descriptor
        control :=
          match descriptor with
          | .epoll => .creating .event
          | .event => .creating .timer
          | .timer => .adding .eventfd }

/-- `epoll_ctl`. -/
def added (state : State) (source : Source) : Result Unit → State
  | .error _ => state.cleanup
  | .ok () =>
      { state with
        kernel :=
          { state.kernel with
            interest := state.kernel.interest ++ [source] }
        control :=
          match source with
          | .eventfd => .adding .timerfd
          | .timerfd => .settingTime }

/-- `timerfd_settime`. -/
def timeSet (state : State) : Result Unit → State
  | .error _ => state.cleanup
  | .ok () =>
      { state with
        kernel := { state.kernel with armed := true }
        control := .writing }

/-- The loop of `write_counter` once `write` has answered. -/
def writeCounter : Result Nat → LoopStep Unit (Result Unit)
  | .error error =>
      if error = .eintr then .again () else .done (.error error)
  | .ok count =>
      if count ≠ 8 then .done (.error .eio) else .done (.ok ())

/-- The loop of `read_counter` once `read` has answered. -/
def readCounter :
    Result (Nat × BitVec 64) → LoopStep Unit (Result (BitVec 64))
  | .error error =>
      if error = .eintr then .again () else .done (.error error)
  | .ok (count, value) =>
      if count ≠ 8 then .done (.error .eio) else .done (.ok value)

/-- The `write` to the eventfd. -/
def wrote
    (setting : Setting)
    (state : State)
    (answer : Result Nat) : State :=
  match writeCounter answer with
  | .again () => state
  | .done (.error _) => state.cleanup
  | .done (.ok ()) =>
      loopHead setting
        { state with kernel := state.kernel.written setting.wakeValue }

/-- `epoll_wait`. -/
def waited
    (setting : Setting)
    (state : State) : Result (List Source) → State
  | .error error => if error = .eintr then state else state.cleanup
  | .ok [] => state.cleanup
  | .ok sources => state.handle setting sources

/-- The `read` from one of the two. -/
def readBack
    (setting : Setting)
    (state : State)
    (source : Source)
    (rest : List Source)
    (answer : Result (Nat × BitVec 64)) : State :=
  match readCounter answer with
  | .again () => state
  | .done (.error _) => state.cleanup
  | .done (.ok value) =>
      handle setting
        { state with
          kernel := state.kernel.drained source
          main := state.main.see value source } rest

/-- `close` in the cleanup section. -/
def closed
    (state : State)
    (rest : List Descriptor) : Result Unit → State
  | .error _ =>
      closeNext
        { state with main := { state.main with result := .failure } } rest
  | .ok () => state.closeNext rest

end State

/-- One step. -/
def step (setting : Setting) (state : State) : Label → Option State
  | .fire =>
      if state.kernel.armed then
        some { state with kernel := state.kernel.fire }
      else
        none
  | .created answer =>
      match state.control with
      | .creating descriptor =>
          if MayOpen answer then
            some (state.created descriptor answer)
          else
            none
      | _ => none
  | .added answer =>
      match state.control with
      | .adding source => some (state.added source answer)
      | _ => none
  | .timeSet answer =>
      match state.control with
      | .settingTime => some (state.timeSet answer)
      | _ => none
  | .wrote answer =>
      if state.control = .writing ∧
          state.kernel.MayWrite setting.wakeValue answer then
        some (state.wrote setting answer)
      else
        none
  | .waited answer =>
      if state.control = .waiting ∧ state.kernel.MayReport answer then
        some (state.waited setting answer)
      else
        none
  | .readBack source answer =>
      match state.control with
      | .reading expected rest =>
          if source = expected ∧ state.kernel.MayRead source answer then
            some (state.readBack setting source rest answer)
          else
            none
      | _ => none
  | .closed answer =>
      match state.control with
      | .closing _ rest => some (state.closed rest answer)
      | _ => none

/-- The program for one value that it writes. -/
def system (setting : Setting) : System State Label where
  initial := {}
  step := step setting

/-- A call has failed for good, or `epoll_wait` has timed out. -/
def Label.Fails : Label → Prop
  | .fire => False
  | .created answer => answer.isOk = false
  | .added answer => answer.isOk = false
  | .timeSet answer => answer.isOk = false
  | .wrote answer => answer.Meets (· ≠ .eintr) fun _ => False
  | .waited answer => answer.Meets (· ≠ .eintr) (· = [])
  | .readBack _ answer => answer.Meets (· ≠ .eintr) fun _ => False
  | .closed answer => answer.isOk = false

/-- A label after which there is something to read. -/
def Label.arrives : Source → Label → Bool
  | .eventfd, .wrote answer => answer.isOk
  | .timerfd, .fire => true
  | _, _ => false

/-- Something has been there to read in a run. -/
def arrived (labels : List Label) (source : Source) : Bool :=
  labels.any (Label.arrives source)

/-- A label that is a successful read. -/
def Label.reads (source : Source) : Label → Bool
  | .readBack read answer => read = source && answer.isOk
  | _ => false

/-- How often a descriptor was read successfully in a run. -/
def readCount (labels : List Label) (source : Source) : Nat :=
  labels.countP (Label.reads source)

end AdvanceUnix.EventLoop
