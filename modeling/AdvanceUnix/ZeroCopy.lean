import AdvanceUnix.Transition
import AdvanceUnix.TransferLoop
import Mathlib.Algebra.Ring.Nat

namespace AdvanceUnix.ZeroCopy

open CallTree Transition

/-!
# A pipeline without copies

`main` of `13_zero_copy` with the file and the pipe, for any payload and any
capacity of the pipe.  A step is the answer of the call that `main` is in,
together with all that `main` does up to its next call.  Both ends of the pipe
are in this process, so a full pipe stays full until `main` reads from it.
-/

/-- The payload, which is a fixed text in the source, and the capacity. -/
structure Setting where
  payload : List UInt8
  capacity : Nat
  nonempty : 0 < payload.length
  positive : 0 < capacity

/-- `payload_size`. -/
def Setting.size (setting : Setting) : Nat :=
  setting.payload.length

/-- The file and the pipe. -/
structure Kernel where
  file : List UInt8 := []
  pipe : List UInt8 := []
  writerOpen : Bool := false
  deriving DecidableEq, Repr

/-- The variables of `main`; of `received` it is the part that is filled. -/
structure Main where
  inputFd : Fd := -1
  readerFd : Fd := -1
  writerFd : Fd := -1
  pathExists : Bool := false
  inputOffset : Nat := 0
  moved : Nat := 0
  received : List UInt8 := []
  result : Exit := .failure
  deriving DecidableEq, Repr

/-- What the cleanup section looks at. -/
inductive Resource where
  | reader
  | writer
  | file
  | path
  deriving DecidableEq, Repr

/-- Whether it has to be released. -/
def Main.holds (main : Main) : Resource → Bool
  | .reader => main.readerFd ≥ 0
  | .writer => main.writerFd ≥ 0
  | .file => main.inputFd ≥ 0
  | .path => main.pathExists

/--
The call that `main` is in: `write` with what `write_all` has written so far,
a release with what the cleanup section has still to look at.
-/
inductive Control where
  | making
  | unlinking
  | writing (written : Nat)
  | piping
  | splicing
  | closingWriter
  | reading
  | releasing (resource : Resource) (rest : List Resource)
  | done
  deriving DecidableEq, Repr

/-- `main` and the kernel. -/
structure State where
  kernel : Kernel := {}
  main : Main := {}
  control : Control := .making
  deriving DecidableEq, Repr

/-- What happens next: the answer of the call that `main` is in. -/
inductive Label where
  | made (answer : Result Fd)
  | unlinked (answer : Result Unit)
  | wrote (answer : Result Nat)
  | piped (answer : Result (Fd × Fd))
  | spliced (answer : Result Nat)
  | writerClosed (answer : Result Unit)
  | readBack (answer : Result (List UInt8))
  | released (answer : Result Unit)

/-- The rest of a splicing iteration; `goto cleanup` without a value. -/
def spliceAnswered (moved : Nat) : Result Nat → LoopStep Nat Unit
  | .error error =>
      if error = .eintr then .again moved else .done ()
  | .ok 0 => .done ()
  | .ok count => .again (moved + count)

section Kernel

variable (setting : Setting) (state : State)

/-- What `main` asks `splice` for. -/
def State.unmoved : Nat :=
  setting.size - state.main.moved

/-- What is left of the file at `input_offset`. -/
def State.unspliced : List UInt8 :=
  state.kernel.file.drop state.main.inputOffset

/-- What the pipe has room for. -/
def State.room : Nat :=
  setting.capacity - state.kernel.pipe.length

/-- A write takes at most what it is given. -/
def State.MayWrite (written : Nat) (answer : Result Nat) : Prop :=
  answer.Meets (fun _ => True) fun count =>
    count ≤ (setting.payload.drop written).length

/--
A splice moves at most what it is asked for, what is left of the file and what
the pipe has room for.  It moves nothing only at the end of the file, and so
it has no answer but an error while the pipe is full.
-/
def State.MaySplice (answer : Result Nat) : Prop :=
  answer.Meets (fun _ => True) fun count =>
    count ≤ state.unmoved setting ∧ count ≤ state.unspliced.length ∧
      count ≤ state.room setting ∧ (count = 0 → state.unspliced = [])

/--
A read takes some bytes off the front of the pipe, at most as many as it is
asked for, and none only when the pipe is empty and nobody writes to it.
-/
def State.MayRead (answer : Result (List UInt8)) : Prop :=
  answer.Meets (fun _ => True) fun bytes =>
    bytes.length ≤ setting.size - state.main.received.length ∧
      bytes <+: state.kernel.pipe ∧
      (bytes = [] →
        state.kernel.pipe = [] ∧ state.kernel.writerOpen = false)

end Kernel

/-- Neither of the two descriptors of a pipe is negative. -/
def MayPipe (answer : Result (Fd × Fd)) : Prop :=
  answer.Meets (fun _ => True) fun fds => 0 ≤ fds.1 ∧ 0 ≤ fds.2

instance (answer : Result (Fd × Fd)) : Decidable (MayPipe answer) :=
  inferInstanceAs (Decidable (answer.Meets _ _))

instance
    (setting : Setting)
    (written : Nat)
    (answer : Result Nat) :
    Decidable (State.MayWrite setting written answer) :=
  inferInstanceAs (Decidable (answer.Meets _ _))

instance
    (setting : Setting)
    (state : State)
    (answer : Result Nat) :
    Decidable (state.MaySplice setting answer) :=
  inferInstanceAs (Decidable (answer.Meets _ _))

instance
    (setting : Setting)
    (state : State)
    (answer : Result (List UInt8)) :
    Decidable (state.MayRead setting answer) :=
  inferInstanceAs (Decidable (answer.Meets _ _))

namespace State

/-- The cleanup section from some resource on. -/
def releaseNext (state : State) : List Resource → State
  | [] => { state with control := .done }
  | resource :: rest =>
      if state.main.holds resource then
        { state with control := .releasing resource rest }
      else
        state.releaseNext rest

/-- `cleanup`. -/
def cleanup (state : State) : State :=
  state.releaseNext [.reader, .writer, .file, .path]

/-- The head of the loop of `write_all`. -/
def writeHead (setting : Setting) (state : State) (written : Nat) : State :=
  if written < setting.size then
    { state with control := .writing written }
  else
    { state with control := .piping }

/-- The head of the loop that splices. -/
def spliceHead (setting : Setting) (state : State) : State :=
  if state.main.moved < setting.size then
    { state with control := .splicing }
  else
    { state with control := .closingWriter }

/-- The verdict behind `read_all`. -/
def verdict (setting : Setting) (state : State) : State :=
  if state.main.received ≠ setting.payload ∨
      state.main.inputOffset ≠ setting.size then
    state.cleanup
  else
    cleanup { state with main := { state.main with result := .success } }

/-- The head of the loop of `read_all`. -/
def readHead (setting : Setting) (state : State) : State :=
  if state.main.received.length < setting.size then
    { state with control := .reading }
  else
    state.verdict setting

/-- `mkstemp`. -/
def made (state : State) : Result Fd → State
  | .error _ => state.cleanup
  | .ok fd =>
      { state with
        main := { state.main with inputFd := fd, pathExists := true }
        control := .unlinking }

/-- The `unlink` behind it. -/
def unlinked (setting : Setting) (state : State) : Result Unit → State
  | .error _ => state.cleanup
  | .ok () =>
      writeHead setting
        { state with main := { state.main with pathExists := false } } 0

/-- What a write appends to the file. -/
def appended
    (setting : Setting)
    (state : State)
    (written : Nat) : Result Nat → State
  | .error _ => state
  | .ok count =>
      { state with
        kernel :=
          { state.kernel with
            file :=
              state.kernel.file ++
                (setting.payload.drop written).take count } }

/-- The `write` of `write_all`. -/
def wrote
    (setting : Setting)
    (state : State)
    (written : Nat)
    (answer : Result Nat) : State :=
  match writeAnswered .eio written answer with
  | .again total =>
      writeHead setting (state.appended setting written answer) total
  | .done _ => state.cleanup

/-- `pipe2` and the variables of the loop behind it. -/
def piped (setting : Setting) (state : State) : Result (Fd × Fd) → State
  | .error _ => state.cleanup
  | .ok fds =>
      spliceHead setting
        { state with
          kernel := { state.kernel with writerOpen := true }
          main :=
            { state.main with
              readerFd := fds.1
              writerFd := fds.2
              inputOffset := 0
              moved := 0 } }

/-- What the kernel does for a splice, the offset included. -/
def transferred (state : State) : Result Nat → State
  | .error _ => state
  | .ok count =>
      { state with
        kernel :=
          { state.kernel with
            pipe := state.kernel.pipe ++ state.unspliced.take count }
        main :=
          { state.main with
            inputOffset := state.main.inputOffset + count } }

/-- `splice`. -/
def spliced
    (setting : Setting)
    (state : State)
    (answer : Result Nat) : State :=
  let after := state.transferred answer
  match spliceAnswered state.main.moved answer with
  | .again moved =>
      spliceHead setting
        { after with main := { after.main with moved := moved } }
  | .done () => after.cleanup

/-- The `close` of the writing end, which `main` forgets in any case. -/
def writerClosed (setting : Setting) (state : State) : Result Unit → State
  | .error _ =>
      cleanup { state with main := { state.main with writerFd := -1 } }
  | .ok () =>
      readHead setting
        { state with
          kernel := { state.kernel with writerOpen := false }
          main := { state.main with writerFd := -1 } }

/-- What a read takes off the pipe. -/
def taken (state : State) : Result (List UInt8) → State
  | .error _ => state
  | .ok bytes =>
      { state with
        kernel :=
          { state.kernel with
            pipe := state.kernel.pipe.drop bytes.length } }

/-- The `read` of `read_all`. -/
def readBack
    (setting : Setting)
    (state : State)
    (answer : Result (List UInt8)) : State :=
  let after := state.taken answer
  match readAnswered .eio state.main.received answer with
  | .again received =>
      readHead setting
        { after with main := { after.main with received := received } }
  | .done _ => after.cleanup

/-- One release of the cleanup section. -/
def released
    (state : State)
    (rest : List Resource) : Result Unit → State
  | .error _ =>
      releaseNext
        { state with main := { state.main with result := .failure } } rest
  | .ok () => state.releaseNext rest

end State

/-- One step. -/
def step (setting : Setting) (state : State) : Label → Option State
  | .made answer =>
      if state.control = .making ∧ MayOpen answer then
        some (state.made answer)
      else
        none
  | .unlinked answer =>
      if state.control = .unlinking then
        some (state.unlinked setting answer)
      else
        none
  | .wrote answer =>
      match state.control with
      | .writing written =>
          if State.MayWrite setting written answer then
            some (state.wrote setting written answer)
          else
            none
      | _ => none
  | .piped answer =>
      if state.control = .piping ∧ MayPipe answer then
        some (state.piped setting answer)
      else
        none
  | .spliced answer =>
      if state.control = .splicing ∧ state.MaySplice setting answer then
        some (state.spliced setting answer)
      else
        none
  | .writerClosed answer =>
      if state.control = .closingWriter then
        some (state.writerClosed setting answer)
      else
        none
  | .readBack answer =>
      if state.control = .reading ∧ state.MayRead setting answer then
        some (state.readBack setting answer)
      else
        none
  | .released answer =>
      match state.control with
      | .releasing _ rest => some (state.released rest answer)
      | _ => none

/-- The program for one payload and one capacity. -/
def system (setting : Setting) : System State Label where
  initial := {}
  step := step setting

/-- A call has failed for good, or has moved nothing. -/
def Label.Fails : Label → Prop
  | .made answer => answer.isOk = false
  | .unlinked answer => answer.isOk = false
  | .wrote answer => answer.Meets (· ≠ .eintr) (· = 0)
  | .piped answer => answer.isOk = false
  | .spliced answer => answer.Meets (· ≠ .eintr) (· = 0)
  | .writerClosed answer => answer.isOk = false
  | .readBack answer => answer.Meets (· ≠ .eintr) (· = [])
  | .released answer => answer.isOk = false

end AdvanceUnix.ZeroCopy
