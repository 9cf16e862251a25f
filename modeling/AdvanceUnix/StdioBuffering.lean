import AdvanceUnix.Audit
import AdvanceUnix.PositionedIo
import AdvanceUnix.StagedQueue
import AdvanceUnix.SystemCalls

namespace AdvanceUnix.StdioBuffering

open CallTree PositionedIo

/-!
# A buffered stream over a pipe

The program of `21_stdio_buffering` and what is under it: a pipe, and a stream
of the C library that owns the write end and keeps what is written to it until
it passes it on.  What is written is a parameter here.
-/

/-- The bit of `O_NONBLOCK`. -/
def nonblockBit : Nat := 11

/-- `O_NONBLOCK`. -/
def oNonblock : BitVec 32 := BitVec.twoPow 32 nonblockBit

/-- A stream that is open. -/
abbrev Stream := Nat

/-- What a call on the stream answers, and how much it has passed on. -/
structure Passed (α : Type) where
  answer : α
  count : Nat

/-- The calls of the program. -/
inductive Call where
  | pipe
  | fcntlGetfl (fd : Fd)
  | fcntlSetfl (fd : Fd) (flags : BitVec 32)
  | fdopen (fd : Fd)
  | setvbuf (stream : Stream) (size : Nat)
  | fileno (stream : Stream)
  | fwrite (bytes : List UInt8) (stream : Stream)
  | fflush (stream : Stream)
  | fclose (stream : Stream)
  | read (fd : Fd) (size : Nat)
  | close (fd : Fd)
  deriving DecidableEq, Repr

/--
Their answers.  The program does not see how much a stream has passed on, which
it may do at any call on it.
-/
@[reducible] def Answer : Call → Type
  | .pipe => Result (Fd × Fd)
  | .fcntlGetfl _ => Result (BitVec 32)
  | .fcntlSetfl _ _ => Result Unit
  | .fdopen _ => Result Stream
  | .setvbuf _ _ => Result Unit
  | .fileno _ => Fd
  | .fwrite _ _ => Passed Nat
  | .fflush _ => Passed (Result Unit)
  | .fclose _ => Passed (Result Unit)
  | .read _ _ => Result (List UInt8)
  | .close _ => Result Unit

/-- A program over these calls. -/
abbrev Streaming (α : Type) := Program Answer α

/-- Make one call. -/
def invoke (call : Call) : Streaming (Answer call) :=
  Program.request call

/-- `set_nonblocking`. -/
def setNonblocking (fd : Fd) : Streaming (Result Unit) := do
  match ← Program.retry (· = Errno.eintr) (invoke (.fcntlGetfl fd)) with
  | .error error => return .error error
  | .ok flags =>
      Program.retry (· = Errno.eintr)
        (invoke (.fcntlSetfl fd (flags ||| oNonblock)))

/-- `read_exact`. -/
def readExact (fd : Fd) (size : Nat) :
    Streaming (Result (List UInt8)) :=
  Program.reading (· = Errno.eintr) (fun _ => .error .epipe)
    (fun _ missing => invoke (.read fd missing)) size

/-- What the cleanup section finds: -1 for a descriptor that is not owned. -/
structure Held where
  reader : Fd := -1
  writer : Fd := -1
  stream : Option Stream := none
  deriving DecidableEq, Repr

/-- `fclose`, without what the program does not see. -/
def closeStream (stream : Stream) : Streaming (Result Unit) := do
  return (← invoke (.fclose stream)).answer

/-- The cleanup of the stream. -/
def cleanupStream (held : Held) (result : Exit) : Streaming Exit :=
  match held.stream with
  | none => return result
  | some stream =>
      Program.releasing true (closeStream stream) .failure result

/-- The cleanup section. -/
def cleanup (held : Held) (result : Exit) : Streaming Exit := do
  let result ← cleanupStream held result
  let result ←
    Program.releasing (0 ≤ held.reader) (invoke (.close held.reader))
      .failure result
  Program.releasing (0 ≤ held.writer) (invoke (.close held.writer)) .failure
    result

/-- `before_flush` bytes, unless the probe failed in another way. -/
def probed : Result (List UInt8) → Option (List UInt8)
  | .ok [] => none
  | .ok bytes => some bytes
  | .error error => if error = .eagain then some [] else none

/-- `main` once everything has been written to the stream. -/
def observe
    (message : List UInt8)
    (held : Held)
    (stream : Stream) : Streaming Exit := do
  let probe ←
    Program.retry (· = Errno.eintr)
      (invoke (.read held.reader message.length))
  match probed probe with
  | none => cleanup held .failure
  | some before =>
      let flushed ← invoke (.fflush stream)
      if flushed.answer.toOption = some () then
        let .ok after ←
            readExact held.reader (message.length - before.length)
          | cleanup held .failure
        if before ++ after = message then
          cleanup held .success
        else
          cleanup held .failure
      else
        cleanup held .failure

/-- `main` once it has its stream. -/
def writing
    (message : List UInt8)
    (held : Held)
    (stream : Stream)
    (writer : Fd) : Streaming Exit := do
  let .ok _ ← invoke (.setvbuf stream 128)
    | cleanup held .failure
  let number ← invoke (.fileno stream)
  if number = writer then
    let written ← invoke (.fwrite message stream)
    if written.answer = message.length then
      observe message held stream
    else
      cleanup held .failure
  else
    cleanup held .failure

/-- `main`, for any message. -/
def mainWriting (message : List UInt8) : Streaming Exit := do
  let .ok ends ← invoke .pipe
    | cleanup {} .failure
  let held : Held := { reader := ends.1, writer := ends.2 }
  let .ok _ ← setNonblocking ends.1
    | cleanup held .failure
  let .ok stream ← invoke (.fdopen ends.2)
    | cleanup held .failure
  writing message { reader := ends.1, stream := some stream } stream ends.2

/-- `buffered payload`. -/
def message : List UInt8 :=
  [98, 117, 102, 102, 101, 114, 101, 100, 32, 112, 97, 121, 108, 111, 97,
    100]

/-- `main`. -/
def main : Streaming Exit :=
  mainWriting message

/-- The open stream and the descriptor that it owns. -/
structure OpenStream where
  stream : Stream
  fd : Fd
  deriving DecidableEq, Repr

/--
The kernel and the C library: who owns the two ends, whether reading waits,
what the stream has accepted, and where these bytes are.
-/
structure Kernel where
  reader : Option Fd := none
  writer : Option Fd := none
  stream : Option OpenStream := none
  nonblocking : Bool := false
  accepted : List UInt8 := []
  bytes : StagedQueue UInt8 := {}
  deriving DecidableEq, Repr

namespace Kernel

variable (kernel : Kernel)

/-- A descriptor that the program owns itself is closed. -/
def without (fd : Fd) : Kernel :=
  if kernel.reader = some fd then
    { kernel with reader := none }
  else
    { kernel with writer := none }

/-- The effect of an answered call. -/
def next : (request : Call) → Answer request → Kernel
  | .pipe, .ok (reader, writer) =>
      { reader := some reader, writer := some writer }
  | .fcntlSetfl _ flags, .ok _ =>
      { kernel with nonblocking := flags.getLsbD nonblockBit }
  | .fdopen fd, .ok stream =>
      { kernel with writer := none, stream := some ⟨stream, fd⟩ }
  | .fwrite bytes _, written =>
      { kernel with
        accepted := kernel.accepted ++ bytes.take written.answer
        bytes :=
          (kernel.bytes.accept (bytes.take written.answer)).pass
            written.count }
  | .fflush _, ⟨.ok _, _⟩ =>
      { kernel with bytes := kernel.bytes.pass kernel.bytes.kept.length }
  | .fflush _, ⟨.error _, count⟩ =>
      { kernel with bytes := kernel.bytes.pass count }
  | .fclose _, ⟨.ok _, _⟩ =>
      { kernel with
        stream := none
        bytes := kernel.bytes.pass kernel.bytes.kept.length }
  | .fclose _, ⟨.error _, count⟩ =>
      { kernel with stream := none, bytes := (kernel.bytes.pass count).lose }
  | .read _ _, .ok bytes =>
      { kernel with bytes := kernel.bytes.take bytes.length }
  | .close fd, _ => kernel.without fd
  | _, _ => kernel

/-- What reading from the pipe may answer: nothing only if nobody writes. -/
def MayRead (size : Nat) : Result (List UInt8) → Prop
  | .error error =>
      error = .eagain → kernel.nonblocking = true ∧ kernel.bytes.passing = []
  | .ok bytes =>
      Reads kernel.bytes.passing size bytes ∧
        (bytes = [] → size = 0 ∨ kernel.writer = none ∧ kernel.stream = none)

/-- What the kernel and the C library may answer. -/
def Allows : (request : Call) → Answer request → Prop
  | .pipe, answer =>
      (answer : Result (Fd × Fd)).Meets (fun _ => True) fun ends =>
        0 ≤ ends.1 ∧ 0 ≤ ends.2 ∧ ends.1 ≠ ends.2
  | .fileno stream, answer =>
      ∀ owned, kernel.stream = some ⟨stream, owned⟩ → (answer : Fd) = owned
  | .fwrite bytes _, answer => (answer : Passed Nat).answer ≤ bytes.length
  | .read _ size, answer => kernel.MayRead size answer
  | _, _ => True

/-- The stream is this one. -/
def IsStream (stream : Stream) : Prop :=
  ∃ fd, kernel.stream = some ⟨stream, fd⟩

/--
A descriptor is only used by its owner, and no call waits: reading does not
wait, and what is written fits into the pipe.
-/
def Safe (capacity : Nat) : Call → Prop
  | .pipe => kernel = {}
  | .fcntlGetfl fd => kernel.reader = some fd
  | .fcntlSetfl fd _ => kernel.reader = some fd
  | .fdopen fd =>
      kernel.writer = some fd ∧ kernel.stream = none ∧ kernel.accepted = []
  | .setvbuf stream _ => kernel.IsStream stream ∧ kernel.accepted = []
  | .fileno stream => kernel.IsStream stream
  | .fwrite bytes stream =>
      kernel.IsStream stream ∧
        (kernel.bytes.passing ++ kernel.bytes.kept ++ bytes).length ≤ capacity
  | .fflush stream =>
      kernel.IsStream stream ∧
        (kernel.bytes.passing ++ kernel.bytes.kept).length ≤ capacity
  | .fclose stream =>
      kernel.IsStream stream ∧
        (kernel.bytes.passing ++ kernel.bytes.kept).length ≤ capacity
  | .read fd _ => kernel.reader = some fd ∧ kernel.nonblocking = true
  | .close fd => kernel.reader = some fd ∨ kernel.writer = some fd

end Kernel

/-- A call that has failed: a probe may find nothing to read. -/
def Fails : (request : Call) → Answer request → Bool
  | .pipe, answer => (answer : Result (Fd × Fd)).toOption.isNone
  | .fcntlGetfl _, answer =>
      FailsFor (fun _ => true) (answer : Result (BitVec 32))
  | .fcntlSetfl _ _, answer =>
      FailsFor (fun _ => true) (answer : Result Unit)
  | .fdopen _, answer => (answer : Result Stream).toOption.isNone
  | .setvbuf _ _, answer => (answer : Result Unit).toOption.isNone
  | .fileno _, _ => false
  | .fwrite bytes _, answer => (answer : Passed Nat).answer ≠ bytes.length
  | .fflush _, answer => (answer : Passed (Result Unit)).answer.toOption.isNone
  | .fclose _, answer => (answer : Passed (Result Unit)).answer.toOption.isNone
  | .read _ _, answer =>
      match (answer : Result (List UInt8)) with
      | .error error => error ≠ .eintr ∧ error ≠ .eagain
      | .ok _ => false
  | .close _, answer => (answer : Result Unit).toOption.isNone

/-- The audit of the program, over a pipe of some capacity. -/
def audit (capacity : Nat) : Audit Answer Kernel where
  next := Kernel.next
  allows := Kernel.Allows
  safe := fun kernel => kernel.Safe capacity
  fails := Fails

/-- The kernel, and whether a call has failed. -/
abbrev Watched := Audited Kernel

/-- The monitor of the program. -/
def monitor (capacity : Nat) : Monitor Answer Watched :=
  (audit capacity).monitor

end AdvanceUnix.StdioBuffering
