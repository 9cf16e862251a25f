import AdvanceUnix.TransferLoop

namespace AdvanceUnix.FullTransfer

open CallTree

/-!
# The loops that transfer a whole buffer, as they are written

`write_all` and `read_all` of `09_fd_passing` and `13_zero_copy`, `send_all`
and `receive_all` of `10_tcp_sockets` and `transfer_all` of `16_terminal`, on
the level of C: a call returns an `ssize_t`, may set `errno`, and if it reads
it stores into the buffer.  The loops differ in how they look at the count.
-/

/--
The calls that transfer bytes; `send` is always made with `MSG_NOSIGNAL` and
`recv` without a flag.
-/
inductive TransferCall where
  | write
  | read
  | send
  | recv
  deriving DecidableEq, Repr

/-- The calls that store into the buffer. -/
def TransferCall.Stores : TransferCall → Prop
  | .write => False
  | .read => True
  | .send => False
  | .recv => True

instance (call : TransferCall) : Decidable call.Stores := by
  cases call <;> unfold TransferCall.Stores <;> infer_instance

/-- One call: the position in the buffer and how many bytes are asked for. -/
structure Request where
  call : TransferCall
  fd : Fd
  position : Nat
  count : Nat
  deriving DecidableEq, Repr

/--
What the kernel does: it fails with an `errno`, or it moves some bytes, which
a call that reads finds in `data`.
-/
inductive KernelAnswer where
  | failed (errno : Nat)
  | moved (count : Nat) (data : Nat → UInt8)

/-- The `ssize_t` that the call returns. -/
def KernelAnswer.count : KernelAnswer → Int
  | .failed _ => -1
  | .moved count _ => count

/-- `errno` after the call. -/
def KernelAnswer.errno (before : Nat) : KernelAnswer → Nat
  | .failed errno => errno
  | .moved _ _ => before

/-- The buffer after a call that stores at a position. -/
def KernelAnswer.store
    (buffer : Nat → UInt8)
    (position : Nat) : KernelAnswer → Nat → UInt8
  | .failed _ => buffer
  | .moved count data => fun index =>
      if position ≤ index ∧ index < position + count then
        data (index - position)
      else
        buffer index

/-- How far a loop has come, `errno` and the buffer. -/
structure Progress where
  completed : Nat
  errno : Nat
  buffer : Nat → UInt8

/-- What a call changes before the loop looks at its count. -/
def Progress.called
    (progress : Progress)
    (call : TransferCall)
    (answer : KernelAnswer) : Progress where
  completed := progress.completed
  errno := answer.errno progress.errno
  buffer :=
    if call.Stores then
      answer.store progress.buffer progress.completed
    else
      progress.buffer

/-- The offset has been advanced by a count. -/
def Progress.advance (progress : Progress) (count : Int) : Progress :=
  { progress with completed := progress.completed + count.toNat }

/-- What a loop returns, with `errno` and the buffer behind it. -/
@[ext] structure Returned where
  value : Int
  errno : Nat
  buffer : Nat → UInt8

/-- A return with the present `errno`. -/
def Progress.returned (progress : Progress) (value : Int) : Returned where
  value := value
  errno := progress.errno
  buffer := progress.buffer

/-- `errno` has been set. -/
def Progress.setErrno (progress : Progress) (errno : Nat) : Progress :=
  { progress with errno := errno }

/-- `EINTR`. -/
def eintr : Nat := 4

/-- `EIO`. -/
def eio : Nat := 5

/-- `EPIPE`. -/
def epipe : Nat := 32

/-- `ECONNRESET`. -/
def econnreset : Nat := 104

/-- The rest of an iteration that looks for a positive count first. -/
def positiveFirst
    (zeroErrno : Nat)
    (progress : Progress)
    (count : Int) : LoopStep Progress Returned :=
  if count > 0 then
    .again (progress.advance count)
  else if count < 0 ∧ progress.errno = eintr then
    .again progress
  else
    let progress :=
      if count = 0 then progress.setErrno zeroErrno else progress
    .done (progress.returned (-1))

/-- The rest of an iteration that looks for a negative count first. -/
def negativeFirst
    (zeroErrno : Nat)
    (progress : Progress)
    (count : Int) : LoopStep Progress Returned :=
  if count < 0 then
    if progress.errno = eintr then
      .again progress
    else
      .done (progress.returned (-1))
  else if count = 0 then
    .done ((progress.setErrno zeroErrno).returned (-1))
  else
    .again (progress.advance count)

/-- The rest of an iteration that is a chain of alternatives. -/
def elseChain
    (zeroErrno : Nat)
    (progress : Progress)
    (count : Int) : LoopStep Progress Returned :=
  if count > 0 then
    .again (progress.advance count)
  else if count = -1 ∧ progress.errno = eintr then
    .again progress
  else
    let progress :=
      if count = 0 then progress.setErrno zeroErrno else progress
    .done (progress.returned (-1))

/-- A loop over the requests. -/
abbrev Loop := Program (fun _ : Request => KernelAnswer) Returned

/-- The loop, with what one of the programs does with a count. -/
def transferLoop
    (call : TransferCall)
    (fd : Fd)
    (length : Nat)
    (answered : Progress → Int → LoopStep Progress Returned)
    (start : Progress) : Loop :=
  Program.iterate (fun progress => do
    if progress.completed < length then
      let answer ←
        Program.request
          { call := call
            fd := fd
            position := progress.completed
            count := length - progress.completed }
      return answered (progress.called call answer) answer.count
    else
      return .done (progress.returned 0)) start

/-- A loop starts with nothing done, some `errno` and some buffer. -/
def Progress.start (errno : Nat) (buffer : Nat → UInt8) : Progress where
  completed := 0
  errno := errno
  buffer := buffer

section Loops

variable (fd : Fd) (length errno : Nat) (buffer : Nat → UInt8)

namespace FdPassing

/-- `write_all` of `09_fd_passing`. -/
def writeAll : Loop :=
  transferLoop .write fd length (positiveFirst eio) (.start errno buffer)

/-- `read_all` of `09_fd_passing`. -/
def readAll : Loop :=
  transferLoop .read fd length (positiveFirst epipe) (.start errno buffer)

end FdPassing

namespace ZeroCopy

/-- `write_all` of `13_zero_copy`. -/
def writeAll : Loop :=
  transferLoop .write fd length (negativeFirst eio) (.start errno buffer)

/-- `read_all` of `13_zero_copy`. -/
def readAll : Loop :=
  transferLoop .read fd length (negativeFirst eio) (.start errno buffer)

end ZeroCopy

namespace TcpSockets

/-- `send_all` of `10_tcp_sockets`. -/
def sendAll : Loop :=
  transferLoop .send fd length (elseChain eio) (.start errno buffer)

/-- `receive_all` of `10_tcp_sockets`. -/
def receiveAll : Loop :=
  transferLoop .recv fd length (elseChain econnreset) (.start errno buffer)

end TcpSockets

namespace Terminal

/-- `transfer_all` of `16_terminal`. -/
def transferAll (writing : Bool) : Loop :=
  transferLoop (if writing then .write else .read) fd length
    (negativeFirst eio) (.start errno buffer)

end Terminal

end Loops

end AdvanceUnix.FullTransfer
