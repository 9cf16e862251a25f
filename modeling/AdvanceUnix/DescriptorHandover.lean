import AdvanceUnix.Channel
import AdvanceUnix.DescriptorAccounting
import AdvanceUnix.DescriptorSend
import AdvanceUnix.Processes

namespace AdvanceUnix.FdPassing.Handover

open CallTree ChildProcess

/-!
# The kernel under the hand-over

What parent and child of `09_fd_passing` share after `fork`: a datagram from
the parent to the child, the pipe, and the child's life.  The child was forked
before the pipe was made, so the parent's descriptor is the only write end.
-/

/-- What `main` has set up when it forks. -/
structure Setting where
  payload : List UInt8
  channels : Fd × Fd
  child : Pid
  capacity : Nat
  distinct : channels.1 ≠ channels.2
  fits : payload.length ≤ capacity

/-- The parent's descriptors of the objects that it shares with the child. -/
structure Files where
  socket : Option Fd
  readEnd : Option Fd
  writeEnd : Option Fd
  deriving DecidableEq, Repr

/-- A descriptor is no longer one of an object, if it was. -/
def drop (fd : Fd) (open? : Option Fd) : Option Fd :=
  open?.filter (· ≠ fd)

/-- `close` releases the descriptor whatever it answers. -/
def Files.close (files : Files) (fd : Fd) : Files where
  socket := drop fd files.socket
  readEnd := drop fd files.readEnd
  writeEnd := drop fd files.writeEnd

/-- The child runs until it has ended in some way. -/
inductive ChildLife where
  | running
  | ended (status : WaitStatus)
  deriving DecidableEq, Repr

/-- `SIGKILL` ends a child that has not ended before. -/
def ChildLife.kill : ChildLife → ChildLife
  | .running => .ended (.signaled 9)
  | .ended status => .ended status

/-- The shared objects; `installed` are the child's read ends of the pipe. -/
structure Kernel where
  files : Files
  queued : Bool
  pipe : Channel.Fifo UInt8
  installed : List Fd
  life : ChildLife

/-- Right after `fork`, with the parent's socket open. -/
def Setting.kernel (setting : Setting) : Kernel where
  files := ⟨some setting.channels.1, none, none⟩
  queued := false
  pipe := .empty
  installed := []
  life := .running

/-- The bytes that `read` may move: some of them, none only at the end. -/
structure Readable
    (kernel : Kernel)
    (size : Nat)
    (bytes : List UInt8) : Prop where
  front : bytes = kernel.pipe.contents.take bytes.length
  fits : bytes.length ≤ size
  ended :
    bytes = [] →
    size = 0 ∨ kernel.pipe.contents = [] ∧ kernel.files.writeEnd = none

variable (dependable : Prop) (setting : Setting)

/--
What the kernel may answer.  Every call but `kill` may fail; `kill` may be
interrupted, and so may `waitpid`, which otherwise fails only under a kernel
that is not dependable.  `recvmsg` waits for a datagram, also when its peer is
closed, and `read` for bytes or for the last write end to close.
-/
inductive Answered (kernel : Kernel) :
    Role → (request : Syscall) → Answer request → Kernel → Prop where
  | close
      {fd : Fd}
      (answer : Result Unit) :
      Answered kernel .parent (.close fd) answer
        { kernel with files := kernel.files.close fd }
  | pipeFailed
      (error : Errno) :
      Answered kernel .parent .pipe (.error error) kernel
  | pipe
      (readEnd writeEnd : Fd)
      (different : readEnd ≠ writeEnd)
      (freshRead : kernel.files.socket ≠ some readEnd)
      (freshWrite : kernel.files.socket ≠ some writeEnd) :
      Answered kernel .parent .pipe (.ok (readEnd, writeEnd))
        { kernel with
          files :=
            { kernel.files with
              readEnd := some readEnd
              writeEnd := some writeEnd } }
  | writeFailed
      {fd : Fd}
      {bytes : List UInt8}
      (error : Errno) :
      Answered kernel .parent (.write fd bytes) (.error error) kernel
  | write
      {fd : Fd}
      {bytes : List UInt8}
      (count : Nat)
      (isWriteEnd : kernel.files.writeEnd = some fd)
      (some : count ≤ bytes.length)
      (room : kernel.pipe.contents.length + count ≤ setting.capacity) :
      Answered kernel .parent (.write fd bytes) (.ok count)
        { kernel with pipe := kernel.pipe.put (bytes.take count) }
  | sendFailed
      {fd descriptor : Fd}
      {payload : UInt8}
      (error : Errno) :
      Answered kernel .parent (.sendmsg fd payload descriptor)
        (.error error) kernel
  | send
      {fd descriptor : Fd}
      {payload : UInt8}
      (count : Nat)
      (isSocket : kernel.files.socket = some fd)
      (isReadEnd : kernel.files.readEnd = some descriptor) :
      Answered kernel .parent (.sendmsg fd payload descriptor) (.ok count)
        { kernel with queued := true }
  | killInterrupted
      {child : Pid}
      {signal : Signal} :
      Answered kernel .parent (.kill child signal) (.error .eintr) kernel
  | kill :
      Answered kernel .parent (.kill setting.child .sigkill) (.ok ())
        { kernel with life := kernel.life.kill }
  | waitFailed
      {child : Pid}
      {error : Errno}
      (known : dependable → error = .eintr) :
      Answered kernel .parent (.waitpid child) (.error error) kernel
  | wait
      {status : WaitStatus}
      (ended : kernel.life = .ended status) :
      Answered kernel .parent (.waitpid setting.child) (.ok status) kernel
  | childClose
      {fd : Fd}
      (running : kernel.life = .running)
      (answer : Result Unit) :
      Answered kernel .child (.close fd) answer
        { kernel with installed := kernel.installed.filter (· ≠ fd) }
  | receiveFailed
      {fd : Fd}
      (running : kernel.life = .running)
      (error : Errno) :
      Answered kernel .child (.recvmsg fd) (.error error) kernel
  | receive
      {message : Received}
      (running : kernel.life = .running)
      (queued : kernel.queued = true)
      (installs : kernelInstalls (.recvmsg setting.channels.2) (.ok message)) :
      Answered kernel .child (.recvmsg setting.channels.2) (.ok message)
        { kernel with queued := false, installed := message.installed }
  | getfd
      {fd : Fd}
      (running : kernel.life = .running)
      (answer : Result (BitVec 32)) :
      Answered kernel .child (.fcntlGetfd fd) answer kernel
  | setfd
      {fd : Fd}
      {flags : BitVec 32}
      (running : kernel.life = .running)
      (answer : Result Unit) :
      Answered kernel .child (.fcntlSetfd fd flags) answer kernel
  | readFailed
      {fd : Fd}
      {size : Nat}
      (running : kernel.life = .running)
      (error : Errno) :
      Answered kernel .child (.read fd size) (.error error) kernel
  | read
      {fd : Fd}
      {size : Nat}
      {bytes : List UInt8}
      (running : kernel.life = .running)
      (isReadEnd : fd ∈ kernel.installed)
      (readable : Readable kernel size bytes) :
      Answered kernel .child (.read fd size) (.ok bytes)
        { kernel with pipe := kernel.pipe.get bytes.length }
  | exit
      {status : Nat}
      (running : kernel.life = .running) :
      Answered kernel .child (.exit status) ()
        { kernel with life := .ended (.exited status) }

/-- By itself only the child may end, by a signal from elsewhere. -/
inductive Evolves (kernel : Kernel) : Kernel → Prop where
  | childKilled
      (signal : Nat)
      (running : kernel.life = .running) :
      Evolves kernel { kernel with life := .ended (.signaled signal) }

/-- The rules of the kernel. -/
def rules : Processes.Rules Answer Role Kernel where
  answers := Answered dependable setting
  evolves := Evolves

/-- The two programs after `fork`, their loops unrolled up to a bound. -/
def programs (fuel : Nat) : (role : Role) → Tree Answer (Outcome role)
  | .parent => parent setting.payload setting.channels setting.child fuel
  | .child => FdPassing.child setting.payload setting.channels fuel

/-- The states after `fork`. -/
abbrev State := Processes.State Answer Kernel Outcome

/-- The state right after `fork`. -/
def start (fuel : Nat) : State :=
  .start (programs setting fuel) setting.kernel

end AdvanceUnix.FdPassing.Handover
