import AdvanceUnix.Termination

namespace AdvanceUnix

open CallTree

/-!
# System calls of the experiments

One vocabulary of calls for the sequential programs, each with the type of
its answers.  A call that returns -1 and sets `errno` answers an `Except`;
what a program never reads of an answer is left out of it.  Calls that cannot
fail and have no effect outside the process (`memcpy`, `memcmp`, `printf`)
are not calls here.
-/

/-- An error number; a failing call always sets a positive one. -/
structure Errno where
  code : Nat
  code_pos : 0 < code
  deriving DecidableEq, Repr

namespace Errno

def enoent : Errno := ⟨2, by decide⟩
def esrch : Errno := ⟨3, by decide⟩
def eintr : Errno := ⟨4, by decide⟩
def eio : Errno := ⟨5, by decide⟩
def enxio : Errno := ⟨6, by decide⟩
def ebadf : Errno := ⟨9, by decide⟩
def echild : Errno := ⟨10, by decide⟩
def eagain : Errno := ⟨11, by decide⟩
def einval : Errno := ⟨22, by decide⟩
def epipe : Errno := ⟨32, by decide⟩
def eloop : Errno := ⟨40, by decide⟩
def ebadmsg : Errno := ⟨74, by decide⟩
def enotsup : Errno := ⟨95, by decide⟩
def eopnotsupp : Errno := ⟨95, by decide⟩
def etimedout : Errno := ⟨110, by decide⟩

end Errno

/-- What a call or a C function gives back: -1 with an error, or a value. -/
abbrev Result (α : Type) := Except Errno α

/-- What is to hold after a failure and after a success. -/
def Result.Meets
    (failed : Errno → Prop)
    (succeeded : α → Prop) : Result α → Prop
  | .error error => failed error
  | .ok value => succeeded value

instance
    (failed : Errno → Prop)
    (succeeded : α → Prop)
    [DecidablePred failed]
    [DecidablePred succeeded]
    (result : Result α) :
    Decidable (result.Meets failed succeeded) :=
  match result with
  | .error error => inferInstanceAs (Decidable (failed error))
  | .ok value => inferInstanceAs (Decidable (succeeded value))

/-- The exit status of `main`. -/
inductive Exit where
  | success
  | failure
  deriving DecidableEq, Repr

abbrev Fd := Int

/-- A call that opens a descriptor never answers a negative one. -/
def MayOpen (answer : Result Fd) : Prop :=
  answer.Meets (fun _ => True) (0 ≤ ·)

instance (answer : Result Fd) : Decidable (MayOpen answer) :=
  inferInstanceAs (Decidable (answer.Meets _ _))

/-- An answer for good that is no success. -/
def FailsFor {α : Type} (succeeds : α → Bool) : Result α → Bool
  | .error error => error ≠ .eintr
  | .ok value => !succeeds value

/-- A process as `fork` names it to the parent: always positive. -/
structure Pid where
  number : Nat
  number_pos : 0 < number
  deriving DecidableEq, Repr

/-- The signals that the processes send. -/
inductive Signal where
  | sigkill
  | sigterm
  | sigusr1
  deriving DecidableEq, Repr

/-- `sigset_t`: one bit for each signal. -/
abbrev SignalSet := BitVec 64

/-- What becomes of `SIGUSR1`: the program's handler or what it inherited. -/
inductive Disposition where
  | handleSigusr1
  | inherited (action : Nat)
  deriving DecidableEq, Repr

/-- The first argument of `sigprocmask`. -/
inductive MaskChange where
  | block
  | setmask
  deriving DecidableEq, Repr

/-- The places where a program reads its signal flag. -/
inductive FlagCheck where
  | afterPending
  | loopHead
  deriving DecidableEq, Repr

/-- How a child ended, as `waitpid` reports it. -/
inductive WaitStatus where
  | exited (code : Nat)
  | signaled (signal : Nat)
  deriving DecidableEq, Repr

/-- `WIFEXITED(status) && WEXITSTATUS(status) == EXIT_SUCCESS`. -/
def WaitStatus.succeeded (status : WaitStatus) : Bool :=
  status == .exited 0

/-- `struct iovec`: an address and a length in bytes. -/
structure IoVec where
  base : Nat
  len : Nat
  deriving DecidableEq, Repr

/-- `CMSG_LEN(0)`: the size of an aligned `struct cmsghdr`. -/
def cmsgHeaderSize : Nat := 16

/--
One control message: its header fields and the bytes after the header, of
which there are as many as `cmsg_len` promises.
-/
structure ControlMessage where
  level : Int
  type : Int
  len : Nat
  data : List UInt8
  data_length : data.length = len - cmsgHeaderSize
  deriving DecidableEq, Repr

/-- What a successful `recvmsg` leaves in the message and its buffers. -/
structure Received where
  count : Nat
  payload : UInt8
  control : List ControlMessage
  flags : BitVec 32
  deriving DecidableEq, Repr

/-- The result bits of one polled descriptor. -/
structure Revents where
  pollin : Bool
  pollerr : Bool
  pollhup : Bool
  pollnval : Bool
  deriving DecidableEq, Repr

/-- `poll` on one descriptor: 0 for a timeout, else the result bits. -/
inductive PollOutcome where
  | timedOut
  | ready (revents : Revents)
  deriving DecidableEq, Repr

/--
What a `read` leaves in its buffer: how many bytes were read, and the whole
buffer with whatever it holds behind them.
-/
structure Filled where
  length : Nat
  memory : Nat → UInt8

/-- What `lseek` looks for. -/
inductive Whence where
  | data
  | hole
  deriving DecidableEq, Repr

/-- `struct rlimit`. -/
structure Rlimit where
  cur : BitVec 64
  max : BitVec 64
  deriving DecidableEq, Repr

/-- `struct termios`: the four flag words and the control characters. -/
structure Termios where
  iflag : BitVec 32
  oflag : BitVec 32
  cflag : BitVec 32
  lflag : BitVec 32
  cc : List UInt8
  deriving DecidableEq, Repr

/-- `struct timespec`. -/
structure Timespec where
  sec : Int
  nsec : Int
  deriving DecidableEq, Repr

/-- What the programs read of a `struct stat`. -/
structure FileStatus where
  mode : BitVec 32
  size : Int
  blocks : Int
  accessTime : Timespec
  modifyTime : Timespec
  deriving DecidableEq, Repr

/-- A recorded action of `posix_spawn`. -/
inductive FileAction where
  | close (fd : Fd)
  | dup2 (source target : Fd)
  deriving DecidableEq, Repr

/-- The calls, with the arguments that the programs pass. -/
inductive Syscall where
  | fork
  | exit (status : Nat)
  | waitpid (child : Pid)
  | kill (child : Pid) (signal : Signal)
  | socketpair
  | pipe
  | close (fd : Fd)
  | read (fd : Fd) (size : Nat)
  | write (fd : Fd) (bytes : List UInt8)
  | readv (fd : Fd) (vectors : List IoVec)
  | writev (fd : Fd) (vectors : List IoVec)
  | sendmsg (fd : Fd) (payload : UInt8) (descriptor : Fd)
  | recvmsg (fd : Fd)
  | fcntlGetfd (fd : Fd)
  | fcntlSetfd (fd : Fd) (flags : BitVec 32)
  | poll (fd : Fd) (timeout : Nat)
  | mkstemp
  | mkdtemp
  | rmdir (path : String)
  | unlink (path : String)
  | mkfifo (path : String)
  | lstat (path : String)
  | openReader (path : String)
  | openCreate (path : String)
  | readBuffer (fd : Fd) (size : Nat)
  | inotifyInit
  | inotifyAddWatch (fd : Fd) (path : String) (mask : BitVec 32)
  | inotifyRmWatch (fd : Fd) (watch : BitVec 32)
  | getpid
  | shmOpen (name : String)
  | shmUnlink (name : String)
  | ftruncate (fd : Fd)
  | mmap (fd : Fd)
  | munmap
  | semInit
  | semPost
  | semDestroy
  | loadOutput
  | msgget
  | msgctlStat (queue : Int)
  | msgctlRmid (queue : Int)
  | msgrcv (queue : Int)
  | getppid
  | sigemptyset
  | sigaddset (set : SignalSet)
  | sigdelset (set : SignalSet)
  | sigismember (set : SignalSet)
  | sigprocmask (how : MaskChange) (set : SignalSet)
  | sigaction (new : Disposition)
  | sigpending
  | sigsuspend (mask : SignalSet)
  | loadReceived (place : FlagCheck)
  | aioRead (fd : Fd)
  | aioError
  | aioSuspend
  | aioCancel (fd : Fd)
  | aioReturn
  | pwrite (fd : Fd) (bytes : List UInt8) (offset : Int)
  | lseek (fd : Fd) (offset : Int) (whence : Whence)
  | pipe2
  | spawnActionsInit
  | spawnActionsAdd (action : FileAction)
  | spawnActionsDestroy
  | posixSpawnp
  | getrlimit
  | prlimitQuery
  | prlimit (new : Rlimit)
  | getrusage
  | posixOpenpt
  | grantpt (fd : Fd)
  | unlockpt (fd : Fd)
  | ptsname (fd : Fd)
  | openSlave (name : String)
  | tcgetattr (fd : Fd)
  | tcsetattr (fd : Fd) (attributes : Termios)
  | umask (mask : BitVec 32)
  | openDirectory (path : String)
  | openatCreate (dirfd : Fd) (name : String) (mode : BitVec 32)
  | openatNofollow (dirfd : Fd) (name : String)
  | fstat (fd : Fd)
  | fstatat (dirfd : Fd) (name : String)
  | fchmod (fd : Fd) (mode : BitVec 32)
  | futimens (fd : Fd) (access modify : Timespec)
  | symlinkat (target : String) (dirfd : Fd) (name : String)
  | renameat (dirfd : Fd) (old new : String)
  | unlinkat (dirfd : Fd) (name : String)
  | openWriter (path : String)
  | setsid
  | getpgid
  | getsid
  deriving DecidableEq, Repr

/--
The answers of each call.  `fork` answers the parent and `waitpid` answers
for the child it was asked for.  `lstat` answers whether the path is a FIFO,
`loadOutput` reads a word of shared memory, `msgctlStat` answers the number of
queued messages and `aioError` the status of the request; a failing
`aio_return` may leave `errno` unset.  The calls on signal sets are about
`SIGUSR1`; `sigprocmask`, `sigaction`, `prlimit` and `umask` answer what they
replace, and `loadReceived` reads the flag that the handler sets.  The calls
on spawn actions return an error number instead of setting one, and
`getrusage` answers the microseconds of the two times.
-/
@[reducible] def Answer : Syscall → Type
  | .fork => Result Pid
  | .exit _ => Unit
  | .waitpid _ => Result WaitStatus
  | .kill _ _ => Result Unit
  | .socketpair => Result (Fd × Fd)
  | .pipe => Result (Fd × Fd)
  | .close _ => Result Unit
  | .read _ _ => Result (List UInt8)
  | .write _ _ => Result Nat
  | .readv _ _ => Result Nat
  | .writev _ _ => Result Nat
  | .sendmsg _ _ _ => Result Nat
  | .recvmsg _ => Result Received
  | .fcntlGetfd _ => Result (BitVec 32)
  | .fcntlSetfd _ _ => Result Unit
  | .poll _ _ => Result PollOutcome
  | .mkstemp => Result (Fd × String)
  | .mkdtemp => Result String
  | .rmdir _ => Result Unit
  | .unlink _ => Result Unit
  | .mkfifo _ => Result Unit
  | .lstat _ => Result Bool
  | .openReader _ => Result Fd
  | .openCreate _ => Result Fd
  | .readBuffer _ _ => Result Filled
  | .inotifyInit => Result Fd
  | .inotifyAddWatch _ _ _ => Result (BitVec 32)
  | .inotifyRmWatch _ _ => Result Unit
  | .getpid => Pid
  | .shmOpen _ => Result Fd
  | .shmUnlink _ => Result Unit
  | .ftruncate _ => Result Unit
  | .mmap _ => Result Unit
  | .munmap => Result Unit
  | .semInit => Result Unit
  | .semPost => Result Unit
  | .semDestroy => Result Unit
  | .loadOutput => Int
  | .msgget => Result Int
  | .msgctlStat _ => Result Nat
  | .msgctlRmid _ => Result Unit
  | .msgrcv _ => Result (List UInt8)
  | .getppid => Pid
  | .sigemptyset => Result SignalSet
  | .sigaddset _ => Result SignalSet
  | .sigdelset _ => Result SignalSet
  | .sigismember _ => Result Bool
  | .sigprocmask _ _ => Result SignalSet
  | .sigaction _ => Result Disposition
  | .sigpending => Result SignalSet
  | .sigsuspend _ => Result Unit
  | .loadReceived _ => Bool
  | .aioRead _ => Result Unit
  | .aioError => Result Nat
  | .aioSuspend => Result Unit
  | .aioCancel _ => Result Unit
  | .aioReturn => Except (Option Errno) (List UInt8)
  | .pwrite _ _ _ => Result Nat
  | .lseek _ _ _ => Result Int
  | .pipe2 => Result (Fd × Fd)
  | .spawnActionsInit => Result Unit
  | .spawnActionsAdd _ => Result Unit
  | .spawnActionsDestroy => Result Unit
  | .posixSpawnp => Result Pid
  | .getrlimit => Result Rlimit
  | .prlimitQuery => Result Rlimit
  | .prlimit _ => Result Rlimit
  | .getrusage => Result (Int × Int)
  | .posixOpenpt => Result Fd
  | .grantpt _ => Result Unit
  | .unlockpt _ => Result Unit
  | .ptsname _ => Result String
  | .openSlave _ => Result Fd
  | .tcgetattr _ => Result Termios
  | .tcsetattr _ _ => Result Unit
  | .umask _ => BitVec 32
  | .openDirectory _ => Result Fd
  | .openatCreate _ _ _ => Result Fd
  | .openatNofollow _ _ => Result Fd
  | .fstat _ => Result FileStatus
  | .fstatat _ _ => Result FileStatus
  | .fchmod _ _ => Result Unit
  | .futimens _ _ _ => Result Unit
  | .symlinkat _ _ _ => Result Unit
  | .renameat _ _ _ => Result Unit
  | .unlinkat _ _ => Result Unit
  | .openWriter _ => Result Fd
  | .setsid => Result Pid
  | .getpgid => Result Pid
  | .getsid => Result Pid

/-- A sequential program over the system calls. -/
abbrev Sys := Program Answer

/-- A run is a list of answered calls. -/
abbrev Events := List (Event Answer)

/-- Make one system call. -/
abbrev Syscall.invoke (call : Syscall) : Sys (Answer call) :=
  Program.request call

/-- The idiom `do { ... } while (result < 0 && errno == EINTR)`. -/
def retryEintr (attempt : Sys (Result α)) : Sys (Result α) :=
  Program.iterate (fun (_ : Unit) => do
    match ← attempt with
    | .error error =>
        if error = .eintr then
          return .again ()
        else
          return .done (.error error)
    | .ok value => return .done (.ok value)) ()

/--
The rule for a retried call: an invariant that every interrupted attempt
keeps, and a postcondition that every other attempt establishes.
-/
theorem retryEintr_ensures
    {State : Type}
    {monitor : Monitor Answer State}
    {post : Result α → State → Prop}
    {attempt : Sys (Result α)}
    (invariant : State → Prop)
    (attempted :
      ∀ state,
        invariant state →
        attempt.Ensures monitor
          (fun result after =>
            match result with
            | .error error =>
                (error = .eintr → invariant after) ∧
                  (error ≠ .eintr → post (.error error) after)
            | .ok value => post (.ok value) after)
          state)
    {state : State}
    (initially : invariant state) :
    (retryEintr attempt).Ensures monitor post state := by
  refine Program.Ensures.iterate (fun _ => invariant) ?_ initially
  intro _ current holds
  refine Program.Ensures.bind ((attempted current holds).mono ?_)
  intro result after decided
  cases result with
  | error error =>
      by_cases interrupted : error = .eintr
      · simp only [interrupted, ↓reduceIte]
        exact .pure (decided.1 interrupted)
      · simp only [interrupted, ↓reduceIte]
        exact .pure (decided.2 interrupted)
  | ok value =>
      exact .pure decided

/-- Retrying a call that the monitor does not notice is not noticed either. -/
theorem retryEintr_unchanged
    {State : Type}
    {monitor : Monitor Answer State}
    {attempt : Sys (Result α)}
    {state : State}
    (unchanged :
      attempt.Ensures monitor (fun _ after => after = state) state) :
    (retryEintr attempt).Ensures monitor
      (fun _ after => after = state) state := by
  refine retryEintr_ensures (fun current => current = state) ?_ rfl
  rintro current rfl
  refine unchanged.mono ?_
  intro result after same
  cases result with
  | error error => exact ⟨fun _ => same, fun _ => same⟩
  | ok value => exact same

/-- The answer is -1 with `EINTR`, whatever the call gives back otherwise. -/
def Interrupted (call : Syscall) (answer : Answer call) : Prop :=
  ∃ α : Type, HEq answer (Except.error .eintr : Result α)

/-- The idiom is a repeated attempt that `EINTR` lets pass. -/
theorem retryEintr_eq (attempt : Sys (Result α)) :
    retryEintr attempt = Program.retry (· = Errno.eintr) attempt := by
  unfold retryEintr Program.retry
  congr 1
  funext _
  congr 1
  funext answer
  cases answer with
  | error error => rfl
  | ok value => rfl

/-- One call gets the answer that the script has for it. -/
theorem Syscall.invoke_returns
    {script : Script Answer}
    (call : Syscall)
    (index : Nat) :
    (Syscall.invoke call).Returns script
      (fun answer after => answer = script index call ∧ after = index + 1)
      index :=
  .request ⟨rfl, rfl⟩

/-- One call returns. -/
theorem Syscall.invoke_ends
    {script : Script Answer}
    {index : Nat}
    (call : Syscall) :
    (Syscall.invoke call).Returns script (fun _ _ => True) index :=
  .request trivial

/-- Retrying one call ends, unless the call is interrupted for ever. -/
theorem retryEintr_returns
    {script : Script Answer}
    {post : Result α → Nat → Prop}
    {index : Nat}
    {attempt : Sys (Result α)}
    (call : Syscall)
    (answers : Nat → Result α)
    (single :
      ∀ current,
        attempt.Returns script
          (fun answer after => answer = answers current ∧ after = current + 1)
          current)
    (interrupts :
      ∀ current,
        answers current = .error .eintr →
        Interrupted call (script current call))
    (ceasing : script.Ceasing Interrupted)
    (answered :
      ∀ answer after,
        index < after → answer ≠ .error .eintr → post answer after) :
    (retryEintr attempt).Returns script post index := by
  obtain ⟨gap, stops⟩ := ceasing call index
  rw [retryEintr_eq]
  refine .retry single ⟨gap, ?_⟩ ?_
  · rintro error given rfl
    exact stops (interrupts _ given)
  · intro current started permanent
    refine answered _ _ (by omega) fun given => ?_
    exact permanent .eintr given rfl

/--
The idiom `if (held && attempt() < 0) { result = EXIT_FAILURE; }` of the
cleanup sections, where one `errno` may be tolerated.
-/
def release
    (held : Bool)
    (attempt : Sys (Result Unit))
    (tolerated : Option Errno)
    (result : Exit) : Sys Exit := do
  if held then
    match ← attempt with
    | .error error =>
        return if some error = tolerated then result else .failure
    | .ok () => return result
  else
    return result

/-- The rule for a release that looks at what the attempt answers. -/
theorem release_answers
    {State : Type}
    {monitor : Monitor Answer State}
    {post : Exit → State → Prop}
    {held : Bool}
    {attempt : Sys (Result Unit)}
    {tolerated : Option Errno}
    {result : Exit}
    {state : State}
    (skipped : held = false → post result state)
    (attempted :
      held = true →
      attempt.Ensures monitor
        (fun answer after =>
          answer.Meets
            (fun error =>
              post (if some error = tolerated then result else .failure)
                after)
            (fun _ => post result after)) state) :
    (release held attempt tolerated result).Ensures monitor post state := by
  cases held with
  | false =>
      exact .pure (skipped rfl)
  | true =>
      refine .bind ((attempted rfl).mono ?_)
      intro answer after met
      cases answer with
      | error error => exact .pure met
      | ok done => exact .pure met

/-- A release returns if its attempt does. -/
theorem release_returns
    {script : Script Answer}
    {index : Nat}
    {held : Bool}
    {attempt : Sys (Result Unit)}
    {tolerated : Option Errno}
    {result : Exit}
    {post : Exit → Nat → Prop}
    (attempted : attempt.Returns script (fun _ _ => True) index)
    (answered : ∀ final after, post final after) :
    (release held attempt tolerated result).Returns script post index := by
  cases held with
  | false => exact .pure (answered _ _)
  | true =>
      refine .bind (attempted.mono ?_)
      rintro (error | done) after _
      · exact .pure (answered _ _)
      · exact .pure (answered _ _)

/-- The rule for a release: a failed attempt may turn the result over. -/
theorem release_ensures
    {State : Type}
    {monitor : Monitor Answer State}
    {post : Exit → State → Prop}
    {held : Bool}
    {attempt : Sys (Result Unit)}
    {tolerated : Option Errno}
    {result : Exit}
    {state : State}
    (skipped : held = false → post result state)
    (attempted :
      held = true →
      attempt.Ensures monitor
        (fun _ after => post result after ∧ post .failure after) state) :
    (release held attempt tolerated result).Ensures monitor post state := by
  cases held with
  | false =>
      exact .pure (skipped rfl)
  | true =>
      refine .bind ((attempted rfl).mono ?_)
      intro answer after both
      cases answer with
      | error error =>
          refine .pure ?_
          split
          · exact both.1
          · exact both.2
      | ok done =>
          exact .pure both.1

/-- A release keeps what skipping it and attempting it both establish. -/
theorem release_keeps
    {State : Type}
    {monitor : Monitor Answer State}
    (invariant : State → Prop)
    {held : Bool}
    {attempt : Sys (Result Unit)}
    {tolerated : Option Errno}
    {result : Exit}
    {state : State}
    (skipped : held = false → invariant state)
    (attempted :
      held = true →
      attempt.Ensures monitor (fun _ => invariant) state) :
    (release held attempt tolerated result).Ensures monitor
      (fun _ => invariant) state :=
  release_ensures skipped fun isHeld =>
    (attempted isHeld).mono fun _ _ kept => ⟨kept, kept⟩

end AdvanceUnix
