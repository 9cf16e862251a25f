import AdvanceUnix.CallIdioms
import AdvanceUnix.DescriptorHandover
import AdvanceUnix.SharedMemory

namespace AdvanceUnix.SharedMemory.Handover

open CallTree ChildProcess
open FdPassing.Handover (ChildLife)

/-!
# The kernel under the shared memory

What parent and child of `08_shared_memory` share after `fork`: the structure
with its semaphore and its two numbers, and the child's life.
-/

/-- The calls of the child that the parent does not make. -/
inductive ChildCall where
  | semWait
  | loadInput
  | storeOutput (value : Int)
  deriving DecidableEq, Repr

/-- Their answers. -/
@[reducible] def ChildAnswer : ChildCall → Type
  | .semWait => Result Unit
  | .loadInput => Int
  | .storeOutput _ => Unit

/-- The calls of both processes. -/
abbrev Request := Syscall ⊕ ChildCall

/-- And their answers. -/
abbrev Answers : Request → Type :=
  Extended Answer ChildAnswer

/-- Make one call of the child. -/
def invoke (request : Request) : Program Answers (Answers request) :=
  Program.request request

/-- `wait_for_semaphore`. -/
def waitForSemaphore : Program Answers (Result Unit) :=
  Program.retry (· = Errno.eintr) (invoke (.inr .semWait))

/-- The body of `if (child == 0)`. -/
def child : Program Answers Unit := do
  match ← waitForSemaphore with
  | .error _ => invoke (.inl (.exit 2))
  | .ok _ =>
      let input ← invoke (.inr .loadInput)
      invoke (.inr (.storeOutput (input * 2)))
      let _ ← invoke (.inl .munmap)
      invoke (.inl (.exit 0))

/-- The shared structure, and the child. -/
structure Kernel where
  valueReady : Nat := 0
  input : Int := 21
  output : Int := 0
  life : ChildLife := .running

/-- The child has ended. -/
def Kernel.ended (kernel : Kernel) (status : WaitStatus) : Kernel :=
  { kernel with life := .ended status }

variable (childPid : Pid)

/--
What the kernel may answer.  Every call of the parent may fail, but a running
child can always be killed.  Waiting for the semaphore succeeds only while it
is positive, and may fail.
-/
inductive Answered (kernel : Kernel) :
    Role → (request : Request) → Answers request → Kernel → Prop where
  | postFailed (error : Errno) :
      Answered kernel .parent (.inl .semPost) (.error error) kernel
  | post :
      Answered kernel .parent (.inl .semPost) (.ok ())
        { kernel with valueReady := kernel.valueReady + 1 }
  | waitFailed
      {child : Pid}
      (error : Errno) :
      Answered kernel .parent (.inl (.waitpid child)) (.error error) kernel
  | wait
      {status : WaitStatus}
      (ended : kernel.life = .ended status) :
      Answered kernel .parent (.inl (.waitpid childPid)) (.ok status) kernel
  | killFailed
      {child : Pid}
      {signal : Signal}
      (error : Errno)
      (gone : kernel.life ≠ .running) :
      Answered kernel .parent (.inl (.kill child signal)) (.error error)
        kernel
  | kill :
      Answered kernel .parent (.inl (.kill childPid .sigkill)) (.ok ())
        { kernel with life := kernel.life.kill }
  | loadOutput :
      Answered kernel .parent (.inl .loadOutput) kernel.output kernel
  | semDestroy (answer : Result Unit) :
      Answered kernel .parent (.inl .semDestroy) answer kernel
  | parentUnmaps (answer : Result Unit) :
      Answered kernel .parent (.inl .munmap) answer kernel
  | semWaitFailed
      (running : kernel.life = .running)
      (error : Errno) :
      Answered kernel .child (.inr .semWait) (.error error) kernel
  | semWait
      {count : Nat}
      (running : kernel.life = .running)
      (ready : kernel.valueReady = count + 1) :
      Answered kernel .child (.inr .semWait) (.ok ())
        { kernel with valueReady := count }
  | loadInput (running : kernel.life = .running) :
      Answered kernel .child (.inr .loadInput) kernel.input kernel
  | storeOutput
      {value : Int}
      (running : kernel.life = .running) :
      Answered kernel .child (.inr (.storeOutput value)) ()
        { kernel with output := value }
  | childUnmaps
      (running : kernel.life = .running)
      (answer : Result Unit) :
      Answered kernel .child (.inl .munmap) answer kernel
  | exit
      {status : Nat}
      (running : kernel.life = .running) :
      Answered kernel .child (.inl (.exit status)) ()
        (kernel.ended (.exited status))

/-- By itself only the child may end, by a signal. -/
inductive Evolves (kernel : Kernel) : Kernel → Prop where
  | childKilled
      (signal : Nat)
      (running : kernel.life = .running) :
      Evolves kernel (kernel.ended (.signaled signal))

/-- The rules of the kernel. -/
def rules : Processes.Rules Answers Role Kernel where
  answers := Answered childPid
  evolves := Evolves

/-- The two programs after `fork`, their loops unrolled up to a bound. -/
def programs (fuel : Nat) : (role : Role) → Tree Answers (Outcome role)
  | .parent => (parent childPid fuel).extended ChildAnswer
  | .child => child fuel

/-- The states after `fork`. -/
abbrev State := Processes.State Answers Kernel Outcome

/-- The state right after `fork`. -/
def start (fuel : Nat) : State :=
  .start (programs childPid fuel) {}

end AdvanceUnix.SharedMemory.Handover
