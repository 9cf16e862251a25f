import AdvanceUnix.Audit
import AdvanceUnix.SystemCalls

namespace AdvanceUnix.CpuAffinity

open CallTree

/-!
# The CPUs that a thread may run on

The program of `15_cpu_affinity`.  The kernel keeps the affinity of the thread
within the CPUs of its container.  `CPU_SETSIZE` is a parameter.
-/

variable {setsize : Nat}

/-- `cpu_set_t`. -/
abbrev CpuSet (setsize : Nat) := BitVec setsize

/-- `CPU_COUNT`. -/
def cpuCount (set : CpuSet setsize) : Nat :=
  (List.range setsize).countP fun cpu => set.getLsbD cpu

/-- `CPU_SET` on a set that is empty. -/
def single (setsize cpu : Nat) : CpuSet setsize :=
  BitVec.twoPow setsize cpu

/-- The loop that selects a CPU: it stops at the first that is allowed. -/
def select (original : CpuSet setsize) : Option Nat :=
  (List.range setsize).find? fun cpu => original.getLsbD cpu

/-- The calls of the program, on its own thread. -/
inductive Call (setsize : Nat) where
  | schedGetaffinity
  | schedSetaffinity (set : CpuSet setsize)
  deriving DecidableEq, Repr

/-- Their answers. -/
@[reducible] def Answer : Call setsize → Type
  | .schedGetaffinity => Result (CpuSet setsize)
  | .schedSetaffinity _ => Result Unit

/-- A program over these calls. -/
abbrev Scheduling (setsize : Nat) (α : Type) :=
  Program (@Answer setsize) α

/-- Make one call. -/
def invoke (call : Call setsize) : Scheduling setsize (Answer call) :=
  Program.request call

/-- The cleanup section, with the affinity that is to be restored. -/
def cleanup (changed : Option (CpuSet setsize)) (result : Exit) :
    Scheduling setsize Exit :=
  match changed with
  | none => return result
  | some original =>
      Program.releasing true (invoke (.schedSetaffinity original)) .failure
        result

/-- `main` once the thread is bound to one CPU. -/
def bound (original : CpuSet setsize) (selected : Nat) :
    Scheduling setsize Exit := do
  let .ok observed ← invoke .schedGetaffinity
    | cleanup (some original) .failure
  if cpuCount observed ≠ 1 ∨ observed.getLsbD selected = false then
    cleanup (some original) .failure
  else
    let .ok _ ← invoke (.schedSetaffinity original)
      | cleanup (some original) .failure
    let .ok restored ← invoke .schedGetaffinity
      | cleanup none .failure
    if restored ≠ original then
      cleanup none .failure
    else
      cleanup none .success

/-- `main`. -/
def main (setsize : Nat) : Scheduling setsize Exit := do
  let .ok original ← invoke .schedGetaffinity
    | cleanup none .failure
  if cpuCount original = 0 then
    cleanup none .failure
  else
    match select original with
    | none => cleanup none .failure
    | some selected =>
        match ← invoke (.schedSetaffinity (single setsize selected)) with
        | .error _ => cleanup none .failure
        | .ok _ => bound original selected

/-- The CPUs of the container, and those of the thread at first. -/
structure World (setsize : Nat) where
  allowed : CpuSet setsize
  initial : CpuSet setsize
  within : initial &&& allowed = initial

/-- The affinity, and whether the last call for another one was refused. -/
structure Kernel (setsize : Nat) where
  affinity : CpuSet setsize
  refused : Bool := false
  deriving DecidableEq, Repr

/-- The kernel when the program starts. -/
def World.kernel (world : World setsize) : Kernel setsize where
  affinity := world.initial

namespace Kernel

variable (kernel : Kernel setsize)

/-- The effect of an answered call. -/
def next (world : World setsize) : (request : Call setsize) → Answer request →
    Kernel setsize
  | .schedGetaffinity, _ => kernel
  | .schedSetaffinity set, .ok _ => { affinity := set &&& world.allowed }
  | .schedSetaffinity _, .error _ => { kernel with refused := true }

/-- What the kernel may answer. -/
def Allows (world : World setsize) : (request : Call setsize) → Answer request →
    Prop
  | .schedGetaffinity, answer =>
      (answer : Result (CpuSet setsize)).Meets (fun _ => True)
        (· = kernel.affinity)
  | .schedSetaffinity set, answer =>
      (answer : Result Unit).Meets (fun _ => True) fun _ =>
        set &&& world.allowed ≠ 0

end Kernel

/-- The first CPU of a set. -/
structure IsFirst (set : CpuSet setsize) (cpu : Nat) : Prop where
  allowed : set.getLsbD cpu = true
  first : ∀ smaller < cpu, set.getLsbD smaller = false

/-- The program asks for the first of its CPUs, or for all of them. -/
def Safe (world : World setsize) : Call setsize → Prop
  | .schedGetaffinity => True
  | .schedSetaffinity set =>
      set = world.initial ∨
        ∃ cpu, IsFirst world.initial cpu ∧ set = single setsize cpu

/-- A call that has failed. -/
def Fails : (request : Call setsize) → Answer request → Bool
  | .schedGetaffinity, answer =>
      (answer : Result (CpuSet setsize)).toOption.isNone
  | .schedSetaffinity _, answer => (answer : Result Unit).toOption.isNone

/-- The audit of the program. -/
def audit (world : World setsize) :
    Audit (@Answer setsize) (Kernel setsize) where
  next := fun kernel => kernel.next world
  allows := fun kernel => kernel.Allows world
  safe := fun _ => Safe world
  fails := Fails

section Sets

variable {set : CpuSet setsize} {cpu : Nat}

/-- The empty set has no CPU. -/
theorem eq_zero_of_absent
    (absent : ∀ cpu < setsize, set.getLsbD cpu = false) :
    set = 0 := by
  refine BitVec.eq_of_getLsbD_eq fun cpu inside => ?_
  rw [absent cpu inside]
  exact BitVec.getLsbD_zero.symm

/-- A set without CPUs is empty. -/
theorem cpuCount_eq_zero : cpuCount set = 0 ↔ set = 0 := by
  constructor
  · intro none
    refine eq_zero_of_absent fun cpu inside => eq_false_of_ne_true ?_
    exact List.countP_eq_zero.mp none cpu (List.mem_range.mpr inside)
  · rintro rfl
    exact List.countP_eq_zero.mpr fun cpu _ =>
      ne_true_of_eq_false BitVec.getLsbD_zero

/-- The selected CPU is the first. -/
theorem select_isFirst
    (selected : select set = some cpu) :
    cpu < setsize ∧ IsFirst set cpu := by
  obtain ⟨allowed, inside, first⟩ := List.find?_range_eq_some.mp selected
  refine ⟨List.mem_range.mp inside, allowed, fun smaller less => ?_⟩
  exact (Bool.not_eq_true' _).mp (first smaller less)

/-- Some CPU is selected unless there is none. -/
theorem select_eq_none (none : select set = none) : set = 0 := by
  refine eq_zero_of_absent fun cpu inside => ?_
  exact (Bool.not_eq_true' _).mp (List.find?_range_eq_none.mp none cpu inside)

/-- A set of one CPU. -/
theorem getLsbD_single
    (inside : cpu < setsize)
    (other : Nat) :
    (single setsize cpu).getLsbD other = (cpu == other) := by
  rw [single, BitVec.getLsbD_twoPow, decide_eq_true inside]
  rfl

/-- There is one CPU in it. -/
theorem cpuCount_single (inside : cpu < setsize) :
    cpuCount (single setsize cpu) = 1 := by
  have counts :
      cpuCount (single setsize cpu) = (List.range setsize).count cpu := by
    refine List.countP_congr fun other _ => ?_
    rw [getLsbD_single inside, Bool.beq_comm]
  rw [counts, List.Nodup.count List.nodup_range]
  exact if_pos (List.mem_range.mpr inside)

end Sets

end AdvanceUnix.CpuAffinity
