import AdvanceUnix.ThreadDataSteps
import Mathlib.Algebra.BigOperators.Group.Finset.Basic

namespace AdvanceUnix.ThreadData

open Transition

/-!
# The invariants of thread-specific data

What a thread has done follows from its phase (`Course`), and every block on
the heap belongs to one thread (`Owned`).  `pthread_once` lets one thread at a
time into the routine (`Keyed`).  The two totals are sums over what the threads
have done (`Totals`).
-/

variable {threadCount : Nat} {labels : List Label} {state next : State}
variable {label : Label} {index : Nat}

/-- One more label in a run. -/
theorem tallyOf_append (labels : List Label) (label : Label) (index : Nat) :
    tallyOf (labels ++ [label]) index =
      (tallyOf labels index).next index label := by
  simp [tallyOf, List.foldl_append]

/-- A thread's own step. -/
theorem tallyOf_own
    (labels : List Label)
    (own : label.index = some index) :
    tallyOf (labels ++ [label]) index =
      (tallyOf labels index).add label := by
  rw [tallyOf_append, Tally.next, if_pos own]

/-- A step of another thread or of `main`. -/
theorem tallyOf_other
    (labels : List Label)
    (notOwn : label.index ≠ some index) :
    tallyOf (labels ++ [label]) index = tallyOf labels index := by
  rw [tallyOf_append, Tally.next, if_neg notOwn]

/-- A thread that has never set its value, and has freed its block if any. -/
def Tally.Unset (tally : Tally) : Prop :=
  tally = {} ∨
    ∃ address, tally = { allocated := [address], unsetFreed := [address] }

/-- A thread that has set its value and read it back. -/
def Tally.readBackOf (address : Nat) : Tally where
  allocated := [address]
  stored := 1
  readBack := [some address]

/-- A thread whose destructor has run to its end. -/
def Tally.destroyedOf (address : Nat) : Tally where
  allocated := [address]
  destroyed := [address]
  stored := 1
  readBack := [some address]
  counted := 1
  summed := 1

/-- What a thread has done, as its phase, its value and its verdict tell. -/
def Thread.Course (thread : Thread) (tally : Tally) : Prop :=
  match thread.phase with
  | .storing address | .setting address | .freeing address =>
      thread.specific = none ∧ thread.verified = false ∧
        tally = { allocated := [address] }
  | .reading address =>
      thread.specific = some address ∧ thread.verified = false ∧
        tally = { allocated := [address], stored := 1 }
  | .comparing address observed =>
      thread.specific = some address ∧ thread.verified = false ∧
        observed = some address ∧ tally = .readBackOf address
  | .returned =>
      (thread.specific = none ∧ thread.verified = false ∧ tally.Unset) ∨
        ∃ address,
          thread.specific = some address ∧ thread.verified = true ∧
            tally = .readBackOf address
  | .counting address =>
      thread.specific = none ∧ thread.verified = true ∧
        tally = .readBackOf address
  | .summing address =>
      thread.specific = none ∧ thread.verified = true ∧
        tally = { Tally.readBackOf address with counted := 1 }
  | .destroying address =>
      thread.specific = none ∧ thread.verified = true ∧
        tally = { Tally.readBackOf address with counted := 1, summed := 1 }
  | .exited | .joined =>
      thread.specific = none ∧
        ((thread.verified = false ∧ tally.Unset) ∨
          ∃ address,
            thread.verified = true ∧ tally = .destroyedOf address)
  | .absent | .calling | .initializing | .initialized | .checking
  | .allocating =>
      thread.specific = none ∧ thread.verified = false ∧ tally = {}

/-- A step of a thread follows its course. -/
theorem ThreadStep.course
    {tally : Tally}
    (stepped : ThreadStep state index label next)
    (course : (state.threads index).Course tally)
    (content :
      ∀ {address observed},
        (state.threads index).phase = .comparing address observed →
        state.idAt address = idOf index) :
    (next.threads index).Course (tally.add label) := by
  unfold Thread.Course at course
  cases stepped with
  | compare address observed phase =>
      rw [phase] at course
      obtain ⟨value, _, seen, told⟩ := course
      simp [Thread.Course, State.set, Tally.add, value, seen, told,
        content phase]
  | exitSet address phase value =>
      rw [phase] at course
      simpa [Thread.Course, State.set, Tally.add, value] using course
  | exitUnset phase noValue =>
      rw [phase] at course
      rcases course with ⟨_, unverified, unset⟩ | ⟨address, value, _⟩
      · simp [Thread.Course, State.move, State.set, Tally.add, noValue,
          unverified, unset]
      · rw [noValue] at value
        cases value
  | getSpecific address phase =>
      rw [phase] at course
      obtain ⟨value, unverified, told⟩ := course
      simp [Thread.Course, State.move, State.set, Tally.add, value,
        unverified, told, Tally.readBackOf]
  | onceFirst phase | onceLater phase | keyCreate _ phase
  | onceReturn phase | checkPassed phase | malloc _ phase
  | store _ phase | set _ phase | setFailed _ phase | count _ phase
  | sum _ phase =>
      rw [phase] at course
      obtain ⟨value, unverified, told⟩ := course
      simp [Thread.Course, State.move, State.set, Tally.add, value,
        unverified, told, Tally.readBackOf]
  | checkFailed phase | mallocFailed phase | freeUnset _ phase =>
      rw [phase] at course
      obtain ⟨value, unverified, told⟩ := course
      simp [Thread.Course, State.move, State.set, stepFree, Tally.add,
        value, unverified, told, Tally.Unset]
  | destroy address phase =>
      rw [phase] at course
      obtain ⟨value, verified, told⟩ := course
      simp [Thread.Course, State.move, State.set, stepFree, Tally.add,
        value, verified, told, Tally.readBackOf, Tally.destroyedOf]

/-- Every thread is on its course. -/
def OnCourse (labels : List Label) (state : State) : Prop :=
  ∀ index, (state.threads index).Course (tallyOf labels index)

namespace OnCourse

/-- At the start no thread has done anything. -/
theorem start (threadCount : Nat) :
    OnCourse [] (State.start threadCount) :=
  fun _ => ⟨rfl, rfl, rfl⟩

/-- A step of a thread keeps all threads on their courses. -/
theorem threadStep
    (courses : OnCourse labels state)
    (own : label.index = some index)
    (stepped : ThreadStep state index label next)
    (content :
      ∀ {address observed},
        (state.threads index).phase = .comparing address observed →
        state.idAt address = idOf index) :
    OnCourse (labels ++ [label]) next := by
  intro other
  by_cases same : other = index
  · subst other
    rw [tallyOf_own labels own]
    exact stepped.course (courses index) content
  · have notOwn : label.index ≠ some other := by
      simp [own, Ne.symm same]
    rw [stepped.other same, tallyOf_other labels notOwn]
    exact courses other

/-- What `main` does leaves the courses alone. -/
theorem mainStep
    (courses : OnCourse labels state)
    (progress : Progress threadCount labels state)
    (own : label.index = none)
    (stepped : MainStep threadCount state label next) :
    OnCourse (labels ++ [label]) next := by
  intro other
  have course := courses other
  rw [tallyOf_other labels (by simp [own])]
  rcases stepped.thread other with
    same | ⟨control, started⟩ | ⟨ended, joined⟩
  · rw [same]
    exact course
  · have absent := progress.creating_absent control
    rw [started]
    simpa [Thread.Course, absent] using course
  · rw [joined]
    simpa [Thread.Course, ended] using course

end OnCourse

/-- The block that a thread is to free. -/
def Thread.block (thread : Thread) : Option Nat :=
  match thread.phase with
  | .storing address => some address
  | .setting address => some address
  | .freeing address => some address
  | .reading address => some address
  | .comparing address _ => some address
  | .returned => thread.specific
  | .counting address => some address
  | .summing address => some address
  | .destroying address => some address
  | _ => none

/-- What the thread with an index has in its block. -/
def Phase.content (index : Nat) : Phase → Option (BitVec 32)
  | .storing _ => none
  | _ => some (idOf index)

/-- Every block on the heap belongs to exactly one thread. -/
structure Owned (state : State) : Prop where
  held :
    ∀ {index address},
      (state.threads index).block = some address →
      state.heap address =
        some ((state.threads index).phase.content index)
  owner :
    ∀ {address},
      state.heap address ≠ none →
      ∃ index, (state.threads index).block = some address
  apart :
    ∀ {index other address},
      (state.threads index).block = some address →
      (state.threads other).block = some address →
      index = other

namespace Owned

/-- At the start the heap is empty. -/
theorem start (threadCount : Nat) : Owned (State.start threadCount) where
  held := by simp [State.start, Thread.block]
  owner := by simp [State.start]
  apart := by simp [State.start, Thread.block]

/-- A step keeps the ownership when no block changes hands or content. -/
theorem keep
    (owned : Owned state)
    (heap : next.heap = state.heap)
    (block :
      ∀ index, (next.threads index).block = (state.threads index).block)
    (content :
      ∀ index,
        (state.threads index).block ≠ none →
        (next.threads index).phase.content index =
          (state.threads index).phase.content index) :
    Owned next where
  held := by
    intro index address holds
    rw [block index] at holds
    rw [heap, content index (by simp [holds])]
    exact owned.held holds
  owner := by
    intro address allocated
    rw [heap] at allocated
    obtain ⟨index, holds⟩ := owned.owner allocated
    exact ⟨index, (block index).trans holds⟩
  apart := by
    intro index other address holds otherHolds
    rw [block] at holds otherHolds
    exact owned.apart holds otherHolds

/-- A thread without a block gets one, or writes to its own. -/
theorem write
    (owned : Owned state)
    (address : Nat)
    (others :
      ∀ other, other ≠ index → next.threads other = state.threads other)
    (heap :
      next.heap =
        Function.update state.heap address
          (some ((next.threads index).phase.content index)))
    (block : (next.threads index).block = some address)
    (before :
      (state.threads index).block = some address ∨
        (state.threads index).block = none ∧
          state.heap address = none) :
    Owned next := by
  have alone :
      ∀ {other},
        other ≠ index → (state.threads other).block ≠ some address := by
    intro other different holds
    rcases before with own | ⟨_, unused⟩
    · exact different (owned.apart holds own)
    · simp [owned.held holds] at unused
  constructor
  case held =>
    intro other held holds
    by_cases same : other = index
    · subst other
      rw [block] at holds
      cases holds
      simp [heap]
    · rw [others other same] at holds ⊢
      have different : held ≠ address := by
        rintro rfl
        exact alone same holds
      simpa [heap, different] using owned.held holds
  case owner =>
    intro held allocated
    by_cases same : held = address
    · exact ⟨index, same ▸ block⟩
    · simp only [heap, Function.update_of_ne same] at allocated
      obtain ⟨other, holds⟩ := owned.owner allocated
      have different : other ≠ index := by
        rintro rfl
        rcases before with own | ⟨noBlock, _⟩
        · exact same (Option.some.inj (holds.symm.trans own))
        · simp [noBlock] at holds
      exact ⟨other, others other different ▸ holds⟩
  case apart =>
    intro first second held holds secondHolds
    by_cases firstSame : first = index <;>
      by_cases secondSame : second = index
    · exact firstSame.trans secondSame.symm
    · subst first
      rw [block] at holds
      rw [others second secondSame] at secondHolds
      exact absurd (holds ▸ secondHolds) (alone secondSame)
    · subst second
      rw [block] at secondHolds
      rw [others first firstSame] at holds
      exact absurd (secondHolds ▸ holds) (alone firstSame)
    · rw [others first firstSame] at holds
      rw [others second secondSame] at secondHolds
      exact owned.apart holds secondHolds

/-- A thread frees its block. -/
theorem free
    (owned : Owned state)
    (address : Nat)
    (others :
      ∀ other, other ≠ index → next.threads other = state.threads other)
    (heap : next.heap = Function.update state.heap address none)
    (before : (state.threads index).block = some address)
    (after : (next.threads index).block = none) :
    Owned next := by
  have block :
      ∀ {other held},
        (next.threads other).block = some held →
        other ≠ index ∧ (state.threads other).block = some held := by
    intro other held holds
    have different : other ≠ index := by
      rintro rfl
      simp [after] at holds
    exact ⟨different, others other different ▸ holds⟩
  constructor
  case held =>
    intro other held holds
    obtain ⟨different, holds⟩ := block holds
    have notFreed : held ≠ address := by
      rintro rfl
      exact different (owned.apart holds before)
    rw [heap, Function.update_of_ne notFreed, others other different]
    exact owned.held holds
  case owner =>
    intro held allocated
    by_cases same : held = address
    · simp [heap, same] at allocated
    · rw [heap, Function.update_of_ne same] at allocated
      obtain ⟨other, holds⟩ := owned.owner allocated
      have different : other ≠ index := by
        rintro rfl
        exact same (Option.some.inj (holds.symm.trans before))
      exact ⟨other, others other different ▸ holds⟩
  case apart =>
    intro first second held holds secondHolds
    exact owned.apart (block holds).2 (block secondHolds).2

/-- A thread reads its own `id` in the block that it has set. -/
theorem idAt_eq
    (owned : Owned state)
    {address : Nat}
    (holds : (state.threads index).block = some address)
    (written :
      (state.threads index).phase.content index = some (idOf index)) :
    state.idAt address = idOf index := by
  simp [State.idAt, owned.held holds, written]

/-- A thread that keeps its block as it is. -/
theorem keepOwn
    (owned : Owned state)
    (heap : next.heap = state.heap)
    (others :
      ∀ other, other ≠ index → next.threads other = state.threads other)
    (block : (next.threads index).block = (state.threads index).block)
    (content :
      (state.threads index).block ≠ none →
      (next.threads index).phase.content index =
        (state.threads index).phase.content index) :
    Owned next := by
  refine owned.keep heap ?_ ?_
  · intro other
    by_cases same : other = index
    · exact same ▸ block
    · rw [others other same]
  · intro other holds
    by_cases same : other = index
    · subst other
      exact content holds
    · rw [others other same]

/-- A step of a thread keeps the ownership. -/
theorem threadStep
    (owned : Owned state)
    (courses : OnCourse labels state)
    (stepped : ThreadStep state index label next) :
    Owned next := by
  have others :
      ∀ other, other ≠ index → next.threads other = state.threads other :=
    fun _ different => stepped.other different
  cases stepped with
  | malloc address phase unused =>
      refine owned.write address others ?_ ?_ (Or.inr ⟨?_, unused⟩)
      · simp [State.move, State.set, Phase.content]
      · simp [State.move, State.set, Thread.block]
      · simp [Thread.block, phase]
  | store address phase =>
      refine owned.write address others ?_ ?_ (Or.inl ?_)
      · simp [State.move, State.set, Phase.content]
      · simp [State.move, State.set, Thread.block]
      · simp [Thread.block, phase]
  | freeUnset address phase =>
      have course := courses index
      simp only [Thread.Course, phase] at course
      refine owned.free address others rfl ?_ ?_
      · simp [Thread.block, phase]
      · simp [stepFree, State.move, State.set, Thread.block, course.1]
  | destroy address phase =>
      refine owned.free address others rfl ?_ ?_
      · simp [Thread.block, phase]
      · simp [stepFree, State.move, State.set, Thread.block]
  | compare address observed phase =>
      have course := courses index
      simp only [Thread.Course, phase] at course
      refine owned.keepOwn rfl others ?_ ?_
      · simp [State.set, Thread.block, phase, course.1]
      · simp [State.set, Phase.content, phase]
  | checkFailed phase noKey =>
      have course := courses index
      simp only [Thread.Course, phase] at course
      refine owned.keepOwn rfl others ?_ ?_
      · simp [State.move, State.set, Thread.block, phase, course.1]
      · simp [Thread.block, phase]
  | mallocFailed phase =>
      have course := courses index
      simp only [Thread.Course, phase] at course
      refine owned.keepOwn rfl others ?_ ?_
      · simp [State.move, State.set, Thread.block, phase, course.1]
      · simp [Thread.block, phase]
  | exitSet address phase value | exitUnset phase value =>
      refine owned.keepOwn rfl others ?_ ?_
      · simp [State.move, State.set, Thread.block, phase, value]
      · simp [State.move, State.set, Phase.content, phase]
  | onceFirst phase | onceLater phase | keyCreate _ phase
  | onceReturn phase | checkPassed phase | set _ phase
  | setFailed _ phase | getSpecific _ phase | count _ phase
  | sum _ phase =>
      refine owned.keepOwn rfl others ?_ ?_
      · simp [State.move, State.set, Thread.block, phase]
      · simp [State.move, State.set, Phase.content, phase]

/-- A step of `main` keeps the ownership. -/
theorem mainStep
    (owned : Owned state)
    (progress : Progress threadCount labels state)
    (stepped : MainStep threadCount state label next) :
    Owned next := by
  have heap : next.heap = state.heap := by
    cases stepped <;> rfl
  refine owned.keep heap ?_ ?_
  · intro other
    rcases stepped.thread other with
      same | ⟨control, started⟩ | ⟨ended, joined⟩
    · rw [same]
    · have absent := progress.creating_absent control
      simp [started, Thread.block, absent]
    · simp [joined, Thread.block, ended]
  · intro other holds
    rcases stepped.thread other with
      same | ⟨control, started⟩ | ⟨ended, joined⟩
    · rw [same]
    · have absent := progress.creating_absent control
      simp [Thread.block, absent] at holds
    · simp [Thread.block, ended] at holds

end Owned

/-- A step other than `pthread_key_create`. -/
theorem keyErrors_other
    (labels : List Label)
    (noError : keyErrors [label] = []) :
    keyErrors (labels ++ [label]) = keyErrors labels := by
  unfold keyErrors at noError ⊢
  rw [List.filterMap_append, noError, List.append_nil]

/-- `pthread_once`: the routine has run at most once. -/
structure Keyed (labels : List Label) (state : State) : Prop where
  running :
    ∀ {index},
      (state.threads index).phase = .initializing ∨
        (state.threads index).phase = .initialized →
      state.once = .running index
  untouched :
    state.once = .fresh ∨
        (∃ index, (state.threads index).phase = .initializing) →
      keyErrors labels = []
  flags :
    (keyErrors labels = [] ∧
        state.keyError = 0 ∧ state.keyInitialized = false) ∨
      (keyErrors labels = [state.keyError] ∧
        state.keyInitialized = (state.keyError = 0 : Bool))

namespace Keyed

/-- At the start nothing has been created. -/
theorem start (threadCount : Nat) :
    Keyed [] (State.start threadCount) where
  running := by simp [State.start]
  untouched := fun _ => rfl
  flags := Or.inl ⟨rfl, rfl, rfl⟩

/-- A step that is not about the key. -/
theorem keep
    (keyed : Keyed labels state)
    (noError : keyErrors [label] = [])
    (once : next.once = state.once)
    (error : next.keyError = state.keyError)
    (flag : next.keyInitialized = state.keyInitialized)
    (phases :
      ∀ index phase,
        phase = .initializing ∨ phase = .initialized →
        (next.threads index).phase = phase →
        (state.threads index).phase = phase) :
    Keyed (labels ++ [label]) next := by
  have sameErrors := keyErrors_other labels noError
  constructor
  case running =>
    intro index inRoutine
    rw [once]
    refine keyed.running (inRoutine.imp ?_ ?_)
    · exact phases index _ (Or.inl rfl)
    · exact phases index _ (Or.inr rfl)
  case untouched =>
    rw [sameErrors, once]
    rintro (fresh | ⟨index, inRoutine⟩)
    · exact keyed.untouched (Or.inl fresh)
    · exact keyed.untouched
        (Or.inr ⟨index, phases index _ (Or.inl rfl) inRoutine⟩)
  case flags =>
    rw [sameErrors, error, flag]
    exact keyed.flags

/-- A thread that stays outside the routine does not touch the key. -/
theorem keepOwn
    (keyed : Keyed labels state)
    (stepped : ThreadStep state index label next)
    (noError : keyErrors [label] = [])
    (once : next.once = state.once)
    (error : next.keyError = state.keyError)
    (flag : next.keyInitialized = state.keyInitialized)
    (outside :
      (next.threads index).phase ≠ .initializing ∧
        (next.threads index).phase ≠ .initialized) :
    Keyed (labels ++ [label]) next := by
  refine keyed.keep noError once error flag ?_
  rintro other phase inRoutine now
  by_cases same : other = index
  · subst other
    subst now
    exact absurd inRoutine (not_or.mpr outside)
  · rwa [stepped.other same] at now

/-- A step of a thread keeps the routine to one thread. -/
theorem threadStep
    (keyed : Keyed labels state)
    (stepped : ThreadStep state index label next) :
    Keyed (labels ++ [label]) next := by
  have others :
      ∀ {other}, other ≠ index → next.threads other = state.threads other :=
    stepped.other
  cases stepped with
  | onceFirst phase fresh =>
      have sameErrors :
          keyErrors (labels ++ [.once index]) = keyErrors labels :=
        keyErrors_other labels rfl
      constructor
      case running =>
        intro other inRoutine
        by_cases same : other = index
        · exact same ▸ rfl
        · have running := keyed.running (others same ▸ inRoutine)
          simp [fresh] at running
      case untouched =>
        intro _
        rw [sameErrors]
        exact keyed.untouched (Or.inl fresh)
      case flags =>
        rw [sameErrors]
        exact keyed.flags
  | keyCreate error phase =>
      have running := keyed.running (Or.inl phase)
      have noError := keyed.untouched (Or.inr ⟨index, phase⟩)
      constructor
      case running =>
        intro other inRoutine
        by_cases same : other = index
        · exact same ▸ running
        · exact keyed.running (others same ▸ inRoutine)
      case untouched =>
        rintro (fresh | ⟨other, inRoutine⟩)
        · simp [State.move, State.set, running] at fresh
        · by_cases same : other = index
          · subst other
            simp [State.move, State.set] at inRoutine
          · have otherRunning :=
              keyed.running (Or.inl (others same ▸ inRoutine))
            rw [running] at otherRunning
            cases otherRunning
            exact absurd rfl same
      case flags =>
        refine Or.inr ⟨?_, rfl⟩
        simpa [keyErrors] using noError
  | onceReturn phase =>
      have sameErrors :
          keyErrors (labels ++ [.onceReturn index]) = keyErrors labels :=
        keyErrors_other labels rfl
      have running := keyed.running (Or.inr phase)
      have alone :
          ∀ {other},
            (state.threads other).phase = .initializing ∨
              (state.threads other).phase = .initialized →
            other = index := by
        intro other inRoutine
        have otherRunning := keyed.running inRoutine
        rw [running] at otherRunning
        cases otherRunning
        rfl
      constructor
      case running =>
        intro other inRoutine
        by_cases same : other = index
        · subst other
          simp [State.move, State.set] at inRoutine
        · exact absurd (alone (others same ▸ inRoutine)) same
      case untouched =>
        rintro (fresh | ⟨other, inRoutine⟩)
        · cases fresh
        · by_cases same : other = index
          · subst other
            simp [State.move, State.set] at inRoutine
          · exact absurd (alone (Or.inl (others same ▸ inRoutine))) same
      case flags =>
        rw [sameErrors]
        exact keyed.flags
  | onceLater | checkFailed | checkPassed | mallocFailed | malloc | store
  | set | setFailed | freeUnset | getSpecific | compare | exitSet
  | exitUnset | count | sum | destroy =>
      refine keyed.keepOwn (by constructor <;> assumption)
        rfl rfl rfl rfl ?_
      simp [State.move, State.set, stepFree]

/-- What `main` does has nothing to do with the routine. -/
theorem mainStep
    (keyed : Keyed labels state)
    (stepped : MainStep threadCount state label next) :
    Keyed (labels ++ [label]) next := by
  have phases :
      ∀ index phase,
        phase = .initializing ∨ phase = .initialized →
        (next.threads index).phase = phase →
        (state.threads index).phase = phase := by
    rintro index phase inRoutine now
    rcases stepped.thread index with
      same | ⟨_, started⟩ | ⟨_, joined⟩
    · rwa [same] at now
    · rw [started] at now
      rcases inRoutine with rfl | rfl <;> cases now
    · rw [joined] at now
      rcases inRoutine with rfl | rfl <;> cases now
  cases stepped <;> exact keyed.keep rfl rfl rfl rfl phases

end Keyed

/-- A sum of which one term grows. -/
theorem sum_more
    {before after : Nat → Nat}
    {amount : Nat}
    (bound : index < threadCount)
    (others : ∀ other, other ≠ index → after other = before other)
    (more : after index = before index + amount) :
    (Finset.range threadCount).sum after =
      (Finset.range threadCount).sum before + amount := by
  have mem : index ∈ Finset.range threadCount := Finset.mem_range.mpr bound
  have rest :
      ((Finset.range threadCount).erase index).sum after =
        ((Finset.range threadCount).erase index).sum before :=
    Finset.sum_congr rfl fun other inRest =>
      others other (Finset.ne_of_mem_erase inRest)
  rw [← Finset.add_sum_erase _ after mem,
    ← Finset.add_sum_erase _ before mem, rest, more]
  exact Nat.add_right_comm _ _ _

/-- The totals are sums over what the destructors have done so far. -/
structure Totals
    (threadCount : Nat)
    (labels : List Label)
    (state : State) : Prop where
  count :
    state.destructorCount =
      BitVec.ofNat 32
        ((Finset.range threadCount).sum fun index =>
          (tallyOf labels index).counted)
  sum :
    state.destructorIdSum =
      BitVec.ofNat 32
        ((Finset.range threadCount).sum fun index =>
          (tallyOf labels index).summed * (index + 1))

/-- What a step of a thread adds to the first total. -/
theorem ThreadStep.counted
    (stepped : ThreadStep state index label next) :
    ∃ amount,
      next.destructorCount =
          state.destructorCount + BitVec.ofNat 32 amount ∧
        ∀ tally : Tally,
          (tally.add label).counted = tally.counted + amount := by
  cases stepped with
  | count => exact ⟨1, rfl, fun _ => rfl⟩
  | _ => exact ⟨0, (BitVec.add_zero _).symm, fun _ => rfl⟩

/-- What a step of a thread adds to the second total. -/
theorem ThreadStep.summed
    (stepped : ThreadStep state index label next)
    (owned : Owned state) :
    ∃ amount,
      next.destructorIdSum =
          state.destructorIdSum + BitVec.ofNat 32 (amount * (index + 1)) ∧
        ∀ tally : Tally,
          (tally.add label).summed = tally.summed + amount := by
  cases stepped with
  | sum address phase =>
      have identifier : state.idAt address = idOf index := by
        refine owned.idAt_eq ?_ ?_
        · simp [Thread.block, phase]
        · simp [Phase.content, phase]
      refine ⟨1, ?_, fun _ => rfl⟩
      simp [identifier, idOf]
  | _ =>
      refine ⟨0, ?_, fun _ => rfl⟩
      simp [State.move, State.set, stepFree]

namespace Totals

/-- At the start both totals are zero. -/
theorem start (threadCount : Nat) :
    Totals threadCount [] (State.start threadCount) where
  count := by simp [State.start, tallyOf]
  sum := by simp [State.start, tallyOf]

/-- A step of a thread keeps the totals in line. -/
theorem threadStep
    (totals : Totals threadCount labels state)
    (owned : Owned state)
    (own : label.index = some index)
    (bound : index < threadCount)
    (stepped : ThreadStep state index label next) :
    Totals threadCount (labels ++ [label]) next := by
  have others :
      ∀ other, other ≠ index →
        tallyOf (labels ++ [label]) other = tallyOf labels other := by
    intro other different
    exact tallyOf_other labels (by simp [own, Ne.symm different])
  obtain ⟨counted, counts, tallyCounted⟩ := stepped.counted
  obtain ⟨summed, sums, tallySummed⟩ := stepped.summed owned
  constructor
  case count =>
    have grown :
        (Finset.range threadCount).sum (fun other =>
            (tallyOf (labels ++ [label]) other).counted) =
          (Finset.range threadCount).sum (fun other =>
            (tallyOf labels other).counted) + counted := by
      refine sum_more bound ?_ ?_
      · intro other different
        rw [others other different]
      · rw [tallyOf_own labels own, tallyCounted]
    rw [counts, totals.count, grown, BitVec.ofNat_add]
  case sum =>
    have grown :
        (Finset.range threadCount).sum (fun other =>
            (tallyOf (labels ++ [label]) other).summed * (other + 1)) =
          (Finset.range threadCount).sum (fun other =>
            (tallyOf labels other).summed * (other + 1)) +
            summed * (index + 1) := by
      refine sum_more bound ?_ ?_
      · intro other different
        rw [others other different]
      · rw [tallyOf_own labels own, tallySummed, Nat.add_mul]
    rw [sums, totals.sum, grown, BitVec.ofNat_add]

/-- What `main` does leaves the totals alone. -/
theorem mainStep
    (totals : Totals threadCount labels state)
    (own : label.index = none)
    (stepped : MainStep threadCount state label next) :
    Totals threadCount (labels ++ [label]) next := by
  have others :
      ∀ other,
        tallyOf (labels ++ [label]) other = tallyOf labels other :=
    fun other => tallyOf_other labels (by simp [own])
  constructor
  case count =>
    simp only [others]
    rw [← totals.count]
    cases stepped <;> rfl
  case sum =>
    simp only [others]
    rw [← totals.sum]
    cases stepped <;> rfl

end Totals

end AdvanceUnix.ThreadData
