import AdvanceUnix.ThreadData

namespace AdvanceUnix.ThreadData

open Transition

/-!
# The steps of thread-specific data

Every transition is named once, with its guard and the state after it.  The
loops of `main` fix which threads are there and which are joined: once all of
them are, no thread can take another step.
-/

/-- What a step of a thread can do. -/
inductive ThreadStep
    (state : State)
    (index : Nat) : Label → State → Prop where
  | onceFirst
      (phase : (state.threads index).phase = .calling)
      (fresh : state.once = .fresh) :
      ThreadStep state index (.once index)
        { state.move index .initializing with once := .running index }
  | onceLater
      (phase : (state.threads index).phase = .calling)
      (finished : state.once = .done) :
      ThreadStep state index (.once index) (state.move index .checking)
  | keyCreate
      (error : Nat)
      (phase : (state.threads index).phase = .initializing) :
      ThreadStep state index (.keyCreate index error)
        { state.move index .initialized with
          keyError := error
          keyInitialized := error = 0 }
  | onceReturn
      (phase : (state.threads index).phase = .initialized) :
      ThreadStep state index (.onceReturn index)
        { state.move index .checking with once := .done }
  | checkFailed
      (phase : (state.threads index).phase = .checking)
      (noKey : state.keyError ≠ 0) :
      ThreadStep state index (.check index) (state.move index .returned)
  | checkPassed
      (phase : (state.threads index).phase = .checking)
      (key : state.keyError = 0) :
      ThreadStep state index (.check index) (state.move index .allocating)
  | mallocFailed
      (phase : (state.threads index).phase = .allocating) :
      ThreadStep state index (.malloc index none)
        (state.move index .returned)
  | malloc
      (address : Nat)
      (phase : (state.threads index).phase = .allocating)
      (unused : state.heap address = none) :
      ThreadStep state index (.malloc index (some address))
        { state.move index (.storing address) with
          heap := Function.update state.heap address (some none) }
  | store
      (address : Nat)
      (phase : (state.threads index).phase = .storing address) :
      ThreadStep state index (.store index)
        { state.move index (.setting address) with
          heap :=
            Function.update state.heap address (some (some (idOf index))) }
  | set
      (address : Nat)
      (phase : (state.threads index).phase = .setting address) :
      ThreadStep state index (.setSpecific index true)
        (state.set index
          { state.threads index with
            phase := .reading address
            specific := some address })
  | setFailed
      (address : Nat)
      (phase : (state.threads index).phase = .setting address) :
      ThreadStep state index (.setSpecific index false)
        (state.move index (.freeing address))
  | freeUnset
      (address : Nat)
      (phase : (state.threads index).phase = .freeing address) :
      ThreadStep state index (.freeUnset index address)
        (stepFree state index address .returned)
  | getSpecific
      (address : Nat)
      (phase : (state.threads index).phase = .reading address) :
      ThreadStep state index
        (.getSpecific index (state.threads index).specific)
        (state.move index
          (.comparing address (state.threads index).specific))
  | compare
      (address : Nat)
      (observed : Option Nat)
      (phase : (state.threads index).phase = .comparing address observed) :
      ThreadStep state index (.compare index)
        (state.set index
          { state.threads index with
            phase := .returned
            verified :=
              observed = some address &&
                state.idAt address = idOf index })
  | exitSet
      (address : Nat)
      (phase : (state.threads index).phase = .returned)
      (value : (state.threads index).specific = some address) :
      ThreadStep state index (.exit index)
        (state.set index
          { state.threads index with
            phase := .counting address
            specific := none })
  | exitUnset
      (phase : (state.threads index).phase = .returned)
      (noValue : (state.threads index).specific = none) :
      ThreadStep state index (.exit index) (state.move index .exited)
  | count
      (address : Nat)
      (phase : (state.threads index).phase = .counting address) :
      ThreadStep state index (.count index)
        { state.move index (.summing address) with
          destructorCount := state.destructorCount + 1 }
  | sum
      (address : Nat)
      (phase : (state.threads index).phase = .summing address) :
      ThreadStep state index (.sum index)
        { state.move index (.destroying address) with
          destructorIdSum := state.destructorIdSum + state.idAt address }
  | destroy
      (address : Nat)
      (phase : (state.threads index).phase = .destroying address) :
      ThreadStep state index (.destroy index address)
        (stepFree state index address .exited)

/-- What a step of `main` can do. -/
inductive MainStep
    (threadCount : Nat)
    (state : State) : Label → State → Prop where
  | create
      (index : Nat)
      (control : state.main = .creating index) :
      MainStep threadCount state (.create true)
        { state.move index .calling with
          created := state.created + 1
          main := createHead threadCount (state.created + 1) (index + 1) }
  | createFailed
      (index : Nat)
      (control : state.main = .creating index) :
      MainStep threadCount state (.create false)
        { state with main := joinHead state.created 0 }
  | join
      (index : Nat)
      (control : state.main = .joining index)
      (ended : (state.threads index).phase = .exited) :
      MainStep threadCount state .join
        { state.move index .joined with
          main := joinHead state.created (index + 1) }
  | conclude
      (control : state.main = .deciding) :
      MainStep threadCount state .conclude
        { state with main := conclusion threadCount state }
  | keyDelete
      (verified ok : Bool)
      (control : state.main = .deleting verified) :
      MainStep threadCount state (.keyDelete ok)
        { state with
          main := .done (if ok && verified then .success else .failure) }

variable {threadCount : Nat} {labels : List Label} {state next : State}
variable {label : Label} {index : Nat}

/-- `stepThread` does nothing else. -/
theorem threadStep_of_step
    (own : label.index = some index)
    (stepped :
      stepThread state index (state.threads index).phase label =
        some next) :
    ThreadStep state index label next := by
  -- Each label is left with the one phase that it is a step from.
  cases label <;> cases own <;>
    cases phase : (state.threads index).phase <;>
    simp only [stepThread, phase, reduceCtorEq, Option.some.injEq,
      Option.ite_none_right_eq_some] at stepped
  case once.refl.calling =>
    unfold stepOnce at stepped
    cases once : state.once with
    | fresh =>
        simp only [once, Option.some.injEq] at stepped
        exact stepped ▸ .onceFirst phase once
    | running other =>
        simp [once] at stepped
    | done =>
        simp only [once, Option.some.injEq] at stepped
        exact stepped ▸ .onceLater phase once
  case keyCreate.refl.initializing =>
    exact stepped ▸ .keyCreate _ phase
  case onceReturn.refl.initialized =>
    exact stepped ▸ .onceReturn phase
  case check.refl.checking =>
    by_cases noKey : state.keyError ≠ 0
    · rw [if_pos noKey] at stepped
      exact stepped ▸ .checkFailed phase noKey
    · rw [if_neg noKey] at stepped
      exact stepped ▸ .checkPassed phase (not_not.mp noKey)
  case malloc.refl.allocating result =>
    cases result with
    | none =>
        simp only [stepMalloc, Option.some.injEq] at stepped
        exact stepped ▸ .mallocFailed phase
    | some address =>
        simp only [stepMalloc, Option.ite_none_right_eq_some,
          Option.some.injEq] at stepped
        exact stepped.2 ▸ .malloc address phase stepped.1
  case store.refl.storing =>
    exact stepped ▸ .store _ phase
  case setSpecific.refl.setting ok address =>
    cases ok with
    | false => exact stepped ▸ .setFailed address phase
    | true => exact stepped ▸ .set address phase
  case freeUnset.refl.freeing =>
    obtain ⟨rfl, rfl⟩ := stepped
    exact .freeUnset _ phase
  case getSpecific.refl.reading =>
    obtain ⟨rfl, rfl⟩ := stepped
    exact .getSpecific _ phase
  case compare.refl.comparing =>
    exact stepped ▸ .compare _ _ phase
  case exit.refl.returned =>
    unfold stepExit at stepped
    cases value : (state.threads index).specific with
    | none =>
        simp only [value] at stepped
        exact stepped ▸ .exitUnset phase value
    | some address =>
        simp only [value] at stepped
        exact stepped ▸ .exitSet address phase value
  case count.refl.counting =>
    exact stepped ▸ .count _ phase
  case sum.refl.summing =>
    exact stepped ▸ .sum _ phase
  case destroy.refl.destroying =>
    obtain ⟨rfl, rfl⟩ := stepped
    exact .destroy _ phase

/-- `stepMain` does nothing else. -/
theorem mainStep_of_step
    (own : label.index = none)
    (stepped :
      stepMain threadCount state state.main label = some next) :
    MainStep threadCount state label next := by
  cases label <;> cases own <;>
    cases control : state.main <;>
    simp only [stepMain, control, reduceCtorEq, Option.some.injEq,
      Option.ite_none_right_eq_some] at stepped
  case create.refl.creating ok index =>
    cases ok with
    | false => exact stepped ▸ .createFailed index control
    | true => exact stepped ▸ .create index control
  case join.refl.joining =>
    exact stepped.2 ▸ .join _ control stepped.1
  case conclude.refl.deciding =>
    exact stepped ▸ .conclude control
  case keyDelete.refl.deleting =>
    exact stepped ▸ .keyDelete _ _ control

/-- A step is one of a thread or one of `main`. -/
theorem step_cases
    (stepped : step threadCount state label = some next) :
    (∃ index,
      label.index = some index ∧ ThreadStep state index label next) ∨
      (label.index = none ∧ MainStep threadCount state label next) := by
  unfold step at stepped
  cases own : label.index with
  | some index =>
      simp only [own] at stepped
      exact Or.inl ⟨index, rfl, threadStep_of_step own stepped⟩
  | none =>
      simp only [own] at stepped
      exact Or.inr ⟨rfl, mainStep_of_step own stepped⟩

/-- A phase between the creation of a thread and its `pthread_join`. -/
def Phase.Live (phase : Phase) : Prop :=
  phase ≠ .absent ∧ phase ≠ .joined

namespace ThreadStep

/-- A step of a thread leaves the other threads alone. -/
theorem other
    (stepped : ThreadStep state index label next)
    {other : Nat}
    (different : other ≠ index) :
    next.threads other = state.threads other := by
  cases stepped <;> simp [State.move, State.set, stepFree, different]

/-- A thread takes steps only while it is live. -/
theorem live
    (stepped : ThreadStep state index label next) :
    (state.threads index).phase.Live ∧
      (next.threads index).phase.Live := by
  cases stepped <;>
    simp [*, State.move, State.set, stepFree, Phase.Live]

/-- A step of a thread does not move `main`. -/
theorem control
    (stepped : ThreadStep state index label next) :
    next.main = state.main ∧ next.created = state.created := by
  cases stepped <;> exact ⟨rfl, rfl⟩

end ThreadStep

/-- What `main` changes in a thread: it starts it and it joins it. -/
theorem MainStep.thread
    (stepped : MainStep threadCount state label next)
    (index : Nat) :
    next.threads index = state.threads index ∨
      (state.main = .creating index ∧
        next.threads index =
          { state.threads index with phase := .calling }) ∨
      ((state.threads index).phase = .exited ∧
        next.threads index =
          { state.threads index with phase := .joined }) := by
  cases stepped with
  | create creating control =>
      by_cases same : index = creating
      · subst index
        exact Or.inr (Or.inl ⟨control, by simp [State.move, State.set]⟩)
      · exact Or.inl (by simp [State.move, State.set, same])
  | join joining control ended =>
      by_cases same : index = joining
      · subst index
        exact Or.inr (Or.inr ⟨ended, by simp [State.move, State.set]⟩)
      · exact Or.inl (by simp [State.move, State.set, same])
  | createFailed | conclude | keyDelete => exact Or.inl rfl

/-- How many threads have been joined. -/
def Control.joinedUpTo (created : Nat) : Control → Nat
  | .creating _ => 0
  | .joining index => index
  | .deciding => created
  | .deleting _ => created
  | .done _ => created

/-- `main` has joined every thread that it created. -/
def Control.PastJoins : Control → Prop
  | .creating _ => False
  | .joining _ => False
  | .deciding => True
  | .deleting _ => True
  | .done _ => True

/-- The loop variable of `main` is within its loop. -/
def Control.Within (threadCount created : Nat) : Control → Prop
  | .creating index => index = created ∧ index < threadCount
  | .joining index => index < created
  | .deciding => True
  | .deleting _ => True
  | .done _ => True

/-- Where the joining loop is, that many threads have been joined. -/
theorem joinHead_joinedUpTo
    {created index : Nat}
    (bound : index ≤ created) :
    (joinHead created index).joinedUpTo created = index := by
  unfold joinHead
  split
  · rfl
  · simp only [Control.joinedUpTo]
    omega

/-- The joining loop keeps its variable in its bounds. -/
theorem joinHead_within
    (threadCount created index : Nat) :
    (joinHead created index).Within threadCount created := by
  unfold joinHead
  split
  case isTrue more => exact more
  case isFalse => trivial

/-- While threads are being created, none has been joined. -/
theorem createHead_joinedUpTo
    (threadCount created index : Nat) :
    (createHead threadCount created index).joinedUpTo created = 0 := by
  unfold createHead
  split
  · rfl
  · exact joinHead_joinedUpTo (Nat.zero_le created)

/-- The creating loop keeps its variable in its bounds. -/
theorem createHead_within
    (threadCount created : Nat) :
    (createHead threadCount created created).Within
      threadCount created := by
  unfold createHead
  split
  case isTrue more => exact ⟨rfl, more⟩
  case isFalse => exact joinHead_within threadCount created 0

/-- Once `main` concludes, all threads have been joined. -/
theorem conclusion_joinedUpTo (threadCount : Nat) (state : State) :
    (conclusion threadCount state).joinedUpTo state.created =
      state.created := by
  unfold conclusion
  split
  · rfl
  · split <;> rfl

/-- Past the loops there is no loop variable. -/
theorem conclusion_within (threadCount : Nat) (state : State) :
    (conclusion threadCount state).Within threadCount state.created := by
  unfold conclusion
  split
  · trivial
  · split <;> trivial

/-- How far `main` has come, and which threads that leaves live. -/
structure Progress
    (threadCount : Nat)
    (labels : List Label)
    (state : State) : Prop where
  bound : state.created ≤ threadCount
  creates : labels.count (.create true) = state.created
  within : state.main.Within threadCount state.created
  absent :
    ∀ index,
      (state.threads index).phase = .absent ↔ state.created ≤ index
  joined :
    ∀ index,
      (state.threads index).phase = .joined ↔
        index < state.main.joinedUpTo state.created

namespace Progress

/-- At the start no thread is there. -/
theorem start (threadCount : Nat) :
    Progress threadCount [] (State.start threadCount) where
  bound := Nat.zero_le threadCount
  creates := rfl
  within := createHead_within threadCount 0
  absent := by simp [State.start]
  joined := by simp [State.start, createHead_joinedUpTo]

/-- A step of a thread leaves `main` where it is. -/
theorem threadStep
    (progress : Progress threadCount labels state)
    (own : label.index = some index)
    (stepped : ThreadStep state index label next) :
    Progress threadCount (labels ++ [label]) next := by
  obtain ⟨sameMain, sameCreated⟩ := stepped.control
  obtain ⟨before, after⟩ := stepped.live
  have noCreate : label ≠ .create true := by
    rintro rfl
    cases own
  constructor
  case bound =>
    rw [sameCreated]
    exact progress.bound
  case creates =>
    rw [sameCreated, List.count_append, List.count_singleton,
      if_neg (by simpa using noCreate)]
    exact progress.creates
  case within =>
    rw [sameMain, sameCreated]
    exact progress.within
  case absent =>
    intro other
    rw [sameCreated, ← progress.absent other]
    by_cases same : other = index
    · subst other
      simp [before.1, after.1]
    · rw [stepped.other same]
  case joined =>
    intro other
    rw [sameCreated, sameMain, ← progress.joined other]
    by_cases same : other = index
    · subst other
      simp [before.2, after.2]
    · rw [stepped.other same]

/-- A step of `main` keeps its place and its threads in line. -/
theorem mainStep
    (progress : Progress threadCount labels state)
    (stepped : MainStep threadCount state label next) :
    Progress threadCount (labels ++ [label]) next := by
  have within := progress.within
  have absent := progress.absent
  have joined := progress.joined
  cases stepped with
  | create index control =>
      simp only [control, Control.Within] at within
      simp only [control, Control.joinedUpTo, Nat.not_lt_zero,
        iff_false] at joined
      obtain ⟨rfl, more⟩ := within
      constructor
      case bound => exact more
      case creates => simp [List.count_append, progress.creates]
      case within => exact createHead_within threadCount _
      case absent =>
        intro other
        by_cases same : other = state.created
        · subst other
          simp [State.move, State.set]
        · simp only [State.move, State.set, Function.update_of_ne same,
            absent]
          omega
      case joined =>
        intro other
        rw [createHead_joinedUpTo]
        by_cases same : other = state.created
        · subst other
          simp [State.move, State.set]
        · simp [State.move, State.set, same, joined]
  | createFailed index control =>
      simp only [control, Control.joinedUpTo] at joined
      constructor
      case bound => exact progress.bound
      case creates => simp [List.count_append, progress.creates]
      case within => exact joinHead_within threadCount _ 0
      case absent => exact absent
      case joined =>
        rw [joinHead_joinedUpTo (Nat.zero_le _)]
        exact joined
  | join index control ended =>
      simp only [control, Control.Within] at within
      simp only [control, Control.joinedUpTo] at joined
      constructor
      case bound => exact progress.bound
      case creates =>
        simp [List.count_append, progress.creates, State.move, State.set]
      case within => exact joinHead_within threadCount _ _
      case absent =>
        intro other
        by_cases same : other = index
        · subst other
          simp [State.move, State.set, within]
        · simpa [State.move, State.set, same] using absent other
      case joined =>
        intro other
        change _ ↔
          other <
            (joinHead state.created (index + 1)).joinedUpTo state.created
        rw [joinHead_joinedUpTo within]
        by_cases same : other = index
        · subst other
          simp [State.move, State.set]
        · simp only [State.move, State.set, Function.update_of_ne same,
            joined]
          omega
  | conclude control =>
      simp only [control, Control.joinedUpTo] at joined
      constructor
      case bound => exact progress.bound
      case creates => simp [List.count_append, progress.creates]
      case within => exact conclusion_within threadCount state
      case absent => exact absent
      case joined =>
        simpa only [conclusion_joinedUpTo] using joined
  | keyDelete verified ok control =>
      simp only [control, Control.joinedUpTo] at joined
      constructor
      case bound => exact progress.bound
      case creates => simp [List.count_append, progress.creates]
      case within => trivial
      case absent => exact absent
      case joined => exact joined

/-- The thread that is being created is not there yet. -/
theorem creating_absent
    (progress : Progress threadCount labels state)
    (control : state.main = .creating index) :
    (state.threads index).phase = .absent := by
  have within := progress.within
  rw [control] at within
  exact (progress.absent index).mpr (Nat.le_of_eq within.1.symm)

/-- After the joins no thread is live. -/
theorem settled
    (progress : Progress threadCount labels state)
    (past : state.main.PastJoins)
    (index : Nat) :
    (state.threads index).phase = .absent ∨
      (state.threads index).phase = .joined := by
  have all : state.main.joinedUpTo state.created = state.created := by
    cases control : state.main <;>
      simp_all [Control.PastJoins, Control.joinedUpTo]
  rw [progress.absent, progress.joined, all]
  exact Nat.lt_or_ge index state.created |>.symm

/-- After the joins no thread takes a step. -/
theorem no_threadStep
    (progress : Progress threadCount labels state)
    (past : state.main.PastJoins) :
    ¬ ThreadStep state index label next := by
  intro stepped
  obtain ⟨present, notJoined⟩ := stepped.live.1
  rcases progress.settled past index with absent | joined
  · exact present absent
  · exact notJoined joined

end Progress

end AdvanceUnix.ThreadData
