import AdvanceUnix.ThreadDataInvariant
import Mathlib.Algebra.BigOperators.Intervals
import Mathlib.Algebra.Order.BigOperators.Group.Finset

namespace AdvanceUnix.ThreadData

open Transition

/-!
# What thread-specific data comes to

The invariants hold in every run.  After the joins every thread has either
never set its value or run its destructor to the end, so the totals, the heap
and the result of `main` can be read off.
-/

variable {threadCount : Nat} {labels : List Label} {state next : State}
variable {label : Label} {index : Nat}

/-- What `main` knows where it is, and what it returns. -/
def Control.Knows
    (threadCount : Nat)
    (labels : List Label)
    (state : State) : Control → Prop
  | .creating _ => keyDeletes labels = []
  | .joining _ => keyDeletes labels = []
  | .deciding => keyDeletes labels = []
  | .deleting verified =>
      keyDeletes labels = [] ∧ verified = verdict threadCount state
  | .done result =>
      (keyDeletes labels).length ≤ 1 ∧
        (result = .success ↔
          keyDeletes labels = [true] ∧ verdict threadCount state = true)

/-- A step other than `pthread_key_delete`. -/
theorem keyDeletes_other
    (labels : List Label)
    (noDelete : keyDeletes [label] = []) :
    keyDeletes (labels ++ [label]) = keyDeletes labels := by
  unfold keyDeletes at noDelete ⊢
  rw [List.filterMap_append, noDelete, List.append_nil]

/-- At the head of the joining loop nothing has been deleted. -/
theorem joinHead_knows
    {created : Nat}
    (noDelete : keyDeletes labels = []) :
    (joinHead created index).Knows threadCount labels state := by
  unfold joinHead
  split <;> exact noDelete

/-- At the head of the creating loop nothing has been deleted. -/
theorem createHead_knows
    {created : Nat}
    (noDelete : keyDeletes labels = []) :
    (createHead threadCount created index).Knows
      threadCount labels state := by
  unfold createHead
  split
  · exact noDelete
  · exact joinHead_knows noDelete

/-- `main` takes its verdict to `pthread_key_delete`, or has failed. -/
theorem conclusion_knows
    (noDelete : keyDeletes labels = [])
    (same : verdict threadCount next = verdict threadCount state) :
    (conclusion threadCount state).Knows threadCount labels next := by
  unfold conclusion
  split
  · simp [Control.Knows, noDelete]
  · split
    · simp [Control.Knows, noDelete]
    · exact ⟨noDelete, same.symm⟩

/-- A step of a thread comes before the joins, and deletes nothing. -/
theorem ThreadStep.knows
    (stepped : ThreadStep state index label next)
    (progress : Progress threadCount labels state)
    (knows : state.main.Knows threadCount labels state) :
    next.main.Knows threadCount (labels ++ [label]) next := by
  have noDelete : keyDeletes [label] = [] := by
    cases stepped <;> rfl
  have early : ¬ state.main.PastJoins :=
    fun past => progress.no_threadStep past stepped
  rw [stepped.control.1]
  cases control : state.main with
  | creating creating =>
      rw [control] at knows
      exact (keyDeletes_other labels noDelete).trans knows
  | joining joining =>
      rw [control] at knows
      exact (keyDeletes_other labels noDelete).trans knows
  | deciding | deleting | done =>
      simp [control, Control.PastJoins] at early

/-- A step of `main` keeps what it knows. -/
theorem MainStep.knows
    (stepped : MainStep threadCount state label next)
    (knows : state.main.Knows threadCount labels state) :
    next.main.Knows threadCount (labels ++ [label]) next := by
  cases stepped with
  | create creating control =>
      rw [control] at knows
      exact createHead_knows ((keyDeletes_other labels rfl).trans knows)
  | createFailed creating control =>
      rw [control] at knows
      exact joinHead_knows ((keyDeletes_other labels rfl).trans knows)
  | join joining control ended =>
      rw [control] at knows
      exact joinHead_knows ((keyDeletes_other labels rfl).trans knows)
  | conclude control =>
      rw [control] at knows
      exact conclusion_knows ((keyDeletes_other labels rfl).trans knows) rfl
  | keyDelete verified ok control =>
      rw [control] at knows
      obtain ⟨noDelete, same⟩ := knows
      have deleted : keyDeletes (labels ++ [.keyDelete ok]) = [ok] := by
        unfold keyDeletes at noDelete ⊢
        rw [List.filterMap_append, noDelete]
        rfl
      have sameVerdict :
          verdict threadCount
              { state with
                main :=
                  .done (if ok && verified then .success else .failure) } =
            verified := same.symm
      unfold Control.Knows
      rw [deleted]
      refine ⟨Nat.le_refl 1, ?_⟩
      rw [sameVerdict]
      cases ok <;> cases verified <;> decide

/-- All that holds in every run. -/
structure Invariant
    (threadCount : Nat)
    (labels : List Label)
    (state : State) : Prop where
  progress : Progress threadCount labels state
  courses : OnCourse labels state
  owned : Owned state
  keyed : Keyed labels state
  totals : Totals threadCount labels state
  knows : state.main.Knows threadCount labels state

namespace Invariant

/-- The invariant holds at the start. -/
theorem start (threadCount : Nat) :
    Invariant threadCount [] (State.start threadCount) where
  progress := .start threadCount
  courses := .start threadCount
  owned := .start threadCount
  keyed := .start threadCount
  totals := .start threadCount
  knows := createHead_knows rfl

/-- A live thread is one of those that `main` creates. -/
theorem index_lt
    (invariant : Invariant threadCount labels state)
    (live : (state.threads index).phase.Live) :
    index < threadCount := by
  have created : index < state.created := by
    rw [← Nat.not_le, ← invariant.progress.absent index]
    exact live.1
  exact Nat.lt_of_lt_of_le created invariant.progress.bound

/-- Every step keeps the invariant. -/
theorem step
    (invariant : Invariant threadCount labels state)
    (stepped : ThreadData.step threadCount state label = some next) :
    Invariant threadCount (labels ++ [label]) next := by
  obtain ⟨progress, courses, owned, keyed, totals, knows⟩ := invariant
  rcases step_cases stepped with ⟨index, own, moved⟩ | ⟨own, moved⟩
  · have bound :=
      index_lt ⟨progress, courses, owned, keyed, totals, knows⟩
        moved.live.1
    have content :
        ∀ {address observed},
          (state.threads index).phase = .comparing address observed →
          state.idAt address = idOf index := by
      intro address observed phase
      refine owned.idAt_eq ?_ ?_
      · simp [Thread.block, phase]
      · simp [Phase.content, phase]
    exact {
      progress := progress.threadStep own moved
      courses := courses.threadStep own moved content
      owned := owned.threadStep courses moved
      keyed := keyed.threadStep moved
      totals := totals.threadStep owned own bound moved
      knows := moved.knows progress knows
    }
  · exact {
      progress := progress.mainStep moved
      courses := courses.mainStep progress own moved
      owned := owned.mainStep progress moved
      keyed := keyed.mainStep moved
      totals := totals.mainStep own moved
      knows := moved.knows knows
    }

/-- Every run keeps the invariant. -/
theorem run
    (accepted : (system threadCount).run labels = some state) :
    Invariant threadCount labels state :=
  System.run_invariant (Invariant threadCount) (start threadCount)
    step accepted

end Invariant

/-- The blocks that a thread has freed, by either branch. -/
def Tally.freed (tally : Tally) : List Nat :=
  tally.unsetFreed ++ tally.destroyed

/-- A thread frees no block twice, and none by both branches. -/
structure Tally.FreesOnce (tally : Tally) : Prop where
  single : tally.allocated.length ≤ 1
  oneBranch : tally.unsetFreed = [] ∨ tally.destroyed = []
  atMostOnce : tally.freed = [] ∨ tally.freed = tally.allocated

/-- A thread has allocated its value, set it and read it back. -/
def Tally.Verified (tally : Tally) : Prop :=
  ∃ address,
    tally.allocated = [address] ∧ tally.stored = 1 ∧
      tally.readBack = [some address]

/-- What a thread has allocated is what it has freed and what it holds. -/
structure Tally.Balances (tally : Tally) (block : Option Nat) : Prop where
  single : tally.allocated.length ≤ 1
  oneBranch : tally.unsetFreed = [] ∨ tally.destroyed = []
  balance : tally.allocated = tally.freed ++ block.toList

/-- A thread that has never set its value has freed its block. -/
theorem Tally.Unset.balances
    {tally : Tally}
    (unset : tally.Unset) :
    tally.Balances none := by
  rcases unset with rfl | ⟨address, rfl⟩ <;>
    constructor <;> simp [Tally.freed]

/-- A thread whose destructor has run has freed its block. -/
theorem Tally.destroyedOf_balances (address : Nat) :
    (Tally.destroyedOf address).Balances none := by
  constructor <;> simp [Tally.freed, Tally.destroyedOf]

/-- On its course a thread owes the block that it holds. -/
theorem Thread.Course.balances
    {thread : Thread}
    {tally : Tally}
    (course : thread.Course tally) :
    tally.Balances thread.block := by
  unfold Thread.Course at course
  unfold Thread.block
  cases phase : thread.phase with
  | storing address | setting address | freeing address
  | reading address | counting address | summing address
  | destroying address =>
      rw [phase] at course
      obtain ⟨_, _, rfl⟩ := course
      constructor <;> simp [Tally.freed, Tally.readBackOf]
  | comparing address observed =>
      rw [phase] at course
      obtain ⟨_, _, _, rfl⟩ := course
      constructor <;> simp [Tally.freed, Tally.readBackOf]
  | returned =>
      rw [phase] at course
      rcases course with ⟨value, _, unset⟩ | ⟨address, value, _, rfl⟩
      · simpa [value] using unset.balances
      · constructor <;> simp [Tally.freed, Tally.readBackOf, value]
  | exited | joined =>
      rw [phase] at course
      rcases course.2 with ⟨_, unset⟩ | ⟨address, _, rfl⟩
      · exact unset.balances
      · exact Tally.destroyedOf_balances address
  | absent | calling | initializing | initialized | checking
  | allocating =>
      rw [phase] at course
      obtain ⟨_, _, rfl⟩ := course
      exact Tally.Unset.balances (Or.inl rfl)

/-- A thread that balances frees at most once. -/
theorem Tally.Balances.freesOnce
    {tally : Tally}
    {block : Option Nat}
    (balances : tally.Balances block) :
    tally.FreesOnce where
  single := balances.single
  oneBranch := balances.oneBranch
  atMostOnce := by
    have single := balances.single
    have balance := balances.balance
    cases block with
    | none =>
        exact Or.inr (by simpa using balance.symm)
    | some address =>
        rw [balance, List.length_append] at single
        exact Or.inl (List.length_eq_zero_iff.mp (by simpa using single))

/-- The block that a thread holds is allocated and not freed yet. -/
theorem Tally.Balances.block_iff
    {tally : Tally}
    {block : Option Nat}
    (balances : tally.Balances block)
    (address : Nat) :
    block = some address ↔
      tally.allocated = [address] ∧ tally.freed = [] := by
  have single := balances.single
  have balance := balances.balance
  cases block with
  | none =>
      rw [Option.toList_none, List.append_nil] at balance
      simp only [reduceCtorEq, false_iff, not_and]
      intro allocated
      simp [← balance, allocated]
  | some held =>
      rw [balance, List.length_append] at single
      have nothing : tally.freed = [] :=
        List.length_eq_zero_iff.mp (by simpa using single)
      simp [balance, nothing]

/-- After the joins a thread has finished one way or the other. -/
theorem Invariant.finished
    (invariant : Invariant threadCount labels state)
    (past : state.main.PastJoins)
    (index : Nat) :
    ((state.threads index).verified = false ∧
        (tallyOf labels index).Unset) ∨
      ∃ address,
        (state.threads index).verified = true ∧
          tallyOf labels index = .destroyedOf address := by
  have course := invariant.courses index
  unfold Thread.Course at course
  rcases invariant.progress.settled past index with absent | joined
  · rw [absent] at course
    exact Or.inl ⟨course.2.1, Or.inl course.2.2⟩
  · rw [joined] at course
    exact course.2

/-- After the joins a thread holds nothing. -/
theorem Invariant.block_none
    (invariant : Invariant threadCount labels state)
    (past : state.main.PastJoins)
    (index : Nat) :
    (state.threads index).block = none := by
  rcases invariant.progress.settled past index with absent | joined
  · simp [Thread.block, absent]
  · simp [Thread.block, joined]

/-- The workers whose `pthread_setspecific` has succeeded. -/
def storedWorkers (threadCount : Nat) (labels : List Label) : Finset Nat :=
  (Finset.range threadCount).filter fun index =>
    (tallyOf labels index).stored ≠ 0

/-- After the joins every destructor has counted and summed once. -/
theorem Invariant.counted_eq
    (invariant : Invariant threadCount labels state)
    (past : state.main.PastJoins)
    (index : Nat) :
    (tallyOf labels index).counted =
        (if (tallyOf labels index).stored ≠ 0 then 1 else 0) ∧
      (tallyOf labels index).summed = (tallyOf labels index).counted := by
  rcases invariant.finished past index with
    ⟨_, told | ⟨address, told⟩⟩ | ⟨address, _, told⟩ <;>
    simp [told, Tally.destroyedOf]

/-- After the joins the first total is the number of values set. -/
theorem Invariant.count_total
    (invariant : Invariant threadCount labels state)
    (past : state.main.PastJoins) :
    state.destructorCount =
      BitVec.ofNat 32 (storedWorkers threadCount labels).card := by
  rw [invariant.totals.count, storedWorkers, Finset.card_filter]
  exact congrArg _ (Finset.sum_congr rfl fun index _ =>
    (invariant.counted_eq past index).1)

/-- After the joins the second total is the sum of the ids. -/
theorem Invariant.sum_total
    (invariant : Invariant threadCount labels state)
    (past : state.main.PastJoins) :
    state.destructorIdSum =
      BitVec.ofNat 32
        ((storedWorkers threadCount labels).sum fun index =>
          index + 1) := by
  rw [invariant.totals.sum, storedWorkers, Finset.sum_filter]
  refine congrArg _ (Finset.sum_congr rfl fun index _ => ?_)
  obtain ⟨counted, summed⟩ := invariant.counted_eq past index
  rw [summed, counted]
  split <;> simp

/-- The sum of all ids, as `main` computes the expected one. -/
theorem sum_ids (threadCount : Nat) :
    ((Finset.range threadCount).sum fun index => index + 1) =
      threadCount * (threadCount + 1) / 2 := by
  have doubled := Finset.sum_range_id_mul_two (threadCount + 1)
  rw [Finset.sum_range_succ', Nat.add_zero, Nat.add_sub_cancel,
    Nat.mul_comm (threadCount + 1)] at doubled
  omega

/-- An `int` that is small enough holds what has been counted. -/
theorem toInt_ofNat
    {number : Nat}
    (small : number < 2 ^ 31) :
    (BitVec.ofNat 32 number).toInt = number := by
  have value : (BitVec.ofNat 32 number).toNat = number := by
    rw [BitVec.toNat_ofNat]
    exact Nat.mod_eq_of_lt (by omega)
  rw [BitVec.toInt_eq_toNat_of_lt (by omega), value]

/-- No more values are set than there are threads. -/
theorem storedWorkers_card_le (threadCount : Nat) (labels : List Label) :
    (storedWorkers threadCount labels).card ≤ threadCount := by
  unfold storedWorkers
  simpa only [Finset.card_range] using
    Finset.card_filter_le (Finset.range threadCount) _

/-- The ids of some workers sum up to no more than those of all. -/
theorem storedWorkers_sum_le (threadCount : Nat) (labels : List Label) :
    ((storedWorkers threadCount labels).sum fun index => index + 1) ≤
      threadCount * (threadCount + 1) / 2 := by
  rw [← sum_ids]
  exact Finset.sum_le_sum_of_subset (Finset.filter_subset _ _)

/-- A worker that has finished verified has set its value. -/
theorem Tally.Verified.of_destroyedOf
    {tally : Tally}
    {address : Nat}
    (told : tally = .destroyedOf address) :
    tally.Verified :=
  ⟨address, by simp [told, Tally.destroyedOf]⟩

/-- After the joins `verified` of a context tells what its worker has done. -/
theorem Invariant.verified_iff
    (invariant : Invariant threadCount labels state)
    (past : state.main.PastJoins)
    (index : Nat) :
    (state.threads index).verified = true ↔
      (tallyOf labels index).Verified := by
  rcases invariant.finished past index with
    ⟨unverified, unset⟩ | ⟨address, verified, told⟩
  · rw [unverified]
    refine iff_of_false Bool.false_ne_true ?_
    rintro ⟨address, _, stored, _⟩
    rcases unset with told | ⟨freed, told⟩ <;> simp [told] at stored
  · exact iff_of_true verified (.of_destroyedOf told)

/-- After the joins the flags tell whether the key was created. -/
theorem Keyed.created_iff
    (keyed : Keyed labels state) :
    state.keyInitialized = true ∧ state.keyError = 0 ↔
      keyErrors labels = [0] := by
  rcases keyed.flags with ⟨noError, _, flag⟩ | ⟨oneError, flag⟩
  · simp [noError, flag]
  · simp [oneError, flag]

/-- If all workers have verified, the totals are as `main` expects them. -/
theorem storedWorkers_all
    (all : ∀ index < threadCount, (tallyOf labels index).Verified) :
    storedWorkers threadCount labels = Finset.range threadCount := by
  refine Finset.filter_true_of_mem ?_
  intro index inRange
  obtain ⟨_, _, stored, _⟩ := all index (Finset.mem_range.mp inRange)
  simp [stored]

/-- The verdict of `main` is about what the workers have done. -/
theorem Invariant.verdict_iff
    (invariant : Invariant threadCount labels state)
    (past : state.main.PastJoins) :
    verdict threadCount state = true ↔
      labels.count (.create true) = threadCount ∧
        keyErrors labels = [0] ∧
        ∀ index < threadCount, (tallyOf labels index).Verified := by
  have verified := invariant.verified_iff past
  have totals :
      (∀ index < threadCount, (tallyOf labels index).Verified) →
      state.destructorCount = BitVec.ofNat 32 threadCount ∧
        state.destructorIdSum =
          BitVec.ofNat 32 (threadCount * (threadCount + 1) / 2) := by
    intro all
    rw [invariant.count_total past, invariant.sum_total past,
      storedWorkers_all all, Finset.card_range, sum_ids]
    exact ⟨rfl, rfl⟩
  rw [invariant.progress.creates, ← invariant.keyed.created_iff]
  simp only [verdict, Bool.and_eq_true, decide_eq_true_eq, List.all_eq_true,
    List.mem_range, verified]
  constructor
  · rintro ⟨⟨⟨⟨⟨created, all⟩, flag⟩, error⟩, _⟩, _⟩
    exact ⟨created, ⟨flag, error⟩, created ▸ all⟩
  · rintro ⟨created, ⟨flag, error⟩, all⟩
    obtain ⟨count, sum⟩ := totals all
    exact ⟨⟨⟨⟨⟨created, created.symm ▸ all⟩, flag⟩, error⟩, count⟩, sum⟩

/-- Once `main` has returned, nothing happens. -/
theorem Invariant.nothing_after_done
    (invariant : Invariant threadCount labels state)
    {result : Exit}
    (returned : state.main = .done result)
    {later : List Label}
    (accepted :
      (system threadCount).runFrom state later = some next) :
    later = [] := by
  cases later with
  | nil =>
      rfl
  | cons label rest =>
      obtain ⟨middle, stepped, _⟩ := System.runFrom_cons accepted
      have past : state.main.PastJoins := by
        simp [returned, Control.PastJoins]
      rcases step_cases stepped with ⟨index, _, moved⟩ | ⟨_, moved⟩
      · exact (invariant.progress.no_threadStep past moved).elim
      · cases moved <;> simp_all

/-- When the key is deleted, every destructor has run. -/
theorem keyDelete_last
    {before later : List Label}
    {ok : Bool}
    (accepted :
      (system threadCount).run (before ++ .keyDelete ok :: later) =
        some state) :
    later = [] ∧
      ∀ index,
        (tallyOf before index).destroyed.length =
          (tallyOf before index).stored := by
  obtain ⟨middle, first, second⟩ := System.runFrom_split accepted
  obtain ⟨next, stepped, rest⟩ := System.runFrom_cons second
  have invariant := Invariant.run first
  have deletes : step threadCount middle (.keyDelete ok) = some next :=
    stepped
  rcases step_cases deletes with ⟨_, own, _⟩ | ⟨_, moved⟩
  · cases own
  · have after := invariant.step deletes
    cases moved with
    | keyDelete verified ok control =>
        refine ⟨after.nothing_after_done rfl rest, ?_⟩
        intro index
        have past : middle.main.PastJoins := by
          simp [control, Control.PastJoins]
        rcases invariant.finished past index with
          ⟨_, told | ⟨address, told⟩⟩ | ⟨address, _, told⟩ <;>
          simp [told, Tally.destroyedOf]

/-- What holds of the program in every run. -/
structure Agreement
    (threadCount : Nat)
    (labels : List Label)
    (state : State) : Prop where
  initializedOnce : (keyErrors labels).length ≤ 1
  freesOnce : ∀ index, (tallyOf labels index).FreesOnce
  live :
    ∀ address,
      state.heap address ≠ none ↔
        ∃ index,
          (tallyOf labels index).allocated = [address] ∧
            (tallyOf labels index).freed = []
  allFreed :
    state.main.PastJoins →
    (∀ index,
        (tallyOf labels index).freed = (tallyOf labels index).allocated) ∧
      ∀ address, state.heap address = none
  destructorCount :
    state.main.PastJoins →
    state.destructorCount.toInt = (storedWorkers threadCount labels).card
  destructorIdSum :
    state.main.PastJoins →
    state.destructorIdSum.toInt =
      (((storedWorkers threadCount labels).sum fun index =>
        index + 1) : Nat)
  deletedOnce : (keyDeletes labels).length ≤ 1
  deletedLast :
    ∀ before ok later,
      labels = before ++ .keyDelete ok :: later →
      later = [] ∧
        ∀ index,
          (tallyOf before index).destroyed.length =
            (tallyOf before index).stored
  result :
    ∀ result,
      state.main = .done result →
      (result = .success ↔
        labels.count (.create true) = threadCount ∧
          keyErrors labels = [0] ∧
          (∀ index < threadCount, (tallyOf labels index).Verified) ∧
          keyDeletes labels = [true])

/--
However the workers interleave, wherever `pthread_create` stops and whatever
the other calls answer, each value is freed once, the totals are those of the
workers that have set one, and `main` deletes the key last.
-/
theorem thread_data_agreement
    {threadCount : Nat}
    (small : threadCount * (threadCount + 1) < 2 ^ 31)
    {labels : List Label}
    {state : State}
    (accepted : (system threadCount).run labels = some state) :
    Agreement threadCount labels state := by
  have invariant := Invariant.run accepted
  have balances :
      ∀ index,
        (tallyOf labels index).Balances (state.threads index).block :=
    fun index => (invariant.courses index).balances
  constructor
  case initializedOnce =>
    rcases invariant.keyed.flags with ⟨noError, _⟩ | ⟨oneError, _⟩
    · simp [noError]
    · simp [oneError]
  case freesOnce => exact fun index => (balances index).freesOnce
  case live =>
    intro address
    simp only [← (balances _).block_iff]
    constructor
    · exact invariant.owned.owner
    · rintro ⟨index, holds⟩
      simp [invariant.owned.held holds]
  case allFreed =>
    intro past
    have none := invariant.block_none past
    constructor
    · intro index
      simpa [none index] using (balances index).balance.symm
    · intro address
      by_contra allocated
      obtain ⟨index, holds⟩ := invariant.owned.owner allocated
      simp [none index] at holds
  case destructorCount =>
    intro past
    have bound := storedWorkers_card_le threadCount labels
    have within : threadCount ≤ threadCount * (threadCount + 1) :=
      Nat.le_mul_of_pos_right threadCount threadCount.succ_pos
    rw [invariant.count_total past]
    exact toInt_ofNat (by omega)
  case destructorIdSum =>
    intro past
    have bound := storedWorkers_sum_le threadCount labels
    rw [invariant.sum_total past]
    exact toInt_ofNat (by omega)
  case deletedOnce =>
    have knows := invariant.knows
    unfold Control.Knows at knows
    split at knows <;> simp [knows]
  case deletedLast =>
    rintro before ok later rfl
    exact keyDelete_last accepted
  case result =>
    intro result returned
    have knows := invariant.knows
    have past : state.main.PastJoins := by
      simp [returned, Control.PastJoins]
    rw [returned] at knows
    rw [knows.2, invariant.verdict_iff past]
    tauto

/-- Two workers that take turns, each with a value of its own. -/
def twoWorkers : List Label :=
  [.create true, .once 0, .create true, .keyCreate 0 0, .onceReturn 0,
    .once 1, .check 1, .check 0, .malloc 1 (some 7), .malloc 0 (some 8),
    .store 0, .store 1, .setSpecific 0 true, .setSpecific 1 true,
    .getSpecific 1 (some 7), .getSpecific 0 (some 8), .compare 0, .compare 1,
    .exit 0, .exit 1, .count 0, .count 1, .sum 1, .sum 0, .destroy 1 7,
    .destroy 0 8, .join, .join, .conclude, .keyDelete true]

/-- The two workers with what follows for them. -/
theorem thread_data_agreement_twoWorkers :
    ∃ state,
      (system 2).run twoWorkers = some state ∧
        state.main = .done .success ∧ Agreement 2 twoWorkers state := by
  refine ⟨_, rfl, rfl, thread_data_agreement (by decide) rfl⟩

end AdvanceUnix.ThreadData
