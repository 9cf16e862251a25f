import Mathlib.Data.Int.ConditionallyCompleteOrder
import Mathlib.Data.Int.LeastGreatest
import Mathlib.Order.Interval.Set.Defs
import AdvanceUnix.MaximalRuns
import AdvanceUnix.SparseFiles

namespace AdvanceUnix.SparseFiles

open CallTree
open MaximalRuns

/-!
# What the extent queries conclude

The file is a set of data offsets, and `lseek` answers by the least offset of
one kind.  The two queries then find the first two maximal runs of that set,
and the checks accept it exactly if there is no third.
-/

/-- The data offsets of a file whose two ends have been written. -/
structure Layout (tailOffset : Int) where
  data : Set Int
  tail_after_head : 4 ≤ tailOffset
  bounded : data ⊆ Set.Ico 0 (expectedSize tailOffset)
  head_written : Set.Ico 0 4 ⊆ data
  tail_written : Set.Ico tailOffset (expectedSize tailOffset) ⊆ data

namespace Layout

variable {tailOffset : Int} (layout : Layout tailOffset)

/--
What `lseek` answers: the least offset of the wanted kind.  Every offset from
the end of the file on is a hole.
-/
def Seeks (offset : Int) : Whence → Result Int → Prop
  | .data, .ok found => LeastFrom layout.data offset found
  | .data, .error error =>
      error = .enxio ∧ ∀ later ∈ layout.data, later < offset
  | .hole, .ok found => LeastFrom layout.dataᶜ offset found
  | .hole, .error _ => False

/-- The kernel answers every `lseek` from the layout. -/
def seeks : Monitor Answer Unit where
  next := fun _ _ _ => ()
  allows := fun _ request answer =>
    match request with
    | .lseek _ offset whence => layout.Seeks offset whence answer
    | _ => True
  safe := fun _ _ => True

/-- The file begins with data. -/
theorem begins : (0 : Int) ∈ layout.data :=
  layout.head_written ⟨le_rfl, by decide⟩

/-- The file is not shorter than its tail. -/
theorem size_nonneg
    (layout : Layout tailOffset) :
    0 ≤ expectedSize tailOffset := by
  have end_of_head := layout.tail_after_head
  simp only [expectedSize, tail, List.length_cons, List.length_nil]
  omega

/-- The tail begins with data. -/
theorem tail_data : tailOffset ∈ layout.data := by
  apply layout.tail_written
  exact ⟨le_rfl, Int.lt_add_of_pos_right tailOffset (by decide)⟩

/-- The end of the file is a hole. -/
theorem end_hole : expectedSize tailOffset ∉ layout.data :=
  fun member => lt_irrefl _ (layout.bounded member).2

/-- A hole is found at or before the end of the file. -/
theorem hole_le_end
    {start hole : Int}
    (found : LeastFrom layout.dataᶜ start hole)
    (inside : start ≤ expectedSize tailOffset) :
    hole ≤ expectedSize tailOffset :=
  found.2 ⟨inside, layout.end_hole⟩

/-- A hole before the end of the file is one before the tail. -/
theorem hole_before_tail
    {hole : Int}
    (outside : hole ∉ layout.data)
    (inside : hole < expectedSize tailOffset) :
    hole < tailOffset := by
  by_contra later
  exact outside (layout.tail_written ⟨not_lt.mp later, inside⟩)

/-- From every offset before the tail on there is data, the tail at last. -/
theorem data_found
    {start : Int}
    (before : start ≤ tailOffset) :
    ∃ found, LeastFrom layout.data start found ∧ found ≤ tailOffset := by
  obtain ⟨found, here, least⟩ :=
    Int.exists_least_of_bdd (P := fun o => start ≤ o ∧ o ∈ layout.data)
      ⟨start, fun _ holds => holds.1⟩ ⟨tailOffset, before, layout.tail_data⟩
  exact ⟨found, ⟨here, fun _ holds => least _ holds⟩,
    least _ ⟨before, layout.tail_data⟩⟩

/-- From every offset of the file on there is a hole. -/
theorem hole_found
    {start : Int}
    (inside : start ≤ expectedSize tailOffset) :
    ∃ found, LeastFrom layout.dataᶜ start found := by
  obtain ⟨found, here, least⟩ :=
    Int.exists_least_of_bdd (P := fun o => start ≤ o ∧ o ∉ layout.data)
      ⟨start, fun _ holds => holds.1⟩
      ⟨expectedSize tailOffset, inside, layout.end_hole⟩
  exact ⟨found, here, fun _ holds => least _ holds⟩

end Layout

variable {tailOffset : Int} {layout : Layout tailOffset} {fd : Fd}

/-- An exact answer to `SEEK_DATA` before the tail is an offset. -/
theorem Layout.Seeks.data_ok
    {offset : Int}
    {answer : Result Int}
    (seeks : layout.Seeks offset .data answer)
    (before : offset ≤ tailOffset) :
    ∃ found, answer = .ok found ∧ LeastFrom layout.data offset found := by
  cases answer with
  | error error =>
      have beyond := seeks.2 tailOffset layout.tail_data
      exact (not_lt.mpr before beyond).elim
  | ok found => exact ⟨found, rfl, seeks⟩

/-- An exact answer to `SEEK_HOLE` is an offset. -/
theorem Layout.Seeks.hole_ok
    {offset : Int}
    {answer : Result Int}
    (seeks : layout.Seeks offset .hole answer) :
    ∃ found, answer = .ok found ∧ LeastFrom layout.dataᶜ offset found := by
  cases answer with
  | error error => exact seeks.elim
  | ok found => exact ⟨found, rfl, seeks⟩

/-- The first query always succeeds, with the first hole. -/
theorem queryExtents_ensures
    (initial : Extents) :
    (queryExtents fd initial).Ensures layout.seeks
      (fun answer _ =>
        answer.1 = 1 ∧
          answer.2.firstData = 0 ∧
          LeastFrom layout.dataᶜ 0 answer.2.firstHole) () := by
  refine .request_bind trivial ?_
  intro dataAnswer dataSeeks
  obtain ⟨firstData, rfl, least⟩ :=
    Layout.Seeks.data_ok dataSeeks
      (le_trans (by decide) layout.tail_after_head)
  have atFront : firstData = 0 :=
    le_antisymm
      (least.2 ⟨Set.mem_Ici.mpr le_rfl, layout.begins⟩) least.1.1
  subst atFront
  refine .request_bind trivial ?_
  intro holeAnswer holeSeeks
  obtain ⟨firstHole, rfl, ended⟩ := Layout.Seeks.hole_ok holeSeeks
  exact .pure ⟨rfl, rfl, ended⟩

/-- The second query stops at the end of the file or finds two more bounds. -/
theorem querySecondExtent_ensures
    {found : Extents}
    (front : found.firstData = 0)
    (ended : LeastFrom layout.dataᶜ 0 found.firstHole) :
    (querySecondExtent fd (expectedSize tailOffset) found).Ensures
      layout.seeks
      (fun answer _ =>
        (answer.1 = 0 ∧ expectedSize tailOffset ≤ found.firstHole) ∨
          (answer.1 = 1 ∧
            found.firstHole < tailOffset ∧
            answer.2.firstHole = found.firstHole ∧
            LeastFrom layout.data found.firstHole answer.2.secondData ∧
            LeastFrom layout.dataᶜ answer.2.secondData
              answer.2.endHole)) () := by
  unfold querySecondExtent
  by_cases coarse : expectedSize tailOffset ≤ found.firstHole
  · rw [if_pos (.inr coarse)]
    exact .pure (.inl ⟨rfl, coarse⟩)
  · rw [if_neg (by simp [front, not_le.mp coarse])]
    have beforeTail : found.firstHole < tailOffset :=
      layout.hole_before_tail ended.1.2 (not_le.mp coarse)
    refine .request_bind trivial ?_
    intro dataAnswer dataSeeks
    obtain ⟨secondData, rfl, least⟩ :=
      Layout.Seeks.data_ok dataSeeks beforeTail.le
    refine .request_bind trivial ?_
    intro holeAnswer holeSeeks
    obtain ⟨endHole, rfl, secondEnded⟩ := Layout.Seeks.hole_ok holeSeeks
    exact .pure (.inr ⟨rfl, beforeTail, rfl, least, secondEnded⟩)

/-- The first hole ends the first run. -/
theorem Layout.firstRun
    {firstHole : Int}
    (ended : LeastFrom layout.dataᶜ 0 firstHole) :
    FirstRun layout.data (0, firstHole) := by
  have least : LeastFrom layout.data 0 0 :=
    ⟨⟨Set.mem_Ici.mpr le_rfl, layout.begins⟩, fun _ member => member.1⟩
  exact .found (fun _ member => (layout.bounded member).1) least ended

/-- A first hole at the end of the file means one run. -/
theorem Layout.single
    {firstHole : Int}
    (ended : LeastFrom layout.dataᶜ 0 firstHole)
    (coarse : expectedSize tailOffset ≤ firstHole) :
    (runs layout.data).encard = 1 :=
  (Layout.firstRun ended).single fun _ member =>
    lt_of_lt_of_le (layout.bounded member).2 coarse

/-- The next two bounds are those of the second run. -/
theorem Layout.secondRun
    {firstHole secondData endHole : Int}
    (ended : LeastFrom layout.dataᶜ 0 firstHole)
    (least : LeastFrom layout.data firstHole secondData)
    (secondEnded : LeastFrom layout.dataᶜ secondData endHole) :
    SecondRun layout.data (secondData, endHole) :=
  .found (Layout.firstRun ended) ended.1.2 least secondEnded

/-- There are at most two runs exactly if the second ends with the file. -/
theorem Layout.at_most_two
    {firstHole secondData endHole : Int}
    (ended : LeastFrom layout.dataᶜ 0 firstHole)
    (least : LeastFrom layout.data firstHole secondData)
    (secondEnded : LeastFrom layout.dataᶜ secondData endHole) :
    (runs layout.data).encard ≤ 2 ↔
      endHole = expectedSize tailOffset := by
  have second := Layout.secondRun ended least secondEnded
  have inFile : secondData < expectedSize tailOffset :=
    (layout.bounded least.1.2).2
  constructor
  · intro few
    by_contra early
    have inside : endHole < expectedSize tailOffset :=
      lt_of_le_of_ne (layout.hole_le_end secondEnded inFile.le) early
    have beforeTail := layout.hole_before_tail secondEnded.1.2 inside
    obtain ⟨third, thirdLeast, _⟩ := layout.data_found beforeTail.le
    obtain ⟨thirdHole, thirdEnded⟩ :=
      layout.hole_found (layout.bounded thirdLeast.1.2).2.le
    exact second.more_than_two secondEnded.1.2 thirdLeast thirdEnded few
  · rintro rfl
    exact second.at_most_two fun _ member => (layout.bounded member).2

/-- Of the last check only the end of the second run matters. -/
theorem Layout.unexpected_iff
    {found : Extents}
    (ended : LeastFrom layout.dataᶜ 0 found.firstHole)
    (beforeTail : found.firstHole < tailOffset)
    (least : LeastFrom layout.data found.firstHole found.secondData) :
    unexpectedExtents tailOffset (expectedSize tailOffset) found = true ↔
      found.endHole ≠ expectedSize tailOffset := by
  have notFront : found.firstHole ≠ 0 := by
    intro same
    apply ended.1.2
    rw [same]
    exact layout.begins
  have positive : 0 < found.firstHole :=
    lt_of_le_of_ne ended.1.1 notFront.symm
  have upToTail : found.secondData ≤ tailOffset :=
    least.2 ⟨beforeTail.le, layout.tail_data⟩
  have afterHole : found.firstHole ≤ found.secondData := least.1.1
  simp only [unexpectedExtents, Bool.or_eq_true, decide_eq_true_eq]
  constructor
  · rintro ((((low | high) | early) | late) | wrong)
    · exact (not_le.mpr positive low).elim
    · exact (not_le.mpr beforeTail high).elim
    · exact (not_lt.mpr afterHole early).elim
    · exact (not_lt.mpr upToTail late).elim
    · exact wrong
  · exact .inr

/-- The checks fail exactly if there are more than two runs. -/
theorem checkExtents_ensures :
    (checkExtents tailOffset fd).Ensures layout.seeks
      (fun verdict _ =>
        verdict ≠ .failed ↔ (runs layout.data).encard ≤ 2) () := by
  refine .bind ((queryExtents_ensures {}).mono ?_)
  rintro ⟨_, found⟩ _ ⟨rfl, front, ended⟩
  refine .bind ((querySecondExtent_ensures front ended).mono ?_)
  rintro ⟨_, after⟩ _
    (⟨rfl, coarse⟩ | ⟨rfl, beforeTail, hole, least, secondEnded⟩)
  · have single := Layout.single ended coarse
    refine .pure ⟨fun _ => ?_, fun _ => by decide⟩
    rw [single]
    decide
  · rw [← hole] at ended beforeTail least
    have unexpected := Layout.unexpected_iff ended beforeTail least
    have atMostTwo := Layout.at_most_two ended least secondEnded
    by_cases wrong :
        unexpectedExtents tailOffset (expectedSize tailOffset) after
    · simp only [wrong, ↓reduceIte]
      refine .pure ⟨fun passed => (passed rfl).elim, fun few => ?_⟩
      exact (unexpected.mp wrong (atMostTwo.mp few)).elim
    · simp only [wrong]
      refine .pure ⟨fun _ => atMostTwo.mpr ?_, fun _ => by decide⟩
      by_contra early
      exact wrong (unexpected.mpr early)

/-- The first `lseek` that failed: how many came before it, and its error. -/
structure Refusal where
  seeks : Nat := 0
  failed : Option (Nat × Errno) := none

/-- Follow a run up to the first `lseek` that fails, whatever it answers. -/
def refusals : Monitor Answer Refusal :=
  .observe fun state request answer =>
    match request with
    | .lseek _ _ _ =>
        { seeks := state.seeks + 1
          failed := state.failed.or
            (match (answer : Result Int) with
              | .error error => some (state.seeks, error)
              | .ok _ => none) }
    | _ => state

/--
A failed query that means no failure: the third `lseek` is the second
`SEEK_DATA`, where `ENXIO` says that nothing follows.
-/
def Tolerated (index : Nat) (error : Errno) : Prop :=
  error = .einval ∨ error = .enotsup ∨ error = .eopnotsupp ∨
    (error = .enxio ∧ index = 2)

/-- `extent_query_unsupported` names three errors. -/
theorem extentQueryUnsupported_iff
    (error : Errno) :
    extentQueryUnsupported error = true ↔
      error = .einval ∨ error = .enotsup ∨ error = .eopnotsupp := by
  simp only [extentQueryUnsupported, Bool.or_eq_true, decide_eq_true_eq,
    or_assoc]

/-- A refused query leaves a record and one of two codes. -/
structure RefusedWith
    (code : Int)
    (after : Refusal)
    (index : Nat)
    (error : Errno) : Prop where
  recorded : after.failed = some (index, error)
  tolerated : Tolerated index error → code = 0
  reported : ¬ Tolerated index error → code = -1

/-- The code of a query other than the second `SEEK_DATA`. -/
theorem refusedWith_unsupported
    (index : Nat)
    (other : index ≠ 2)
    (error : Errno)
    (seeks : Nat) :
    RefusedWith (if extentQueryUnsupported error then 0 else -1)
      ⟨seeks, some (index, error)⟩ index error where
  recorded := rfl
  tolerated := by
    intro tolerated
    apply if_pos
    apply (extentQueryUnsupported_iff error).mpr
    rcases tolerated with einval | enotsup | eopnotsupp | ⟨_, third⟩
    · exact .inl einval
    · exact .inr (.inl enotsup)
    · exact .inr (.inr eopnotsupp)
    · exact (other third).elim
  reported := by
    intro notTolerated
    apply if_neg
    intro unsupported
    apply notTolerated
    rcases (extentQueryUnsupported_iff error).mp unsupported with
      einval | enotsup | eopnotsupp
    · exact .inl einval
    · exact .inr (.inl enotsup)
    · exact .inr (.inr (.inl eopnotsupp))

/-- The code of the second `SEEK_DATA`. -/
theorem refusedWith_secondData
    (error : Errno)
    (seeks : Nat) :
    RefusedWith
      (if error = .enxio ∨ extentQueryUnsupported error then 0 else -1)
      ⟨seeks, some (2, error)⟩ 2 error where
  recorded := rfl
  tolerated := by
    intro tolerated
    apply if_pos
    rw [extentQueryUnsupported_iff]
    rcases tolerated with einval | enotsup | eopnotsupp | ⟨enxio, _⟩
    · exact .inr (.inl einval)
    · exact .inr (.inr (.inl enotsup))
    · exact .inr (.inr (.inr eopnotsupp))
    · exact .inl enxio
  reported := by
    intro notTolerated
    apply if_neg
    rw [extentQueryUnsupported_iff]
    intro unsupported
    apply notTolerated
    rcases unsupported with enxio | einval | enotsup | eopnotsupp
    · exact .inr (.inr (.inr ⟨enxio, rfl⟩))
    · exact .inl einval
    · exact .inr (.inl enotsup)
    · exact .inr (.inr (.inl eopnotsupp))

/-- The first query succeeds with two calls or gives a code for a refusal. -/
theorem queryExtents_refused
    (initial : Extents) :
    (queryExtents fd initial).Ensures refusals
      (fun answer after =>
        (answer.1 = 1 ∧ after = ⟨2, none⟩) ∨
          ∃ index error, RefusedWith answer.1 after index error) {} := by
  refine .request_bind trivial ?_
  rintro (error | firstData) _
  · exact .pure (.inr ⟨0, error,
      refusedWith_unsupported 0 (by decide) error 1⟩)
  refine .request_bind trivial ?_
  rintro (error | firstHole) _
  · exact .pure (.inr ⟨1, error,
      refusedWith_unsupported 1 (by decide) error 2⟩)
  · exact .pure (.inl ⟨rfl, rfl⟩)

/-- The second query succeeds or gives a code for a refusal. -/
theorem querySecondExtent_refused
    (fileSize : Int)
    (found : Extents) :
    (querySecondExtent fd fileSize found).Ensures refusals
      (fun answer after =>
        after.failed = none ∨
          ∃ index error, RefusedWith answer.1 after index error)
      ⟨2, none⟩ := by
  unfold querySecondExtent
  split
  · exact .pure (.inl rfl)
  refine .request_bind trivial ?_
  rintro (error | secondData) _
  · exact .pure (.inr ⟨2, error, refusedWith_secondData error 3⟩)
  refine .request_bind trivial ?_
  rintro (error | endHole) _
  · exact .pure (.inr ⟨3, error,
      refusedWith_unsupported 3 (by decide) error 4⟩)
  · exact .pure (.inl rfl)

/-- What the checks make of a refused query. -/
def Refusal.Decides (after : Refusal) (verdict : Verdict) : Prop :=
  ∀ index error,
    after.failed = some (index, error) →
    (Tolerated index error → verdict = .skipped) ∧
      (¬ Tolerated index error → verdict = .failed)

/-- The code of a refused query is one of two, each with its verdict. -/
theorem RefusedWith.codes
    {code : Int}
    {after : Refusal}
    {index : Nat}
    {error : Errno}
    (refused : RefusedWith code after index error) :
    (code = 0 ∧ after.Decides .skipped) ∨
      (code = -1 ∧ after.Decides .failed) := by
  have only :
      ∀ otherIndex otherError,
        after.failed = some (otherIndex, otherError) →
        index = otherIndex ∧ error = otherError := by
    intro otherIndex otherError recorded
    simpa only [refused.recorded, Option.some.injEq, Prod.mk.injEq]
      using recorded
  by_cases tolerated : Tolerated index error
  · refine .inl ⟨refused.tolerated tolerated, ?_⟩
    intro otherIndex otherError recorded
    obtain ⟨rfl, rfl⟩ := only otherIndex otherError recorded
    exact ⟨fun _ => rfl, fun notTolerated => (notTolerated tolerated).elim⟩
  · refine .inr ⟨refused.reported tolerated, ?_⟩
    intro otherIndex otherError recorded
    obtain ⟨rfl, rfl⟩ := only otherIndex otherError recorded
    exact ⟨fun isTolerated => (tolerated isTolerated).elim, fun _ => rfl⟩

/-- A run without a refused query decides nothing. -/
theorem Refusal.decides_of_none
    {after : Refusal}
    (none : after.failed = none)
    (verdict : Verdict) :
    after.Decides verdict := by
  intro index error recorded
  rw [none] at recorded
  cases recorded

/-- The checks take a refused query for what it means. -/
theorem checkExtents_refused :
    (checkExtents tailOffset fd).Ensures refusals
      (fun verdict after => after.Decides verdict) {} := by
  refine .bind ((queryExtents_refused {}).mono ?_)
  rintro ⟨code, found⟩ after (⟨rfl, rfl⟩ | ⟨index, error, refused⟩)
  · refine .bind
      ((querySecondExtent_refused (expectedSize tailOffset) found).mono ?_)
    rintro ⟨code, found⟩ after (none | ⟨index, error, refused⟩)
    · have decides := Refusal.decides_of_none none
      dsimp only
      split
      · exact .pure (decides _)
      split
      · exact .pure (decides _)
      split
      · exact .pure (decides _)
      · exact .pure (decides _)
    · rcases refused.codes with ⟨rfl, skipped⟩ | ⟨rfl, failed⟩
      · exact .pure skipped
      · exact .pure failed
  · rcases refused.codes with ⟨rfl, skipped⟩ | ⟨rfl, failed⟩
    · exact .pure skipped
    · exact .pure failed

/-- What the queries and the checks conclude from a layout. -/
structure ExtentContract
    (layout : Layout tailOffset)
    (fd : Fd) : Prop where
  first :
    ∀ {initial found : Extents} {events : Events} {code : Int},
      (queryExtents fd initial).Run events (some (code, found)) →
      layout.seeks.Legal () events →
      code = 1 ∧ FirstRun layout.data (found.firstData, found.firstHole)
  second :
    ∀ {given found : Extents} {events : Events} {code : Int},
      FirstRun layout.data (given.firstData, given.firstHole) →
      (querySecondExtent fd (expectedSize tailOffset) given).Run events
        (some (code, found)) →
      layout.seeks.Legal () events →
      (code = 0 ↔ (runs layout.data).encard = 1) ∧
        (code ≠ 0 →
          code = 1 ∧
            SecondRun layout.data (found.secondData, found.endHole))
  verdict :
    ∀ {events : Events} {verdict : Verdict},
      (checkExtents tailOffset fd).Run events (some verdict) →
      layout.seeks.Legal () events →
      (verdict ≠ .failed ↔ (runs layout.data).encard ≤ 2)
  refused :
    ∀ {events : Events} {verdict : Verdict},
      (checkExtents tailOffset fd).Run events (some verdict) →
      (refusals.after {} events).Decides verdict

/-- The extent queries and the checks of `main` keep their contract. -/
theorem extent_verdict
    (layout : Layout tailOffset)
    (fd : Fd) :
    ExtentContract layout fd where
  first := by
    intro initial found events code run legal
    obtain ⟨one, front, ended⟩ :=
      ((queryExtents_ensures initial).sound run legal).2 _ rfl
    refine ⟨one, ?_⟩
    rw [show found.firstData = 0 from front]
    exact Layout.firstRun ended
  second := by
    intro given found events code isFirst run legal
    obtain ⟨hole, ended⟩ := layout.hole_found layout.size_nonneg
    have same := isFirst.unique (Layout.firstRun ended)
    rw [Prod.mk.injEq] at same
    rw [← same.2] at ended
    rcases ((querySecondExtent_ensures same.1 ended).sound run legal).2 _ rfl
      with ⟨zero, coarse⟩ | ⟨one, _, _, least, secondEnded⟩
    · have single := Layout.single ended coarse
      exact ⟨⟨fun _ => single, fun _ => zero⟩,
        fun notZero => (notZero zero).elim⟩
    · have isSecond := Layout.secondRun ended least secondEnded
      refine ⟨⟨fun zero => ?_, fun single => ?_⟩, fun _ => ⟨one, isSecond⟩⟩
      · rw [show code = 1 from one] at zero
        exact absurd zero (by decide)
      · exact (isSecond.not_single single).elim
  verdict := fun run legal =>
    (checkExtents_ensures.sound run legal).2 _ rfl
  refused := fun run => checkExtents_refused.observed run

/-- A head and a tail of four bytes with four bytes between them. -/
def smallLayout : Layout 8 where
  data := Set.Ico 0 4 ∪ Set.Ico 8 12
  tail_after_head := by decide
  bounded := by
    rintro offset (head | tail)
    · exact ⟨head.1, lt_trans head.2 (by decide)⟩
    · exact ⟨le_trans (by decide) tail.1, tail.2⟩
  head_written := Set.subset_union_left
  tail_written := Set.subset_union_right

/-- The data offsets of the small layout, as bounds. -/
def InSmallLayout (offset : Int) : Prop :=
  (0 ≤ offset ∧ offset < 4) ∨ (8 ≤ offset ∧ offset < 12)

/-- A search for data in the small layout. -/
theorem smallLayout_data
    {start found : Int}
    (here : start ≤ found ∧ InSmallLayout found)
    (least : ∀ later, start ≤ later ∧ InSmallLayout later → found ≤ later) :
    LeastFrom smallLayout.data start found :=
  ⟨here, least⟩

/-- A search for a hole in the small layout. -/
theorem smallLayout_hole
    {start found : Int}
    (here : start ≤ found ∧ ¬ InSmallLayout found)
    (least :
      ∀ later, start ≤ later ∧ ¬ InSmallLayout later → found ≤ later) :
    LeastFrom smallLayout.dataᶜ start found :=
  ⟨here, least⟩

/-- The small layout is verified, and so has at most two runs. -/
theorem extent_verdict_smallLayout :
    ∃ events,
      (checkExtents 8 3).Run events (some .verified) ∧
        smallLayout.seeks.Legal () events ∧
        (runs smallLayout.data).encard ≤ 2 := by
  have legal :
      smallLayout.seeks.Legal ()
        [⟨.lseek 3 0 .data, (.ok 0 : Result Int)⟩,
          ⟨.lseek 3 0 .hole, (.ok 4 : Result Int)⟩,
          ⟨.lseek 3 4 .data, (.ok 8 : Result Int)⟩,
          ⟨.lseek 3 8 .hole, (.ok 12 : Result Int)⟩] := by
    refine ⟨smallLayout_data ?_ ?_, smallLayout_hole ?_ ?_,
      smallLayout_data ?_ ?_, smallLayout_hole ?_ ?_, trivial⟩
    all_goals simp only [InSmallLayout]
    all_goals omega
  have run :
      (checkExtents 8 3).Run
        [⟨.lseek 3 0 .data, (.ok 0 : Result Int)⟩,
          ⟨.lseek 3 0 .hole, (.ok 4 : Result Int)⟩,
          ⟨.lseek 3 4 .data, (.ok 8 : Result Int)⟩,
          ⟨.lseek 3 8 .hole, (.ok 12 : Result Int)⟩]
        (some .verified) :=
    ⟨0, .call _ (.call _ (.call _ (.call _ (.ret _))))⟩
  exact ⟨_, run, legal,
    ((extent_verdict smallLayout 3).verdict run legal).mp (by decide)⟩

end AdvanceUnix.SparseFiles
