import Mathlib.Data.Set.Card
import Mathlib.Order.Bounds.Basic
import Mathlib.Order.Interval.Set.Basic

namespace MaximalRuns

/-!
# Maximal runs of a set

A set of points in a linear order falls into runs: half-open intervals inside
the set that can be extended on neither side.  Runs are found from left to
right by two searches, for the least member and for the least point outside,
and the theorems say which run a pair of searches has found and how many runs
there are when no member is left.
-/

variable {α : Type} [LinearOrder α] {data : Set α}

/-- A nonempty interval inside the set that ends on both sides with it. -/
structure MaximalRun (data : Set α) (lo hi : α) : Prop where
  proper : lo < hi
  inside : Set.Ico lo hi ⊆ data
  leftmost : ∀ before, before < lo → ¬ Set.Ico before lo ⊆ data
  rightmost : ∀ beyond, hi < beyond → ¬ Set.Ico hi beyond ⊆ data

/-- All maximal runs, each as its two bounds. -/
def runs (data : Set α) : Set (α × α) :=
  { run | MaximalRun data run.1 run.2 }

/-- The run that begins before all others. -/
def FirstRun (data : Set α) (run : α × α) : Prop :=
  run ∈ runs data ∧ ∀ other ∈ runs data, run.1 ≤ other.1

/-- The run that begins before all others but the first. -/
def SecondRun (data : Set α) (run : α × α) : Prop :=
  ∃ first,
    FirstRun data first ∧
      run ∈ runs data ∧
      run ≠ first ∧
      ∀ other ∈ runs data, other ≠ first → run.1 ≤ other.1

/-- The least member that is not below the start. -/
abbrev LeastFrom (members : Set α) (start least : α) : Prop :=
  IsLeast (Set.Ici start ∩ members) least

/-- The point where a run begins is a member. -/
theorem MaximalRun.begins
    {lo hi : α}
    (run : MaximalRun data lo hi) :
    lo ∈ data :=
  run.inside ⟨le_rfl, run.proper⟩

/-- Of two runs, the one that begins first ends before the other begins. -/
theorem MaximalRun.apart
    {lo hi otherLo otherHi : α}
    (run : MaximalRun data lo hi)
    (other : MaximalRun data otherLo otherHi)
    (earlier : lo < otherLo) :
    hi < otherLo := by
  by_contra reaches
  apply other.leftmost lo earlier
  intro point between
  have reached : otherLo ≤ hi := not_lt.mp reaches
  exact run.inside ⟨between.1, lt_of_lt_of_le between.2 reached⟩

/-- Two runs that begin at one point end at one point. -/
theorem MaximalRun.end_le
    {lo hi otherHi : α}
    (run : MaximalRun data lo hi)
    (other : MaximalRun data lo otherHi) :
    otherHi ≤ hi := by
  by_contra beyond
  apply run.rightmost otherHi (not_le.mp beyond)
  intro point between
  exact other.inside ⟨le_trans run.proper.le between.1, between.2⟩

/-- A run is determined by where it begins. -/
theorem run_ext
    {first second : α × α}
    (firstRun : first ∈ runs data)
    (secondRun : second ∈ runs data)
    (same : first.1 = second.1) :
    first = second := by
  obtain ⟨lo, hi⟩ := first
  obtain ⟨otherLo, otherHi⟩ := second
  obtain rfl : lo = otherLo := same
  have ends : hi = otherHi :=
    le_antisymm (secondRun.end_le firstRun) (firstRun.end_le secondRun)
  rw [ends]

/-- Two searches find a run if nothing to the left belongs to it. -/
theorem MaximalRun.found
    {lo hi : α}
    (separated : ∀ before, before < lo → ¬ Set.Ico before lo ⊆ data)
    (member : lo ∈ data)
    (ended : LeastFrom dataᶜ lo hi) :
    MaximalRun data lo hi where
  proper := by
    apply lt_of_le_of_ne ended.1.1
    rintro rfl
    exact ended.1.2 member
  inside := by
    intro point between
    by_contra outside
    exact not_lt.mpr (ended.2 ⟨between.1, outside⟩) between.2
  leftmost := separated
  rightmost := fun _ later inside => ended.1.2 (inside ⟨le_rfl, later⟩)

/-- A search from a point outside finds where a run begins. -/
theorem LeastFrom.separated
    {gap lo : α}
    (outside : gap ∉ data)
    (found : LeastFrom data gap lo) :
    ∀ before, before < lo → ¬ Set.Ico before lo ⊆ data := by
  intro before earlier inside
  have gapBefore : gap < lo := by
    apply lt_of_le_of_ne found.1.1
    rintro rfl
    exact outside found.1.2
  have member : max before gap ∈ data :=
    inside ⟨le_max_left before gap, max_lt earlier gapBefore⟩
  rcases le_total before gap with low | high
  · rw [max_eq_right low] at member
    exact outside member
  · rw [max_eq_left high] at member
    exact not_lt.mpr (found.2 ⟨high, member⟩) earlier

/-- The first two searches from a lower bound find the first run. -/
theorem FirstRun.found
    {start lo hi : α}
    (bounded : data ⊆ Set.Ici start)
    (least : LeastFrom data start lo)
    (ended : LeastFrom dataᶜ lo hi) :
    FirstRun data (lo, hi) := by
  refine ⟨.found ?_ least.1.2 ended, ?_⟩
  · intro before earlier inside
    have member : before ∈ data := inside ⟨le_rfl, earlier⟩
    exact not_lt.mpr (least.2 ⟨bounded member, member⟩) earlier
  · intro other isRun
    exact least.2 ⟨bounded isRun.begins, isRun.begins⟩

/-- There is only one first run. -/
theorem FirstRun.unique
    {first other : α × α}
    (isFirst : FirstRun data first)
    (otherFirst : FirstRun data other) :
    first = other :=
  run_ext isFirst.1 otherFirst.1
    (le_antisymm (isFirst.2 other otherFirst.1)
      (otherFirst.2 first isFirst.1))

/-- A run other than the first begins after the first has ended. -/
theorem FirstRun.before
    {first other : α × α}
    (isFirst : FirstRun data first)
    (isRun : other ∈ runs data)
    (different : other ≠ first) :
    first.2 < other.1 := by
  apply isFirst.1.apart isRun
  apply lt_of_le_of_ne (isFirst.2 other isRun)
  intro same
  exact different (run_ext isRun isFirst.1 same.symm)

/-- Two more searches from the end of the first run find the second. -/
theorem SecondRun.found
    {first : α × α}
    {lo hi : α}
    (isFirst : FirstRun data first)
    (outside : first.2 ∉ data)
    (least : LeastFrom data first.2 lo)
    (ended : LeastFrom dataᶜ lo hi) :
    SecondRun data (lo, hi) := by
  refine ⟨first, isFirst,
    .found (LeastFrom.separated outside least) least.1.2 ended, ?_, ?_⟩
  · rintro rfl
    exact not_lt.mpr least.1.1 isFirst.1.proper
  · intro other isRun different
    have later := isFirst.before isRun different
    exact least.2 ⟨later.le, isRun.begins⟩

/-- The first run is all there is if no member follows it. -/
theorem FirstRun.single
    {first : α × α}
    (isFirst : FirstRun data first)
    (nothing : ∀ point ∈ data, point < first.2) :
    (runs data).encard = 1 := by
  apply Set.encard_eq_one.mpr
  refine ⟨first, Set.eq_singleton_iff_unique_mem.mpr ⟨isFirst.1, ?_⟩⟩
  intro other isRun
  by_contra different
  have later := isFirst.before isRun different
  exact lt_asymm later (nothing other.1 isRun.begins)

/-- A second run is one too many. -/
theorem SecondRun.not_single
    {second : α × α}
    (isSecond : SecondRun data second) :
    (runs data).encard ≠ 1 := by
  intro single
  obtain ⟨first, isFirst, isRun, different, _⟩ := isSecond
  obtain ⟨only, all⟩ := Set.encard_eq_one.mp single
  have firstOnly : first = only := by
    simpa only [all, Set.mem_singleton_iff] using isFirst.1
  have secondOnly : second = only := by
    simpa only [all, Set.mem_singleton_iff] using isRun
  exact different (secondOnly.trans firstOnly.symm)

/-- A run other than the first two begins after the second has ended. -/
theorem SecondRun.before
    {first second other : α × α}
    (isSecond : second ∈ runs data)
    (least : ∀ run ∈ runs data, run ≠ first → second.1 ≤ run.1)
    (isRun : other ∈ runs data)
    (notFirst : other ≠ first)
    (notSecond : other ≠ second) :
    second.2 < other.1 := by
  apply isSecond.apart isRun
  apply lt_of_le_of_ne (least other isRun notFirst)
  intro same
  exact notSecond (run_ext isRun isSecond same.symm)

/-- There are at most two runs if no member follows the second. -/
theorem SecondRun.at_most_two
    {second : α × α}
    (isSecond : SecondRun data second)
    (nothing : ∀ point ∈ data, point < second.2) :
    (runs data).encard ≤ 2 := by
  obtain ⟨first, _, isRun, different, least⟩ := isSecond
  have covered : runs data ⊆ {first, second} := by
    intro other otherRun
    by_contra neither
    rw [Set.mem_insert_iff, Set.mem_singleton_iff, not_or] at neither
    have later :=
      SecondRun.before isRun least otherRun neither.1 neither.2
    exact lt_asymm later (nothing other.1 otherRun.begins)
  calc (runs data).encard
      ≤ ({first, second} : Set (α × α)).encard :=
        Set.encard_le_encard covered
    _ = 2 := Set.encard_pair different.symm

/-- There are more than two runs if a search finds one after the second. -/
theorem SecondRun.more_than_two
    {second : α × α}
    {lo hi : α}
    (isSecond : SecondRun data second)
    (outside : second.2 ∉ data)
    (found : LeastFrom data second.2 lo)
    (ended : LeastFrom dataᶜ lo hi) :
    ¬ (runs data).encard ≤ 2 := by
  obtain ⟨first, isFirst, isRun, different, _⟩ := isSecond
  have third : (lo, hi) ∈ runs data :=
    .found (LeastFrom.separated outside found) found.1.2 ended
  have afterSecond : second.1 < lo :=
    lt_of_lt_of_le isRun.proper found.1.1
  have afterFirst : first.1 < lo :=
    lt_of_le_of_lt (isFirst.2 second isRun) afterSecond
  have three : ({first, second, (lo, hi)} : Set (α × α)).encard = 3 := by
    apply Set.encard_eq_three.mpr
    refine ⟨first, second, (lo, hi), different.symm, ?_, ?_, rfl⟩
    · rintro rfl
      exact lt_irrefl _ afterFirst
    · rintro rfl
      exact lt_irrefl _ afterSecond
  have contained : {first, second, (lo, hi)} ⊆ runs data := by
    rintro run (rfl | rfl | rfl)
    · exact isFirst.1
    · exact isRun
    · exact third
  intro atMostTwo
  have atLeastThree := Set.encard_le_encard contained
  rw [three] at atLeastThree
  exact absurd (le_trans atLeastThree atMostTwo) (by decide)

end MaximalRuns
