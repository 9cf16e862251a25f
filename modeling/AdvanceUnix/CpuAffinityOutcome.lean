import AdvanceUnix.CpuAffinity

namespace AdvanceUnix.CpuAffinity

open CallTree Audit

/-!
# The affinity is as before

The thread is bound to the first of its CPUs and then free again, unless the
kernel refuses to free it.  The program succeeds exactly if no call fails.
-/

variable {setsize : Nat} {world : World setsize}
  {audited : Audited (Kernel setsize)}

/-- What the program leaves behind. -/
structure Settled
    (world : World setsize)
    (result : Exit)
    (after : Audited (Kernel setsize)) : Prop where
  affinity :
    after.kernel.affinity = world.initial ∨
      after.kernel.refused = true ∧ result = .failure

/-- The thread may run at all. -/
abbrev World.Runs (world : World setsize) : Prop :=
  world.initial ≠ 0

/-- What `main` is to establish. -/
abbrev Establishes (world : World setsize) :
    Exit → Audited (Kernel setsize) → Prop :=
  Returned Exit.success world.Runs (Settled world)

/-- The cleanup section restores the affinity if it has been changed. -/
theorem cleanup_ensures
    {result : Exit}
    {changed : Option (CpuSet setsize)}
    (original : ∀ set, changed = some set → set = world.initial)
    (unchanged :
      changed = none →
      audited.kernel.affinity = world.initial) :
    (cleanup changed result).Ensures (audit world).monitor
      (Cleaned .failure result audited.failed (Settled world)) audited := by
  cases changed with
  | none =>
      exact .pure ⟨⟨.inl (unchanged rfl)⟩, .inl ⟨rfl, rfl⟩⟩
  | some set =>
      obtain rfl := original set rfl
      refine .releasing nofun fun _ => .request (.inl rfl) ?_
      intro answer _
      cases answer with
      | error error =>
          exact ⟨⟨.inr ⟨rfl, rfl⟩⟩, .inr ⟨rfl, Bool.or_true _⟩⟩
      | ok done =>
          exact ⟨⟨.inl world.within⟩, .inl ⟨rfl, Bool.or_false _⟩⟩

/-- Giving up while the thread is bound. -/
theorem giveUp_bound
    (reason : audited.failed = true ∨ ¬ world.Runs) :
    (cleanup (some world.initial) .failure).Ensures (audit world).monitor
      (Establishes world) audited :=
  Cleaned.givenUp
    (cleanup_ensures (fun _ same => (Option.some.inj same).symm) nofun) nofun
    reason

/-- Giving up while it is not. -/
theorem giveUp_free
    (free : audited.kernel.affinity = world.initial)
    (reason : audited.failed = true ∨ ¬ world.Runs) :
    (cleanup none .failure).Ensures (audit world).monitor (Establishes world)
      audited :=
  Cleaned.givenUp (cleanup_ensures nofun fun _ => free) nofun reason

/-- The container leaves the first CPU of the thread to it. -/
theorem single_within
    {cpu : Nat}
    (inside : cpu < setsize)
    (first : IsFirst world.initial cpu) :
    single setsize cpu &&& world.allowed = single setsize cpu := by
  refine BitVec.eq_of_getLsbD_eq fun other _ => ?_
  rw [BitVec.getLsbD_and, getLsbD_single inside]
  by_cases same : cpu = other
  · subst same
    have isAllowed := first.allowed
    rw [← world.within, BitVec.getLsbD_and, Bool.and_eq_true] at isAllowed
    rw [isAllowed.2, Bool.and_true]
  · rw [beq_false_of_ne same, Bool.false_and]

/-- `main` once the thread is bound to one CPU. -/
theorem bound_ensures
    {cpu : Nat}
    (inside : cpu < setsize)
    (runs : world.Runs) :
    (bound world.initial cpu).Ensures (audit world).monitor
      (Establishes world) { kernel := { affinity := single setsize cpu } } := by
  refine .request_bind trivial ?_
  rintro (error | observed) told
  · exact giveUp_bound (.inl rfl)
  obtain rfl : observed = single setsize cpu := told
  have expected :
      ¬ (cpuCount (single setsize cpu) ≠ 1 ∨
        (single setsize cpu).getLsbD cpu = false) := by
    rw [cpuCount_single inside, getLsbD_single inside, beq_self_eq_true]
    simp
  simp only [expected, ↓reduceIte]
  refine .request_bind (.inl rfl) ?_
  rintro (error | ⟨⟩) _
  · exact giveUp_bound (.inl rfl)
  refine .request_bind trivial ?_
  rintro (error | restored) told
  · exact giveUp_free world.within (.inl rfl)
  obtain rfl : restored = world.initial := told.trans world.within
  simp only [ne_eq, not_true_eq_false, ↓reduceIte]
  exact Cleaned.succeeded (cleanup_ensures nofun fun _ => world.within) nofun
    rfl runs

/-- What `main` establishes. -/
theorem main_ensures (world : World setsize) :
    (main setsize).Ensures (audit world).monitor (Establishes world)
      { kernel := world.kernel } := by
  refine .request_bind trivial ?_
  rintro (error | original) told
  · exact giveUp_free rfl (.inl rfl)
  obtain rfl : original = world.initial := told
  dsimp only
  by_cases empty : cpuCount world.initial = 0
  · simp only [empty, ↓reduceIte]
    exact giveUp_free rfl (.inr (not_not_intro (cpuCount_eq_zero.mp empty)))
  simp only [empty, ↓reduceIte]
  have runs : world.Runs := mt cpuCount_eq_zero.mpr empty
  cases selected : select world.initial with
  | none => exact (runs (select_eq_none selected)).elim
  | some cpu =>
      obtain ⟨inside, first⟩ := select_isFirst selected
      refine .request_bind (.inr ⟨cpu, first, rfl⟩) ?_
      rintro (error | ⟨⟩) _
      · exact giveUp_free rfl (.inl rfl)
      have binding :
          (audit world).monitor.next { kernel := world.kernel }
              (.schedSetaffinity (single setsize cpu)) (.ok ()) =
            { kernel := { affinity := single setsize cpu } } :=
        congrArg (fun set : CpuSet setsize =>
          ({ kernel := { affinity := set } } : Audited (Kernel setsize)))
          (single_within inside first)
      exact binding.symm ▸ bound_ensures inside runs

section Runs

variable {events : List (Event (@Answer setsize))}
  {outcome : Option Exit}

/--
Whatever CPUs the container has: the thread is only ever bound to the first
that it may use, it is free again or the kernel has refused that, and the
program succeeds exactly if no call fails and the thread may run at all.
-/
theorem affinity_verdict
    (run : (main setsize).Run events outcome)
    (legal : (audit world).Legal world.kernel events) :
    (audit world).Report world.kernel .success world.Runs (Settled world)
      events outcome :=
  .of_ensures (main_ensures world) run legal

/-- A thread that may use two of the three CPUs of its container. -/
def two : World 8 where
  allowed := 0b1110
  initial := 0b1100
  within := rfl

/-- Freeing the thread is refused at first. -/
def refusedOnce : List (Event (@Answer 8)) :=
  [⟨.schedGetaffinity, .ok 0b1100⟩, ⟨.schedSetaffinity 0b100, .ok ()⟩,
    ⟨.schedGetaffinity, .ok 0b100⟩,
    ⟨.schedSetaffinity 0b1100, .error .eintr⟩,
    ⟨.schedSetaffinity 0b1100, .ok ()⟩]

/-- It is a run of `main`. -/
theorem refusedOnce_run : (main 8).Run refusedOnce (some .failure) :=
  ⟨1, .call _ (.call _ (.call _ (.call _ (.call _ (.ret _)))))⟩

/-- The kernel may answer so. -/
theorem refusedOnce_legal : (audit two).Legal two.kernel refusedOnce := by
  have one : (0b100 : CpuSet 8) &&& 0b1110 ≠ 0 := by decide
  have both : (0b1100 : CpuSet 8) &&& 0b1110 ≠ 0 := by decide
  exact ⟨rfl, one, rfl, trivial, both, trivial⟩

/-- It succeeds in the cleanup section. -/
theorem affinity_verdict_refusedOnce :
    (audit two).Report two.kernel .success two.Runs (Settled two) refusedOnce
      (some .failure) :=
  affinity_verdict refusedOnce_run refusedOnce_legal

end Runs

end AdvanceUnix.CpuAffinity
