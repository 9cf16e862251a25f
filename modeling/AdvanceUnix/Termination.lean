import AdvanceUnix.CallIdioms
import Mathlib.Data.Nat.Find
import Mathlib.Data.Prod.Lex

namespace CallTree

/-!
# Programs that return

`Ensures` says what holds if a program returns.  Here the answers come from a
script, and a program returns if some bound on the unrolling of its loops is
enough.  The rules are those of `Ensures`, over the index that the script has
reached, and a loop needs a rank that every iteration lowers.  An iteration may
also be one in passing, which a call that is not answered so for ever only
admits some times in a row.
-/

variable {Call : Type} {Answer : Call → Type} {ε α β σ : Type}

/-- No call is answered in passing for ever. -/
def Script.Ceasing
    (passing : (request : Call) → Answer request → Prop)
    (script : Script Answer) : Prop :=
  ∀ request index, ∃ gap, ¬ passing request (script (index + gap) request)

section Ceasing

variable {script : Script Answer}
  {passing : (request : Call) → Answer request → Prop}

open Classical in
/-- How often a call would still be answered in passing, one after the other. -/
noncomputable def Script.Ceasing.left
    (ceasing : script.Ceasing passing)
    (request : Call)
    (index : Nat) : Nat :=
  Nat.find (ceasing request index)

/-- Each time it is leaves fewer of them. -/
theorem Script.Ceasing.left_lt
    {request : Call}
    {index : Nat}
    (ceasing : script.Ceasing passing)
    (inPassing : passing request (script index request)) :
    ceasing.left request (index + 1) < ceasing.left request index := by
  classical
  have spec : ¬ passing request (script (index + _) request) :=
    Nat.find_spec (ceasing request index)
  cases count : ceasing.left request index with
  | zero =>
      rw [← left, count] at spec
      exact (spec inPassing).elim
  | succ fewer =>
      rw [← left, count, Nat.add_comm fewer, ← Nat.add_assoc] at spec
      exact Nat.lt_succ_of_le
        (Nat.find_min' (ceasing request (index + 1)) spec)

end Ceasing

/-- A tree that has ended is continued where the script has got to. -/
theorem Tree.exec_bind
    {script : Script Answer}
    {tree : Tree Answer α}
    {continuation : α → Tree Answer β}
    {index : Nat}
    {events : List (Event Answer)}
    {value : α}
    (ended : tree.exec script index = (events, some value)) :
    (tree.bind continuation).exec script index =
      (events ++
          ((continuation value).exec script (index + events.length)).1,
        ((continuation value).exec script (index + events.length)).2) := by
  induction tree generalizing index events with
  | ret returned =>
      cases ended
      rfl
  | call request next inductionHypothesis =>
      obtain ⟨rfl, later⟩ := Prod.mk.injEq .. ▸ ended
      have continued := inductionHypothesis _ (Prod.ext rfl later)
      rw [Tree.bind, Tree.exec, continued]
      simp only [List.cons_append, List.length_cons, Nat.add_assoc,
        Nat.add_comm 1]
  | cut => cases ended

namespace Program

/--
Against a script a program returns: whatever bound is large enough, the run is
the same one, and its value and the index after it satisfy the postcondition.
-/
def Returns
    (script : Script Answer)
    (post : α → Nat → Prop)
    (program : Program Answer α)
    (index : Nat) : Prop :=
  ∃ events value,
    post value (index + events.length) ∧
      ∃ enough,
        ∀ fuel,
          enough ≤ fuel →
          (program fuel).exec script index = (events, some value)

/-- A program returns, against a script from its start. -/
def Halts (script : Script Answer) (program : Program Answer α) : Prop :=
  program.Returns script (fun _ _ => True) 0

namespace Returns

variable {script : Script Answer} {post : α → Nat → Prop} {index : Nat}

/-- A program that returns has a run that has ended. -/
theorem run
    {program : Program Answer α}
    (returns : program.Returns script post 0) :
    ∃ events value, program.Run events (some value) := by
  obtain ⟨events, value, _, enough, same⟩ := returns
  refine ⟨events, value, enough, ?_⟩
  have executed := Tree.exec_run script (program enough) 0
  rwa [same enough (Nat.le_refl enough)] at executed

/-- A weaker postcondition is met as well. -/
theorem mono
    {weak strong : α → Nat → Prop}
    {program : Program Answer α}
    (returns : program.Returns script strong index)
    (weaker : ∀ value after, strong value after → weak value after) :
    program.Returns script weak index := by
  obtain ⟨events, value, met, enough, same⟩ := returns
  exact ⟨events, value, weaker value _ met, enough, same⟩

/-- A program that returns at once. -/
theorem pure
    {value : α}
    (holds : post value index) :
    (Pure.pure value : Program Answer α).Returns script post index :=
  ⟨[], value, holds, 0, fun _ _ => rfl⟩

/-- One call gets the answer that the script has for it. -/
theorem request
    {call : Call}
    {post : Answer call → Nat → Prop}
    (answered : post (script index call) (index + 1)) :
    (Program.request call).Returns script post index :=
  ⟨[⟨call, script index call⟩], script index call, answered, 0,
    fun _ _ => rfl⟩

/-- The rule of sequencing. -/
theorem bind
    {post : β → Nat → Prop}
    {program : Program Answer α}
    {continuation : α → Program Answer β}
    (returns :
      program.Returns script
        (fun value => (continuation value).Returns script post) index) :
    (program >>= continuation).Returns script post index := by
  obtain ⟨first, value, ⟨rest, result, met, later, sameLater⟩,
    enough, same⟩ := returns
  refine ⟨first ++ rest, result, ?_, max enough later, fun fuel long => ?_⟩
  · rwa [List.length_append, ← Nat.add_assoc]
  · have ended := same fuel (Nat.le_trans (Nat.le_max_left ..) long)
    have continued := sameLater fuel (Nat.le_trans (Nat.le_max_right ..) long)
    exact (Tree.exec_bind ended).trans (by rw [continued])

/-- A call followed by a continuation. -/
theorem request_bind
    {post : β → Nat → Prop}
    {call : Call}
    {continuation : Answer call → Program Answer β}
    (answered :
      (continuation (script index call)).Returns script post (index + 1)) :
    (Program.request call >>= continuation).Returns script post index :=
  bind (request answered)

/--
The loop rule: every iteration returns, and one that asks for another keeps an
invariant and lowers a rank.
-/
theorem iterate
    {ρ : Type}
    [Preorder ρ]
    [WellFoundedLT ρ]
    {body : σ → Program Answer (LoopStep σ α)}
    (invariant : σ → Nat → Prop)
    (rank : σ → Nat → ρ)
    (lowered :
      ∀ current index,
        invariant current index →
        (body current).Returns script
          (LoopStep.Meets
            (fun next after =>
              invariant next after ∧ rank next after < rank current index)
            post)
          index)
    {current : σ}
    (initially : invariant current index) :
    (Program.iterate body current).Returns script post index := by
  -- The bound of the iterations and that of the loop are one in the program.
  suffices unrolled :
      ∃ events value,
        post value (index + events.length) ∧
          ∃ enough,
            ∀ bound fuel,
              enough ≤ bound →
              enough ≤ fuel →
              (Tree.iterate (fun state => body state bound) fuel
                  current).exec script index =
                (events, some value) by
    obtain ⟨events, value, met, enough, same⟩ := unrolled
    exact ⟨events, value, met, enough, fun fuel long =>
      same fuel fuel long long⟩
  induction reached : rank current index using WellFoundedLT.induction
    generalizing current index with
  | ind reached lower =>
      subst reached
      obtain ⟨first, decision, met, enough, same⟩ :=
        lowered current index initially
      cases decision with
      | done value =>
          refine ⟨first, value, met, enough + 1, fun bound fuel long more => ?_⟩
          obtain ⟨fuel, rfl⟩ := Nat.exists_eq_add_of_le' more
          have ended := same bound (by omega)
          rw [← Nat.add_assoc, Tree.iterate, Tree.exec_bind ended]
          simp [Tree.exec]
      | again next =>
          obtain ⟨rest, value, metLater, later, sameLater⟩ :=
            lower _ met.2 met.1 rfl
          refine ⟨first ++ rest, value, ?_, enough + later + 1,
            fun bound fuel long more => ?_⟩
          · rwa [List.length_append, ← Nat.add_assoc]
          obtain ⟨fuel, rfl⟩ := Nat.exists_eq_add_of_le' more
          have ended := same bound (by omega)
          have continued :=
            sameLater bound (fuel + (enough + later)) (by omega) (by omega)
          rw [← Nat.add_assoc, Tree.iterate, Tree.exec_bind ended]
          simp only [continued]

/--
The loop rule where an iteration that asks for another may have been one in
passing: its one call was answered so, and is the next one as well.
-/
theorem iterate_ceasing
    {ρ : Type}
    [Preorder ρ]
    [WellFoundedLT ρ]
    {passing : (request : Call) → Answer request → Prop}
    {body : σ → Program Answer (LoopStep σ α)}
    (ceasing : script.Ceasing passing)
    (call : σ → Call)
    (rank : σ → ρ)
    (lowered :
      ∀ current index,
        (body current).Returns script
          (LoopStep.Meets
            (fun next after =>
              rank next < rank current ∨
                (rank next = rank current ∧ call next = call current ∧
                    after = index + 1) ∧
                  passing (call current) (script index (call current)))
            post)
          index)
    (current : σ) :
    (Program.iterate body current).Returns script post index := by
  refine iterate (fun _ _ => True)
    (fun current index =>
      toLex (rank current, ceasing.left (call current) index)) ?_ trivial
  intro current index _
  refine (lowered current index).mono ?_
  rintro (next | value) after met
  · refine ⟨trivial, Prod.Lex.toLex_lt_toLex.mpr ?_⟩
    rcases met with lower | ⟨⟨sameRank, sameCall, rfl⟩, inPassing⟩
    · exact .inl lower
    · refine .inr ⟨sameRank, ?_⟩
      rw [sameCall]
      exact ceasing.left_lt inPassing
  · exact met

/--
An attempt of one call is repeated only until it is not answered in passing.
-/
theorem retry
    {passing : ε → Prop}
    [DecidablePred passing]
    {attempt : Program Answer (Except ε α)}
    {post : Except ε α → Nat → Prop}
    {answers : Nat → Except ε α}
    (single :
      ∀ current,
        attempt.Returns script
          (fun answer after => answer = answers current ∧ after = current + 1)
          current)
    (ceases :
      ∃ gap, ∀ error, answers (index + gap) = .error error → ¬ passing error)
    (answered :
      ∀ current,
        index ≤ current →
        (∀ error, answers current = .error error → ¬ passing error) →
        post (answers current) (current + 1)) :
    (Program.retry passing attempt).Returns script post index := by
  obtain ⟨gap, stops⟩ := ceases
  refine iterate (fun _ current => index ≤ current ∧ current ≤ index + gap)
    (fun _ current => index + gap - current) ?_ ⟨Nat.le_refl _, by omega⟩
  rintro _ current ⟨started, notYet⟩
  refine bind ((single current).mono ?_)
  rintro answer after ⟨rfl, rfl⟩
  cases given : answers current with
  | error error =>
      by_cases passes : passing error
      · have earlier : current ≠ index + gap := by
          rintro rfl
          exact stops error given passes
        simp only [passes, ↓reduceIte]
        exact pure ⟨⟨by omega, by omega⟩, by omega⟩
      · simp only [passes, ↓reduceIte]
        have final := answered current started (by simp [given, passes])
        rw [given] at final
        exact pure final
  | ok value =>
      have final := answered current started (by simp [given])
      rw [given] at final
      exact pure final

end Returns

end Program

end CallTree
