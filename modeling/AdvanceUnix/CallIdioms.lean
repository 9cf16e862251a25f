import AdvanceUnix.CallTree

namespace CallTree

/-!
# Idioms of programs over calls

An attempt that is repeated while it fails in passing, a release that may
spoil a result, and programs of one vocabulary of calls within a larger one.
Each idiom comes with its rule.
-/

variable {Call : Type} {Answer : Call → Type} {State ε α β : Type}

namespace Program

/-- Repeat an attempt for as long as it fails with a passing error. -/
def retry
    (passing : ε → Prop)
    [DecidablePred passing]
    (attempt : Program Answer (Except ε α)) :
    Program Answer (Except ε α) :=
  Program.iterate (fun (_ : Unit) => do
    match ← attempt with
    | .error error =>
        if passing error then
          return .again ()
        else
          return .done (.error error)
    | .ok value => return .done (.ok value)) ()

/-- What a release makes of a result. -/
def released (spoiled result : β) : Except ε Unit → β
  | .error _ => spoiled
  | .ok _ => result

/-- Release what is held: a failure spoils the result. -/
def releasing
    (held : Bool)
    (attempt : Program Answer (Except ε Unit))
    (spoiled result : β) : Program Answer β := do
  if held then
    let answer ← attempt
    return released spoiled result answer
  else
    return result

/-- Release what may be there. -/
def releasingSome
    {ρ : Type}
    (resource : Option ρ)
    (attempt : ρ → Program Answer (Except ε Unit))
    (spoiled result : β) : Program Answer β :=
  match resource with
  | none => return result
  | some item => releasing true (attempt item) spoiled result

end Program

/--
A result is kept, or it is spoiled and the failure that did so is on record.
-/
def Spoils (spoiled result final : β) (before after : Bool) : Prop :=
  final = result ∧ after = before ∨ final = spoiled ∧ after = true

/-- One release after another. -/
theorem Spoils.trans
    {spoiled result middle final : β}
    {before between after : Bool}
    (first : Spoils spoiled result middle before between)
    (second : Spoils spoiled middle final between after) :
    Spoils spoiled result final before after := by
  rcases second with ⟨rfl, rfl⟩ | ⟨rfl, rfl⟩
  · exact first
  · exact .inr ⟨rfl, rfl⟩

/-- A failure stays on record. -/
theorem Spoils.keeps
    {spoiled result final : β}
    {before after : Bool}
    (spoils : Spoils spoiled result final before after)
    (failed : before = true) :
    after = true := by
  rcases spoils with ⟨_, same⟩ | ⟨_, recorded⟩
  · exact same.trans failed
  · exact recorded

section Rules

variable {monitor : Monitor Answer State}

/-- What is to hold after an attempt: in passing, for good, or with a value. -/
def Attempted
    (passing : ε → Prop)
    (invariant : State → Prop)
    (post : Except ε α → State → Prop)
    (result : Except ε α)
    (after : State) : Prop :=
  match result with
  | .error error =>
      (passing error → invariant after) ∧
        (¬ passing error → post (.error error) after)
  | .ok value => post (.ok value) after

/--
The rule for a repeated attempt: what fails in passing keeps an invariant, and
everything else establishes the postcondition.
-/
theorem Program.Ensures.retry
    {passing : ε → Prop}
    [DecidablePred passing]
    {post : Except ε α → State → Prop}
    {attempt : Program Answer (Except ε α)}
    (invariant : State → Prop)
    (attempted :
      ∀ state,
        invariant state →
        attempt.Ensures monitor (Attempted passing invariant post) state)
    {state : State}
    (initially : invariant state) :
    (Program.retry passing attempt).Ensures monitor post state := by
  refine .iterate (fun _ => invariant) ?_ initially
  intro _ current holds
  refine .bind ((attempted current holds).mono ?_)
  intro result after decided
  cases result with
  | error error =>
      by_cases passes : passing error
      · simp only [passes, ↓reduceIte]
        exact .pure (decided.1 passes)
      · simp only [passes, ↓reduceIte]
        exact .pure (decided.2 passes)
  | ok value => exact .pure decided

/-- The rule for a release. -/
theorem Program.Ensures.releasing
    {post : β → State → Prop}
    {held : Bool}
    {attempt : Program Answer (Except ε Unit)}
    {spoiled result : β}
    {state : State}
    (skipped : held = false → post result state)
    (attempted :
      held = true →
      attempt.Ensures monitor
        (fun answer => post (Program.released spoiled result answer))
        state) :
    (Program.releasing held attempt spoiled result).Ensures monitor post
      state := by
  cases held with
  | false => exact .pure (skipped rfl)
  | true =>
      exact .bind ((attempted rfl).mono fun _ _ met => .pure met)

end Rules

/-- What a monitor counts is how many events are of that kind. -/
theorem Monitor.counted
    (monitor : Monitor Answer State)
    (count : State → Nat)
    (counts : Event Answer → Bool)
    (added :
      ∀ {state request answer},
        count (monitor.next state request answer) =
          count state + if counts ⟨request, answer⟩ then 1 else 0)
    (state : State)
    (events : List (Event Answer)) :
    count (monitor.after state events) =
      count state + events.countP counts := by
  induction events generalizing state with
  | nil => rfl
  | cons event rest inductionHypothesis =>
      rw [Monitor.after, inductionHypothesis, added, List.countP_cons,
        Nat.add_assoc, Nat.add_comm (List.countP _ _)]

/-- Some event is of that kind. -/
def Occurs
    (kind : Event Answer → Bool)
    (events : List (Event Answer)) : Prop :=
  ∃ event ∈ events, kind event = true

/-- A flag that such events raise tells whether one has occurred. -/
theorem Monitor.flagged
    (monitor : Monitor Answer State)
    (flag : State → Bool)
    (kind : Event Answer → Bool)
    (added :
      ∀ {state request answer},
        flag (monitor.next state request answer) =
          (flag state || kind ⟨request, answer⟩))
    (state : State)
    (events : List (Event Answer)) :
    flag (monitor.after state events) = true ↔
      flag state = true ∨ Occurs kind events := by
  induction events generalizing state with
  | nil => simp [Monitor.after, Occurs]
  | cons event rest inductionHypothesis =>
      rw [Monitor.after, inductionHypothesis, added, Bool.or_eq_true,
        or_assoc]
      simp [Occurs]

/--
Simulation of monitors: where a coarse monitor permits a call, a finer one
does so too and only allows answers after which the two are still related.
-/
theorem Tree.Ensures.simulate
    {Coarse Fine : Type}
    {coarse : Monitor Answer Coarse}
    {fine : Monitor Answer Fine}
    {post : α → Coarse → Prop}
    (related : Coarse → Fine → Prop)
    (simulates :
      ∀ {state image request},
        related state image →
        coarse.safe state request →
        fine.safe image request ∧
          ∀ answer,
            fine.allows image request answer →
            coarse.allows state request answer ∧
              related (coarse.next state request answer)
                (fine.next image request answer))
    {tree : Tree Answer α}
    {state : Coarse}
    {image : Fine}
    (ensures : tree.Ensures coarse post state)
    (start : related state image) :
    tree.Ensures fine
      (fun value after => ∃ origin, related origin after ∧ post value origin)
      image := by
  induction tree generalizing state image with
  | ret value => exact ⟨state, start, ensures⟩
  | call request next inductionHypothesis =>
      obtain ⟨safe, answers⟩ := simulates start ensures.1
      refine ⟨safe, fun answer allowed => ?_⟩
      obtain ⟨allowedToo, still⟩ := answers answer allowed
      exact inductionHypothesis answer (ensures.2 answer allowedToo) still
  | cut => trivial

/-- Simulation of monitors, for a program. -/
theorem Program.Ensures.simulate
    {Coarse Fine : Type}
    {coarse : Monitor Answer Coarse}
    {fine : Monitor Answer Fine}
    {post : α → Coarse → Prop}
    (related : Coarse → Fine → Prop)
    (simulates :
      ∀ {state image request},
        related state image →
        coarse.safe state request →
        fine.safe image request ∧
          ∀ answer,
            fine.allows image request answer →
            coarse.allows state request answer ∧
              related (coarse.next state request answer)
                (fine.next image request answer))
    {program : Program Answer α}
    {state : Coarse}
    {image : Fine}
    (ensures : program.Ensures coarse post state)
    (start : related state image) :
    program.Ensures fine
      (fun value after => ∃ origin, related origin after ∧ post value origin)
      image :=
  fun fuel => (ensures fuel).simulate related simulates start

section Vocabularies

variable {More : Type} {Extra : More → Type}

/-- The answers of a vocabulary that is extended by more calls. -/
@[reducible] def Extended
    (Answer : Call → Type)
    (Extra : More → Type) : Call ⊕ More → Type
  | .inl call => Answer call
  | .inr more => Extra more

/-- A tree of the smaller vocabulary within the extended one. -/
def Tree.extended
    (Extra : More → Type) :
    Tree Answer α → Tree (Extended Answer Extra) α
  | .ret value => .ret value
  | .call request next =>
      .call (.inl request) fun answer => (next answer).extended Extra
  | .cut => .cut

/-- A monitor of the smaller vocabulary permits no other calls. -/
def Monitor.extended
    (Extra : More → Type)
    (monitor : Monitor Answer State) :
    Monitor (Extended Answer Extra) State where
  next := fun state request =>
    match request with
    | .inl call => monitor.next state call
    | .inr _ => fun _ => state
  allows := fun state request =>
    match request with
    | .inl call => monitor.allows state call
    | .inr _ => fun _ => True
  safe := fun state request =>
    match request with
    | .inl call => monitor.safe state call
    | .inr _ => False

/--
What is ensured in the smaller vocabulary is so in the extended one, for a
monitor of it that treats these calls in the same way.
-/
theorem Tree.Ensures.within
    {small : Monitor Answer State}
    {large : Monitor (Extended Answer Extra) State}
    (next :
      ∀ {state call answer},
        large.next state (.inl call) answer = small.next state call answer)
    (allows :
      ∀ {state call answer},
        large.allows state (.inl call) answer →
        small.allows state call answer)
    (safe :
      ∀ {state call}, small.safe state call → large.safe state (.inl call))
    {post : α → State → Prop}
    {tree : Tree Answer α}
    {state : State}
    (ensures : tree.Ensures small post state) :
    (tree.extended Extra).Ensures large post state := by
  induction tree generalizing state with
  | ret value => exact ensures
  | call request continuation inductionHypothesis =>
      refine ⟨safe ensures.1, fun answer allowed => ?_⟩
      have continued :=
        inductionHypothesis answer (ensures.2 answer (allows allowed))
      rwa [← next] at continued
  | cut => trivial

/-- The extended monitor is one. -/
theorem Tree.Ensures.extended
    {monitor : Monitor Answer State}
    {post : α → State → Prop}
    {tree : Tree Answer α}
    {state : State}
    (ensures : tree.Ensures monitor post state) :
    (tree.extended Extra).Ensures (monitor.extended Extra) post state :=
  ensures.within rfl id id

/-- A program of the smaller vocabulary within the extended one. -/
def Program.extended
    (Extra : More → Type)
    (program : Program Answer α) : Program (Extended Answer Extra) α :=
  fun fuel => (program fuel).extended Extra

/-- What it ensures among its own calls it ensures there as well. -/
theorem Program.Ensures.within
    {small : Monitor Answer State}
    {large : Monitor (Extended Answer Extra) State}
    (next :
      ∀ {state call answer},
        large.next state (.inl call) answer = small.next state call answer)
    (allows :
      ∀ {state call answer},
        large.allows state (.inl call) answer →
        small.allows state call answer)
    (safe :
      ∀ {state call}, small.safe state call → large.safe state (.inl call))
    {post : α → State → Prop}
    {program : Program Answer α}
    {state : State}
    (ensures : program.Ensures small post state) :
    (program.extended Extra).Ensures large post state :=
  fun fuel => (ensures fuel).within next allows safe

end Vocabularies

end CallTree
