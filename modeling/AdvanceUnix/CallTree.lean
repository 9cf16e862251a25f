namespace CallTree

/-!
# Programs as trees of calls

A sequential program that talks to its environment through calls is a tree:
a node is one call and its children are indexed by the answers.  Loops are
unrolled up to a bound that the program is a function of, so the runs of a
program are the runs of all its unrollings and an unbounded retry loop needs
no separate treatment.

A monitor follows a run with a state of its own.  It says which answers the
environment may give and which calls the program may make, and `Ensures` is
the weakest precondition of a program with respect to a monitor.
-/

variable {Call : Type} {Answer : Call → Type} {State α β σ : Type}

/-- One call together with the answer it received. -/
structure Event (Answer : Call → Type) where
  call : Call
  answer : Answer call

/--
A finite tree of calls.  `cut` ends an unrolling: the run goes on from there,
but this tree does not follow it.
-/
inductive Tree (Answer : Call → Type) (α : Type) where
  | ret (value : α)
  | call (request : Call) (next : Answer request → Tree Answer α)
  | cut

namespace Tree

/-- Continue a tree at its results. -/
def bind
    (tree : Tree Answer α)
    (continuation : α → Tree Answer β) : Tree Answer β :=
  match tree with
  | .ret value => continuation value
  | .call request next =>
      .call request fun answer => (next answer).bind continuation
  | .cut => .cut

/--
The runs of a tree: the calls answered so far, and the result if the run has
ended.
-/
inductive Run : Tree Answer α → List (Event Answer) → Option α → Prop where
  | ret (value : α) :
      Run (.ret value) [] (some value)
  | stop (tree : Tree Answer α) :
      Run tree [] none
  | call
      {request : Call}
      {next : Answer request → Tree Answer α}
      {events : List (Event Answer)}
      {outcome : Option α}
      (answer : Answer request)
      (later : Run (next answer) events outcome) :
      Run (.call request next) (⟨request, answer⟩ :: events) outcome

end Tree

/-- The answers of an environment: the `n`-th call of a run gets `script n`. -/
abbrev Script (Answer : Call → Type) :=
  Nat → (request : Call) → Answer request

namespace Tree

/-- The run of a tree against a script, counting calls from `index`. -/
def exec
    (script : Script Answer) :
    Nat → Tree Answer α → List (Event Answer) × Option α
  | _, .ret value => ([], some value)
  | _, .cut => ([], none)
  | index, .call request next =>
      let later :=
        exec script (index + 1) (next (script index request))
      (⟨request, script index request⟩ :: later.1, later.2)

/-- Executing a tree produces one of its runs. -/
theorem exec_run
    (script : Script Answer)
    (tree : Tree Answer α)
    (index : Nat) :
    tree.Run (tree.exec script index).1 (tree.exec script index).2 := by
  induction tree generalizing index with
  | ret value =>
      exact .ret value
  | call request next inductionHypothesis =>
      exact .call _ (inductionHypothesis _ (index + 1))
  | cut =>
      exact .stop _

/-- A run that has ended may also be looked at as one that has not yet. -/
theorem Run.unended
    {tree : Tree Answer α}
    {events : List (Event Answer)}
    {outcome : Option α}
    (run : tree.Run events outcome) :
    tree.Run events none := by
  induction run with
  | ret value => exact .stop _
  | stop tree => exact .stop tree
  | call answer _ inductionHypothesis =>
      exact .call answer inductionHypothesis

/-- A completed run of the first part and a run of the second. -/
theorem Run.bind
    {tree : Tree Answer α}
    {continuation : α → Tree Answer β}
    {first rest : List (Event Answer)}
    {value : α}
    {outcome : Option β}
    (run : tree.Run first (some value))
    (continued : (continuation value).Run rest outcome) :
    (tree.bind continuation).Run (first ++ rest) outcome := by
  generalize ended : some value = result at run
  induction run with
  | ret returned =>
      obtain rfl := Option.some.inj ended
      exact continued
  | stop tree => cases ended
  | call answer _ inductionHypothesis =>
      exact .call answer (inductionHypothesis ended)

/-- A run of a sequence is one of its first part, completed or cut short. -/
theorem Run.of_bind
    {tree : Tree Answer α}
    {continuation : α → Tree Answer β}
    {events : List (Event Answer)}
    {outcome : Option β}
    (run : (tree.bind continuation).Run events outcome) :
    (outcome = none ∧ tree.Run events none) ∨
      ∃ first rest value,
        events = first ++ rest ∧
          tree.Run first (some value) ∧
          (continuation value).Run rest outcome := by
  induction tree generalizing events outcome with
  | ret value =>
      exact .inr ⟨[], events, value, rfl, .ret value, run⟩
  | call request next inductionHypothesis =>
      cases run with
      | stop => exact .inl ⟨rfl, .stop _⟩
      | call answer later =>
          rcases inductionHypothesis answer later with
            ⟨cutShort, first⟩ | ⟨first, rest, value, rfl, run, continued⟩
          · exact .inl ⟨cutShort, .call answer first⟩
          · exact .inr
              ⟨_ :: first, rest, value, rfl, .call answer run, continued⟩
  | cut =>
      cases run with
      | stop => exact .inl ⟨rfl, .stop _⟩

end Tree

/-- What one iteration of a loop decides. -/
inductive LoopStep (σ α : Type) where
  | again (state : σ)
  | done (value : α)
  deriving DecidableEq

/-- What is to hold after an iteration: the invariant or the outcome. -/
def LoopStep.Meets
    (invariant : σ → State → Prop)
    (post : α → State → Prop) : LoopStep σ α → State → Prop
  | .again next => invariant next
  | .done value => post value

/-- Two loops decide the same: both go on, or both end. -/
def LoopStep.Related
    {τ : Type}
    (related : σ → τ → Prop)
    (valued : α → β → Prop) : LoopStep σ α → LoopStep τ β → Prop
  | .again next, .again image => related next image
  | .done value, .done result => valued value result
  | _, _ => False

/-- Unroll a loop at most `fuel` times. -/
def Tree.iterate
    (body : σ → Tree Answer (LoopStep σ α)) :
    Nat → σ → Tree Answer α
  | 0, _ => .cut
  | fuel + 1, state =>
      (body state).bind fun
        | .again next => Tree.iterate body fuel next
        | .done value => .ret value

/-- A loop goes on after an iteration that asks for another one. -/
theorem Tree.Run.again
    (body : σ → Tree Answer (LoopStep σ α))
    {fuel : Nat}
    {state next : σ}
    {first rest : List (Event Answer)}
    {outcome : Option α}
    (iteration : (body state).Run first (some (.again next)))
    (later : (Tree.iterate body fuel next).Run rest outcome) :
    (Tree.iterate body (fuel + 1) state).Run (first ++ rest) outcome :=
  iteration.bind later

/-- A loop ends with an iteration that is done. -/
theorem Tree.Run.done
    (body : σ → Tree Answer (LoopStep σ α))
    {fuel : Nat}
    {state : σ}
    {events : List (Event Answer)}
    {value : α}
    (iteration : (body state).Run events (some (.done value))) :
    (Tree.iterate body (fuel + 1) state).Run events (some value) := by
  rw [← List.append_nil events]
  exact iteration.bind (.ret value)

/--
Loops are related when their bodies are: a completed run of the one gives one
of the other, with the events seen as those of the other.
-/
theorem Tree.Run.iterate_related
    {Other τ : Type}
    {OtherAnswer : Other → Type}
    {body : σ → Tree Answer (LoopStep σ α)}
    {other : τ → Tree OtherAnswer (LoopStep τ β)}
    (seen : Event Answer → Event OtherAnswer)
    (related : σ → τ → Prop)
    (valued : α → β → Prop)
    (corresponds :
      ∀ {current image events decision},
        related current image →
        (body current).Run events (some decision) →
        ∃ decided,
          (other image).Run (events.map seen) (some decided) ∧
            LoopStep.Related related valued decision decided)
    {fuel : Nat}
    {current : σ}
    {image : τ}
    {events : List (Event Answer)}
    {value : α}
    (start : related current image)
    (run : (Tree.iterate body fuel current).Run events (some value)) :
    ∃ result,
      (Tree.iterate other fuel image).Run (events.map seen)
          (some result) ∧
        valued value result := by
  induction fuel generalizing current image events with
  | zero =>
      cases run
  | succ fuel inductionHypothesis =>
      rcases Tree.Run.of_bind run with
        ⟨ended, _⟩ | ⟨first, rest, decision, rfl, iteration, continued⟩
      · cases ended
      obtain ⟨decided, imageRun, both⟩ := corresponds start iteration
      rw [List.map_append]
      cases decision with
      | again next =>
          cases decided with
          | done result => exact both.elim
          | again imageNext =>
              obtain ⟨result, later, met⟩ :=
                inductionHypothesis both continued
              exact ⟨result, .again other imageRun later, met⟩
      | done returned =>
          cases decided with
          | again imageNext => exact both.elim
          | done result =>
              cases continued with
              | ret =>
                  rw [List.map_nil, List.append_nil]
                  exact ⟨result, .done other imageRun, both⟩

/-- A program: its tree for every bound on the unrolling of its loops. -/
def Program (Answer : Call → Type) (α : Type) :=
  Nat → Tree Answer α

namespace Program

instance : Monad (Program Answer) where
  pure value := fun _ => .ret value
  bind program continuation :=
    fun fuel => (program fuel).bind fun value => continuation value fuel

/-- Make one call and return its answer. -/
def request (call : Call) : Program Answer (Answer call) :=
  fun _ => .call call .ret

/-- Repeat a body from a state until it is done. -/
def iterate
    (body : σ → Program Answer (LoopStep σ α))
    (state : σ) : Program Answer α :=
  fun fuel => Tree.iterate (fun current => body current fuel) fuel state

/-- The runs of a program are those of all its unrollings. -/
def Run
    (program : Program Answer α)
    (events : List (Event Answer))
    (outcome : Option α) : Prop :=
  ∃ fuel, (program fuel).Run events outcome

/-- The run of one unrolling against a script. -/
def exec
    (script : Script Answer)
    (fuel : Nat)
    (program : Program Answer α) : List (Event Answer) × Option α :=
  (program fuel).exec script 0

/-- Executing a program produces one of its runs. -/
theorem exec_run
    (script : Script Answer)
    (fuel : Nat)
    (program : Program Answer α) :
    program.Run (program.exec script fuel).1
      (program.exec script fuel).2 :=
  ⟨fuel, Tree.exec_run script _ 0⟩

end Program

/-- An observer of runs with assumptions on answers and duties on calls. -/
structure Monitor (Answer : Call → Type) (State : Type) where
  next : State → (request : Call) → Answer request → State
  allows : State → (request : Call) → Answer request → Prop
  safe : State → Call → Prop

namespace Monitor

variable (monitor : Monitor Answer State)

/-- The monitor's state after a list of events. -/
def after : State → List (Event Answer) → State
  | state, [] => state
  | state, event :: rest =>
      after (monitor.next state event.call event.answer) rest

/-- Every answer was one that the monitor allows where it was given. -/
def Legal : State → List (Event Answer) → Prop
  | _, [] => True
  | state, event :: rest =>
      monitor.allows state event.call event.answer ∧
        Legal (monitor.next state event.call event.answer) rest

/-- Every call was one that the monitor permits where it was made. -/
def Safe : State → List (Event Answer) → Prop
  | _, [] => True
  | state, event :: rest =>
      monitor.safe state event.call ∧
        Safe (monitor.next state event.call event.answer) rest

/-- Following a concatenation is following its parts in turn. -/
theorem after_append
    (state : State)
    (first second : List (Event Answer)) :
    monitor.after state (first ++ second) =
      monitor.after (monitor.after state first) second := by
  induction first generalizing state with
  | nil =>
      rfl
  | cons event rest inductionHypothesis =>
      exact inductionHypothesis _

/-- A concatenation is legal if its parts are, one after the other. -/
theorem legal_append
    {state : State}
    {first second : List (Event Answer)} :
    monitor.Legal state (first ++ second) ↔
      monitor.Legal state first ∧
        monitor.Legal (monitor.after state first) second := by
  induction first generalizing state with
  | nil =>
      exact (iff_of_eq (true_and _)).symm
  | cons event rest inductionHypothesis =>
      rw [List.cons_append, Legal, inductionHypothesis, Legal, after,
        and_assoc]

/-- A concatenation is safe if its parts are, one after the other. -/
theorem safe_append
    {state : State}
    {first second : List (Event Answer)} :
    monitor.Safe state (first ++ second) ↔
      monitor.Safe state first ∧
        monitor.Safe (monitor.after state first) second := by
  induction first generalizing state with
  | nil =>
      exact (iff_of_eq (true_and _)).symm
  | cons event rest inductionHypothesis =>
      rw [List.cons_append, Safe, inductionHypothesis, Safe, after,
        and_assoc]

/-- A monitor that only watches: it assumes nothing and forbids nothing. -/
def observe
    (next : State → (request : Call) → Answer request → State) :
    Monitor Answer State where
  next := next
  allows := fun _ _ _ => True
  safe := fun _ _ => True

/-- In a safe list of events every call is safe where it is made. -/
theorem safe_at
    {state : State}
    {before later : List (Event Answer)}
    {event : Event Answer}
    (safe : monitor.Safe state (before ++ event :: later)) :
    monitor.safe (monitor.after state before) event.call := by
  induction before generalizing state with
  | nil =>
      exact safe.1
  | cons first rest inductionHypothesis =>
      exact inductionHypothesis safe.2

/-- An event of a safe list was safe where it was made. -/
theorem safe_of_mem
    {state : State}
    {events : List (Event Answer)}
    {event : Event Answer}
    (safe : monitor.Safe state events)
    (member : event ∈ events) :
    ∃ before later,
      events = before ++ event :: later ∧
        monitor.safe (monitor.after state before) event.call := by
  obtain ⟨before, later, rfl⟩ := List.append_of_mem member
  exact ⟨before, later, rfl, monitor.safe_at safe⟩

/-- What has become true of the state has been caused by some event. -/
theorem raised
    (flag : State → Prop)
    (cause : Event Answer → Prop)
    (caused :
      ∀ {state request answer},
        flag (monitor.next state request answer) →
        flag state ∨ cause ⟨request, answer⟩)
    {state : State}
    {events : List (Event Answer)}
    (up : flag (monitor.after state events)) :
    flag state ∨ ∃ event ∈ events, cause event := by
  induction events generalizing state with
  | nil =>
      exact .inl up
  | cons event rest inductionHypothesis =>
      rcases inductionHypothesis up with here | ⟨later, member, causes⟩
      · exact (caused here).imp_right fun causes =>
          ⟨event, List.mem_cons_self, causes⟩
      · exact .inr ⟨later, List.mem_cons_of_mem event member, causes⟩

/-- A flag that no event raises stays down. -/
theorem unraised
    (flag : State → Bool)
    (raises : Event Answer → Bool)
    (added :
      ∀ {state request answer},
        flag (monitor.next state request answer) =
          (flag state || raises ⟨request, answer⟩))
    {state : State}
    {events : List (Event Answer)}
    (down : flag state = false)
    (nothing : ∀ event ∈ events, raises event = false) :
    flag (monitor.after state events) = false := by
  rw [Bool.eq_false_iff]
  intro up
  rcases monitor.raised (flag · = true) (raises · = true)
    (fun after => (Bool.or_eq_true _ _).mp (added ▸ after)) up with
    already | ⟨event, member, raised⟩
  · rw [down] at already
    cases already
  · rw [nothing event member] at raised
    cases raised

/-- What every safe call keeps a safe list of events keeps. -/
theorem keeps
    (holds : State → Prop)
    (kept :
      ∀ {state request answer},
        holds state →
        monitor.safe state request →
        holds (monitor.next state request answer))
    {state : State}
    {events : List (Event Answer)}
    (initially : holds state)
    (safe : monitor.Safe state events) :
    holds (monitor.after state events) := by
  induction events generalizing state with
  | nil =>
      exact initially
  | cons event rest inductionHypothesis =>
      exact inductionHypothesis (kept initially safe.1) safe.2

/-- What is known stays so if no safe call can tell something else. -/
theorem learned
    (known : State → Option α)
    (tells : Event Answer → Option α)
    (told :
      ∀ {state request answer},
        known (monitor.next state request answer) =
          (tells ⟨request, answer⟩).or (known state))
    (once :
      ∀ {state request answer value},
        monitor.safe state request →
        tells ⟨request, answer⟩ = some value →
        known state = none)
    {state : State}
    {events : List (Event Answer)}
    {value : α}
    (initially : known state = some value)
    (safe : monitor.Safe state events) :
    known (monitor.after state events) = some value := by
  refine monitor.keeps (known · = some value) ?_ initially safe
  intro current request answer isKnown permitted
  rw [told]
  cases telling : tells ⟨request, answer⟩ with
  | none => exact isKnown
  | some other =>
      have unknown := once permitted telling
      rw [isKnown] at unknown
      cases unknown

/-- What every event adds to a list in the state is in it afterwards. -/
theorem collected
    (list : State → List α)
    (items : Event Answer → List α)
    (added :
      ∀ {state request answer},
        list (monitor.next state request answer) =
          list state ++ items ⟨request, answer⟩)
    (state : State)
    (events : List (Event Answer)) :
    list (monitor.after state events) =
      list state ++ events.flatMap items := by
  induction events generalizing state with
  | nil =>
      exact (List.append_nil _).symm
  | cons event rest inductionHypothesis =>
      rw [after, inductionHypothesis, added, List.append_assoc,
        List.flatMap_cons]

/-- A monitor that permits some calls only. -/
def limit (made : Call → Prop) : Monitor Answer Unit where
  next := fun _ _ _ => ()
  allows := fun _ _ _ => True
  safe := fun _ => made

/-- Where the state does not matter, legality is checked event by event. -/
theorem legal_of_forall
    (allowed : (request : Call) → Answer request → Prop)
    (stateless :
      ∀ state request answer,
        allowed request answer → monitor.allows state request answer)
    (state : State)
    {events : List (Event Answer)}
    (each : ∀ event ∈ events, allowed event.call event.answer) :
    monitor.Legal state events := by
  induction events generalizing state with
  | nil =>
      trivial
  | cons event rest inductionHypothesis =>
      have here := each event List.mem_cons_self
      exact ⟨stateless state event.call event.answer here,
        inductionHypothesis _ fun later member =>
          each later (List.mem_cons_of_mem event member)⟩

/-- A list of events is legal if each answer is allowed where it is given. -/
theorem legal_of_at
    {state : State}
    {events : List (Event Answer)}
    (each :
      ∀ before event later,
        events = before ++ event :: later →
        monitor.allows (monitor.after state before) event.call
          event.answer) :
    monitor.Legal state events := by
  induction events generalizing state with
  | nil =>
      trivial
  | cons first rest inductionHypothesis =>
      refine ⟨each [] first rest rfl, inductionHypothesis ?_⟩
      intro before event later split
      exact each (first :: before) event later (by rw [split]; rfl)

/-- Every list of events is legal for a monitor that only watches. -/
theorem observe_legal
    (next : State → (request : Call) → Answer request → State)
    (state : State)
    (events : List (Event Answer)) :
    (observe next).Legal state events :=
  (observe next).legal_of_forall (fun _ _ => True)
    (fun _ _ _ _ => trivial) state (fun _ _ => trivial)

/-- A monitor that remembers the events, with duties on the calls. -/
def record
    (duty : List (Event Answer) → Call → Prop) :
    Monitor Answer (List (Event Answer)) where
  next := fun done request answer => done ++ [⟨request, answer⟩]
  allows := fun _ _ _ => True
  safe := duty

/-- It remembers exactly the events of the run. -/
theorem record_after
    (duty : List (Event Answer) → Call → Prop)
    (done events : List (Event Answer)) :
    (record duty).after done events = done ++ events := by
  induction events generalizing done with
  | nil =>
      exact (List.append_nil done).symm
  | cons event rest inductionHypothesis =>
      rw [after, inductionHypothesis]
      exact List.append_assoc done [event] rest

end Monitor

variable {monitor : Monitor Answer State}

/--
Every run of the tree from the given monitor state makes only safe calls as
long as the answers are allowed, and ends with the postcondition.
-/
def Tree.Ensures
    (monitor : Monitor Answer State)
    (post : α → State → Prop) :
    Tree Answer α → State → Prop
  | .ret value, state => post value state
  | .cut, _ => True
  | .call request next, state =>
      monitor.safe state request ∧
        ∀ answer,
          monitor.allows state request answer →
          (next answer).Ensures monitor post
            (monitor.next state request answer)

namespace Tree

/-- A weaker postcondition is ensured as well. -/
theorem Ensures.mono
    {weak strong : α → State → Prop}
    (weaker : ∀ value state, strong value state → weak value state)
    {tree : Tree Answer α}
    {state : State}
    (ensures : tree.Ensures monitor strong state) :
    tree.Ensures monitor weak state := by
  induction tree generalizing state with
  | ret value =>
      exact weaker value state ensures
  | call request next inductionHypothesis =>
      exact ⟨ensures.1, fun answer allowed =>
        inductionHypothesis answer (ensures.2 answer allowed)⟩
  | cut =>
      trivial

/-- A monitor that only watches is content with every tree. -/
theorem Ensures.unwatched
    {next : State → (request : Call) → Answer request → State}
    (tree : Tree Answer α)
    (state : State) :
    tree.Ensures (Monitor.observe next) (fun _ _ => True) state := by
  induction tree generalizing state with
  | ret value =>
      trivial
  | call request continuation inductionHypothesis =>
      exact ⟨trivial, fun answer _ => inductionHypothesis answer _⟩
  | cut =>
      trivial

/--
Refinement of monitors: what a coarse monitor ensures is ensured by a finer
one that follows it on the calls made, and so is what these calls keep.
-/
theorem Ensures.refine
    {Coarse Fine : Type}
    {coarse : Monitor Answer Coarse}
    {fine : Monitor Answer Fine}
    {post : α → Coarse → Prop}
    (project : Fine → Coarse)
    (made : Call → Prop)
    (kept : Fine → Prop)
    (follows :
      ∀ {state request answer},
        kept state →
        made request →
        project (fine.next state request answer) =
            coarse.next (project state) request answer ∧
          (fine.allows state request answer →
            coarse.allows (project state) request answer ∧
              kept (fine.next state request answer)))
    (safe :
      ∀ {state request},
        kept state →
        made request →
        coarse.safe (project state) request →
        fine.safe state request)
    {tree : Tree Answer α}
    {state : Fine}
    (calls : tree.Ensures (Monitor.limit made) (fun _ _ => True) ())
    (ensures : tree.Ensures coarse post (project state))
    (holds : kept state) :
    tree.Ensures fine
      (fun value after => post value (project after) ∧ kept after)
      state := by
  induction tree generalizing state with
  | ret value =>
      exact ⟨ensures, holds⟩
  | call request next inductionHypothesis =>
      refine ⟨safe holds calls.1 ensures.1, ?_⟩
      intro answer allowed
      obtain ⟨projected, continues⟩ :=
        @follows state request answer holds calls.1
      obtain ⟨allowedToo, keptAfter⟩ := continues allowed
      apply inductionHypothesis answer (calls.2 answer trivial) _ keptAfter
      rw [projected]
      exact ensures.2 answer allowedToo
  | cut =>
      trivial

/-- The rule of sequencing. -/
theorem Ensures.bind
    {post : β → State → Prop}
    {tree : Tree Answer α}
    {continuation : α → Tree Answer β}
    {state : State}
    (ensures :
      tree.Ensures monitor
        (fun value => (continuation value).Ensures monitor post) state) :
    (tree.bind continuation).Ensures monitor post state := by
  induction tree generalizing state with
  | ret value =>
      exact ensures
  | call request next inductionHypothesis =>
      exact ⟨ensures.1, fun answer allowed =>
        inductionHypothesis answer (ensures.2 answer allowed)⟩
  | cut =>
      trivial

/-- The loop rule: an invariant that every iteration re-establishes. -/
theorem Ensures.iterate
    {post : α → State → Prop}
    {body : σ → Tree Answer (LoopStep σ α)}
    (invariant : σ → State → Prop)
    (preserved :
      ∀ current state,
        invariant current state →
        (body current).Ensures monitor (LoopStep.Meets invariant post) state)
    (fuel : Nat)
    {current : σ}
    {state : State}
    (initially : invariant current state) :
    (Tree.iterate body fuel current).Ensures monitor post state := by
  induction fuel generalizing current state with
  | zero =>
      trivial
  | succ fuel inductionHypothesis =>
      refine Ensures.bind ((preserved current state initially).mono ?_)
      intro decision after kept
      cases decision with
      | again next =>
          exact inductionHypothesis kept
      | done value =>
          exact kept

/-- Soundness: legal runs are safe and end in the postcondition. -/
theorem Ensures.sound
    {post : α → State → Prop}
    {tree : Tree Answer α}
    {events : List (Event Answer)}
    {outcome : Option α}
    (run : tree.Run events outcome)
    {state : State}
    (ensures : tree.Ensures monitor post state)
    (legal : monitor.Legal state events) :
    monitor.Safe state events ∧
      ∀ value,
        outcome = some value →
        post value (monitor.after state events) := by
  induction run generalizing state with
  | ret value =>
      refine ⟨trivial, ?_⟩
      rintro result ⟨⟩
      exact ensures
  | stop tree =>
      exact ⟨trivial, fun _ ended => by cases ended⟩
  | call answer later inductionHypothesis =>
      have continued :=
        inductionHypothesis (ensures.2 answer legal.1) legal.2
      exact ⟨⟨ensures.1, continued.1⟩, continued.2⟩

end Tree

namespace Program

/-- `Tree.Ensures` for every unrolling. -/
def Ensures
    (monitor : Monitor Answer State)
    (post : α → State → Prop)
    (program : Program Answer α)
    (state : State) : Prop :=
  ∀ fuel, (program fuel).Ensures monitor post state

namespace Ensures

variable {post : α → State → Prop} {state : State}

/-- A program that returns at once. -/
theorem pure
    {value : α}
    (holds : post value state) :
    (Pure.pure value : Program Answer α).Ensures monitor post state :=
  fun _ => holds

/-- One call: it is safe, and every allowed answer is fine. -/
theorem request
    {call : Call}
    {post : Answer call → State → Prop}
    (safe : monitor.safe state call)
    (answered :
      ∀ answer,
        monitor.allows state call answer →
        post answer (monitor.next state call answer)) :
    (Program.request call).Ensures monitor post state :=
  fun _ => ⟨safe, answered⟩

/-- The rule of sequencing. -/
theorem bind
    {post : β → State → Prop}
    {program : Program Answer α}
    {continuation : α → Program Answer β}
    (ensures :
      program.Ensures monitor
        (fun value => (continuation value).Ensures monitor post) state) :
    (program >>= continuation).Ensures monitor post state :=
  fun fuel =>
    Tree.Ensures.bind
      ((ensures fuel).mono fun _ _ continued => continued fuel)

/-- A call followed by a continuation. -/
theorem request_bind
    {post : β → State → Prop}
    {call : Call}
    {continuation : Answer call → Program Answer β}
    (safe : monitor.safe state call)
    (answered :
      ∀ answer,
        monitor.allows state call answer →
        (continuation answer).Ensures monitor post
          (monitor.next state call answer)) :
    (Program.request call >>= continuation).Ensures monitor post state :=
  bind (request safe answered)

/-- Refinement of monitors. -/
theorem refine
    {Coarse Fine : Type}
    {coarse : Monitor Answer Coarse}
    {fine : Monitor Answer Fine}
    {post : α → Coarse → Prop}
    (project : Fine → Coarse)
    (made : Call → Prop)
    (kept : Fine → Prop)
    (follows :
      ∀ {state request answer},
        kept state →
        made request →
        project (fine.next state request answer) =
            coarse.next (project state) request answer ∧
          (fine.allows state request answer →
            coarse.allows (project state) request answer ∧
              kept (fine.next state request answer)))
    (safe :
      ∀ {state request},
        kept state →
        made request →
        coarse.safe (project state) request →
        fine.safe state request)
    {program : Program Answer α}
    {state : Fine}
    (calls : program.Ensures (Monitor.limit made) (fun _ _ => True) ())
    (ensures : program.Ensures coarse post (project state))
    (holds : kept state) :
    program.Ensures fine
      (fun value after => post value (project after) ∧ kept after)
      state :=
  fun fuel =>
    Tree.Ensures.refine project made kept follows safe (calls fuel)
      (ensures fuel) holds

/-- A weaker postcondition is ensured as well. -/
theorem mono
    {weak strong : α → State → Prop}
    {program : Program Answer α}
    (ensures : program.Ensures monitor strong state)
    (weaker : ∀ value after, strong value after → weak value after) :
    program.Ensures monitor weak state :=
  fun fuel => (ensures fuel).mono weaker

/-- The loop rule: an invariant that every iteration re-establishes. -/
theorem iterate
    {body : σ → Program Answer (LoopStep σ α)}
    (invariant : σ → State → Prop)
    (preserved :
      ∀ current state,
        invariant current state →
        (body current).Ensures monitor (LoopStep.Meets invariant post) state)
    {current : σ}
    (initially : invariant current state) :
    (Program.iterate body current).Ensures monitor post state :=
  fun fuel =>
    Tree.Ensures.iterate invariant
      (fun current state holds => preserved current state holds fuel)
      fuel initially

/-- Soundness: legal runs are safe and end in the postcondition. -/
theorem sound
    {program : Program Answer α}
    (ensures : program.Ensures monitor post state)
    {events : List (Event Answer)}
    {outcome : Option α}
    (run : program.Run events outcome)
    (legal : monitor.Legal state events) :
    monitor.Safe state events ∧
      ∀ value,
        outcome = some value →
        post value (monitor.after state events) := by
  obtain ⟨fuel, treeRun⟩ := run
  exact (ensures fuel).sound treeRun legal

/-- Soundness for a monitor that only watches: every run that ends. -/
theorem observed
    {next : State → (request : Call) → Answer request → State}
    {program : Program Answer α}
    (ensures : program.Ensures (Monitor.observe next) post state)
    {events : List (Event Answer)}
    {value : α}
    (run : program.Run events (some value)) :
    post value ((Monitor.observe next).after state events) :=
  (ensures.sound run (Monitor.observe_legal next state events)).2
    value rfl

/--
Soundness for a monitor that remembers: the postcondition holds of the whole
run, and each call met its duty given the events before it.
-/
theorem recorded
    {duty : List (Event Answer) → Call → Prop}
    {post : α → List (Event Answer) → Prop}
    {program : Program Answer α}
    (ensures : program.Ensures (Monitor.record duty) post [])
    {events : List (Event Answer)}
    {value : α}
    (run : program.Run events (some value)) :
    post value events ∧
      ∀ before event later,
        events = before ++ event :: later →
        duty before event.call := by
  have legal : (Monitor.record duty).Legal [] events :=
    Monitor.legal_of_forall _ (fun _ _ => True)
      (fun _ _ _ _ => trivial) [] (fun _ _ => trivial)
  obtain ⟨safe, ended⟩ := ensures.sound run legal
  have whole := ended value rfl
  rw [Monitor.record_after] at whole
  refine ⟨whole, ?_⟩
  rintro before event later rfl
  have here := Monitor.safe_at _ safe
  rw [Monitor.record_after] at here
  exact here

end Ensures

/-- Completed iterations of a loop body, one after another. -/
inductive Iterations (body : σ → Program Answer (LoopStep σ α)) :
    σ → List (Event Answer) → σ → Prop where
  | none (current : σ) :
      Iterations body current [] current
  | more
      {current next last : σ}
      {first rest : List (Event Answer)}
      (iteration : (body current).Run first (some (.again next)))
      (later : Iterations body next rest last) :
      Iterations body current (first ++ rest) last

/-- `of_run` for one unrolling, with every iteration at the same bound. -/
theorem Iterations.of_unrolling
    {body : σ → Program Answer (LoopStep σ α)}
    {bound fuel : Nat}
    {current : σ}
    {events : List (Event Answer)}
    {outcome : Option α}
    (run :
      (Tree.iterate (fun state => body state bound) fuel current).Run
        events outcome) :
    ∃ first rest last,
      events = first ++ rest ∧
        Iterations body current first last ∧
        (body last).Run rest (outcome.map .done) := by
  induction fuel generalizing current events with
  | zero =>
      cases run with
      | stop => exact ⟨[], [], current, rfl, .none current, 0, .stop _⟩
  | succ fuel inductionHypothesis =>
      rcases Tree.Run.of_bind run with
        ⟨rfl, cutShort⟩ | ⟨first, rest, decision, rfl, completed, continued⟩
      · exact ⟨[], events, current, rfl, .none current, bound, cutShort⟩
      cases decision with
      | again next =>
          obtain ⟨middle, later, last, rfl, iterations, lastRun⟩ :=
            inductionHypothesis continued
          exact ⟨first ++ middle, later, last,
            (List.append_assoc _ _ _).symm,
            .more ⟨bound, completed⟩ iterations, lastRun⟩
      | done value =>
          refine ⟨[], first ++ rest, current, rfl, .none current, bound, ?_⟩
          cases continued with
          | ret => simpa using completed
          | stop => simpa using completed.unended

/--
A run of a loop is some completed iterations and a run of one more, which
ends the loop or is cut short.
-/
theorem Iterations.of_run
    {body : σ → Program Answer (LoopStep σ α)}
    {current : σ}
    {events : List (Event Answer)}
    {outcome : Option α}
    (run : (iterate body current).Run events outcome) :
    ∃ first rest last,
      events = first ++ rest ∧
        Iterations body current first last ∧
        (body last).Run rest (outcome.map .done) := by
  obtain ⟨fuel, unrolling⟩ := run
  exact of_unrolling unrolling

/-- What every iteration re-establishes holds after any number of them. -/
theorem Iterations.preserve
    {body : σ → Program Answer (LoopStep σ α)}
    (invariant : σ → State → Prop)
    (preserved :
      ∀ current state,
        invariant current state →
        (body current).Ensures monitor
          (LoopStep.Meets invariant fun _ _ => True)
          state)
    {current last : σ}
    {events : List (Event Answer)}
    (iterations : Iterations body current events last)
    {state : State}
    (legal : monitor.Legal state events)
    (initially : invariant current state) :
    invariant last (monitor.after state events) := by
  induction iterations generalizing state with
  | none current =>
      exact initially
  | @more current next last first rest iteration later
      inductionHypothesis =>
      obtain ⟨firstLegal, restLegal⟩ :=
        monitor.legal_append.mp legal
      have kept :=
        ((preserved current state initially).sound iteration
          firstLegal).2 _ rfl
      rw [monitor.after_append]
      exact inductionHypothesis restLegal kept

end Program

end CallTree
