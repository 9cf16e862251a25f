import AdvanceUnix.ChildProcess

namespace AdvanceUnix.ChildProcess

open CallTree

/-!
# Ownership of a child's pid

A pid is the parent's until `waitpid` has returned it or has failed with
`ECHILD`; from then on it may name another process.  The monitor follows what
a run knows of its pids, and which kill went to a pid that was gone.
-/

/-- What the answers so far say about the parent's pids. -/
structure Ownership where
  gone : List Pid
  posted : Bool
  firstWait : Option (Result WaitStatus)
  strayKill : Bool

namespace Ownership

/-- No answers yet. -/
def start : Ownership where
  gone := []
  posted := false
  firstWait := none
  strayKill := false

/-- `waitpid` has answered with something other than `EINTR`. -/
def waited
    (ownership : Ownership)
    (child : Pid)
    (result : Result WaitStatus) : Ownership :=
  { ownership with
    gone :=
      match result with
      | .ok _ => child :: ownership.gone
      | .error error =>
          if error = .echild then child :: ownership.gone
          else ownership.gone
    firstWait := ownership.firstWait.or (some result) }

/-- A signal was sent to a pid. -/
def killed (ownership : Ownership) (child : Pid) : Ownership :=
  { ownership with
    strayKill := ownership.strayKill || decide (child ∈ ownership.gone) }

@[simp]
theorem killed_gone (ownership : Ownership) (child : Pid) :
    (ownership.killed child).gone = ownership.gone :=
  rfl

@[simp]
theorem killed_posted (ownership : Ownership) (child : Pid) :
    (ownership.killed child).posted = ownership.posted :=
  rfl

@[simp]
theorem killed_firstWait (ownership : Ownership) (child : Pid) :
    (ownership.killed child).firstWait = ownership.firstWait :=
  rfl

/-- Follow one answered call. -/
def enter (ownership : Ownership) : (call : Syscall) → Answer call → Ownership
  | .semPost, .ok () => { ownership with posted := true }
  | .waitpid child, .ok status => ownership.waited child (.ok status)
  | .waitpid child, .error error =>
      if error = .eintr then
        ownership
      else
        ownership.waited child (.error error)
  | .kill child _, _ => ownership.killed child
  | _, _ => ownership

/-- The semaphore was posted, and the first wait found no child. -/
def WaitLost (ownership : Ownership) : Prop :=
  ownership.posted = true ∧ ownership.firstWait = some (.error .echild)

end Ownership

/--
The monitor of ownership: a kill goes to a pid that is not gone, unless the
state so far excuses it.
-/
def ownershipMonitor (excused : Ownership → Prop) :
    Monitor Answer Ownership where
  next := Ownership.enter
  allows := fun _ _ _ => True
  safe := fun ownership call =>
    match call with
    | .kill child _ => child ∈ ownership.gone → excused ownership
    | _ => True

/-- An answer that ends the ownership of a pid. -/
def Ends (child : Pid) : Event Answer → Prop
  | ⟨.waitpid other, .ok _⟩ => other = child
  | ⟨.waitpid other, .error error⟩ => other = child ∧ error = .echild
  | _ => False

/-- No kill goes to a pid whose ownership has ended before. -/
def SignalsOwnedOnly (events : Events) : Prop :=
  ∀ before child signal answer later,
    events = before ++ ⟨.kill child signal, answer⟩ :: later →
    ∀ event ∈ before, ¬ Ends child event

/-- The answer of a `waitpid` that was not interrupted. -/
def waitAnswer : Event Answer → Option (Result WaitStatus)
  | ⟨.waitpid _, .ok status⟩ => some (.ok status)
  | ⟨.waitpid _, .error error⟩ =>
      if error = .eintr then none else some (.error error)
  | _ => none

/--
`sem_post` has succeeded, and the first `waitpid` that was not interrupted has
failed with `ECHILD`.
-/
def WaitLost (events : Events) : Prop :=
  (⟨.semPost, .ok ()⟩ : Event Answer) ∈ events ∧
    events.findSome? waitAnswer = some (.error .echild)

section Events

variable {excused : Ownership → Prop} {ownership : Ownership}

/-- One call ends the ownership of a pid or leaves it as it was. -/
theorem mem_gone_enter
    {child : Pid}
    {event : Event Answer} :
    child ∈ (ownership.enter event.call event.answer).gone ↔
      child ∈ ownership.gone ∨ Ends child event := by
  obtain ⟨call, answer⟩ := event
  cases call with
  | waitpid other =>
      cases answer with
      | ok status =>
          simp [Ownership.enter, Ownership.waited, Ends, eq_comm, or_comm]
      | error error =>
          by_cases interrupted : error = .eintr
          · have noChild : Errno.eintr ≠ .echild := by decide
            simp [Ownership.enter, Ends, interrupted, noChild]
          by_cases lost : error = .echild
          · have notInterrupted : Errno.echild ≠ .eintr := by decide
            simp [Ownership.enter, Ownership.waited, Ends, lost,
              notInterrupted, eq_comm, or_comm]
          · simp [Ownership.enter, Ownership.waited, Ends, lost,
              interrupted]
  | semPost =>
      cases answer with
      | ok done => simp [Ownership.enter, Ends]
      | error error => simp [Ownership.enter, Ends]
  | _ => simp [Ownership.enter, Ends]

/-- A pid is gone if its ownership has ended before or in the events. -/
theorem mem_gone_after
    {child : Pid}
    {events : Events} :
    child ∈ ((ownershipMonitor excused).after ownership events).gone ↔
      child ∈ ownership.gone ∨ ∃ event ∈ events, Ends child event := by
  induction events generalizing ownership with
  | nil =>
      simp [Monitor.after]
  | cons event rest inductionHypothesis =>
      rw [Monitor.after, inductionHypothesis]
      change child ∈ (ownership.enter event.call event.answer).gone ∨ _ ↔ _
      rw [mem_gone_enter, or_assoc]
      simp only [List.mem_cons, exists_eq_or_imp]

/-- Without excuses a safe run signals only pids that it owns. -/
theorem SignalsOwnedOnly.of_safe
    {events : Events}
    (safe : (ownershipMonitor fun _ => False).Safe .start events) :
    SignalsOwnedOnly events := by
  rintro before child signal answer later rfl event member ends
  have permitted := Monitor.safe_at _ safe
  exact permitted (mem_gone_after.mpr (.inr ⟨event, member, ends⟩))

/-- A stray kill is an earlier one, or this call is to a pid that is gone. -/
theorem enter_stray
    {event : Event Answer}
    (stray :
      (ownership.enter event.call event.answer).strayKill = true) :
    ownership.strayKill = true ∨
      ∃ child signal,
        event.call = .kill child signal ∧ child ∈ ownership.gone := by
  obtain ⟨call, answer⟩ := event
  cases call with
  | kill child signal =>
      have either :
          (ownership.strayKill || decide (child ∈ ownership.gone)) =
            true :=
        stray
      rw [Bool.or_eq_true, decide_eq_true_eq] at either
      rcases either with earlier | member
      · exact .inl earlier
      · exact .inr ⟨child, signal, rfl, member⟩
  | waitpid other =>
      cases answer with
      | ok status => exact .inl stray
      | error error =>
          unfold Ownership.enter at stray
          dsimp only at stray
          split at stray
          · exact .inl stray
          · exact .inl stray
  | semPost =>
      cases answer with
      | ok done => exact .inl stray
      | error error => exact .inl stray
  | _ => exact .inl stray

/-- A stray kill of a run finds its pid gone. -/
theorem after_stray
    {events : Events}
    (stray :
      ((ownershipMonitor excused).after ownership events).strayKill =
        true) :
    ownership.strayKill = true ∨
      ∃ before child signal answer later,
        events = before ++ ⟨.kill child signal, answer⟩ :: later ∧
          child ∈
            ((ownershipMonitor excused).after ownership before).gone := by
  induction events generalizing ownership with
  | nil =>
      exact .inl stray
  | cons event rest inductionHypothesis =>
      rcases inductionHypothesis stray with
        earlier | ⟨before, child, signal, answer, later, rfl, member⟩
      · rcases enter_stray earlier with first | ⟨child, signal, same, member⟩
        · exact .inl first
        · obtain ⟨call, answer⟩ := event
          subst same
          exact .inr ⟨[], child, signal, answer, rest, rfl, member⟩
      · exact .inr
          ⟨event :: before, child, signal, answer, later, rfl, member⟩

/-- A run with a stray kill signals a pid that it does not own. -/
theorem not_signalsOwnedOnly
    {events : Events}
    (stray :
      ((ownershipMonitor excused).after .start events).strayKill = true) :
    ¬ SignalsOwnedOnly events := by
  intro ownedOnly
  rcases after_stray stray with
    impossible | ⟨before, child, signal, answer, later, split, member⟩
  · cases impossible
  · rcases mem_gone_after.mp member with
      impossible | ⟨event, isBefore, ends⟩
    · cases impossible
    · exact ownedOnly before child signal answer later split event isBefore
        ends

/-- One call posts the semaphore and answers the first wait, or neither. -/
theorem enter_waited (event : Event Answer) :
    ((ownership.enter event.call event.answer).posted = true ↔
        ownership.posted = true ∨
          (⟨.semPost, .ok ()⟩ : Event Answer) = event) ∧
      (ownership.enter event.call event.answer).firstWait =
        ownership.firstWait.or (waitAnswer event) := by
  obtain ⟨call, answer⟩ := event
  cases call with
  | waitpid other =>
      cases answer with
      | ok status =>
          simp [Ownership.enter, Ownership.waited, waitAnswer]
      | error error =>
          by_cases interrupted : error = .eintr
          · simp [Ownership.enter, waitAnswer, interrupted]
          · simp [Ownership.enter, Ownership.waited, waitAnswer,
              interrupted]
  | semPost =>
      cases answer with
      | ok done => simp [Ownership.enter, waitAnswer]
      | error error => simp [Ownership.enter, waitAnswer]
  | _ => simp [Ownership.enter, waitAnswer]

/-- What the monitor knows of the semaphore and of the first wait. -/
theorem after_waited (events : Events) :
    (((ownershipMonitor excused).after ownership events).posted = true ↔
        ownership.posted = true ∨
          (⟨.semPost, .ok ()⟩ : Event Answer) ∈ events) ∧
      ((ownershipMonitor excused).after ownership events).firstWait =
        ownership.firstWait.or (events.findSome? waitAnswer) := by
  induction events generalizing ownership with
  | nil =>
      simp [Monitor.after]
  | cons event rest inductionHypothesis =>
      obtain ⟨posted, first⟩ := @enter_waited ownership event
      obtain ⟨laterPosted, laterFirst⟩ :=
        @inductionHypothesis (ownership.enter event.call event.answer)
      constructor
      · refine laterPosted.trans ?_
        rw [posted, List.mem_cons, or_assoc]
      · refine laterFirst.trans ?_
        rw [first, Option.or_assoc, List.findSome?_cons]
        cases waitAnswer event with
        | none => simp
        | some answer => simp

/-- The monitor knows that the wait was lost when the events say so. -/
theorem waitLost_iff (events : Events) :
    ((ownershipMonitor excused).after .start events).WaitLost ↔
      WaitLost events := by
  obtain ⟨posted, first⟩ := @after_waited excused .start events
  rw [Ownership.WaitLost, posted, first, WaitLost]
  simp [Ownership.start]

/-- A lost wait stays lost. -/
theorem WaitLost.append
    {before : Events}
    (lost : WaitLost before)
    (later : Events) :
    WaitLost (before ++ later) := by
  refine ⟨List.mem_append_left later lost.1, ?_⟩
  rw [List.findSome?_append, lost.2]
  rfl

/-- With a lost wait as the excuse, only a lost wait breaks the rule. -/
theorem SignalsOwnedOnly.of_not_waitLost
    {events : Events}
    (safe : (ownershipMonitor Ownership.WaitLost).Safe .start events)
    (notLost : ¬ WaitLost events) :
    SignalsOwnedOnly events := by
  rintro before child signal answer later rfl event member ends
  have permitted := Monitor.safe_at _ safe
  have lost := permitted (mem_gone_after.mpr (.inr ⟨event, member, ends⟩))
  exact notLost (((waitLost_iff before).mp lost).append _)

end Events

end AdvanceUnix.ChildProcess
