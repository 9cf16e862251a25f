import Mathlib.Data.List.Induction

/-!
# What is held, and what is still to be given back

Events gain and lose objects, and may attempt to give one back.  What is held
has been gained and not lost since.  What is pending has not even seen an
attempt; where the last attempt at each object succeeds, nothing else is held.
-/

/-- What each event gains, attempts to give back, and loses. -/
structure Ledger (Event Object : Type) where
  gains : Event → List Object
  attempts : Event → List Object
  loses : Event → List Object

namespace Ledger

variable {Event Object : Type} (ledger : Ledger Event Object)

/-- An object that was gained, and not lost since. -/
def Held (events : List Event) (object : Object) : Prop :=
  ∃ earlier gaining later,
    events = earlier ++ gaining :: later ∧
      object ∈ ledger.gains gaining ∧
        ∀ event ∈ later, object ∉ ledger.loses event

/--
The last attempt at an object that is held succeeds: one that does not is
followed by another.
-/
def LastAttemptsSucceed (events : List Event) : Prop :=
  ∀ before event later object,
    events = before ++ event :: later →
    ledger.Held before object →
    object ∈ ledger.attempts event →
    object ∉ ledger.loses event →
    ∃ again ∈ later, object ∈ ledger.attempts again

/-- The last of the elements that have some property. -/
theorem last_split
    {property : Event → Prop}
    {events : List Event}
    (found : ∃ event ∈ events, property event) :
    ∃ before event later,
      events = before ++ event :: later ∧
        property event ∧ ∀ other ∈ later, ¬ property other := by
  induction events with
  | nil =>
      obtain ⟨event, member, _⟩ := found
      cases member
  | cons first rest inductionHypothesis =>
      by_cases further : ∃ event ∈ rest, property event
      · obtain ⟨before, event, later, rfl, holds, last⟩ :=
          inductionHypothesis further
        exact ⟨first :: before, event, later, rfl, holds, last⟩
      · obtain ⟨event, member, holds⟩ := found
        rcases List.mem_cons.mp member with rfl | inRest
        · refine ⟨[], event, rest, rfl, holds, ?_⟩
          exact fun other inRest holdsToo => further ⟨other, inRest, holdsToo⟩
        · exact (further ⟨event, inRest, holds⟩).elim

variable [DecidableEq Object]

/-- What is pending after one more event. -/
def next (pending : List Object) (event : Event) : List Object :=
  pending.filter
      (fun object =>
        object ∉ ledger.attempts event ∧ object ∉ ledger.loses event) ++
    ledger.gains event

/-- What was pending stays so without an attempt, and gains are added. -/
theorem mem_next
    {pending : List Object}
    {event : Event}
    {object : Object} :
    object ∈ ledger.next pending event ↔
      (object ∈ pending ∧
          object ∉ ledger.attempts event ∧ object ∉ ledger.loses event) ∨
        object ∈ ledger.gains event := by
  rw [next, List.mem_append, List.mem_filter, decide_eq_true_eq]

/-- An event that does nothing changes nothing. -/
theorem next_nothing
    {pending : List Object}
    {event : Event}
    (noGains : ledger.gains event = [])
    (noAttempts : ledger.attempts event = [])
    (noLosses : ledger.loses event = []) :
    ledger.next pending event = pending := by
  simp [next, noGains, noAttempts, noLosses]

/-- What has been gained without any attempt to give it back. -/
def pending (events : List Event) : List Object :=
  events.foldl ledger.next []

/-- What is pending after one more event. -/
theorem pending_append_singleton
    (events : List Event)
    (event : Event) :
    ledger.pending (events ++ [event]) =
      ledger.next (ledger.pending events) event := by
  rw [pending, List.foldl_append]
  rfl

/-- Pending is what was gained and has not seen an attempt since. -/
theorem mem_pending
    {events : List Event}
    {object : Object} :
    object ∈ ledger.pending events ↔
      ∃ earlier gaining later,
        events = earlier ++ gaining :: later ∧
          object ∈ ledger.gains gaining ∧
            ∀ event ∈ later,
              object ∉ ledger.attempts event ∧
                object ∉ ledger.loses event := by
  induction events using List.reverseRecOn with
  | nil =>
      simp [pending]
  | append_singleton events event inductionHypothesis =>
      rw [pending_append_singleton, mem_next, inductionHypothesis]
      constructor
      · rintro (⟨⟨earlier, gaining, later, rfl, gained, kept⟩, spared⟩ | gained)
        · refine ⟨earlier, gaining, later ++ [event], by simp, gained, ?_⟩
          intro other member
          rcases List.mem_append.mp member with before | last
          · exact kept other before
          · obtain rfl := List.mem_singleton.mp last
            exact spared
        · exact ⟨events, event, [], rfl, gained, nofun⟩
      · rintro ⟨earlier, gaining, later, split, gained, kept⟩
        rcases List.eq_nil_or_concat later with rfl | ⟨front, last, rfl⟩
        · obtain ⟨_, same⟩ := List.append_inj' split rfl
          obtain rfl : event = gaining := by simpa using same
          exact .inr gained
        · rw [List.concat_eq_append] at split kept
          rw [← List.cons_append, ← List.append_assoc] at split
          obtain ⟨rfl, same⟩ := List.append_inj' split rfl
          obtain rfl : event = last := by simpa using same
          refine .inl ⟨⟨earlier, gaining, front, rfl, gained, ?_⟩, ?_⟩
          · exact fun other member => kept other (by simp [member])
          · exact kept event (by simp)

/-- What is pending is held. -/
theorem held_of_pending
    {events : List Event}
    {object : Object}
    (pending : object ∈ ledger.pending events) :
    ledger.Held events object := by
  obtain ⟨earlier, gaining, later, split, gained, kept⟩ :=
    ledger.mem_pending.mp pending
  exact ⟨earlier, gaining, later, split, gained,
    fun event member => (kept event member).2⟩

/-- Where the last attempts succeed, what is held is pending. -/
theorem LastAttemptsSucceed.pending_of_held
    {ledger : Ledger Event Object}
    {events : List Event}
    {object : Object}
    (succeed : ledger.LastAttemptsSucceed events)
    (held : ledger.Held events object) :
    object ∈ ledger.pending events := by
  obtain ⟨earlier, gaining, later, rfl, gained, kept⟩ := held
  by_cases attempted : ∃ event ∈ later, object ∈ ledger.attempts event
  · obtain ⟨before, event, rest, rfl, attempts, last⟩ :=
      last_split attempted
    have stillHeld :
        ledger.Held (earlier ++ gaining :: before) object := by
      refine ⟨earlier, gaining, before, rfl, gained, ?_⟩
      exact fun other member => kept other (by simp [member])
    obtain ⟨again, member, attemptsAgain⟩ :=
      succeed (earlier ++ gaining :: before) event rest object (by simp)
        stillHeld attempts (kept event (by simp))
    exact (last again member attemptsAgain).elim
  · refine ledger.mem_pending.mpr
      ⟨earlier, gaining, later, rfl, gained, ?_⟩
    intro event member
    exact ⟨fun attempts => attempted ⟨event, member, attempts⟩,
      kept event member⟩

end Ledger
