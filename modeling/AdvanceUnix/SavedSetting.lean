import AdvanceUnix.CallTree
import Mathlib.Data.List.Induction

namespace CallTree

/-!
# A setting that a program changes and restores

Some calls ask for a change of a setting and either take effect or fail, and
some report its value.  A setting is restored if it has its initial value
again, or if the last call that asked for a change was to restore it and
failed.
-/

/-- A setting of the environment, as the calls of a program see it. -/
structure Setting
    {Call : Type}
    (Answer : Call → Type)
    (Value : Type) where
  asks : Event Answer → Option (Value → Value)
  fails : Event Answer → Bool
  reports : Value → Event Answer → Prop

namespace Setting

variable {Call : Type} {Answer : Call → Type} {Value α : Type}
  (setting : Setting Answer Value)

/-- The value after one event. -/
def step (value : Value) (event : Event Answer) : Value :=
  match setting.asks event with
  | none => value
  | some change => if setting.fails event then value else change value

/-- The value after some events. -/
def value (initial : Value) (events : List (Event Answer)) : Value :=
  events.foldl setting.step initial

/-- Every answer that reports the value is true. -/
def Reported (initial : Value) (events : List (Event Answer)) : Prop :=
  ∀ before event later,
    events = before ++ event :: later →
    setting.reports (setting.value initial before) event

/-- The last call for a change asked for the initial value, and failed. -/
def LastRestoringFailed
    (initial : Value)
    (events : List (Event Answer)) : Prop :=
  ∃ before event later change,
    events = before ++ event :: later ∧
      setting.asks event = some change ∧
        change (setting.value initial before) = initial ∧
          setting.fails event = true ∧
            ∀ other ∈ later, setting.asks other = none

/-- The setting is as it was, or the program could not help it. -/
def Restored
    (initial : Value)
    (events : List (Event Answer))
    (admitted : Prop) : Prop :=
  setting.value initial events = initial ∨
    setting.LastRestoringFailed initial events ∧ admitted

/-- The value, and whether the last call for a change failed to restore it. -/
structure Watched (Value : Type) where
  value : Value
  refused : Prop

/-- Follow one event. -/
def follow
    (initial : Value)
    (watched : Watched Value)
    (event : Event Answer) : Watched Value :=
  match setting.asks event with
  | none => watched
  | some change =>
      if setting.fails event then
        { watched with refused := change watched.value = initial }
      else
        { value := change watched.value, refused := False }

/-- A monitor of the setting, with a duty. -/
def watch
    (initial : Value)
    (duty : Value → Call → Prop) : Monitor Answer (Watched Value) where
  next := fun watched request answer =>
    setting.follow initial watched ⟨request, answer⟩
  allows := fun watched request answer =>
    setting.reports watched.value ⟨request, answer⟩
  safe := fun watched request => duty watched.value request

/-- Nothing has happened yet. -/
def untouched (initial : Value) : Watched Value where
  value := initial
  refused := False

section Follow

variable {setting} {initial : Value} {watched : Watched Value}
  {event : Event Answer} {change : Value → Value}

/-- A call that asks for nothing changes nothing. -/
theorem follow_unasked
    (asks : setting.asks event = none) :
    setting.follow initial watched event = watched := by
  rw [follow, asks]

/-- A call that fails changes nothing. -/
theorem follow_failed
    (asks : setting.asks event = some change)
    (fails : setting.fails event = true) :
    setting.follow initial watched event =
      { watched with refused := change watched.value = initial } := by
  simp only [follow, asks, fails, ↓reduceIte]

/-- A call that takes effect. -/
theorem follow_done
    (asks : setting.asks event = some change)
    (works : setting.fails event = false) :
    setting.follow initial watched event =
      { value := change watched.value, refused := False } := by
  simp only [follow, asks, works, Bool.false_eq_true, ↓reduceIte]

/-- The monitor follows the value. -/
theorem follow_value :
    (setting.follow initial watched event).value =
      setting.step watched.value event := by
  cases asks : setting.asks event with
  | none =>
      rw [follow_unasked asks, step, asks]
  | some change =>
      cases fails : setting.fails event with
      | true =>
          rw [follow_failed asks fails]
          simp only [step, asks, fails, ↓reduceIte]
      | false =>
          rw [follow_done asks fails]
          simp only [step, asks, fails, Bool.false_eq_true, ↓reduceIte]

end Follow

section Events

variable {setting} {initial : Value} {duty : Value → Call → Prop}
  {events : List (Event Answer)}

/-- The value that the monitor has is the value. -/
theorem value_after
    (watched : Watched Value)
    (events : List (Event Answer)) :
    ((setting.watch initial duty).after watched events).value =
      events.foldl setting.step watched.value := by
  induction events generalizing watched with
  | nil =>
      rfl
  | cons event rest inductionHypothesis =>
      rw [Monitor.after, inductionHypothesis, List.foldl_cons]
      exact congrArg (rest.foldl setting.step) follow_value

/-- Calls that ask for nothing leave the value as it is. -/
theorem value_unasked
    (unasked : ∀ event ∈ events, setting.asks event = none) :
    setting.value initial events = initial := by
  induction events with
  | nil =>
      rfl
  | cons event rest inductionHypothesis =>
      have first : setting.step initial event = initial := by
        rw [step, unasked event List.mem_cons_self]
      rw [value, List.foldl_cons, first]
      exact inductionHypothesis fun other member =>
        unasked other (List.mem_cons_of_mem event member)

/-- A refusal on the record is one of the last call for a change. -/
theorem refused_after
    (refused :
      ((setting.watch initial duty).after (untouched initial)
        events).refused) :
    setting.LastRestoringFailed initial events := by
  induction events using List.reverseRecOn with
  | nil =>
      exact refused.elim
  | append_singleton events event inductionHypothesis =>
      rw [Monitor.after_append] at refused
      change (setting.follow initial _ event).refused at refused
      cases asks : setting.asks event with
      | none =>
          rw [follow_unasked asks] at refused
          obtain ⟨before, failing, later, change, rfl, asked, restores,
            fails, last⟩ := inductionHypothesis refused
          refine ⟨before, failing, later ++ [event], change, by simp, asked,
            restores, fails, ?_⟩
          intro other member
          rcases List.mem_append.mp member with earlier | now
          · exact last other earlier
          · rw [List.mem_singleton.mp now, asks]
      | some change =>
          cases fails : setting.fails event with
          | true =>
              rw [follow_failed asks fails] at refused
              refine ⟨events, event, [], change, rfl, asks, ?_, fails,
                nofun⟩
              have restores := refused
              rw [value_after] at restores
              exact restores
          | false =>
              rw [follow_done asks fails] at refused
              exact refused.elim

/-- True reports are what the monitor assumes. -/
theorem Reported.legal
    (reported : setting.Reported initial events) :
    (setting.watch initial duty).Legal (untouched initial) events := by
  apply Monitor.legal_of_at
  intro before event later split
  have value : ((setting.watch initial duty).after (untouched initial)
      before).value = setting.value initial before :=
    value_after (untouched initial) before
  have true := reported before event later split
  rw [← value] at true
  exact true

/-- What the monitor assumes is that the reports are true. -/
theorem reported_of_legal
    (legal :
      (setting.watch initial duty).Legal (untouched initial) events) :
    setting.Reported initial events := by
  intro before event later split
  rw [split] at legal
  have value : ((setting.watch initial duty).after (untouched initial)
      before).value = setting.value initial before :=
    value_after (untouched initial) before
  have true := ((setting.watch initial duty).legal_append.mp legal).2.1
  rw [← value]
  exact true

end Events

/-- What a program is to establish of a setting that it restores. -/
def Settled
    (initial : Value)
    (admits : α → Prop)
    (result : α)
    (watched : Watched Value) : Prop :=
  watched.value = initial ∨ watched.refused ∧ admits result

section Programs

variable {setting} {initial : Value} {duty : Value → Call → Prop}
  {watched : Watched Value}

/-- A program that settles the setting restores it. -/
theorem Restored.of_ensures
    {program : Program Answer α}
    {admits : α → Prop}
    (ensures :
      program.Ensures (setting.watch initial duty)
        (Settled initial admits) (untouched initial))
    {events : List (Event Answer)}
    {result : α}
    (run : program.Run events (some result))
    (reported : setting.Reported initial events) :
    setting.Restored initial events (admits result) := by
  have settled := (ensures.sound run reported.legal).2 result rfl
  rcases settled with same | ⟨refused, admitted⟩
  · rw [value_after] at same
    exact .inl same
  · exact .inr ⟨refused_after refused, admitted⟩

/-- A call that asks for nothing changes nothing, and reports the value. -/
theorem request_unasked
    {request : Call}
    (dutiful : duty watched.value request)
    (asks : ∀ answer, setting.asks ⟨request, answer⟩ = none) :
    (Program.request request).Ensures (setting.watch initial duty)
      (fun answer after =>
        after = watched ∧
          setting.reports watched.value ⟨request, answer⟩) watched :=
  .request dutiful fun answer reported =>
    ⟨follow_unasked (asks answer), reported⟩

end Programs

end Setting

end CallTree
