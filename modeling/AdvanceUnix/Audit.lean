import AdvanceUnix.CallIdioms

namespace CallTree

/-!
# Audits

A program that takes things from its environment, gives them back and reports
how it went.  An audit follows the environment and notes whether a call fails;
the report is honest if it is a success exactly when nothing has failed and
what the program tests is so.
-/

/-- An environment, what it asks of a call, and which answers are failures. -/
structure Audit {Call : Type} (Answer : Call → Type) (Kernel : Type) where
  next : Kernel → (request : Call) → Answer request → Kernel
  allows : Kernel → (request : Call) → Answer request → Prop
  safe : Kernel → Call → Prop
  fails : (request : Call) → Answer request → Bool

/-- The environment, and whether a call has failed. -/
structure Audited (Kernel : Type) where
  kernel : Kernel
  failed : Bool := false

/-- The result is a success exactly if nothing failed and a condition holds. -/
def Honest {β : Type} (success result : β) (failed : Bool) (tested : Prop) :
    Prop :=
  result = success ↔ failed = false ∧ tested

section Honest

variable {β : Type} {success failure final : β} {before after : Bool}
  {tested : Prop}

/-- What is released after a success is on record if it fails. -/
theorem Spoils.honest
    (spoils : Spoils failure success final before after)
    (different : failure ≠ success)
    (unfailed : before = false)
    (holds : tested) :
    Honest success final after tested := by
  rcases spoils with ⟨rfl, rfl⟩ | ⟨rfl, rfl⟩
  · exact iff_of_true rfl ⟨unfailed, holds⟩
  · exact iff_of_false different fun honest => Bool.noConfusion honest.1

/-- And giving up has a reason. -/
theorem Spoils.givenUp
    (spoils : Spoils failure failure final before after)
    (different : failure ≠ success)
    (reason : before = true ∨ ¬ tested) :
    Honest success final after tested := by
  rcases spoils with ⟨rfl, rfl⟩ | ⟨rfl, rfl⟩
  · refine iff_of_false different fun honest => ?_
    rcases reason with failed | untrue
    · exact Bool.noConfusion (honest.1.symm.trans failed)
    · exact untrue honest.2
  · exact iff_of_false different fun honest => Bool.noConfusion honest.1

end Honest

namespace Audit

variable {Call : Type} {Answer : Call → Type} {Kernel β : Type}
  (audit : Audit Answer Kernel)

/-- The audit as a monitor. -/
def monitor : Monitor Answer (Audited Kernel) where
  next := fun audited request answer =>
    { kernel := audit.next audited.kernel request answer
      failed := audited.failed || audit.fails request answer }
  allows := fun audited => audit.allows audited.kernel
  safe := fun audited => audit.safe audited.kernel

/-- The environment after some events. -/
def kernelAfter (initial : Kernel) (events : List (Event Answer)) : Kernel :=
  events.foldl (fun kernel event => audit.next kernel event.call event.answer)
    initial

/-- Whether one of the calls failed. -/
def failed (events : List (Event Answer)) : Bool :=
  events.any fun event => audit.fails event.call event.answer

/-- The environment only gives answers that it may give. -/
def Legal (initial : Kernel) (events : List (Event Answer)) : Prop :=
  audit.monitor.Legal { kernel := initial } events

/-- What the audit has found after some events. -/
theorem after_eq
    (audited : Audited Kernel)
    (events : List (Event Answer)) :
    audit.monitor.after audited events =
      { kernel := audit.kernelAfter audited.kernel events
        failed := audited.failed || audit.failed events } := by
  induction events generalizing audited with
  | nil => simp [Monitor.after, kernelAfter, failed]
  | cons event rest inductionHypothesis =>
      rw [Monitor.after, inductionHypothesis]
      simp [monitor, kernelAfter, failed, Bool.or_assoc]

/-- What a program is to establish when it returns. -/
structure Returned
    (success : β)
    (tested : Prop)
    (settled : β → Audited Kernel → Prop)
    (result : β)
    (after : Audited Kernel) : Prop where
  settled : settled result after
  honest : Honest success result after.failed tested

/-- What a program is to establish when it cleans up after a result. -/
structure Cleaned
    (failure result : β)
    (before : Bool)
    (settled : β → Audited Kernel → Prop)
    (final : β)
    (after : Audited Kernel) : Prop where
  settled : settled final after
  spoils : Spoils failure result final before after.failed

section Cleaned

variable {audit : Audit Answer Kernel} {program : Program Answer β}
  {success failure : β} {tested : Prop}
  {settled : β → Audited Kernel → Prop} {audited : Audited Kernel}

/-- Cleaning up after all has gone well. -/
theorem Cleaned.succeeded
    (cleans :
      program.Ensures audit.monitor
        (Cleaned failure success audited.failed settled) audited)
    (different : failure ≠ success)
    (unfailed : audited.failed = false)
    (holds : tested) :
    program.Ensures audit.monitor (Returned success tested settled)
      audited :=
  cleans.mono fun _ _ cleaned =>
    ⟨cleaned.settled, cleaned.spoils.honest different unfailed holds⟩

/-- Cleaning up after a failure, or what the program tests is not so. -/
theorem Cleaned.givenUp
    (cleans :
      program.Ensures audit.monitor
        (Cleaned failure failure audited.failed settled) audited)
    (different : failure ≠ success)
    (reason : audited.failed = true ∨ ¬ tested) :
    program.Ensures audit.monitor (Returned success tested settled)
      audited :=
  cleans.mono fun _ _ cleaned =>
    ⟨cleaned.settled, cleaned.spoils.givenUp different reason⟩

end Cleaned

section Releases

variable {audit : Audit Answer Kernel} {ε ρ : Type}
  {leaves : Kernel → Prop} {spoiled result : β} {kernel : Kernel}
  {failed : Bool}

/-- An attempt at a release: what it leaves, and its failure on record. -/
def Tried
    (leaves : Kernel → Prop)
    (failed : Bool)
    (answer : Except ε Unit)
    (after : Audited Kernel) : Prop :=
  leaves after.kernel ∧
    match answer with
    | .error _ => after.failed = true
    | .ok _ => after.failed = failed

/-- A result that a release may have spoiled, and what it has left. -/
def Released
    (leaves : Kernel → Prop)
    (spoiled result : β)
    (failed : Bool)
    (final : β)
    (after : Audited Kernel) : Prop :=
  leaves after.kernel ∧ Spoils spoiled result final failed after.failed

/-- The rule for a release: what it leaves is left without it as well. -/
theorem releasing_ensures
    {held : Bool}
    {attempt : Program Answer (Except ε Unit)}
    (skipped : held = false → leaves kernel)
    (attempted :
      held = true →
      attempt.Ensures audit.monitor (Tried leaves failed)
        { kernel := kernel, failed := failed }) :
    (Program.releasing held attempt spoiled result).Ensures audit.monitor
      (Released leaves spoiled result failed)
      { kernel := kernel, failed := failed } := by
  refine .releasing (fun notHeld => ⟨skipped notHeld, .inl ⟨rfl, rfl⟩⟩) ?_
  intro isHeld
  refine (attempted isHeld).mono ?_
  rintro (error | done) after ⟨left, recorded⟩
  · exact ⟨left, .inr ⟨rfl, recorded⟩⟩
  · exact ⟨left, .inl ⟨rfl, recorded⟩⟩

/-- The same for something that may be there. -/
theorem releasingSome_ensures
    {resource : Option ρ}
    {attempt : ρ → Program Answer (Except ε Unit)}
    (absent : resource = none → leaves kernel)
    (attempted :
      ∀ item,
        resource = some item →
        (attempt item).Ensures audit.monitor (Tried leaves failed)
          { kernel := kernel, failed := failed }) :
    (Program.releasingSome resource attempt spoiled result).Ensures
      audit.monitor (Released leaves spoiled result failed)
      { kernel := kernel, failed := failed } := by
  cases resource with
  | none => exact .pure ⟨absent rfl, .inl ⟨rfl, rfl⟩⟩
  | some item => exact releasing_ensures nofun fun _ => attempted item rfl

end Releases

/-- What a run shows of a program. -/
structure Report
    (initial : Kernel)
    (success : β)
    (tested : Prop)
    (settled : β → Audited Kernel → Prop)
    (events : List (Event Answer))
    (outcome : Option β) : Prop where
  dutiful :
    ∀ before event later,
      events = before ++ event :: later →
      audit.safe (audit.kernelAfter initial before) event.call
  settled :
    ∀ result,
      outcome = some result →
      settled result
        { kernel := audit.kernelAfter initial events
          failed := audit.failed events }
  honest :
    ∀ result,
      outcome = some result →
      Honest success result (audit.failed events) tested

/-- What a run shows of what a program ensures. -/
theorem sound
    {audit : Audit Answer Kernel}
    {program : Program Answer β}
    {initial : Kernel}
    {post : β → Audited Kernel → Prop}
    {events : List (Event Answer)}
    {outcome : Option β}
    (ensures : program.Ensures audit.monitor post { kernel := initial })
    (run : program.Run events outcome)
    (legal : audit.Legal initial events) :
    (∀ before event later,
      events = before ++ event :: later →
      audit.safe (audit.kernelAfter initial before) event.call) ∧
      ∀ result,
        outcome = some result →
        post result
          { kernel := audit.kernelAfter initial events
            failed := audit.failed events } := by
  obtain ⟨safe, ended⟩ := ensures.sound run legal
  rw [after_eq, Bool.false_or] at ended
  refine ⟨?_, ended⟩
  rintro before event later rfl
  have here := audit.monitor.safe_at safe
  rw [after_eq] at here
  exact here

/-- A program that returns so is reported so. -/
theorem Report.of_ensures
    {audit : Audit Answer Kernel}
    {program : Program Answer β}
    {initial : Kernel}
    {success : β}
    {tested : Prop}
    {settled : β → Audited Kernel → Prop}
    {events : List (Event Answer)}
    {outcome : Option β}
    (ensures :
      program.Ensures audit.monitor (Returned success tested settled)
        { kernel := initial })
    (run : program.Run events outcome)
    (legal : audit.Legal initial events) :
    audit.Report initial success tested settled events outcome := by
  obtain ⟨dutiful, ended⟩ := sound ensures run legal
  exact ⟨dutiful, fun result same => (ended result same).settled,
    fun result same => (ended result same).honest⟩

/-- In a legal run each answer is one that the environment may give. -/
theorem allowed
    {audit : Audit Answer Kernel}
    {initial : Kernel}
    {before later : List (Event Answer)}
    {event : Event Answer}
    (legal : audit.Legal initial (before ++ event :: later)) :
    audit.allows (audit.kernelAfter initial before) event.call
      event.answer := by
  have here := (audit.monitor.legal_append.mp legal).2.1
  rw [after_eq] at here
  exact here

section Notes

variable {ν : Type} {audit : Audit Answer Kernel}

/-- What an audit has found, and what has been noted of the events. -/
structure Noted (Kernel ν : Type) extends Audited Kernel where
  notes : List ν := []

/-- An audit that also notes something of each event. -/
def noting
    (audit : Audit Answer Kernel)
    (note : Event Answer → List ν) : Monitor Answer (Noted Kernel ν) where
  next := fun noted request answer =>
    { kernel := audit.next noted.kernel request answer
      failed := noted.failed || audit.fails request answer
      notes := noted.notes ++ note ⟨request, answer⟩ }
  allows := fun noted => audit.allows noted.kernel
  safe := fun noted => audit.safe noted.kernel

/-- Two are the same if their parts are. -/
theorem Noted.same
    {noted other : Noted Kernel ν}
    (kernel : noted.kernel = other.kernel)
    (failed : noted.failed = other.failed)
    (notes : noted.notes = other.notes) :
    noted = other :=
  congr (congrArg Noted.mk (congr (congrArg Audited.mk kernel) failed)) notes

/-- What has been found and noted after some events. -/
theorem noting_after
    (note : Event Answer → List ν)
    (noted : Noted Kernel ν)
    (events : List (Event Answer)) :
    (audit.noting note).after noted events =
      { kernel := audit.kernelAfter noted.kernel events
        failed := noted.failed || audit.failed events
        notes := noted.notes ++ events.flatMap note } := by
  induction events generalizing noted with
  | nil => simp [Monitor.after, kernelAfter, failed]
  | cons event rest inductionHypothesis =>
      rw [Monitor.after, inductionHypothesis]
      simp [noting, kernelAfter, failed, Bool.or_assoc]

/-- Noting something changes nothing about what is legal. -/
theorem noting_legal
    {note : Event Answer → List ν}
    {noted : Noted Kernel ν}
    {events : List (Event Answer)} :
    (audit.noting note).Legal noted events ↔
      audit.monitor.Legal noted.toAudited events := by
  induction events generalizing noted with
  | nil => exact Iff.rfl
  | cons event rest inductionHypothesis =>
      exact and_congr_right fun _ => inductionHypothesis

/-- What a run shows of what a program ensures, with the notes. -/
theorem noting_sound
    {note : Event Answer → List ν}
    {program : Program Answer β}
    {initial : Kernel}
    {post : β → Noted Kernel ν → Prop}
    {events : List (Event Answer)}
    {outcome : Option β}
    (ensures :
      program.Ensures (audit.noting note) post { kernel := initial })
    (run : program.Run events outcome)
    (legal : audit.Legal initial events) :
    (∀ before event later,
      events = before ++ event :: later →
      audit.safe (audit.kernelAfter initial before) event.call) ∧
      ∀ result,
        outcome = some result →
        post result
          { kernel := audit.kernelAfter initial events
            failed := audit.failed events
            notes := events.flatMap note } := by
  obtain ⟨safe, ended⟩ := ensures.sound run (noting_legal.mpr legal)
  rw [noting_after, Bool.false_or, List.nil_append] at ended
  refine ⟨?_, ended⟩
  rintro before event later rfl
  have here := (audit.noting note).safe_at safe
  rw [noting_after] at here
  exact here

end Notes

end Audit

end CallTree
