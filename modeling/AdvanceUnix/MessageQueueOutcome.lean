import AdvanceUnix.MessageQueue
import Mathlib.Logic.Basic

namespace AdvanceUnix.MessageQueue

open CallTree Audit

/-!
# What the message queue experiment tells

Unless a call fails, the program succeeds exactly if its second message has
the higher priority.  It never has to wait, and it gives back what it has
acquired.
-/

variable {setting : Setting} {watched : Watched}

/-- What is taken: older messages have lower, newer ones no higher priority. -/
structure Takes
    (messages : List Message)
    (message : Message)
    (others : List Message) : Prop where
  split :
    ∃ older newer,
      messages = older ++ message :: newer ∧ others = older ++ newer ∧
        (∀ other ∈ older, other.priority < message.priority) ∧
        ∀ other ∈ newer, other.priority ≤ message.priority

/-- There is something to take unless there is nothing. -/
theorem take_eq_none {messages : List Message} :
    take messages = none ↔ messages = [] := by
  cases messages with
  | nil => simp [take]
  | cons first rest =>
      simp only [take, reduceCtorEq, iff_false]
      split
      · split <;> nofun
      · nofun

/-- What is taken is the oldest of the messages with the highest priority. -/
theorem take_takes
    {messages : List Message}
    {message : Message}
    {others : List Message}
    (taken : take messages = some (message, others)) :
    Takes messages message others := by
  induction messages generalizing message others with
  | nil => cases taken
  | cons first rest inductionHypothesis =>
      rw [take] at taken
      split at taken
      · rename_i best left found
        obtain ⟨older, newer, rfl, rfl, lower, noHigher⟩ :=
          inductionHypothesis found
        split at taken
        · rename_i outranked
          obtain ⟨rfl, rfl⟩ := Prod.mk.inj (Option.some.inj taken)
          refine ⟨first :: older, newer, rfl, rfl, ?_, noHigher⟩
          intro other member
          rcases List.mem_cons.mp member with rfl | inOlder
          · exact outranked
          · exact lower other inOlder
        · rename_i ranked
          obtain ⟨rfl, rfl⟩ := Prod.mk.inj (Option.some.inj taken)
          refine ⟨[], _, rfl, rfl, nofun, ?_⟩
          have best := Nat.le_of_not_lt ranked
          intro other member
          rcases List.mem_append.mp member with inOlder | inLater
          · exact Nat.le_trans (Nat.le_of_lt (lower other inOlder)) best
          · rcases List.mem_cons.mp inLater with rfl | inNewer
            · exact best
            · exact Nat.le_trans (noHigher other inNewer) best
      · rename_i nothing
        obtain rfl := take_eq_none.mp nothing
        obtain ⟨rfl, rfl⟩ := Prod.mk.inj (Option.some.inj taken)
        exact ⟨[], [], rfl, rfl, nofun, nofun⟩

section Cleanup

/-- The program remembers what is open and what it has created. -/
structure Owns (held : Held) (kernel : Kernel) : Prop where
  queue : held.queue ≠ -1 → kernel.queue = some held.queue
  closed : held.queue = -1 → kernel.queue = none
  name : kernel.name = held.created

/-- What the cleanup section establishes. -/
structure CleanedUp
    (result final : Exit)
    (before after : Watched) : Prop where
  closed : after.kernel.queue = none
  unlinked : after.kernel.name = none ∨ after.kernel.unlinkFailed = true
  received : after.notes = before.notes
  spoils : Spoils .failure result final before.failed after.failed

/-- The cleanup section gives back what the program holds. -/
theorem cleanup_ensures
    {held : Held}
    {result : Exit}
    (owns : Owns held watched.kernel) :
    (cleanup held result).Ensures monitor
      (fun final after => CleanedUp result final watched after) watched := by
  have closing :
      (Program.releasing (held.queue ≠ -1) (invoke (.mqClose held.queue))
        .failure result).Ensures monitor
        (fun final after =>
          after.kernel.queue = none ∧
            after.kernel.name = watched.kernel.name ∧
            after.notes = watched.notes ∧
            Spoils .failure result final watched.failed after.failed)
        watched := by
    refine .releasing ?_ ?_
    · intro notHeld
      have invalid := of_not_not (of_decide_eq_false notHeld)
      exact ⟨owns.closed invalid, rfl, rfl, .inl ⟨rfl, rfl⟩⟩
    · intro isHeld
      refine .request (owns.queue (of_decide_eq_true isHeld)) ?_
      intro answer _
      refine ⟨rfl, rfl, List.append_nil _, ?_⟩
      cases answer with
      | error error => exact .inr ⟨rfl, Bool.or_true _⟩
      | ok done => exact .inl ⟨rfl, Bool.or_false _⟩
  refine .bind (closing.mono ?_)
  rintro middle after ⟨closed, name, received, spoils⟩
  rw [owns.name] at name
  cases created : held.created with
  | none =>
      exact .pure ⟨closed, .inl (name.trans created), received, spoils⟩
  | some path =>
      refine .releasing nofun fun _ => .request (name.trans created) ?_
      intro answer _
      cases answer with
      | error error =>
          exact ⟨closed, .inr rfl, (List.append_nil _).trans received,
            spoils.trans (.inr ⟨rfl, Bool.or_true _⟩)⟩
      | ok done =>
          exact ⟨closed, .inl rfl, (List.append_nil _).trans received,
            spoils.trans (.inl ⟨rfl, Bool.or_false _⟩)⟩

end Cleanup

section Verdict

/-- The first message that is sent. -/
def Setting.first (setting : Setting) : Message where
  bytes := setting.low.bytes
  priority := setting.lowPriority

/-- The second. -/
def Setting.second (setting : Setting) : Message where
  bytes := setting.high.bytes
  priority := setting.highPriority

/-- The second message comes first, or nobody can tell. -/
def Setting.Reorders (setting : Setting) : Prop :=
  setting.lowPriority < setting.highPriority ∨
    setting.first = setting.second

/-- What the program has established when it returns. -/
structure Returned
    (setting : Setting)
    (result : Exit)
    (after : Watched) : Prop where
  closed : after.kernel.queue = none
  unlinked : after.kernel.name = none ∨ after.kernel.unlinkFailed = true
  honest :
    result = .success →
    after.failed = false ∧
      after.notes = [setting.second, setting.first]
  verdict :
    after.failed = false → (result = .success ↔ setting.Reorders)

/-- Giving up after a failure, or where the messages are not reordered. -/
theorem giveUp_ensures
    {held : Held}
    (owns : Owns held watched.kernel)
    (blamed : watched.failed = true ∨ ¬ setting.Reorders) :
    (cleanup held .failure).Ensures monitor
      (fun result after => Returned setting result after) watched := by
  refine (cleanup_ensures owns).mono ?_
  intro final after cleaned
  have failure : final = .failure := by
    rcases cleaned.spoils with ⟨same, _⟩ | ⟨same, _⟩ <;> exact same
  subst failure
  refine ⟨cleaned.closed, cleaned.unlinked, nofun, ?_⟩
  intro unfailed
  refine iff_of_false nofun (blamed.resolve_left fun failed => ?_)
  rcases cleaned.spoils with ⟨_, same⟩ | ⟨_, failing⟩
  · rw [same, failed] at unfailed
    cases unfailed
  · rw [failing] at unfailed
    cases unfailed

/-- A message is sent, or the call has failed. -/
theorem sendRetry_ensures
    {queue : Mqd}
    {bytes : List UInt8}
    {priority : Nat}
    (isOpen : watched.kernel.queue = some queue)
    (fits : bytes.length ≤ watched.kernel.msgsize)
    (room : watched.kernel.messages.length < watched.kernel.maxmsg) :
    (sendRetry queue bytes priority).Ensures monitor
      (fun result after =>
        result.Meets
          (fun _ => after = { watched with failed := true })
          (fun _ =>
            after =
              { watched with
                kernel :=
                  { watched.kernel with
                    messages :=
                      watched.kernel.messages ++ [⟨bytes, priority⟩] } }))
      watched := by
  refine .retry (fun current => current = watched) ?_ rfl
  rintro _ rfl
  refine .request ⟨isOpen, fits, room⟩ ?_
  intro answer _
  cases answer with
  | error error =>
      refine ⟨?_, ?_⟩
      · rintro rfl
        exact Noted.same rfl (Bool.or_false _) (List.append_nil _)
      · intro permanent
        refine Noted.same rfl ?_ (List.append_nil _)
        exact (Bool.or_eq_true _ _).mpr (.inr (decide_eq_true permanent))
  | ok done =>
      exact Noted.same rfl (Bool.or_false _) (List.append_nil _)

/-- The check accepts exactly the message that is expected. -/
theorem check_iff
    {expected : CString}
    {buffer : List UInt8}
    {priority expectedPriority : Nat} :
    ¬ (buffer.length ≠ expected.strlen + 1 ∨
        priority ≠ expectedPriority ∨
          buffer.take (expected.strlen + 1) ≠
            expected.bytes.take (expected.strlen + 1)) ↔
      (⟨buffer, priority⟩ : Message) =
        ⟨expected.bytes, expectedPriority⟩ := by
  have size : expected.bytes.length = expected.strlen + 1 := by
    simp [CString.bytes, CString.strlen]
  simp only [ne_eq, not_or, not_not, Message.mk.injEq]
  constructor
  · rintro ⟨length, rfl, same⟩
    rw [← length, List.take_length, length, ← size,
      List.take_length] at same
    exact ⟨same, rfl⟩
  · rintro ⟨rfl, rfl⟩
    exact ⟨size, rfl, rfl⟩

/-- What is received is what the queue gives out. -/
theorem receiveAndCheck_ensures
    {queue : Mqd}
    {expected : CString}
    {priority : Nat}
    {message : Message}
    {others : List Message}
    (isOpen : watched.kernel.queue = some queue)
    (fits : watched.kernel.msgsize ≤ messageSize)
    (taken : take watched.kernel.messages = some (message, others)) :
    (receiveAndCheck queue expected priority).Ensures monitor
      (fun result after =>
        after.kernel.queue = watched.kernel.queue ∧
          after.kernel.name = watched.kernel.name ∧
          result.Meets
            (fun _ =>
              after.failed = true ∨
                message ≠ ⟨expected.bytes, priority⟩)
            (fun _ =>
              message = ⟨expected.bytes, priority⟩ ∧
                after =
                  { watched with
                    kernel :=
                      { watched.kernel with messages := others }
                    notes := watched.notes ++ [message] }))
      watched := by
  have present : watched.kernel.messages ≠ [] := by
    intro nothing
    rw [nothing] at taken
    cases taken
  have receiving :
      (Program.retry (· = Errno.eintr)
        (invoke (.mqReceive queue messageSize))).Ensures monitor
        (fun result after =>
          Result.Meets
            (fun _ => after = { watched with failed := true })
            (fun answered =>
              message = ⟨answered.1, answered.2⟩ ∧
                after =
                  { watched with
                    kernel :=
                      { watched.kernel with messages := others }
                    notes := watched.notes ++ [message] })
            result)
        watched := by
    refine .retry (fun current => current = watched) ?_ rfl
    rintro _ rfl
    refine .request ⟨isOpen, fits, present⟩ ?_
    intro answer allowed
    cases answer with
    | error error =>
        refine ⟨?_, ?_⟩
        · rintro rfl
          exact Noted.same rfl (Bool.or_false _) (List.append_nil _)
        · intro permanent
          refine Noted.same rfl ?_ (List.append_nil _)
          exact (Bool.or_eq_true _ _).mpr (.inr (decide_eq_true permanent))
    | ok answered =>
        obtain ⟨bytes, received⟩ := answered
        have given := allowed
        simp only [monitor, noting, audit, Kernel.Allows, Result.Meets, taken,
          Option.map_some, Option.some.injEq] at given
        refine ⟨given, ?_⟩
        subst given
        simp [monitor, noting, audit, Kernel.next, taken, Fails, receivedBy,
          Except.toOption]
  refine .bind (receiving.mono ?_)
  intro result after met
  cases result with
  | error error =>
      obtain rfl := met
      exact .pure ⟨rfl, rfl, .inl rfl⟩
  | ok answered =>
      obtain ⟨bytes, received⟩ := answered
      obtain ⟨rfl, rfl⟩ := met
      dsimp only
      split
      · rename_i differs
        refine .pure ⟨rfl, rfl, .inr fun same => ?_⟩
        exact check_iff.mpr same differs
      · rename_i same
        exact .pure ⟨rfl, rfl, check_iff.mp same, rfl⟩

/-- What the queue gives out first, and what it is left with. -/
def Setting.drained (setting : Setting) : Message × Message :=
  if setting.lowPriority < setting.highPriority then
    (setting.second, setting.first)
  else
    (setting.first, setting.second)

/-- The queue with both messages in it. -/
theorem take_both :
    take [setting.first, setting.second] =
      some (setting.drained.1, [setting.drained.2]) := by
  by_cases higher : setting.lowPriority < setting.highPriority
  · simp [take, Setting.drained, Setting.first, Setting.second, higher]
  · simp [take, Setting.drained, Setting.first, Setting.second, higher]

/-- The second message is given out first exactly if they are reordered. -/
theorem drained_iff :
    setting.drained.1 = setting.second ↔ setting.Reorders := by
  unfold Setting.drained Setting.Reorders
  split
  · rename_i higher
    exact iff_of_true rfl (.inl higher)
  · rename_i notHigher
    exact (or_iff_right notHigher).symm

/-- Then the first message is left. -/
theorem drained_rest
    (reorders : setting.drained.1 = setting.second) :
    setting.drained.2 = setting.first := by
  unfold Setting.drained at reorders ⊢
  split at reorders
  · rename_i higher
    rw [if_pos higher]
  · rename_i notHigher
    rw [if_neg notHigher]
    exact reorders.symm

/-- The queue that `main` has created, with some messages in it. -/
def created
    (name : String)
    (queue : Mqd)
    (messages : List Message) : Kernel where
  name := some name
  queue := some queue
  maxmsg := 4
  msgsize := messageSize
  messages := messages

/-- The cleanup section knows it. -/
theorem owns_created
    {name : String}
    {queue : Mqd}
    {kernel : Kernel}
    (valid : queue ≠ -1)
    (isOpen : kernel.queue = some queue)
    (named : kernel.name = some name) :
    Owns { queue := queue, created := some name } kernel :=
  ⟨fun _ => isOpen, fun invalid => (valid invalid).elim, named⟩

/-- `main` from the first message on. -/
theorem exchange_ensures
    {name : String}
    {queue : Mqd}
    (valid : queue ≠ -1) :
    (exchange setting { queue := queue, created := some name }).Ensures
      monitor (fun result after => Returned setting result after)
      { kernel := created name queue [] } := by
  have owns (messages : List Message) :
      Owns { queue := queue, created := some name }
        (created name queue messages) :=
    owns_created valid rfl rfl
  refine .bind (.mono
    (sendRetry_ensures rfl setting.lowFits (Nat.succ_pos 3)) ?_)
  intro sent _ after
  cases sent with
  | error error =>
      obtain rfl := after
      exact giveUp_ensures (owns []) (.inl rfl)
  | ok done =>
  obtain rfl := after
  refine .bind (.mono
    (sendRetry_ensures rfl setting.highFits
      (Nat.succ_lt_succ (Nat.succ_pos 2))) ?_)
  intro sent _ after
  cases sent with
  | error error =>
      obtain rfl := after
      exact giveUp_ensures (owns [setting.first]) (.inl rfl)
  | ok done =>
  obtain rfl := after
  refine .request_bind rfl ?_
  intro inspected allowed
  cases inspected with
  | error error =>
      exact giveUp_ensures (owns [setting.first, setting.second]) (.inl rfl)
  | ok observed =>
  obtain rfl : observed = ⟨4, messageSize, 2⟩ := allowed
  refine .bind (.mono
    (receiveAndCheck_ensures rfl (Nat.le_refl _) take_both) ?_)
  rintro checked after ⟨isOpen, named, met⟩
  cases checked with
  | error error =>
      refine giveUp_ensures (owns_created valid isOpen named) ?_
      exact met.imp_right fun differs reorders =>
        differs (drained_iff.mpr reorders)
  | ok done =>
  obtain ⟨inOrder, rfl⟩ := met
  have reorders := drained_iff.mp inOrder
  have left : take [setting.drained.2] = some (setting.first, []) := by
    rw [drained_rest inOrder]
    rfl
  refine .bind (.mono
    (receiveAndCheck_ensures rfl (Nat.le_refl _) left) ?_)
  rintro checked after ⟨isOpen, named, met⟩
  cases checked with
  | error error =>
      refine giveUp_ensures (owns_created valid isOpen named) ?_
      exact met.imp_right fun differs => (differs rfl).elim
  | ok done =>
  obtain ⟨_, rfl⟩ := met
  refine (cleanup_ensures (owns_created valid rfl rfl)).mono ?_
  intro final after cleaned
  refine ⟨cleaned.closed, cleaned.unlinked, ?_, ?_⟩
  · rintro rfl
    rcases cleaned.spoils with ⟨_, unfailed⟩ | ⟨isFailure, _⟩
    · refine ⟨unfailed, cleaned.received.trans ?_⟩
      change [setting.drained.1] ++ [setting.first] = _
      rw [drained_iff.mpr reorders]
      rfl
    · cases isFailure
  · intro unfailed
    rcases cleaned.spoils with ⟨same, _⟩ | ⟨_, failed⟩
    · exact iff_of_true same reorders
    · rw [failed] at unfailed
      cases unfailed

/-- The name that `main` makes up fits into its buffer. -/
theorem queueName_fits
    {process : Pid}
    {now : Timespec}
    (number : process.number < 2147483648)
    (nonneg : 0 ≤ now.nsec)
    (bounded : now.nsec < 1000000000) :
    (queueName process now).length < nameCapacity := by
  obtain ⟨nanoseconds, isNat⟩ := Int.eq_ofNat_of_zero_le nonneg
  have process10 : (toString process.number).length ≤ 10 :=
    (Nat.length_repr_le_iff (by decide)).mpr
      (Nat.lt_trans number (by decide))
  have now9 : (toString now.nsec).length ≤ 9 := by
    rw [isNat] at bounded ⊢
    exact (Nat.length_repr_le_iff (by decide)).mpr
      (Int.ofNat_lt.mp bounded)
  have prefix14 : "/advance_unix_".length = 14 := rfl
  have one : "_".length = 1 := rfl
  change
    ("/advance_unix_" ++ toString process.number ++ "_" ++
      toString now.nsec).length < 96
  rw [String.length_append, String.length_append, String.length_append]
  omega

/-- What `main` establishes. -/
theorem main_ensures :
    (mainSending setting).Ensures monitor
      (fun result after => Returned setting result after)
      { kernel := {} } := by
  have nothing : Owns {} ({} : Kernel) :=
    ⟨fun valid => (valid rfl).elim, fun _ => rfl, rfl⟩
  refine .request_bind trivial ?_
  intro clock allowed
  cases clock with
  | error error => exact giveUp_ensures nothing (.inl rfl)
  | ok now =>
  obtain ⟨nonneg, bounded⟩ := allowed
  refine .request_bind trivial ?_
  intro process number
  have fits := queueName_fits number nonneg bounded
  simp only [ge_iff_le, Nat.not_le.mpr fits, ↓reduceIte]
  refine .request_bind ⟨rfl, fits⟩ ?_
  intro opening valid
  cases opening with
  | error error => exact giveUp_ensures nothing (.inl rfl)
  | ok queue => exact exchange_ensures valid

end Verdict

section Runs

/-- What a call receives is the oldest message of the highest priority. -/
theorem received_takes
    {kernel : Kernel}
    {event : Event Answer}
    {message : Message}
    (allowed : kernel.Allows event.call event.answer)
    (member : message ∈ receivedBy event) :
    ∃ others, Takes kernel.messages message others := by
  obtain ⟨request, answer⟩ := event
  cases request with
  | mqReceive queue size =>
      cases answer with
      | error error => cases member
      | ok answered =>
          obtain rfl := List.mem_singleton.mp member
          obtain ⟨⟨first, others⟩, taken, rfl⟩ :=
            Option.map_eq_some_iff.mp allowed
          exact ⟨others, take_takes taken⟩
  | _ => cases member

/-- What a run of the program shows. -/
structure QueueVerdict
    (setting : Setting)
    (events : List (Event Answer))
    (outcome : Option Exit) : Prop where
  neverWaits :
    ∀ before event later,
      events = before ++ event :: later →
      (audit.kernelAfter {} before).Safe event.call
  ordered :
    ∀ before event message later,
      events = before ++ event :: later →
      message ∈ receivedBy event →
      ∃ others, Takes (audit.kernelAfter {} before).messages message others
  released :
    outcome ≠ none →
    (audit.kernelAfter {} events).queue = none ∧
      ((audit.kernelAfter {} events).name = none ∨
        (audit.kernelAfter {} events).unlinkFailed = true)
  delivered :
    outcome = some .success →
    events.flatMap receivedBy = [setting.second, setting.first]
  verdict :
    outcome ≠ none →
    (outcome = some .success ↔
      audit.failed events = false ∧ setting.Reorders)

/--
The program succeeds exactly if nothing fails and the second message overtakes
the first.  It makes no call that would have to wait.
-/
theorem queue_verdict
    {setting : Setting}
    {events : List (Event Answer)}
    {outcome : Option Exit}
    (run : (mainSending setting).Run events outcome)
    (legal : audit.Legal {} events) :
    QueueVerdict setting events outcome := by
  obtain ⟨dutiful, ended⟩ := noting_sound main_ensures run legal
  constructor
  case neverWaits => exact dutiful
  case ordered =>
    rintro before event message later rfl member
    exact received_takes (audit.allowed legal) member
  case released =>
    intro some
    obtain ⟨result, rfl⟩ := Option.ne_none_iff_exists'.mp some
    exact ⟨(ended result rfl).closed, (ended result rfl).unlinked⟩
  case delivered =>
    rintro rfl
    exact ((ended .success rfl).honest rfl).2
  case verdict =>
    intro some
    obtain ⟨result, rfl⟩ := Option.ne_none_iff_exists'.mp some
    have returned := ended result rfl
    rw [Option.some_inj]
    constructor
    · intro succeeded
      have unfailed := (returned.honest succeeded).1
      exact ⟨unfailed, (returned.verdict unfailed).mp succeeded⟩
    · exact fun ⟨unfailed, reorders⟩ =>
        (returned.verdict unfailed).mpr reorders

/-- The messages of the program are reordered. -/
example : lowAndHigh.Reorders :=
  .inl (by decide)

/-- Every call succeeds, after one interruption. -/
def overtaking : Script Answer
  | _, .clockGettime => .ok ⟨5, 250⟩
  | _, .getpid => ⟨912, Nat.succ_pos 911⟩
  | _, .mqOpen _ _ => .ok 3
  | index, .mqSend _ _ _ =>
      if index = 3 then .error .eintr else .ok ()
  | _, .mqGetattr _ => .ok ⟨4, messageSize, 2⟩
  | index, .mqReceive _ _ =>
      if index = 7 then
        .ok (highMessage.bytes, 7)
      else
        .ok (lowMessage.bytes, 1)
  | _, .mqClose _ => .ok ()
  | _, .mqUnlink _ => .ok ()

/-- The kernel may answer so. -/
theorem overtaking_legal :
    audit.Legal {} (main.exec overtaking 2).1 := by
  have small : (912 : Nat) < 2147483648 := by decide
  have valid : (3 : Mqd) ≠ -1 := by decide
  exact ⟨⟨by decide, by decide⟩, small, valid, trivial, Nat.succ_pos 3,
    Nat.succ_lt_succ (Nat.succ_pos 2), rfl, rfl, rfl, trivial, trivial,
    trivial⟩

/-- The messages of the program arrive in the order that it expects. -/
theorem queue_verdict_overtaking :
    (main.exec overtaking 2).2 = some .success ∧
      QueueVerdict lowAndHigh (main.exec overtaking 2).1
        (some .success) :=
  ⟨rfl, queue_verdict (main.exec_run overtaking 2) overtaking_legal⟩

end Runs

end AdvanceUnix.MessageQueue
