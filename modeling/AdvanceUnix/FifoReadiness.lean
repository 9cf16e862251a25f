import AdvanceUnix.NamedFifo

namespace AdvanceUnix.Fifo.Readiness

open CallTree

/-!
# Readiness is not completion

The law for `read_exact_with_poll` over its runs: what may make it fail, and
that a read which finds nothing is followed by another poll.  The function
takes `EAGAIN` for a failure, so exactly the runs without it obey the law.
-/

/-- The answers that may make the function fail. -/
def MayFail : (request : Syscall) → Answer request → Prop
  | .poll _ _, .ok .timedOut => True
  | .poll _ _, .ok (.ready revents) =>
      revents.pollnval = true ∨ revents.pollerr = true
  | .poll _ _, .error error => error ≠ .eintr
  | .read _ _, .ok bytes => bytes = []
  | .read _ _, .error error => error ≠ .eintr ∧ error ≠ .eagain
  | _, _ => False

/-- A read that finds nothing although the poll has reported data. -/
def Spurious : (request : Syscall) → Answer request → Prop
  | .read _ _, .error error => error = .eagain
  | _, _ => False

/-- The bytes that a call has read. -/
def bytesRead : (request : Syscall) → Answer request → List UInt8
  | .read _ _, .ok bytes => bytes
  | _, _ => []

/-- The bytes that have been read, in order. -/
def bytesOf (events : Events) : List UInt8 :=
  events.flatMap fun event => bytesRead event.call event.answer

/-- A read asks for what is missing. -/
def AsksForRest (size : Nat) (done : Events) : Syscall → Prop
  | .read _ count => count = size - (bytesOf done).length
  | _ => True

/-- What a run that returns a result should be like. -/
structure ReadinessLaw
    (size : Nat)
    (events : Events)
    (result : Result (List UInt8)) : Prop where
  fails :
    ∀ error,
      result = .error error →
      ∃ event ∈ events, MayFail event.call event.answer
  pollsAgain :
    ∀ before event later,
      events = before ++ event :: later →
      Spurious event.call event.answer →
      ∃ fd timeout answer rest,
        later = ⟨.poll fd timeout, answer⟩ :: rest
  asks :
    ∀ before event later,
      events = before ++ event :: later →
      AsksForRest size before event.call
  keeps :
    ∀ bytes, result = .ok bytes → bytes = bytesOf events

/-- No read finds nothing after a poll that reported data. -/
def NeverSpurious (events : Events) : Prop :=
  ∀ event ∈ events, ¬ Spurious event.call event.answer

/-- What may make the function fail is not spurious readiness. -/
theorem not_spurious_of_mayFail
    {request : Syscall}
    {answer : Answer request}
    (failed : MayFail request answer) :
    ¬ Spurious request answer := by
  cases request <;> try exact not_false
  case read fd count =>
    cases answer with
    | error error => exact failed.2
    | ok bytes => exact not_false

/-- Nothing has gone wrong, and the buffer holds what was read. -/
structure Filling (used : List UInt8) (done : Events) : Prop where
  bytes : used = bytesOf done
  noFailure : ∀ event ∈ done, ¬ MayFail event.call event.answer
  neverSpurious : NeverSpurious done

/-- The last answer has made the function fail. -/
def GaveUp (done : Events) : Prop :=
  ∃ used before event,
    done = before ++ [event] ∧
      Filling used before ∧
      (MayFail event.call event.answer ∨
        Spurious event.call event.answer)

/-- How the function ends. -/
def Ended (result : Result (List UInt8)) (done : Events) : Prop :=
  result.Meets (fun _ => GaveUp done) (fun bytes => Filling bytes done)

variable {used : List UInt8} {done : Events} {size : Nat}

/-- The empty buffer at the start. -/
theorem Filling.start : Filling [] [] :=
  ⟨rfl, List.forall_mem_nil _, List.forall_mem_nil _⟩

/-- An answer that goes wrong in neither way. -/
theorem Filling.event
    (filling : Filling used done)
    (event : Event Answer)
    (noFailure : ¬ MayFail event.call event.answer)
    (genuine : ¬ Spurious event.call event.answer) :
    Filling (used ++ bytesRead event.call event.answer)
      (done ++ [event]) := by
  constructor
  case bytes =>
    rw [filling.bytes]
    simp [bytesOf]
  case noFailure =>
    intro other member
    rcases List.mem_append.mp member with earlier | here
    · exact filling.noFailure other earlier
    · obtain rfl := List.mem_singleton.mp here
      exact noFailure
  case neverSpurious =>
    intro other member
    rcases List.mem_append.mp member with earlier | here
    · exact filling.neverSpurious other earlier
    · obtain rfl := List.mem_singleton.mp here
      exact genuine

/-- An answer that goes wrong in neither way and brings nothing. -/
theorem Filling.idle
    (filling : Filling used done)
    {event : Event Answer}
    (noFailure : ¬ MayFail event.call event.answer)
    (genuine : ¬ Spurious event.call event.answer)
    (nothing : bytesRead event.call event.answer = []) :
    Filling used (done ++ [event]) := by
  have filled := filling.event event noFailure genuine
  rwa [nothing, List.append_nil] at filled

/-- The monitor that remembers the run. -/
abbrev recorder (size : Nat) : Monitor Answer Events :=
  .record (AsksForRest size)

/-- What the function knows once `poll` has answered. -/
def Polled
    (used : List UInt8)
    (answer : Result PollOutcome)
    (done : Events) : Prop :=
  match answer with
  | .ok (.ready revents) =>
      if revents.pollnval ∨ revents.pollerr then
        GaveUp done
      else
        Filling used done
  | _ => GaveUp done

/-- Waiting for readiness fails for a reason or leaves all as it is. -/
theorem poll_ensures
    (descriptor : Fd)
    (filling : Filling used done) :
    (retryEintr (Syscall.invoke (.poll descriptor 3000))).Ensures
      (recorder size) (Polled used) done := by
  refine retryEintr_ensures (Filling used) ?_ filling
  intro current filling
  refine .request trivial ?_
  rintro answer -
  cases answer with
  | error error =>
      constructor
      · rintro rfl
        exact filling.idle (fun failed => failed rfl) not_false rfl
      · exact fun permanent =>
          ⟨used, current, _, rfl, filling, .inl permanent⟩
  | ok outcome =>
      cases outcome with
      | timedOut => exact ⟨used, current, _, rfl, filling, .inl trivial⟩
      | ready revents =>
          by_cases refused : revents.pollnval ∨ revents.pollerr
          · simp only [Polled, refused, ↓reduceIte]
            exact ⟨used, current, _, rfl, filling, .inl refused⟩
          · simp only [Polled, refused, ↓reduceIte]
            exact filling.idle refused not_false rfl

/-- A read fails for a reason or spuriously, or it fills the buffer. -/
theorem read_ensures
    (descriptor : Fd)
    (filling : Filling used done) :
    (retryEintr
      (Syscall.invoke (.read descriptor (size - used.length)))).Ensures
      (recorder size)
      (fun bytes after =>
        (readAnswered used bytes).Meets Filling Ended after)
      done := by
  refine retryEintr_ensures (Filling used) ?_ filling
  intro current filling
  have rest : size - used.length = size - (bytesOf current).length := by
    rw [filling.bytes]
  refine .request rest ?_
  rintro answer -
  cases answer with
  | error error =>
      constructor
      · rintro rfl
        exact filling.idle (fun failed => failed.1 rfl) nofun rfl
      · intro permanent
        refine ⟨used, current, _, rfl, filling, ?_⟩
        by_cases spurious : error = .eagain
        · exact .inr spurious
        · exact .inl ⟨permanent, spurious⟩
  | ok bytes =>
      cases bytes with
      | nil => exact ⟨used, current, _, rfl, filling, .inl rfl⟩
      | cons byte rest =>
          exact filling.event
            ⟨.read descriptor (size - used.length), .ok (byte :: rest)⟩
            (List.cons_ne_nil byte rest) not_false

/-- The function gives up after one bad answer or has filled the buffer. -/
theorem readExactWithPoll_ensures (descriptor : Fd) (size : Nat) :
    (readExactWithPoll descriptor size).Ensures (recorder size) Ended
      [] := by
  refine .iterate Filling ?_ .start
  intro used done filling
  by_cases unfilled : used.length < size
  · simp only [unfilled, ↓reduceIte]
    refine .bind ((poll_ensures descriptor filling).mono ?_)
    intro answer after polled
    cases answer with
    | error error => exact .pure polled
    | ok outcome =>
        cases outcome with
        | timedOut => exact .pure polled
        | ready revents =>
            unfold Polled at polled
            by_cases invalid : revents.pollnval
            · simp only [invalid, true_or, ↓reduceIte] at polled ⊢
              exact .pure polled
            by_cases broken : revents.pollerr
            · simp only [invalid, broken, or_true, ↓reduceIte] at polled ⊢
              exact .pure polled
            · simp only [invalid, broken, or_self] at polled ⊢
              refine .bind ((read_ensures descriptor polled).mono ?_)
              exact fun bytes read answered => .pure answered
  · simp only [unfilled, ↓reduceIte]
    exact .pure filling

section Law

variable {descriptor : Fd} {events : Events} {result : Result (List UInt8)}

/-- In every run each read asks for what is missing. -/
theorem run_asks
    (run :
      (readExactWithPoll descriptor size).Run events (some result)) :
    ∀ before event later,
      events = before ++ event :: later →
      AsksForRest size before event.call :=
  ((readExactWithPoll_ensures descriptor size).recorded run).2

/-- And it ends with the buffer filled or after one bad answer. -/
theorem run_ended
    (run :
      (readExactWithPoll descriptor size).Run events (some result)) :
    Ended result events :=
  ((readExactWithPoll_ensures descriptor size).recorded run).1

/-- Whoever gave up without spurious readiness had a reason to. -/
theorem GaveUp.failed
    (gaveUp : GaveUp events)
    (never : NeverSpurious events) :
    ∃ event ∈ events, MayFail event.call event.answer := by
  obtain ⟨used, before, event, rfl, filling, failed | spurious⟩ := gaveUp
  · exact ⟨event, List.mem_append_right before (.head _), failed⟩
  · exact (never event (List.mem_append_right before (.head _))
      spurious).elim

/-- Whoever had a reason to give up had no spurious readiness. -/
theorem GaveUp.neverSpurious
    (gaveUp : GaveUp events)
    (failed : ∃ event ∈ events, MayFail event.call event.answer) :
    NeverSpurious events := by
  obtain ⟨used, before, last, rfl, filling, ended⟩ := gaveUp
  have lastFailed : MayFail last.call last.answer := by
    obtain ⟨event, member, mayFail⟩ := failed
    rcases List.mem_append.mp member with earlier | here
    · exact (filling.noFailure event earlier mayFail).elim
    · obtain rfl := List.mem_singleton.mp here
      exact mayFail
  intro event member
  rcases List.mem_append.mp member with earlier | here
  · exact filling.neverSpurious event earlier
  · obtain rfl := List.mem_singleton.mp here
    exact not_spurious_of_mayFail lastFailed

/--
A run that returns obeys the law iff no read found nothing after a poll that
reported data.
-/
theorem readiness_law
    (run :
      (readExactWithPoll descriptor size).Run events (some result)) :
    ReadinessLaw size events result ↔ NeverSpurious events := by
  have ended := run_ended run
  constructor
  · intro law
    cases result with
    | error error => exact GaveUp.neverSpurious ended (law.fails error rfl)
    | ok bytes => exact ended.neverSpurious
  · intro never
    constructor
    case fails =>
      rintro error rfl
      exact GaveUp.failed ended never
    case pollsAgain =>
      rintro before event later rfl spurious
      exact (never event (List.mem_append_right before (.head _))
        spurious).elim
    case asks => exact run_asks run
    case keeps =>
      rintro bytes rfl
      exact ended.bytes

end Law

/-- `POLLIN` alone. -/
def readable : Revents where
  pollin := true
  pollerr := false
  pollhup := false
  pollnval := false

/-- A run that reads two bytes one by one. -/
def twoReads : Events :=
  [⟨.poll 3 3000, .ok (.ready readable)⟩, ⟨.read 3 2, .ok [104]⟩,
    ⟨.poll 3 3000, .error .eintr⟩, ⟨.poll 3 3000, .ok (.ready readable)⟩,
    ⟨.read 3 1, .ok [105]⟩]

/-- It is a run of the function. -/
theorem twoReads_run :
    (readExactWithPoll 3 2).Run twoReads (some (.ok [104, 105])) :=
  ⟨3, .call _ (.call _ (.call _ (.call _ (.call _ (.ret _)))))⟩

/-- The law for a run with a short read and an interrupted poll. -/
theorem readiness_law_twoReads :
    ReadinessLaw 2 twoReads (.ok [104, 105]) ↔ NeverSpurious twoReads :=
  readiness_law twoReads_run

/-- A run whose second poll was mistaken. -/
def mistakenPoll : Events :=
  [⟨.poll 3 3000, .ok (.ready readable)⟩, ⟨.read 3 2, .ok [104]⟩,
    ⟨.poll 3 3000, .ok (.ready readable)⟩, ⟨.read 3 1, .error .eagain⟩]

/-- The function fails there, and the byte that it has read is lost. -/
theorem mistakenPoll_run :
    (readExactWithPoll 3 2).Run mistakenPoll (some (.error .eagain)) :=
  ⟨3, .call _ (.call _ (.call _ (.call _ (.ret _))))⟩

/-- The law does not hold of every run. -/
theorem not_readiness_law :
    ¬ ∀ (descriptor : Fd) (size : Nat) (events : Events)
        (result : Result (List UInt8)),
      (readExactWithPoll descriptor size).Run events (some result) →
      ReadinessLaw size events result := by
  intro always
  obtain ⟨event, member, failed⟩ :=
    (always 3 2 mistakenPoll (.error .eagain) mistakenPoll_run).fails
      .eagain rfl
  simp only [mistakenPoll, List.mem_cons, List.not_mem_nil, or_false]
    at member
  rcases member with rfl | rfl | rfl | rfl
  · exact failed.elim nofun nofun
  · cases failed
  · exact failed.elim nofun nofun
  · exact failed.2 rfl

end AdvanceUnix.Fifo.Readiness
