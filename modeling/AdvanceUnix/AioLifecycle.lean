import AdvanceUnix.AioRead

namespace AdvanceUnix.PosixAio

open CallTree

/-!
# The life cycle of the request

A monitor follows the request: it is submitted, a query reports that it has
finished, and `aio_return` reaps it.  Once a status was reported it stays.
Where `aio_error` never fails and `aio_suspend` fails only when interrupted,
the kernel is called dependable, and then every ended run has reaped.
-/

/-- What became of the request so far. -/
structure Request where
  submitted : Bool
  finished : Option Nat
  returned : Nat
  closed : Bool

namespace Request

/-- No request yet. -/
def none : Request where
  submitted := false
  finished := .none
  returned := 0
  closed := false

/-- Follow one answered call. -/
def enter (request : Request) : (call : Syscall) → Answer call → Request
  | .aioRead _, .ok () => { request with submitted := true }
  | .aioError, .ok status =>
      if status = einprogress then
        request
      else
        { request with finished := some status }
  | .aioReturn, _ => { request with returned := request.returned + 1 }
  | .close _, _ => { request with closed := true }
  | _, _ => request

/-- Submitted and not reaped. -/
structure Pending (request : Request) : Prop where
  submitted : request.submitted = true
  notReturned : request.returned = 0

/-- A dependable kernel has let the program reap what it submitted. -/
def Settled (dependable : Prop) (request : Request) : Prop :=
  dependable → request.submitted = true → request.returned = 1

end Request

/-- A reported status stays; a dependable kernel answers every query. -/
def requestAnswers
    (dependable : Prop)
    (request : Request) : (call : Syscall) → Answer call → Prop
  | .aioError, .ok status =>
      ∀ final, request.finished = some final → status = final
  | .aioError, .error _ => ¬ dependable
  | .aioSuspend, .error error => dependable → error = .eintr
  | _, _ => True

/--
`aio_return` is for a finished request that was not reaped, a descriptor is
closed only when the request is settled, and nothing is submitted afterwards.
-/
def requestPermits
    (dependable : Prop)
    (request : Request) : Syscall → Prop
  | .aioReturn =>
      request.finished.isSome = true ∧ request.returned = 0
  | .close _ => request.Settled dependable
  | .aioRead _ => request.closed = false
  | _ => True

/-- The monitor that follows the request. -/
def requestMonitor (dependable : Prop) : Monitor Answer Request where
  next := Request.enter
  allows := requestAnswers dependable
  safe := requestPermits dependable

section Request

variable {dependable : Prop} {request : Request}

/-- One iteration of the waiting loop. -/
theorem waitStep_ensures
    (pending : request.Pending) :
    waitStep.Ensures (requestMonitor dependable)
      (LoopStep.Meets (fun _ => Request.Pending)
        (fun result after =>
          after.Pending ∧
            Result.Meets (fun _ => ¬ dependable)
              (fun status => after.finished = some status) result))
      request := by
  have suspended :
      (retryEintr aioSuspend).Ensures (requestMonitor dependable)
        (fun answer after =>
          after = request ∧
            Result.Meets (fun _ => ¬ dependable) (fun _ => True) answer)
        request := by
    refine retryEintr_ensures (fun current => current = request) ?_ rfl
    rintro current rfl
    refine .request trivial ?_
    intro answer allowed
    cases answer with
    | error error =>
        exact ⟨fun _ => rfl, fun permanent =>
          ⟨rfl, fun reliable => permanent (allowed reliable)⟩⟩
    | ok done => exact ⟨rfl, trivial⟩
  refine .request_bind trivial ?_
  intro answer allowed
  cases answer with
  | error error => exact .pure ⟨pending, allowed⟩
  | ok current =>
      by_cases finished : current ≠ einprogress
      · have entered :
            (requestMonitor dependable).next request .aioError
                (.ok current) =
              { request with finished := some current } :=
          if_neg finished
        dsimp only
        rw [entered, if_pos finished]
        exact .pure ⟨⟨pending.submitted, pending.notReturned⟩, rfl⟩
      · have entered :
            (requestMonitor dependable).next request .aioError
                (.ok current) =
              request :=
          if_pos (Decidable.not_not.mp finished)
        dsimp only
        rw [entered, if_neg finished]
        refine .bind (suspended.mono ?_)
        rintro answer after ⟨rfl, failed⟩
        cases answer with
        | error error => exact .pure ⟨pending, failed⟩
        | ok done => exact .pure pending

/-- Waiting keeps the request pending and reports its final status. -/
theorem waitUntilComplete_ensures
    (pending : request.Pending) :
    waitUntilComplete.Ensures (requestMonitor dependable)
      (fun result after =>
        after.Pending ∧
          Result.Meets (fun _ => ¬ dependable)
            (fun status => after.finished = some status) result)
      request :=
  .iterate (fun _ => Request.Pending)
    (fun _ _ pending => waitStep_ensures pending) pending

/-- Reaping a finished request settles it. -/
theorem aioReturn_ensures
    {status : Nat}
    (pending : request.Pending)
    (finished : request.finished = some status) :
    aioReturn.Ensures (requestMonitor dependable)
      (fun _ after => after.Settled dependable) request := by
  refine .request ⟨?_, pending.notReturned⟩ ?_
  · rw [finished]
    rfl
  · intro answer _ _ _
    exact congrArg (· + 1) pending.notReturned

/-- Cancelling keeps the request pending. -/
theorem cancelPending_ensures
    {fd : Fd}
    (pending : request.Pending) :
    (cancelPending fd).Ensures (requestMonitor dependable)
      (fun _ after => after.Pending) request := by
  refine .request_bind trivial ?_
  intro answer allowed
  cases answer with
  | error error => exact .pure pending
  | ok status =>
      by_cases running : status = einprogress
      · have entered :
            (requestMonitor dependable).next request .aioError
                (.ok status) =
              request :=
          if_pos running
        dsimp only
        rw [entered, if_pos running]
        refine .request_bind trivial ?_
        intro cancelled _
        cases cancelled with
        | error error => exact .pure pending
        | ok done => exact .pure pending
      · have entered :
            (requestMonitor dependable).next request .aioError
                (.ok status) =
              { request with finished := some status } :=
          if_neg running
        dsimp only
        rw [entered, if_neg running]
        exact .pure ⟨pending.submitted, pending.notReturned⟩

/-- Waiting and reaping settles the request. -/
theorem reap_ensures
    (firstError : Option Errno)
    (pending : request.Pending) :
    (reap firstError).Ensures (requestMonitor dependable)
      (fun _ after => after.Settled dependable) request := by
  refine .bind ((waitUntilComplete_ensures pending).mono ?_)
  rintro result after ⟨stillPending, outcome⟩
  cases result with
  | error error =>
      exact .pure fun reliable => absurd reliable outcome
  | ok status =>
      refine .bind ((aioReturn_ensures stillPending outcome).mono ?_)
      intro answer later settled
      cases answer with
      | error left =>
          dsimp only
          split
          · exact .pure settled
          · exact .pure settled
      | ok received => exact .pure settled

/-- `cancel_and_reap` settles the request. -/
theorem cancelAndReap_ensures
    {fd : Fd}
    (pending : request.Pending) :
    (cancelAndReap fd).Ensures (requestMonitor dependable)
      (fun _ after => after.Settled dependable) request := by
  refine .bind ((cancelPending_ensures pending).mono ?_)
  intro firstError after stillPending
  refine .bind ((reap_ensures firstError stillPending).mono ?_)
  intro first later settled
  cases first with
  | none => exact .pure settled
  | some error => exact .pure settled

/-- A descriptor of a settled request is closed, and it stays settled. -/
theorem close_ensures
    {fd : Fd}
    (settled : request.Settled dependable) :
    (Syscall.invoke (.close fd)).Ensures (requestMonitor dependable)
      (fun _ after => after.Settled dependable) request :=
  .request settled fun _ _ => settled

/-- The cleanup reaps a pending request before it closes the descriptor. -/
theorem cleanup_ensures
    {held : Held}
    {result : Exit}
    (pending : held.requestPending = true → request.Pending)
    (settled :
      held.requestPending = false → request.Settled dependable) :
    (cleanup held result).Ensures (requestMonitor dependable)
      (fun _ after => after.Settled dependable) request := by
  have reaped :
      (release held.requestPending (cancelAndReap held.fd) none
          result).Ensures
        (requestMonitor dependable)
        (fun _ after => after.Settled dependable) request :=
    release_keeps _ settled fun isPending =>
      cancelAndReap_ensures (pending isPending)
  refine .bind (reaped.mono ?_)
  intro first afterReaping settled
  refine .bind (Program.Ensures.mono
    (release_keeps _ (fun _ => settled) fun _ => close_ensures settled) ?_)
  intro second afterClosing settled
  exact release_keeps _ (fun _ => settled) fun _ =>
    .request trivial fun _ _ => settled

/-- `main` from the submission on settles the request. -/
theorem afterSubmission_ensures
    {held : Held}
    (pending : request.Pending)
    (isPending : held.requestPending = true) :
    (afterSubmission held).Ensures (requestMonitor dependable)
      (fun _ after => after.Settled dependable) request := by
  have gaveUp :
      ∀ {later : Request},
        later.Pending →
        (cleanup held .failure).Ensures (requestMonitor dependable)
          (fun _ after => after.Settled dependable) later :=
    fun stillPending =>
      cleanup_ensures (fun _ => stillPending)
        (fun notPending => by rw [isPending] at notPending; cases notPending)
  refine .bind ((waitUntilComplete_ensures pending).mono ?_)
  rintro result after ⟨stillPending, outcome⟩
  cases result with
  | error error => exact gaveUp stillPending
  | ok status =>
  dsimp only
  split
  · exact gaveUp stillPending
  refine .bind ((aioReturn_ensures stillPending outcome).mono ?_)
  intro received later settled
  have finish :
      ∀ exit,
        (cleanup { held with requestPending := false } exit).Ensures
          (requestMonitor dependable)
          (fun _ after => after.Settled dependable) later :=
    fun exit => cleanup_ensures nofun (fun _ => settled)
  cases received with
  | error error => exact finish .failure
  | ok buffer =>
  dsimp only
  split
  · exact finish .success
  · exact finish .failure

/-- `main` settles its request. -/
theorem main_ensures :
    main.Ensures (requestMonitor dependable)
      (fun _ after => after.Settled dependable) .none := by
  have notSubmitted : Request.none.Settled dependable := nofun
  have gaveUp :
      ∀ {held : Held},
        held.requestPending = false →
        (cleanup held .failure).Ensures (requestMonitor dependable)
          (fun _ after => after.Settled dependable) .none :=
    fun notPending =>
      cleanup_ensures
        (fun isPending => by rw [notPending] at isPending; cases isPending)
        (fun _ => notSubmitted)
  unfold main
  refine .request_bind trivial fun created _ => ?_
  cases created with
  | error error => exact gaveUp rfl
  | ok created =>
  refine .request_bind trivial fun removed _ => ?_
  cases removed with
  | error error => exact gaveUp rfl
  | ok done =>
  refine .bind ((writeLoop_unchanged
    fun _ => .request trivial fun _ _ => rfl).mono ?_)
  rintro written after rfl
  cases written with
  | error error => exact gaveUp rfl
  | ok done =>
  refine .request_bind rfl fun submitted _ => ?_
  cases submitted with
  | error error => exact gaveUp rfl
  | ok done => exact afterSubmission_ensures ⟨rfl, rfl⟩ rfl

end Request

/-- How often a run has called `aio_return`. -/
def returns (events : Events) : Nat :=
  events.countP fun event => event.call = .aioReturn

/-- A query has reported a status other than `EINPROGRESS`. -/
def Reported (events : Events) : Prop :=
  ∃ status,
    status ≠ einprogress ∧
      (⟨.aioError, .ok status⟩ : Event Answer) ∈ events

/-- `aio_read` has succeeded. -/
def Submitted (events : Events) : Prop :=
  ∃ fd, (⟨.aioRead fd, .ok ()⟩ : Event Answer) ∈ events

section Events

variable {dependable : Prop} {request : Request}

/-- One answered call counts towards `returned` if it is `aio_return`. -/
theorem enter_returned
    (call : Syscall)
    (answer : Answer call) :
    (request.enter call answer).returned =
      request.returned + if call = .aioReturn then 1 else 0 := by
  cases call with
  | aioReturn => rfl
  | aioError =>
      cases answer with
      | error error => rfl
      | ok status =>
          unfold Request.enter
          dsimp only
          split
          · rfl
          · rfl
  | aioRead fd =>
      cases answer with
      | error error => rfl
      | ok done => rfl
  | _ => rfl

/-- One event counts towards `returns` if it is a call of `aio_return`. -/
theorem returns_cons
    (event : Event Answer)
    (rest : Events) :
    returns (event :: rest) =
      returns rest + if event.call = .aioReturn then 1 else 0 := by
  simp [returns, List.countP_cons]

/-- The monitor counts the calls of `aio_return`. -/
theorem after_returned (events : Events) :
    ((requestMonitor dependable).after request events).returned =
      request.returned + returns events := by
  induction events generalizing request with
  | nil =>
      rfl
  | cons event rest inductionHypothesis =>
      rw [Monitor.after, inductionHypothesis, returns_cons]
      change (request.enter event.call event.answer).returned + _ = _
      rw [enter_returned]
      omega

/-- A finished request was reported, by this call or before. -/
theorem enter_finished
    {call : Syscall}
    {answer : Answer call}
    (finished : (request.enter call answer).finished.isSome = true) :
    request.finished.isSome = true ∨ Reported [⟨call, answer⟩] := by
  cases call with
  | aioError =>
      cases answer with
      | error error => exact .inl finished
      | ok status =>
          by_cases running : status = einprogress
          · left
            simpa [Request.enter, running] using finished
          · exact .inr ⟨status, running, List.mem_singleton.mpr rfl⟩
  | aioRead fd =>
      cases answer with
      | error error => exact .inl finished
      | ok done => exact .inl finished
  | _ => exact .inl finished

/-- A request that the monitor knows to be finished was reported. -/
theorem after_finished
    {events : Events}
    (finished :
      ((requestMonitor dependable).after request events).finished.isSome =
        true) :
    request.finished.isSome = true ∨ Reported events := by
  induction events generalizing request with
  | nil =>
      exact .inl finished
  | cons event rest inductionHypothesis =>
      rcases inductionHypothesis finished with
        earlier | ⟨status, final, member⟩
      · rcases enter_finished earlier with before | ⟨status, final, here⟩
        · exact .inl before
        · right
          refine ⟨status, final, ?_⟩
          rw [List.mem_singleton.mp here]
          exact List.mem_cons_self
      · exact .inr ⟨status, final, List.mem_cons_of_mem event member⟩

/-- What a call leaves of a submission and of a closed descriptor. -/
theorem enter_keeps
    (call : Syscall)
    (answer : Answer call) :
    (request.submitted = true →
        (request.enter call answer).submitted = true) ∧
      (request.closed = true →
        (request.enter call answer).closed = true) := by
  cases call with
  | aioError =>
      cases answer with
      | error error => exact ⟨id, id⟩
      | ok status =>
          unfold Request.enter
          dsimp only
          split
          · exact ⟨id, id⟩
          · exact ⟨id, id⟩
  | aioRead fd =>
      cases answer with
      | error error => exact ⟨id, id⟩
      | ok done => exact ⟨fun _ => rfl, id⟩
  | close fd => exact ⟨id, fun _ => rfl⟩
  | _ => exact ⟨id, id⟩

/-- Both stay for the rest of a run. -/
theorem after_keeps (events : Events) :
    (request.submitted = true →
        ((requestMonitor dependable).after request events).submitted =
          true) ∧
      (request.closed = true →
        ((requestMonitor dependable).after request events).closed =
          true) := by
  induction events generalizing request with
  | nil =>
      exact ⟨id, id⟩
  | cons event rest inductionHypothesis =>
      have kept := @enter_keeps request event.call event.answer
      have later :=
        @inductionHypothesis (request.enter event.call event.answer)
      exact ⟨fun submitted => later.1 (kept.1 submitted),
        fun closed => later.2 (kept.2 closed)⟩

/-- A successful `aio_read` is known to the monitor ever after. -/
theorem after_submitted
    {events : Events}
    (submitted : Submitted events) :
    ((requestMonitor dependable).after request events).submitted = true := by
  obtain ⟨fd, member⟩ := submitted
  obtain ⟨before, later, rfl⟩ := List.append_of_mem member
  rw [Monitor.after_append]
  exact (after_keeps later).1 rfl

/-- `aio_return` is called at most once in a safe run. -/
theorem returns_le_one
    {events : Events}
    (safe : (requestMonitor dependable).Safe request events)
    (soFar : request.returned ≤ 1) :
    request.returned + returns events ≤ 1 := by
  induction events generalizing request with
  | nil =>
      exact soFar
  | cons event rest inductionHypothesis =>
      have counted := @enter_returned request event.call event.answer
      have stepBound :
          (request.enter event.call event.answer).returned ≤ 1 := by
        rw [counted]
        split
        · rename_i returning
          have permitted : requestPermits dependable request event.call :=
            safe.1
          rw [returning] at permitted
          have notReturned := permitted.2
          omega
        · exact soFar
      have later :
          (request.enter event.call event.answer).returned +
            returns rest ≤ 1 :=
        inductionHypothesis safe.2 stepBound
      rw [returns_cons]
      omega

/-- What every run of `main` does with its request. -/
structure LifeCycle (events : Events) : Prop where
  atMostOnce : returns events ≤ 1
  onlyReported :
    ∀ before answer later,
      events = before ++ ⟨.aioReturn, answer⟩ :: later →
      Reported before

/-- A safe run has the life cycle. -/
theorem LifeCycle.of_safe
    {events : Events}
    (safe : (requestMonitor dependable).Safe .none events) :
    LifeCycle events := by
  refine ⟨?_, ?_⟩
  · have bounded := returns_le_one safe (Nat.zero_le 1)
    simpa [Request.none] using bounded
  · rintro before answer later rfl
    have permitted := Monitor.safe_at _ safe
    rcases after_finished permitted.1 with impossible | reported
    · cases impossible
    · exact reported

/-- A close in a safe run finds the request submitted and reaped before. -/
theorem returns_before_close
    {before later : Events}
    {fd : Fd}
    {answer : Answer (.close fd)}
    (safe :
      (requestMonitor True).Safe .none
        (before ++ ⟨.close fd, answer⟩ :: later))
    (submitted : Submitted (before ++ ⟨.close fd, answer⟩ :: later)) :
    returns before = 1 := by
  obtain ⟨readFd, member⟩ := submitted
  rcases List.mem_append.mp member with earlier | fromClose
  · have settled := Monitor.safe_at _ safe
    have reaped := settled trivial (after_submitted ⟨readFd, earlier⟩)
    rw [after_returned] at reaped
    simpa [Request.none] using reaped
  · rcases List.mem_cons.mp fromClose with here | afterwards
    · cases here
    · -- Nothing is submitted once the descriptor was closed.
      obtain ⟨between, rest, rfl⟩ := List.append_of_mem afterwards
      have reordered :
          before ++ ⟨.close fd, answer⟩ ::
              (between ++ ⟨.aioRead readFd, .ok ()⟩ :: rest) =
            (before ++ ⟨.close fd, answer⟩ :: between) ++
              ⟨.aioRead readFd, .ok ()⟩ :: rest := by
        simp
      rw [reordered] at safe
      have notClosed := Monitor.safe_at _ safe
      rw [Monitor.after_append] at notClosed
      have closed :
          ((requestMonitor True).after
              ((requestMonitor True).after .none before)
              (⟨.close fd, answer⟩ :: between)).closed = true :=
        (after_keeps between).2 rfl
      exact (Bool.false_ne_true (notClosed.symm.trans closed)).elim

end Events

end AdvanceUnix.PosixAio
