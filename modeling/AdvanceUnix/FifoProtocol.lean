import AdvanceUnix.FifoHandover

namespace AdvanceUnix.Fifo.Handover

open CallTree ChildProcess Processes
open FdPassing.Handover (ChildLife drop)

/-!
# The hand-over through the FIFO

The child exits with 0 only if its one write has put the whole message into
the FIFO, and the parent polls only after it has been told so.  What the parent
has received and what is left in the FIFO are then the message at every moment.
-/

/-- A call that has failed, or a `poll` that reports an error. -/
def Fails : (request : Syscall) → Answer request → Bool
  | .waitpid _, answer =>
      match (answer : Result WaitStatus) with
      | .error error => error ≠ .eintr
      | .ok _ => false
  | .poll _ _, answer =>
      match (answer : Result PollOutcome) with
      | .error error => error ≠ .eintr
      | .ok (.ready revents) => revents.pollnval || revents.pollerr
      | .ok .timedOut => false
  | .read _ _, answer =>
      match (answer : Result (List UInt8)) with
      | .error error => error ≠ .eintr
      | .ok _ => false
  | .close _, answer => (answer : Result Unit).toOption.isNone
  | .unlink _, answer => (answer : Result Unit).toOption.isNone
  | .rmdir _, answer => (answer : Result Unit).toOption.isNone
  | _, _ => false

/-- What the parent has been told. -/
structure Receiving where
  reaped : Option WaitStatus := none
  received : List UInt8 := []
  failed : Bool := false

/-- Follow one answered call of the parent. -/
def Receiving.next
    (receiving : Receiving)
    (request : Syscall)
    (answer : Answer request) : Receiving where
  reaped :=
    match request with
    | .waitpid _ => (answer : Result WaitStatus).toOption.or receiving.reaped
    | _ => receiving.reaped
  received :=
    match request with
    | .read _ _ =>
        receiving.received ++
          (answer : Result (List UInt8)).toOption.getD []
    | _ => receiving.received
  failed := receiving.failed || Fails request answer

variable (setting : Setting)

/-- The child has exited with 0 and some of its message is still to come. -/
structure Receiving.Expects (receiving : Receiving) : Prop where
  exited : receiving.reaped = some (.exited 0)
  more : receiving.received.length < setting.message.length

/-- When the parent may wait, poll and read. -/
def Receiving.Safe (receiving : Receiving) : Syscall → Prop
  | .waitpid child =>
      child = setting.child ∧
        receiving.reaped = none ∧ receiving.received = []
  | .poll fd _ =>
      fd = setting.held.readDescriptor ∧ receiving.Expects setting
  | .read fd size =>
      fd = setting.held.readDescriptor ∧ 0 < size ∧
        receiving.Expects setting
  | _ => True

/-- What the parent may then be answered. -/
def Receiving.Allows
    (receiving : Receiving) : (request : Syscall) → Answer request → Prop
  | .poll _ _, answer => (answer : Result PollOutcome) ≠ .ok .timedOut
  | .read _ _, answer =>
      match (answer : Result (List UInt8)) with
      | .error error => error ≠ .eagain
      | .ok bytes =>
          bytes ≠ [] ∧ receiving.received ++ bytes <+: setting.message
  | _, _ => True

/-- What the child has been told. -/
structure Writing where
  wrote : Bool := false
  exited : Bool := false

/-- Follow one answered call of the child. -/
def Writing.next
    (writing : Writing) : (request : Syscall) → Answer request → Writing
  | .write _ _, answer =>
      { writing with
        wrote := writing.wrote || (answer : Result Nat).toOption.isSome }
  | .exit _, _ => { writing with exited := true }
  | _, _ => writing

/-- The child writes its message once and exits with 0 only if it has. -/
def Writing.Safe (writing : Writing) : Syscall → Prop
  | .close _ => True
  | .openWriter _ => True
  | .write _ bytes => bytes = setting.message ∧ writing.wrote = false
  | .exit status => status = 0 → writing.wrote = true
  | _ => False

/-- The child's write is done in one piece. -/
def Writing.Allows : (request : Syscall) → Answer request → Prop
  | .write _ _, answer =>
      ∀ count,
        (answer : Result Nat) = .ok count →
        count = setting.message.length
  | _, _ => True

/-- The state of each monitor. -/
@[reducible] def Watch : Role → Type
  | .parent => Receiving
  | .child => Writing

/-- The monitors of both processes. -/
def monitor : (role : Role) → Monitor Answer (Watch role)
  | .parent =>
      ⟨Receiving.next, Receiving.Allows setting, Receiving.Safe setting⟩
  | .child =>
      ⟨Writing.next, fun _ => Writing.Allows setting, Writing.Safe setting⟩

/-- Both monitors at `fork`. -/
def watchStart : (role : Role) → Watch role
  | .parent => {}
  | .child => {}

/-- What the processes establish when they return. -/
def post : (role : Role) → Outcome role → Watch role → Prop
  | .parent => fun result receiving =>
      receiving.failed = false →
      ∃ status,
        receiving.reaped = some status ∧
          (status = .exited 0 → result = .success)
  | .child => fun _ writing => writing.exited = true

/-- The kernel and what the processes know. -/
structure Joint
    (kernel : Kernel)
    (watch : (role : Role) → Watch role) : Prop where
  contents :
    (watch .parent).received ++ kernel.fifo =
      if (watch .child).wrote then setting.message else []
  reaped :
    ∀ status,
      (watch .parent).reaped = some status →
      kernel.life = .ended status
  succeeded :
    kernel.life = .ended (.exited 0) → (watch .child).wrote = true
  hungUp : kernel.life ≠ .running → kernel.writer = none
  exited : (watch .child).exited = true → kernel.life ≠ .running

section Child

variable {setting : Setting}

/-- The write of the child is told to be done only if it is. -/
theorem write_ensures
    {writing : Writing}
    (writer : Fd)
    (before : writing.wrote = false) :
    (retryEintr (Syscall.invoke (.write writer setting.message))).Ensures
      (monitor setting .child)
      (fun result after =>
        result.Meets (fun _ => True) (fun _ => after.wrote = true))
      writing := by
  refine retryEintr_ensures (fun current => current.wrote = false) ?_ before
  intro current notYet
  refine .request ⟨rfl, notYet⟩ ?_
  intro answer _
  cases answer with
  | error error =>
      refine ⟨fun _ => ?_, fun _ => trivial⟩
      simp [monitor, Writing.next, Except.toOption, notYet]
  | ok count => exact Bool.or_true _

/-- The child keeps its side. -/
theorem child_ensures :
    (child setting.message setting.held).Ensures (monitor setting .child)
      (post .child) {} := by
  refine .request_bind trivial ?_
  intro _ _
  refine .request_bind trivial ?_
  rintro (error | writer) _
  · refine .request ?_ fun _ _ => rfl
    exact fun zero => absurd zero (by decide)
  refine .bind ((write_ensures writer rfl).mono ?_)
  intro count after wrote
  refine .request_bind trivial ?_
  intro closed _
  refine .request ?_ fun _ _ => rfl
  intro zero
  cases count with
  | error error =>
      simp [Except.toOption] at zero
  | ok count => exact wrote

end Child

section Parent

variable {setting : Setting} {receiving : Receiving}

/-- Waiting reports a status, or fails. -/
theorem waitForChild_ensures
    (reaped : receiving.reaped = none)
    (received : receiving.received = []) :
    (waitForChild setting.child).Ensures (monitor setting .parent)
      (fun result after =>
        result.Meets
          (fun _ =>
            after.reaped = none ∧ after.received = [] ∧ after.failed = true)
          (fun status =>
            after = { receiving with reaped := some status }))
      receiving := by
  refine retryEintr_ensures (fun current => current = receiving) ?_ rfl
  rintro current rfl
  refine .request ⟨rfl, reaped, received⟩ ?_
  intro answer _
  cases answer with
  | error error =>
      refine ⟨?_, ?_⟩
      · rintro rfl
        simp [monitor, Receiving.next, Fails, Except.toOption]
      · intro permanent
        refine ⟨?_, ?_, ?_⟩
        · simp [monitor, Receiving.next, Except.toOption, reaped]
        · simp [monitor, Receiving.next, received]
        · simp [monitor, Receiving.next, Fails, permanent]
  | ok status =>
      simp [monitor, Receiving.next, Fails, Except.toOption, Result.Meets]

/-- What the parent has while it reads, as long as nothing has failed. -/
structure Filling
    (setting : Setting)
    (start : Receiving)
    (used : List UInt8)
    (receiving : Receiving) : Prop where
  received : receiving = { start with received := used }
  front : used <+: setting.message

/-- The parent has the whole message, or something has failed. -/
def Filled
    (setting : Setting)
    (start : Receiving)
    (result : Result (List UInt8))
    (after : Receiving) : Prop :=
  result = .ok setting.message ∧
      after = { start with received := setting.message } ∨
    after.failed = true

/-- An interrupted call changes nothing. -/
theorem next_poll_interrupted (fd : Fd) (timeout : Nat) :
    receiving.next (.poll fd timeout) (.error .eintr) = receiving := by
  simp [Receiving.next, Fails]

/-- An interrupted read changes nothing. -/
theorem next_read_interrupted (fd : Fd) (size : Nat) :
    receiving.next (.read fd size) (.error .eintr) = receiving := by
  simp [Receiving.next, Fails, Except.toOption]

/-- A poll that is expected to find data reports it, or fails. -/
theorem poll_ensures
    (expects : receiving.Expects setting) :
    (retryEintr
        (Syscall.invoke
          (.poll setting.held.readDescriptor 3000))).Ensures
      (monitor setting .parent)
      (fun result after =>
        result.Meets (fun _ => after.failed = true)
          (fun outcome =>
            ∃ revents,
              outcome = .ready revents ∧
                ((revents.pollnval = true ∨ revents.pollerr = true) ∧
                    after.failed = true ∨
                  revents.pollnval = false ∧ revents.pollerr = false ∧
                    after = receiving)))
      receiving := by
  refine retryEintr_ensures (fun current => current = receiving) ?_ rfl
  rintro current rfl
  refine .request ⟨rfl, expects⟩ ?_
  intro answer allowed
  cases answer with
  | error error =>
      refine ⟨?_, ?_⟩
      · rintro rfl
        exact next_poll_interrupted _ _
      · intro permanent
        simp [monitor, Receiving.next, Fails, Result.Meets, permanent]
  | ok outcome =>
      cases outcome with
      | timedOut => exact (allowed rfl).elim
      | ready revents =>
          refine ⟨revents, rfl, ?_⟩
          cases invalid : revents.pollnval <;> cases error : revents.pollerr <;>
            simp [monitor, Receiving.next, Fails, invalid, error]

/-- A read that is expected to find data gets some, or fails. -/
theorem read_ensures
    {size : Nat}
    (positive : 0 < size)
    (expects : receiving.Expects setting) :
    (retryEintr
        (Syscall.invoke
          (.read setting.held.readDescriptor size))).Ensures
      (monitor setting .parent)
      (fun result after =>
        result.Meets (fun _ => after.failed = true)
          (fun bytes =>
            bytes ≠ [] ∧
              receiving.received ++ bytes <+: setting.message ∧
              after =
                { receiving with
                  received := receiving.received ++ bytes }))
      receiving := by
  refine retryEintr_ensures (fun current => current = receiving) ?_ rfl
  rintro current rfl
  refine .request ⟨rfl, positive, expects⟩ ?_
  intro answer allowed
  cases answer with
  | error error =>
      refine ⟨?_, ?_⟩
      · rintro rfl
        exact next_read_interrupted _ _
      · intro permanent
        simp [monitor, Receiving.next, Fails, Result.Meets, permanent]
  | ok bytes =>
      refine ⟨allowed.1, allowed.2, ?_⟩
      simp [monitor, Receiving.next, Fails, Except.toOption]

/-- The rest of a reading iteration. -/
theorem readAnswered_meets
    {start after : Receiving}
    {used : List UInt8}
    {result : Result (List UInt8)}
    (read :
      result.Meets (fun _ => after.failed = true)
        (fun bytes =>
          bytes ≠ [] ∧
            used ++ bytes <+: setting.message ∧
            after = { start with received := used ++ bytes })) :
    (readAnswered used result).Meets (Filling setting start)
      (Filled setting start) after := by
  cases result with
  | error error => exact .inr read
  | ok bytes =>
      obtain ⟨nonempty, front, received⟩ := read
      cases bytes with
      | nil => exact (nonempty rfl).elim
      | cons byte bytes => exact ⟨received, front⟩

/-- `read_exact_with_poll` gets exactly the message, or something fails. -/
theorem readExactWithPoll_ensures
    (exited : receiving.reaped = some (.exited 0))
    (nothing : receiving.received = []) :
    (readExactWithPoll setting.held.readDescriptor
        setting.message.length).Ensures (monitor setting .parent)
      (Filled setting receiving) receiving := by
  have start : Filling setting receiving [] receiving :=
    ⟨by rw [← nothing], List.nil_prefix⟩
  refine .iterate (Filling setting receiving) ?_ start
  rintro used _ ⟨rfl, front⟩
  by_cases more : used.length < setting.message.length
  · have expects :
        Receiving.Expects setting { receiving with received := used } :=
      ⟨exited, more⟩
    simp only [more, ↓reduceIte]
    refine .bind ((poll_ensures expects).mono ?_)
    rintro (error | outcome) after polled
    · exact .pure (.inr polled)
    obtain ⟨revents, rfl, ⟨faulty, failed⟩ | ⟨valid, noError, rfl⟩⟩ := polled
    · dsimp only
      split
      · exact .pure (.inr failed)
      split
      · exact .pure (.inr failed)
      next noInvalid noError =>
        exact (faulty.elim noInvalid noError).elim
    · simp only [valid, noError, Bool.false_eq_true, ↓reduceIte]
      refine .bind
        ((read_ensures (Nat.sub_pos_of_lt more) expects).mono ?_)
      intro result after read
      exact .pure (readAnswered_meets read)
  · simp only [more, ↓reduceIte]
    refine .pure (.inl ?_)
    rw [front.eq_of_length_le (Nat.not_lt.mp more)]
    exact ⟨rfl, rfl⟩

/-- An attempt of the cleanup reports whether it fails. -/
def Attempts
    (setting : Setting)
    (attempt : Sys (Result Unit)) : Prop :=
  ∀ receiving : Receiving,
    attempt.Ensures (monitor setting .parent)
      (fun answer after =>
        after =
          { receiving with
            failed := receiving.failed || answer.toOption.isNone })
      receiving

/-- A release that fails is recorded, and one that succeeds keeps the result. -/
theorem release_records
    {attempt : Sys (Result Unit)}
    (attempts : Attempts setting attempt)
    (held : Bool)
    (result : Exit) :
    (release held attempt none result).Ensures (monitor setting .parent)
      (fun final after =>
        after.reaped = receiving.reaped ∧
          (after.failed = false →
            final = result ∧ receiving.failed = false)) receiving := by
  apply release_answers
  · exact fun _ => ⟨rfl, fun fine => ⟨rfl, fine⟩⟩
  · intro _
    refine (attempts receiving).mono ?_
    rintro (error | ⟨⟩) after rfl
    · refine ⟨rfl, fun fine => ?_⟩
      simp [Except.toOption] at fine
    · refine ⟨rfl, fun fine => ⟨rfl, ?_⟩⟩
      simpa [Except.toOption] using fine

theorem close_attempts (fd : Fd) :
    Attempts setting (Syscall.invoke (.close fd)) :=
  fun _ => .request trivial fun _ _ => rfl

theorem unlink_attempts (path : String) :
    Attempts setting (Syscall.invoke (.unlink path)) :=
  fun _ => .request trivial fun _ _ => rfl

theorem rmdir_attempts (path : String) :
    Attempts setting (Syscall.invoke (.rmdir path)) :=
  fun _ => .request trivial fun _ _ => rfl

/-- The cleanup behind the child: the descriptor and the two names. -/
def cleanupFiles (held : Held) (result : Exit) : Sys Exit := do
  let result ←
    release (held.readDescriptor ≥ 0)
      (Syscall.invoke (.close held.readDescriptor)) none result
  let result ←
    release held.fifoCreated (Syscall.invoke (.unlink held.fifoPath)) none
      result
  release held.directory.isSome
    (Syscall.invoke (.rmdir (held.directory.getD ""))) none result

/-- The rest of the cleanup succeeds only if nothing has failed. -/
theorem cleanupFiles_records (held : Held) (result : Exit) :
    (cleanupFiles held result).Ensures (monitor setting .parent)
      (fun final after =>
        after.reaped = receiving.reaped ∧
          (after.failed = false →
            final = result ∧ receiving.failed = false)) receiving := by
  refine .bind ((release_records (close_attempts _) _ result).mono ?_)
  rintro closed afterClose ⟨closeReaped, closeFine⟩
  refine .bind ((release_records (unlink_attempts _) _ closed).mono ?_)
  rintro unlinked afterUnlink ⟨unlinkReaped, unlinkFine⟩
  refine (release_records (rmdir_attempts _) _ unlinked).mono ?_
  rintro removed afterRmdir ⟨rmdirReaped, rmdirFine⟩
  refine ⟨rmdirReaped.trans (unlinkReaped.trans closeReaped), ?_⟩
  intro fine
  obtain ⟨rfl, unlinkFailed⟩ := rmdirFine fine
  obtain ⟨rfl, closeFailed⟩ := unlinkFine unlinkFailed
  exact closeFine closeFailed

/-- The cleanup of a parent that has failed. -/
theorem cleanup_failed
    {held : Held}
    (result : Exit)
    (same : held.child = some setting.child)
    (reaped : receiving.reaped = none)
    (received : receiving.received = [])
    (failed : receiving.failed = true) :
    (cleanup held result).Ensures (monitor setting .parent)
      (fun _ after => after.failed = true) receiving := by
  have files :
      ∀ result after,
        after.failed = true →
        (cleanupFiles held result).Ensures (monitor setting .parent)
          (fun _ final => final.failed = true) after := by
    intro result after stays
    refine (cleanupFiles_records held result).mono ?_
    intro final last recorded
    by_contra fine
    have before := (recorded.2 ((Bool.not_eq_true _).mp fine)).2
    rw [stays] at before
    cases before
  refine .bind (Program.Ensures.mono ?_ (files · ·))
  rw [same]
  unfold cleanupChild
  cases held.childReaped with
  | true => exact .pure failed
  | false =>
      have killed :
          (release true (kill setting.child .sigterm) (some .esrch)
              result).Ensures (monitor setting .parent)
            (fun _ after => after = receiving) receiving := by
        apply release_ensures
        · exact nofun
        · intro _
          refine .request trivial ?_
          intro answer _
          have unchanged :
              receiving.next (.kill setting.child .sigterm) answer =
                receiving := by
            simp [Receiving.next, Fails]
          exact ⟨unchanged, unchanged⟩
      refine .bind (killed.mono ?_)
      rintro result _ rfl
      refine .bind ((waitForChild_ensures reaped received).mono ?_)
      rintro (error | status) after waited
      · exact .pure waited.2.2
      · refine .pure ?_
        rw [waited]
        exact failed

/-- A success of the cleanup means that nothing has failed. -/
theorem cleanup_reaped
    {held : Held}
    (result : Exit)
    (reaped : held.childReaped = true) :
    (cleanup held result).Ensures (monitor setting .parent)
      (fun final after =>
        after.reaped = receiving.reaped ∧
          (after.failed = false →
            final = result ∧ receiving.failed = false)) receiving := by
  have noChild :
      (cleanupChild held.child held.childReaped result).Ensures
        (monitor setting .parent)
        (fun after final => after = result ∧ final = receiving)
        receiving := by
    unfold cleanupChild
    rw [reaped]
    cases held.child with
    | none => exact .pure ⟨rfl, rfl⟩
    | some child => exact .pure ⟨rfl, rfl⟩
  refine .bind (noChild.mono ?_)
  rintro _ _ ⟨rfl, rfl⟩
  exact cleanupFiles_records held _

/-- The parent keeps its side. -/
theorem parentReceiving_ensures :
    (parentReceiving setting.message
        { setting.held with child := some setting.child }
        setting.child).Ensures (monitor setting .parent) (post .parent)
      {} := by
  refine .bind ((waitForChild_ensures rfl rfl).mono ?_)
  rintro (error | status) after waited
  · refine (cleanup_failed .failure rfl waited.1 waited.2.1
      waited.2.2).mono ?_
    intro result final failed succeeded
    rw [failed] at succeeded
    cases succeeded
  obtain rfl := waited
  by_cases succeeded : status.succeeded
  · simp only [succeeded, ↓reduceIte]
    obtain rfl : status = .exited 0 := eq_of_beq succeeded
    refine .bind ((readExactWithPoll_ensures rfl rfl).mono ?_)
    rintro (error | received) after (⟨filled, rfl⟩ | failed)
    · cases filled
    · refine (cleanup_reaped .failure rfl).mono ?_
      rintro result final ⟨_, fine⟩ succeeds
      rw [(fine succeeds).2] at failed
      cases failed
    · obtain rfl : received = setting.message := Except.ok.inj filled
      dsimp only
      rw [if_pos rfl]
      refine (cleanup_reaped .success rfl).mono ?_
      rintro result final ⟨reaped, fine⟩ succeeds
      exact ⟨.exited 0, reaped, fun _ => (fine succeeds).1⟩
    · refine (cleanup_reaped _ rfl).mono ?_
      rintro result final ⟨_, fine⟩ succeeds
      rw [(fine succeeds).2] at failed
      cases failed
  · simp only [succeeded]
    refine (cleanup_reaped .failure rfl).mono ?_
    rintro result final ⟨reaped, _⟩ _
    refine ⟨status, reaped, ?_⟩
    rintro rfl
    exact (succeeded rfl).elim

end Parent

section Kernel

variable {setting : Setting} {kernel : Kernel}
  {watch : (role : Role) → Watch role}

/-- What the parent receives is taken out of the FIFO, and nothing else. -/
theorem Joint.parentTold
    (joint : Joint setting kernel watch)
    {told : Receiving}
    {fifo : List UInt8}
    (contents :
      told.received ++ fifo = (watch .parent).received ++ kernel.fifo)
    (reaped :
      ∀ status, told.reaped = some status → kernel.life = .ended status) :
    Joint setting { kernel with fifo := fifo }
      (Function.update watch .parent told) where
  contents := by
    rw [Function.update_self, Function.update_of_ne (by decide), contents]
    exact joint.contents
  reaped := by
    rw [Function.update_self]
    exact reaped
  succeeded := by
    rw [Function.update_of_ne (by decide)]
    exact joint.succeeded
  hungUp := joint.hungUp
  exited := by
    rw [Function.update_of_ne (by decide)]
    exact joint.exited

/-- A parent that expects data finds it in the FIFO, and no writer. -/
theorem Joint.expected
    (joint : Joint setting kernel watch)
    (expects : Receiving.Expects setting (watch .parent)) :
    (watch .parent).received ++ kernel.fifo = setting.message ∧
      kernel.fifo ≠ [] ∧ kernel.writer = none := by
  have ended := joint.reaped _ expects.exited
  have contents := joint.contents
  rw [joint.succeeded ended, if_pos rfl] at contents
  refine ⟨contents, ?_, ?_⟩
  · intro nothing
    have more := expects.more
    rw [nothing, List.append_nil] at contents
    rw [contents] at more
    exact Nat.lt_irrefl _ more
  · apply joint.hungUp
    rw [ended]
    exact nofun

/-- What the child does while it runs keeps the parent's account. -/
theorem Joint.childTold
    (joint : Joint setting kernel watch)
    (running : kernel.life = .running)
    {after : Kernel}
    {told : Writing}
    (contents :
      (watch .parent).received ++ after.fifo =
        if told.wrote then setting.message else [])
    (life : after.life = .running)
    (exited : told.exited = (watch .child).exited) :
    Joint setting after (Function.update watch .child told) where
  contents := by
    rw [Function.update_self, Function.update_of_ne (by decide)]
    exact contents
  reaped := by
    rw [Function.update_of_ne (by decide)]
    intro status reaped
    have ended := joint.reaped status reaped
    rw [running] at ended
    cases ended
  succeeded := by
    rw [life]
    exact nofun
  hungUp := fun notRunning => (notRunning life).elim
  exited := by
    rw [Function.update_self, exited]
    intro left
    exact (joint.exited left running).elim

/-- A child that ends has exited with 0 only if it wrote the message. -/
theorem Joint.childEnded
    (joint : Joint setting kernel watch)
    (running : kernel.life = .running)
    {status : WaitStatus}
    {told : Writing}
    (wrote : told.wrote = (watch .child).wrote)
    (exitsWith : status = .exited 0 → told.wrote = true) :
    Joint setting (kernel.ended status)
      (Function.update watch .child told) where
  contents := by
    rw [Function.update_self, Function.update_of_ne (by decide), wrote]
    exact joint.contents
  reaped := by
    rw [Function.update_of_ne (by decide)]
    intro reported reaped
    have ended := joint.reaped reported reaped
    rw [running] at ended
    cases ended
  succeeded := by
    rw [Function.update_self]
    intro ended
    exact exitsWith (ChildLife.ended.inj ended)
  hungUp := fun _ => rfl
  exited := fun _ => nofun

/-- An answer is allowed and keeps the account. -/
theorem Joint.answered
    (joint : Joint setting kernel watch)
    {role : Role}
    {request : Syscall}
    {answer : Answer request}
    {after : Kernel}
    (safe : (monitor setting role).safe (watch role) request)
    (given : (rules setting).answers kernel role request answer after) :
    (monitor setting role).allows (watch role) request answer ∧
      Joint setting after
        (Function.update watch role
          ((monitor setting role).next (watch role) request answer)) := by
  cases given with
  | waitFailed error =>
      exact ⟨trivial, joint.parentTold rfl joint.reaped⟩
  | wait ended =>
      refine ⟨trivial, joint.parentTold rfl ?_⟩
      rintro status ⟨⟩
      exact ended
  | kill answer =>
      exact ⟨trivial, joint.parentTold rfl joint.reaped⟩
  | pollFailed error =>
      exact ⟨nofun, joint.parentTold rfl joint.reaped⟩
  | pollTimedOut nothing =>
      have found := (joint.expected safe.2).2.1
      exact (nothing (.inl found)).elim
  | pollReady readable polled =>
      exact ⟨nofun, joint.parentTold rfl joint.reaped⟩
  | readFailed error waits =>
      have found := (joint.expected safe.2.2).2.1
      refine ⟨fun blocks => waits blocks (.inl found), ?_⟩
      refine joint.parentTold ?_ joint.reaped
      exact congrArg (· ++ kernel.fifo) (List.append_nil _)
  | @read size bytes rest front some ended =>
      obtain ⟨contents, found, hungUp⟩ := joint.expected safe.2.2
      rw [front, ← List.append_assoc] at contents
      refine ⟨⟨?_, ⟨rest, contents⟩⟩, joint.parentTold ?_ joint.reaped⟩
      · intro nothing
        rcases ended nothing with noSize | ⟨nothingLeft, _⟩
        · exact Nat.ne_of_gt safe.2.1 noSize
        · exact found nothingLeft
      · rw [front, ← List.append_assoc]
        rfl
  | close answer =>
      exact ⟨trivial, joint.parentTold rfl joint.reaped⟩
  | unlink answer =>
      exact ⟨trivial, joint.parentTold rfl joint.reaped⟩
  | rmdir answer =>
      exact ⟨trivial, joint.parentTold rfl joint.reaped⟩
  | childClose running answer =>
      exact ⟨trivial, joint.childTold running joint.contents running rfl⟩
  | openFailed running error =>
      exact ⟨trivial, joint.childTold running joint.contents running rfl⟩
  | openWriter running fd =>
      exact ⟨trivial, joint.childTold running joint.contents running rfl⟩
  | writeFailed running error =>
      refine ⟨nofun, joint.childTold running ?_ running rfl⟩
      simpa [monitor, Except.toOption, Writing.next] using joint.contents
  | write running isWriter some whole room =>
      obtain ⟨rfl, notYet⟩ := safe
      have all := whole setting.atomic
      refine ⟨?_, joint.childTold running ?_ running rfl⟩
      · rintro count ⟨⟩
        exact all
      · have contents := joint.contents
        rw [notYet, if_neg Bool.false_ne_true,
          List.append_eq_nil_iff] at contents
        rw [contents.1, contents.2, all, List.take_length]
        simp [monitor, Writing.next, Except.toOption]
  | exit running =>
      refine ⟨trivial, joint.childEnded running rfl ?_⟩
      intro exited
      exact safe (WaitStatus.exited.inj exited)

/-- The child may be killed at any moment. -/
theorem Joint.evolved
    (joint : Joint setting kernel watch)
    {after : Kernel}
    (evolved : (rules setting).evolves kernel after) :
    Joint setting after watch := by
  cases evolved with
  | childKilled signal running =>
      have ended :
          Joint setting (kernel.ended (.signaled signal))
            (Function.update watch .child (watch .child)) :=
        joint.childEnded running rfl nofun
      rwa [Function.update_eq_self] at ended

/-- The contract of the two processes. -/
abbrev Contract (setting : Setting) (state : State) : Prop :=
  Composed (monitor setting) watchStart (Joint setting) post state

/-- The contract holds at `fork`. -/
theorem Contract.start (fuel : Nat) :
    Contract setting (Handover.start setting fuel) := by
  apply Composed.start
  · exact ⟨rfl, nofun, nofun, fun _ => rfl, nofun⟩
  · intro role
    cases role with
    | parent => exact parentReceiving_ensures fuel
    | child => exact child_ensures fuel

/-- The contract holds of every state that is reached. -/
theorem Contract.reaches
    {fuel : Nat}
    {state : State}
    (reaches : Reaches (rules setting) (Handover.start setting fuel) state) :
    Contract setting state := by
  refine Composed.reaches ?_ ?_ (Contract.start fuel) reaches
  · intro kernel watch role request answer after joint safe given
    exact joint.answered safe given
  · intro kernel watch after joint evolved
    exact joint.evolved evolved

/-- What each process was answered is what its monitor allows. -/
theorem Contract.legal
    {fuel : Nat}
    {state : State}
    (reaches : Reaches (rules setting) (Handover.start setting fuel) state)
    (role : Role) :
    (monitor setting role).Legal (watchStart role) (state.events role) := by
  refine Composed.legal ?_ ?_ (Contract.start fuel) reaches role
  · intro kernel watch role request answer after joint safe given
    exact joint.answered safe given
  · intro kernel watch after joint evolved
    exact joint.evolved evolved

end Kernel

end AdvanceUnix.Fifo.Handover
