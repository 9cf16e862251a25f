import AdvanceUnix.MemfdSeals
import Mathlib.Logic.Basic

namespace AdvanceUnix.MemfdSeals

open CallTree Audit PositionedIo

/-!
# What the seals of a memory file are worth

Seals are never taken away, and a file with all four of them does not change
any more.  The program succeeds exactly if the seals are enforced and no call
fails.
-/

variable {world : World} {watched : Watched} {payload : List UInt8}
  {fd : Fd}

section Cleanup

/-- What the program has established when it returns. -/
structure Returned
    (world : World)
    (payload : List UInt8)
    (result : Exit)
    (after : Watched) : Prop where
  closed : after.kernel.fd = none
  verdict :
    result = .success ↔ world.enforces = true ∧ after.failed = false
  success :
    result = .success →
    after.kernel.content = payload ∧
      ∃ fd,
        after.notes =
          [.addSeals fd sealWrite, .pwrite fd [88] 0,
            .ftruncate fd (payload.length + 1),
            .ftruncate fd (payload.length - 1)]

/-- The cleanup section closes the file. -/
theorem cleanup_ensures
    {result : Exit}
    (nonneg : 0 ≤ fd)
    (isOpen : watched.kernel.fd = some fd) :
    (cleanup fd result).Ensures (monitor world)
      (fun final after =>
        ∃ failed,
          after =
              { watched with
                kernel := { watched.kernel with fd := none }
                failed := failed } ∧
            Spoils .failure result final watched.failed failed)
      watched := by
  refine .releasing ?_ fun _ => .request isOpen ?_
  · exact fun invalid => (of_decide_eq_false invalid nonneg).elim
  · intro answer _
    cases answer with
    | error error =>
        exact ⟨true, Noted.same rfl (Bool.or_true _) (List.append_nil _),
          .inr ⟨rfl, rfl⟩⟩
    | ok done =>
        exact ⟨watched.failed,
          Noted.same rfl (Bool.or_false _) (List.append_nil _),
          .inl ⟨rfl, rfl⟩⟩

/-- Giving up after a failure, or where seals are not enforced. -/
theorem giveUp_ensures
    (nonneg : 0 ≤ fd)
    (isOpen : watched.kernel.fd = some fd)
    (blamed : world.enforces = true → watched.failed = true) :
    (cleanup fd .failure).Ensures (monitor world)
      (fun result after => Returned world payload result after)
      watched := by
  refine (cleanup_ensures nonneg isOpen).mono ?_
  rintro final after ⟨failed, rfl, spoils⟩
  have failure : final = .failure := by
    rcases spoils with ⟨same, _⟩ | ⟨same, _⟩ <;> exact same
  subst failure
  refine ⟨rfl, iff_of_false nofun ?_, nofun⟩
  rintro ⟨enforces, unfailed⟩
  have failing := blamed enforces
  rcases spoils with ⟨_, same⟩ | ⟨_, isFailed⟩
  · exact Bool.noConfusion (failing.symm.trans (same.symm.trans unfailed))
  · exact Bool.noConfusion (isFailed.symm.trans unfailed)

end Cleanup

section Writing

/-- A file that is being written. -/
def writtenKernel
    (world : World)
    (fd : Fd)
    (content : List UInt8) : Kernel where
  fd := some fd
  content := content
  offset := content.length
  seals := world.further ||| 0#32

/-- A new file has none of the four seals. -/
theorem written_unsealed (content : List UInt8) (sealKind : Seal) :
    ¬ (writtenKernel world fd content).Has sealKind := by
  simp [Kernel.Has, writtenKernel, world.further_high sealKind]

/-- Bytes that are written come behind the others. -/
theorem written_next
    (world : World)
    (fd : Fd)
    (content : List UInt8)
    {bytes : List UInt8}
    {count : Nat}
    (within : count + 1 ≤ bytes.length) :
    (writtenKernel world fd content).next world (.write fd bytes)
        (.ok (count + 1)) =
      writtenKernel world fd (content ++ bytes.take (count + 1)) := by
  have length : (bytes.take (count + 1)).length = count + 1 :=
    List.length_take_of_le within
  simp only [Kernel.next, writtenKernel, stored_inside (Nat.le_refl _),
    overwrite_end, List.length_append, length]

/-- The file has all that was to be written, or a call has failed. -/
theorem writeAll_ensures :
    (writeAll fd payload).Ensures (monitor world)
      (WriteOutcome payload.length
        (fun written after =>
          after = { kernel := writtenKernel world fd (payload.take written) })
        (fun _ after =>
          after.kernel.fd = some fd ∧ after.failed = true))
      { kernel := writtenKernel world fd [] } := by
  refine .writing ?_ rfl
  rintro written _ unfinished rfl
  refine .request rfl ?_
  intro answer allowed
  cases answer with
  | error error =>
      refine ⟨?_, ?_⟩
      · rintro rfl
        rfl
      · intro permanent
        refine ⟨rfl, ?_⟩
        simp [monitor, noting, audit, Fails, FailsBut, permanent]
  | ok count =>
      cases count with
      | zero => exact ⟨rfl, rfl⟩
      | succ count =>
          have within : count + 1 ≤ (payload.drop written).length :=
            allowed.2
          refine ⟨le_of_le_of_eq within List.length_drop, ?_⟩
          have next := written_next world fd (payload.take written) within
          rw [← List.take_add] at next
          exact Noted.same next rfl rfl

end Writing

section Verifying

/-- The file once all seals are in place. -/
def sealedKernel
    (world : World)
    (fd : Fd)
    (payload : List UInt8) : Kernel :=
  { writtenKernel world fd payload with
    seals := world.further ||| 0#32 ||| dataSeals ||| sealSeal }

/-- It has the seals. -/
theorem sealed_has (sealKind : Seal) :
    (sealedKernel world fd payload).Has sealKind := by
  cases sealKind <;>
    simp [Kernel.Has, sealedKernel, Seal.index, dataSeals, sealSeal]

/-- The data seals do not forbid to add another. -/
theorem data_unsealed :
    ¬ ({ writtenKernel world fd payload with
          seals := world.further ||| 0#32 ||| dataSeals } : Kernel).Has
        .sealing := by
  have further := world.further_high .sealing
  simp only [Kernel.Has, BitVec.getLsbD_or, further]
  decide

/-- The seals that the program looks for are among them. -/
theorem sealed_observed :
    (sealedKernel world fd payload).seals &&& expectedSeals =
      expectedSeals := by
  have expected :
      (sealedKernel world fd payload).seals =
        world.further ||| 0#32 ||| expectedSeals := by
    rw [expectedSeals, ← BitVec.or_assoc]
    rfl
  rw [expected]
  ext index
  simp only [BitVec.getElem_and, BitVec.getElem_or]
  cases expectedSeals[index] <;> simp

/-- A forbidden call fails unless it is refused, or nothing is enforced. -/
theorem Kernel.Answers.refused
    {α : Type}
    {kernel : Kernel}
    {request : Call}
    {valid : α → Prop}
    {answer : Result α}
    (allowed : kernel.Answers world request valid answer)
    (forbidden : kernel.Forbids request) :
    (Refused answer = false ∧
        (world.enforces = true → FailsBut eperm answer = true)) ∨
      (Refused answer = true ∧ answer = .error eperm ∧
        world.enforces = true) := by
  cases answer with
  | error error =>
      by_cases denied : error = eperm
      · exact .inr ⟨decide_eq_true denied, congrArg _ denied,
          (allowed denied).1⟩
      · exact .inl ⟨decide_eq_false denied, fun _ => decide_eq_true denied⟩
  | ok value =>
      exact .inl ⟨rfl, fun enforces =>
        (allowed.1 ⟨enforces, forbidden⟩).elim⟩

/-- Every byte of the sealed file may be read. -/
theorem preadAll_ensures {refused : List Call} :
    (preadAll fd payload.length 0).Ensures (monitor world)
      (fun result after =>
        after.kernel = sealedKernel world fd payload ∧
          after.notes = refused ∧
          result.Meets (fun _ => after.failed = true)
            (fun buffer => buffer = payload ∧ after.failed = false))
      { kernel := sealedKernel world fd payload, notes := refused } := by
  have reading :
      (preadAll fd payload.length 0).Ensures (monitor world)
        (ReadOutcome payload payload.length (fun _ => .error .eio)
          (fun _ after =>
            after =
              { kernel := sealedKernel world fd payload
                notes := refused })
          (fun _ after =>
            after =
              { kernel := sealedKernel world fd payload
                failed := true
                notes := refused }))
        { kernel := sealedKernel world fd payload, notes := refused } := by
    refine .reading ?_ rfl
    rintro received _ _ _ rfl
    refine .request rfl ?_
    intro answer allowed
    cases answer with
    | error error =>
        refine ⟨?_, ?_⟩
        · rintro rfl
          exact Noted.same rfl rfl (List.append_nil _)
        · intro permanent
          exact Noted.same rfl (decide_eq_true permanent) (List.append_nil _)
    | ok bytes =>
        refine ⟨?_, Noted.same rfl rfl (List.append_nil _)⟩
        rw [Nat.zero_add] at allowed
        exact allowed
  refine reading.mono ?_
  intro result after outcome
  cases outcome with
  | complete enough holds =>
      subst holds
      exact ⟨rfl, rfl, List.take_length, rfl⟩
  | ended short _ => exact (Nat.lt_irrefl _ short).elim
  | failed error failure =>
      subst failure
      exact ⟨rfl, rfl, rfl⟩

/-- `main` once the seals are in place. -/
theorem verify_ensures
    (nonempty : payload ≠ [])
    (nonneg : 0 ≤ fd) :
    (verify payload fd).Ensures (monitor world)
      (fun result after => Returned world payload result after)
      { kernel := sealedKernel world fd payload } := by
  have positive : 0 < payload.length := List.length_pos_iff.mpr nonempty
  refine .request_bind rfl ?_
  intro adding allowed
  rcases allowed.refused (sealed_has .sealing) with
    ⟨notRefused, failing⟩ | ⟨isRefused, rfl, enforces⟩
  · simp only [notRefused, Bool.false_eq_true, ↓reduceIte]
    refine giveUp_ensures nonneg ?_ failing
    cases adding <;> rfl
  simp only [isRefused, ↓reduceIte]
  refine .request_bind rfl ?_
  intro writing allowed
  rcases allowed.refused (.inl (sealed_has .write)) with
    ⟨notRefused, failing⟩ | ⟨isRefused, rfl, _⟩
  · simp only [notRefused, Bool.false_eq_true, ↓reduceIte]
    refine giveUp_ensures nonneg ?_ failing
    cases writing <;> rfl
  simp only [isRefused, ↓reduceIte]
  refine .bind (.request_bind rfl ?_)
  intro growing allowed
  refine .pure ?_
  rcases allowed.refused (.inr ⟨sealed_has .grow, Int.lt_succ _⟩) with
    ⟨notRefused, failing⟩ | ⟨isRefused, rfl, _⟩
  · simp only [notRefused, Bool.false_eq_true, ↓reduceIte]
    refine giveUp_ensures nonneg ?_ failing
    cases growing <;> rfl
  simp only [isRefused, ↓reduceIte]
  refine .bind (.request_bind rfl ?_)
  intro shrinking allowed
  refine .pure ?_
  have smaller : (payload.length : Int) - 1 < payload.length :=
    Int.sub_lt_self _ Int.zero_lt_one
  have valid : 0 ≤ (payload.length : Int) - 1 :=
    Int.sub_nonneg_of_le (Int.ofNat_le.mpr positive)
  rcases allowed.refused (.inl ⟨sealed_has .shrink, valid, smaller⟩) with
    ⟨notRefused, failing⟩ | ⟨isRefused, rfl, _⟩
  · simp only [notRefused, Bool.false_eq_true, ↓reduceIte]
    refine giveUp_ensures nonneg ?_ failing
    cases shrinking <;> rfl
  simp only [isRefused, ↓reduceIte]
  refine .bind (.mono preadAll_ensures ?_)
  rintro result after ⟨kernel, refused, met⟩
  cases result with
  | error error =>
      exact giveUp_ensures nonneg (by rw [kernel]; rfl) fun _ => met
  | ok buffer =>
      obtain ⟨rfl, unfailed⟩ := met
      simp only [↓reduceIte]
      refine (cleanup_ensures nonneg (by rw [kernel]; rfl)).mono ?_
      rintro final _ ⟨failed, rfl, spoils⟩
      refine ⟨rfl, ?_, fun _ => ⟨by rw [kernel]; rfl, fd, refused⟩⟩
      rcases spoils with ⟨rfl, same⟩ | ⟨rfl, isFailed⟩
      · exact iff_of_true rfl ⟨enforces, same.trans unfailed⟩
      · refine iff_of_false nofun fun ⟨_, notFailed⟩ => ?_
        exact Bool.noConfusion (isFailed.symm.trans notFailed)

/-- What `main` establishes. -/
theorem main_ensures (nonempty : payload ≠ []) :
    (mainStoring payload).Ensures (monitor world)
      (fun result after => Returned world payload result after)
      { kernel := {} } := by
  refine .request_bind ⟨rfl, rfl⟩ ?_
  intro creating allowed
  cases creating with
  | error error =>
      refine .releasing (fun _ => ?_) nofun
      exact ⟨rfl, iff_of_false nofun nofun, nofun⟩
  | ok fd =>
  have nonneg : 0 ≤ fd := allowed
  refine .bind (.mono writeAll_ensures ?_)
  intro written after outcome
  cases written with
  | error error =>
      exact giveUp_ensures nonneg outcome.1 fun _ => outcome.2
  | ok done =>
  have state : after = { kernel := writtenKernel world fd payload } := by
    rw [outcome, List.take_length]
  subst state
  refine .request_bind rfl ?_
  intro adding allowed
  cases adding with
  | error error =>
      refine giveUp_ensures nonneg rfl fun _ => decide_eq_true ?_
      exact fun denied => written_unsealed _ .sealing (allowed denied).2
  | ok done =>
  refine .request_bind rfl ?_
  intro sealing allowed
  cases sealing with
  | error error =>
      refine giveUp_ensures nonneg rfl fun _ => decide_eq_true ?_
      exact fun denied => data_unsealed (allowed denied).2
  | ok done =>
  refine .request_bind rfl ?_
  intro observing allowed
  cases observing with
  | error error =>
      exact giveUp_ensures nonneg rfl fun _ => rfl
  | ok observed =>
  have observes : observed &&& expectedSeals = expectedSeals := by
    have isSeals : observed = (sealedKernel world fd payload).seals :=
      allowed
    rw [isSeals]
    exact sealed_observed
  simp only [observes, ↓reduceIte]
  exact verify_ensures nonempty nonneg

end Verifying

section Runs

variable {kernel : Kernel} {events : List (Event Answer)}

/-- No call takes a seal away. -/
theorem Kernel.next_seals
    {request : Call}
    {answer : Answer request}
    {index : Nat}
    (safe : kernel.Safe request)
    (has : kernel.seals.getLsbD index = true) :
    (kernel.next world request answer).seals.getLsbD index = true := by
  cases request with
  | memfdCreate closeOnExec allowSealing =>
      rw [safe.2] at has
      simp at has
  | addSeals fd seals =>
      cases answer with
      | error error => exact has
      | ok done => simp [Kernel.next, has]
  | _ => cases answer <;> exact has

/-- A file with all four seals is not changed by any call. -/
theorem Kernel.next_content
    {request : Call}
    {answer : Answer request}
    (enforces : world.enforces = true)
    (isSealed : ∀ sealKind, kernel.Has sealKind)
    (safe : kernel.Safe request)
    (allowed : kernel.Allows world request answer) :
    (kernel.next world request answer).content = kernel.content := by
  cases request with
  | memfdCreate closeOnExec allowSealing =>
      have has := isSealed .write
      rw [Kernel.Has, safe.2] at has
      simp at has
  | write fd bytes =>
      cases answer with
      | error error => rfl
      | ok count =>
          exact (allowed.1 ⟨enforces, .inl (isSealed .write)⟩).elim
  | pwrite fd bytes offset =>
      cases answer with
      | error error => rfl
      | ok count =>
          exact (allowed.1 ⟨enforces, .inl (isSealed .write)⟩).elim
  | ftruncate fd size =>
      cases answer with
      | error error => rfl
      | ok done =>
          obtain ⟨permitted, nonneg⟩ := allowed
          have notSmaller : ¬ size < kernel.content.length :=
            fun smaller =>
              permitted ⟨enforces, .inl ⟨isSealed .shrink, nonneg, smaller⟩⟩
          have notLarger : ¬ (kernel.content.length : Int) < size :=
            fun larger =>
              permitted ⟨enforces, .inr ⟨isSealed .grow, larger⟩⟩
          have same : size.toNat = kernel.content.length := by omega
          simp [Kernel.next, padded, same]
  | _ => cases answer <;> rfl

/-- So seals stay. -/
theorem seals_after
    {index : Nat}
    (safe : (monitor world).Safe watched events)
    (has : watched.kernel.seals.getLsbD index = true) :
    ((monitor world).after watched events).kernel.seals.getLsbD index =
      true :=
  (monitor world).keeps
    (fun watched => watched.kernel.seals.getLsbD index = true)
    (fun has safe => Kernel.next_seals safe has) has safe

/-- And a sealed file does. -/
theorem content_after
    (enforces : world.enforces = true)
    (legal : (monitor world).Legal watched events)
    (safe : (monitor world).Safe watched events)
    (isSealed : ∀ sealKind, watched.kernel.Has sealKind) :
    ((monitor world).after watched events).kernel.content =
      watched.kernel.content := by
  induction events generalizing watched with
  | nil => rfl
  | cons event rest inductionHypothesis =>
      rw [Monitor.after, inductionHypothesis legal.2 safe.2]
      · exact Kernel.next_content enforces isSealed safe.1 legal.1
      · exact fun sealKind => Kernel.next_seals safe.1 (isSealed sealKind)

/-- What a run of the program shows. -/
structure SealVerdict
    (world : World)
    (payload : List UInt8)
    (events : List (Event Answer))
    (outcome : Option Exit) : Prop where
  sealsStay :
    ∀ before later index,
      events = before ++ later →
      ((audit world).kernelAfter {} before).seals.getLsbD index = true →
      ((audit world).kernelAfter {} events).seals.getLsbD index = true
  immutable :
    world.enforces = true →
    ∀ before later,
      events = before ++ later →
      (∀ sealKind, ((audit world).kernelAfter {} before).Has sealKind) →
      ((audit world).kernelAfter {} events).content =
        ((audit world).kernelAfter {} before).content
  owned :
    ∀ before event later,
      events = before ++ event :: later →
      ((audit world).kernelAfter {} before).Safe event.call
  closed :
    outcome ≠ none →
    ((audit world).kernelAfter {} events).fd = none
  verdict :
    outcome ≠ none →
    (outcome = some .success ↔
      world.enforces = true ∧ (audit world).failed events = false)
  success :
    outcome = some .success →
    ((audit world).kernelAfter {} events).content = payload ∧
      ∃ fd,
        events.flatMap refusedBy =
          [.addSeals fd sealWrite, .pwrite fd [88] 0,
            .ftruncate fd (payload.length + 1),
            .ftruncate fd (payload.length - 1)]

/--
Whatever the answers: what is sealed stays sealed and does not change, and the
program succeeds exactly if seals are enforced and nothing fails.
-/
theorem seal_verdict
    {world : World}
    {payload : List UInt8}
    {events : List (Event Answer)}
    {outcome : Option Exit}
    (nonempty : payload ≠ [])
    (run : (mainStoring payload).Run events outcome)
    (legal : (audit world).Legal {} events) :
    SealVerdict world payload events outcome := by
  have noted : (monitor world).Legal { kernel := {} } events :=
    noting_legal.mpr legal
  have safe := ((main_ensures nonempty).sound run noted).1
  obtain ⟨dutiful, ended⟩ := noting_sound (main_ensures nonempty) run legal
  have found (events : List (Event Answer)) :
      ((monitor world).after { kernel := {} } events).kernel =
        (audit world).kernelAfter {} events := by
    rw [monitor, noting_after]
  constructor
  case sealsStay =>
    rintro before later index rfl has
    rw [← found] at has ⊢
    rw [(monitor world).after_append]
    exact seals_after ((monitor world).safe_append.mp safe).2 has
  case immutable =>
    rintro enforces before later rfl isSealed
    rw [← found] at isSealed
    rw [← found, ← found, (monitor world).after_append]
    exact content_after enforces ((monitor world).legal_append.mp noted).2
      ((monitor world).safe_append.mp safe).2 isSealed
  case owned => exact dutiful
  case closed =>
    intro some
    obtain ⟨result, rfl⟩ := Option.ne_none_iff_exists'.mp some
    exact (ended result rfl).closed
  case verdict =>
    intro some
    obtain ⟨result, rfl⟩ := Option.ne_none_iff_exists'.mp some
    rw [Option.some_inj]
    exact (ended result rfl).verdict
  case success =>
    rintro rfl
    exact (ended .success rfl).success rfl

/-- A system with seals. -/
def withSeals : World where
  enforces := true
  further := 0#32
  further_high := by rintro (_ | _ | _ | _) <;> rfl

/-- The first write is short, and the seals are enforced. -/
def enforcing : Script Answer
  | _, .memfdCreate _ _ => .ok 3
  | index, .write _ bytes => .ok (if index = 1 then 5 else bytes.length)
  | index, .addSeals _ _ => if index = 6 then .error eperm else .ok ()
  | _, .getSeals _ => .ok 15#32
  | _, .pwrite _ _ _ => .error eperm
  | _, .ftruncate _ _ => .error eperm
  | _, .pread _ size _ => .ok (MemfdSeals.payload.take size)
  | _, .close _ => .ok ()

/-- The kernel may answer so. -/
theorem enforcing_legal :
    (audit withSeals).Legal {} (main.exec enforcing 3).1 := by
  have reads : Reads MemfdSeals.payload 21 MemfdSeals.payload :=
    ⟨List.prefix_refl _, by decide, nofun⟩
  have unsealed (content : List UInt8) (sealKind : Seal) :
      ¬ (writtenKernel withSeals 3 content).Has sealKind :=
    written_unsealed content sealKind
  have isSealed (sealKind : Seal) :
      (sealedKernel withSeals 3 MemfdSeals.payload).Has sealKind :=
    sealed_has sealKind
  have writable (content : List UInt8) (bytes : List UInt8) :
      ¬ (withSeals.enforces = true ∧
        (writtenKernel withSeals 3 content).Forbids (.write 3 bytes)) := by
    rintro ⟨_, write | ⟨grow, _⟩⟩
    · exact unsealed content .write write
    · exact unsealed content .grow grow
  have valid : (0 : Fd) ≤ 3 := by decide
  have short : 5 ≤ MemfdSeals.payload.length := by decide
  have rest : 16 ≤ (MemfdSeals.payload.drop 5).length := by decide
  exact ⟨valid, ⟨writable [] _, short⟩,
    ⟨writable (MemfdSeals.payload.take 5) _, rest⟩,
    ⟨fun ⟨_, added⟩ => unsealed MemfdSeals.payload .sealing added, trivial⟩,
    ⟨fun ⟨_, added⟩ => data_unsealed added, trivial⟩, rfl,
    fun _ => ⟨rfl, isSealed .sealing⟩,
    fun _ => ⟨rfl, .inl (isSealed .write)⟩,
    fun _ => ⟨rfl, .inr ⟨isSealed .grow, Int.lt_succ 21⟩⟩,
    fun _ => ⟨rfl, .inl ⟨isSealed .shrink, Int.natCast_nonneg 20,
      Int.sub_lt_self 21 Int.zero_lt_one⟩⟩,
    reads, trivial, trivial⟩

/-- The sealed file of the program is read back. -/
theorem seal_verdict_enforcing :
    (main.exec enforcing 3).2 = some .success ∧
      SealVerdict withSeals MemfdSeals.payload (main.exec enforcing 3).1
        (some .success) :=
  ⟨rfl, seal_verdict nofun (main.exec_run enforcing 3) enforcing_legal⟩

end Runs

end AdvanceUnix.MemfdSeals
