import AdvanceUnix.FileLocking

namespace AdvanceUnix.FileLocking

open CallTree RecordLocks Audit

/-!
# What the lock experiment tells

Run on open file description locks the program succeeds, and on locks that
belong to the process it never does.  In every case it gives back what it has
acquired.
-/

variable {world : World} {watched : Watched}

section Cleanup

/-- A descriptor that is not open is not closed. -/
theorem invalid : ¬ (0 : Fd) ≤ -1 := by decide

/-- The open descriptors are those that the program remembers. -/
structure Owns (held : Held) (kernel : Kernel) : Prop where
  known :
    ∀ entry ∈ kernel.descriptors,
      0 ≤ entry.1 ∧
        entry.1 ∈ [held.owner, held.duplicate, held.contender]
  owner : 0 ≤ held.owner → kernel.Open held.owner
  duplicate :
    0 ≤ held.duplicate →
    kernel.Open held.duplicate ∧ held.duplicate ≠ held.owner
  contender :
    0 ≤ held.contender →
    kernel.Open held.contender ∧
      held.contender ≠ held.owner ∧ held.contender ≠ held.duplicate
  file : kernel.file = held.file

/-- Another descriptor stays open. -/
theorem Kernel.Open.filter
    {kernel after : Kernel}
    {fd other : Fd}
    (isOpen : kernel.Open other)
    (different : other ≠ fd)
    (descriptors :
      after.descriptors = kernel.descriptors.filter (·.1 ≠ fd)) :
    after.Open other := by
  obtain ⟨description, member⟩ := isOpen
  refine ⟨description, ?_⟩
  rw [descriptors, List.mem_filter]
  exact ⟨member, decide_eq_true different⟩

/-- What closing a descriptor in the cleanup section establishes. -/
structure Closed
    (fd : Fd)
    (result final : Exit)
    (before after : Watched) : Prop where
  descriptors :
    after.kernel.descriptors =
      before.kernel.descriptors.filter (·.1 ≠ fd)
  file : after.kernel.file = before.kernel.file
  steps :
    after.notes =
      before.notes ++ if 0 ≤ fd then [.closed fd] else []
  spoils : Spoils .failure result final before.failed after.failed

/-- A descriptor is closed if it is open. -/
theorem closeHeld_ensures
    {fd : Fd}
    {result : Exit}
    (valid : ∀ entry ∈ watched.kernel.descriptors, 0 ≤ entry.1)
    (isOpen : 0 ≤ fd → watched.kernel.Open fd) :
    (closeHeld fd result).Ensures (monitor world)
      (fun final after => Closed fd result final watched after) watched := by
  refine .releasing ?_ ?_
  · intro invalid
    have negative := of_decide_eq_false invalid
    refine ⟨?_, rfl, ?_, .inl ⟨rfl, rfl⟩⟩
    · refine (List.filter_eq_self.mpr fun entry member => ?_).symm
      refine decide_eq_true ?_
      rintro rfl
      exact negative (valid entry member)
    · rw [if_neg negative, List.append_nil]
  · intro held
    have nonneg := of_decide_eq_true held
    refine .request (isOpen nonneg) ?_
    intro answer _
    refine ⟨rfl, rfl, by rw [if_pos nonneg]; rfl, ?_⟩
    cases answer with
    | error error => exact .inr ⟨rfl, Bool.or_true _⟩
    | ok done => exact .inl ⟨rfl, Bool.or_false _⟩

/-- What the cleanup section establishes. -/
structure Cleaned
    (held : Held)
    (result final : Exit)
    (before after : Watched) : Prop where
  closed : after.kernel.descriptors = []
  unlinked : after.kernel.file = none ∨ after.kernel.unlinkFailed = true
  steps :
    after.notes =
      before.notes ++
        (if 0 ≤ held.owner then [.closed held.owner] else []) ++
        (if 0 ≤ held.duplicate then [.closed held.duplicate] else []) ++
        (if 0 ≤ held.contender then [.closed held.contender] else [])
  spoils : Spoils .failure result final before.failed after.failed

/-- The cleanup section gives back what the program holds. -/
theorem cleanup_ensures
    {held : Held}
    {result : Exit}
    (owns : Owns held watched.kernel) :
    (cleanup held result).Ensures (monitor world)
      (fun final after => Cleaned held result final watched after)
      watched := by
  have valid : ∀ entry ∈ watched.kernel.descriptors, 0 ≤ entry.1 :=
    fun entry member => (owns.known entry member).1
  refine .bind ((closeHeld_ensures valid owns.owner).mono ?_)
  intro first ownerClosed one
  refine .bind ((closeHeld_ensures ?_ ?_).mono ?_)
  · intro entry member
    rw [one.descriptors] at member
    exact valid entry (List.mem_filter.mp member).1
  · intro nonneg
    obtain ⟨isOpen, different⟩ := owns.duplicate nonneg
    exact isOpen.filter different one.descriptors
  intro second duplicateClosed two
  refine .bind ((closeHeld_ensures ?_ ?_).mono ?_)
  · intro entry member
    rw [two.descriptors, one.descriptors] at member
    exact valid entry
      (List.mem_filter.mp (List.mem_filter.mp member).1).1
  · intro nonneg
    obtain ⟨isOpen, notOwner, notDuplicate⟩ := owns.contender nonneg
    exact (isOpen.filter notOwner one.descriptors).filter notDuplicate
      two.descriptors
  intro third allClosed three
  have nothing : allClosed.kernel.descriptors = [] := by
    rw [three.descriptors, two.descriptors, one.descriptors,
      List.eq_nil_iff_forall_not_mem]
    intro entry member
    simp only [List.mem_filter, decide_eq_true_eq] at member
    obtain ⟨⟨⟨member, notOwner⟩, notDuplicate⟩, notContender⟩ := member
    have known := (owns.known entry member).2
    simp [notOwner, notDuplicate, notContender] at known
  have steps := three.steps
  rw [two.steps, one.steps] at steps
  have spoils := (one.spoils.trans two.spoils).trans three.spoils
  have file : allClosed.kernel.file = held.file :=
    three.file.trans (two.file.trans (one.file.trans owns.file))
  cases path : held.file with
  | none =>
      exact .pure ⟨nothing, .inl (file.trans path), steps, spoils⟩
  | some name =>
      refine .releasing nofun fun _ => .request (file.trans path) ?_
      intro answer _
      cases answer with
      | error error =>
          exact ⟨nothing, .inr rfl, (List.append_nil _).trans steps,
            spoils.trans (.inr ⟨rfl, Bool.or_true _⟩)⟩
      | ok done =>
          exact ⟨nothing, .inl rfl, (List.append_nil _).trans steps,
            spoils.trans (.inl ⟨rfl, Bool.or_false _⟩)⟩

end Cleanup

section Locks

/-- A lock that is not set: there is a conflict, or the call has failed. -/
structure Unset
    (world : World)
    (fd : Fd)
    (type : LockType)
    (error : Errno)
    (before after : Watched) : Prop where
  kernel : after.kernel = before.kernel
  steps : after.notes = before.notes ++ [.refused fd]
  conflict :
    error = .eagain ∨ error = eacces →
    after.failed = before.failed ∧
      type = .wrlck ∧
        (before.kernel.Refuses world fd (firstByte .wrlck) ∨
          world.outsiders = true)
  failure : ¬ (error = .eagain ∨ error = eacces) → after.failed = true

/-- A lock that is set. -/
structure Set
    (world : World)
    (fd : Fd)
    (type : LockType)
    (before after : Watched) : Prop where
  result :
    after =
      { kernel := before.kernel.locked world fd (firstByte type)
        failed := before.failed
        notes := before.notes ++ [.granted fd type] }
  granted :
    type = .wrlck → ¬ before.kernel.Refuses world fd (firstByte .wrlck)

/-- Without a conflict only a failure refuses a lock. -/
theorem Unset.blamed
    {fd : Fd}
    {type : LockType}
    {error : Errno}
    {before after : Watched}
    (unset : Unset world fd type error before after)
    (grants :
      type = .wrlck → ¬ before.kernel.Refuses world fd (firstByte .wrlck))
    (alone : world.outsiders = false) :
    after.failed = true := by
  refine unset.failure fun conflict => ?_
  obtain ⟨_, isWrite, refuses | outsiders⟩ := unset.conflict conflict
  · exact grants isWrite refuses
  · rw [alone] at outsiders
    cases outsiders

/-- What is answered to a lock, and what it leaves behind. -/
theorem setOfdLock_ensures
    {fd : Fd}
    {type : LockType}
    (isOpen : watched.kernel.Open fd) :
    (setOfdLock fd type).Ensures (monitor world)
      (fun result after =>
        result.Meets
          (fun error => Unset world fd type error watched after)
          (fun _ => Set world fd type watched after))
      watched := by
  refine .request ⟨isOpen, rfl⟩ ?_
  intro answer allowed
  cases answer with
  | error error =>
      refine ⟨rfl, rfl, ?_, ?_⟩
      · intro conflict
        obtain ⟨rfl, refuses⟩ := allowed conflict
        refine ⟨?_, rfl, refuses⟩
        simp [monitor, noting, audit, Fails, ← not_or, conflict]
      · intro other
        simp [monitor, noting, audit, Fails, ← not_or, other]
  | ok done =>
      refine ⟨Noted.same rfl (Bool.or_false _) rfl, ?_⟩
      rintro rfl
      exact allowed rfl

/--
A conflict is found where there is one.  Where a lock is granted instead the
program unlocks it again, and no descriptor is lost.
-/
theorem expectConflict_ensures
    {fd : Fd}
    (isOpen : watched.kernel.Open fd) :
    (expectConflict fd).Ensures (monitor world)
      (fun conflict after =>
        after.kernel.descriptors = watched.kernel.descriptors ∧
          after.kernel.file = watched.kernel.file ∧
          (conflict = true →
            after =
                { watched with notes := watched.notes ++ [.refused fd] } ∧
              (watched.kernel.Refuses world fd (firstByte .wrlck) ∨
                world.outsiders = true)) ∧
          (conflict = false →
            watched.kernel.Refuses world fd (firstByte .wrlck) →
            after.failed = true))
      watched := by
  refine .bind ((setOfdLock_ensures isOpen).mono ?_)
  intro result after answered
  cases result with
  | error error =>
      obtain ⟨kernel, steps, conflicts, failure⟩ := answered
      refine .pure ⟨by rw [kernel], by rw [kernel], ?_, ?_⟩
      · intro conflict
        obtain ⟨unfailed, _, refuses⟩ :=
          conflicts (of_decide_eq_true conflict)
        exact ⟨Noted.same kernel unfailed steps, refuses⟩
      · exact fun none _ => failure (of_decide_eq_false none)
  | ok done =>
      obtain ⟨rfl, granted⟩ := answered
      refine .bind (.mono (setOfdLock_ensures isOpen) ?_)
      intro unlocked final told
      refine .pure ⟨?_, ?_, nofun, fun _ refuses => (granted rfl refuses).elim⟩
      · cases unlocked with
        | error error => rw [told.kernel]; rfl
        | ok done => rw [told.result]; rfl
      · cases unlocked with
        | error error => rw [told.kernel]; rfl
        | ok done => rw [told.result]; rfl

end Locks

section Verdict

/-- The steps of a run that succeeds. -/
def expectedSteps (owner duplicate contender : Fd) : List LockStep :=
  [.granted owner .wrlck, .refused contender, .closed owner,
    .refused contender, .granted duplicate .unlck,
    .granted contender .wrlck, .closed duplicate, .closed contender]

/-- What the program has established when it returns. -/
structure Returned
    (world : World)
    (result : Exit)
    (after : Watched) : Prop where
  closed : after.kernel.descriptors = []
  unlinked : after.kernel.file = none ∨ after.kernel.unlinkFailed = true
  honest :
    result = .success →
    after.failed = false ∧
      ∃ owner duplicate contender,
        [owner, duplicate, contender].Nodup ∧
          after.notes = expectedSteps owner duplicate contender
  verified :
    world.ownership = .description →
    world.outsiders = false →
    after.failed = false →
    result = .success
  told :
    world.ownership = .process →
    world.outsiders = false →
    result = .failure

/-- Giving up after a failure, or where locks are not what is expected. -/
theorem giveUp_ensures
    {held : Held}
    (owns : Owns held watched.kernel)
    (blamed :
      world.ownership = .description →
      world.outsiders = false →
      watched.failed = true) :
    (cleanup held .failure).Ensures (monitor world)
      (fun result after => Returned world result after) watched := by
  refine (cleanup_ensures owns).mono ?_
  intro final after cleaned
  have failure : final = .failure := by
    rcases cleaned.spoils with ⟨same, _⟩ | ⟨same, _⟩ <;> exact same
  refine ⟨cleaned.closed, cleaned.unlinked, ?_, ?_, fun _ _ => failure⟩
  · rintro rfl
    cases failure
  · intro description alone succeeded
    have failed := blamed description alone
    rcases cleaned.spoils with ⟨_, same⟩ | ⟨_, failed⟩
    · rw [same, failed] at succeeded
      cases succeeded
    · rw [failed] at succeeded
      cases succeeded

/-- What `main` has set up when it asks for its first lock. -/
structure Setting where
  owner : Fd
  duplicate : Fd
  contender : Fd
  path : String
  owner_nonneg : 0 ≤ owner
  duplicate_nonneg : 0 ≤ duplicate
  contender_nonneg : 0 ≤ contender
  duplicate_ne_owner : duplicate ≠ owner
  contender_ne_owner : contender ≠ owner
  contender_ne_duplicate : contender ≠ duplicate

namespace Setting

variable (setting : Setting)

/-- What the cleanup section finds then. -/
def held : Held where
  owner := setting.owner
  duplicate := setting.duplicate
  contender := setting.contender
  file := some setting.path

/-- The descriptors: two of the first description and one of the second. -/
def descriptors : List (Fd × Nat) :=
  [(setting.contender, 1), (setting.duplicate, 0), (setting.owner, 0)]

/-- The kernel before the first lock. -/
def kernel : Kernel where
  descriptors := setting.descriptors
  descriptions := 2
  file := some setting.path

/-- The kernel once the owner has its lock. -/
def locked (world : World) : Kernel :=
  setting.kernel.locked world setting.owner (firstByte .wrlck)

/-- The kernel after the owner has been closed. -/
def closed (world : World) : Kernel :=
  (setting.locked world).closed world setting.owner

/-- The kernel after the lock has been given up. -/
def unlocked (world : World) : Kernel :=
  (setting.closed world).locked world setting.duplicate (firstByte .unlck)

variable {setting} {kernel : Kernel}

/-- The cleanup section knows the descriptors. -/
theorem owns
    (descriptors : kernel.descriptors = setting.descriptors)
    (file : kernel.file = some setting.path) :
    Owns setting.held kernel := by
  have owner := setting.owner_nonneg
  have duplicate := setting.duplicate_nonneg
  have contender := setting.contender_nonneg
  constructor
  · intro entry member
    rw [descriptors] at member
    simp only [Setting.descriptors, List.mem_cons, List.not_mem_nil,
      or_false] at member
    rcases member with rfl | rfl | rfl <;> simp [held, *]
  · exact fun _ => ⟨0, by rw [descriptors]; simp [Setting.descriptors, held]⟩
  · exact fun _ =>
      ⟨⟨0, by rw [descriptors]; simp [Setting.descriptors, held]⟩,
        setting.duplicate_ne_owner⟩
  · exact fun _ =>
      ⟨⟨1, by rw [descriptors]; simp [Setting.descriptors, held]⟩,
        setting.contender_ne_owner, setting.contender_ne_duplicate⟩
  · exact file

/-- The descriptors that are left without the owner. -/
theorem closed_descriptors (world : World) :
    (setting.closed world).descriptors =
      [(setting.contender, 1), (setting.duplicate, 0)] := by
  simp [closed, Kernel.closed, locked, Kernel.locked, Setting.kernel,
    descriptors, setting.contender_ne_owner, setting.duplicate_ne_owner]

/-- The cleanup section knows these as well. -/
theorem owns_closed
    (descriptors :
      kernel.descriptors = [(setting.contender, 1), (setting.duplicate, 0)])
    (file : kernel.file = some setting.path) :
    Owns { setting.held with owner := -1 } kernel := by
  have duplicate := setting.duplicate_nonneg
  have contender := setting.contender_nonneg
  constructor
  · intro entry member
    rw [descriptors] at member
    simp only [List.mem_cons, List.not_mem_nil, or_false] at member
    rcases member with rfl | rfl <;> simp [held, *]
  · exact fun nonneg => (invalid nonneg).elim
  · refine fun nonneg => ⟨⟨0, by rw [descriptors]; simp [held]⟩, ?_⟩
    exact fun same => invalid (le_of_le_of_eq nonneg same)
  · refine fun nonneg =>
      ⟨⟨1, by rw [descriptors]; simp [held]⟩, ?_,
        setting.contender_ne_duplicate⟩
    exact fun same => invalid (le_of_le_of_eq nonneg same)
  · exact file

/-- The first byte is asked for by every lock. -/
theorem first_mem (type : LockType) : 0 ∈ (firstByte type).region :=
  ⟨Nat.le_refl 0, .inr Nat.zero_lt_one⟩

/-- Nobody has a lock at first. -/
theorem kernel_grants
    (fd : Fd)
    (lock : Flock) :
    ¬ setting.kernel.Refuses world fd lock := by
  refine Table.not_refuses_own ?_
  exact fun _ _ => rfl

/-- The contender does not have the owner's lock. -/
theorem locked_refuses
    (description : world.ownership = .description) :
    (setting.locked world).Refuses world setting.contender
      (firstByte .wrlck) := by
  refine Table.refuses_put ?_ ⟨0, first_mem _, first_mem _⟩
  simp [Kernel.ownerOf, description, Kernel.description, Setting.kernel,
    descriptors, locked, Kernel.locked, setting.contender_ne_owner,
    setting.duplicate_ne_owner]

/-- The description of the duplicate keeps its lock without the owner. -/
theorem closed_locks
    (description : world.ownership = .description) :
    (setting.closed world).locks = (setting.locked world).locks := by
  simp [closed, Kernel.closed, locked, Kernel.locked, Setting.kernel,
    descriptors, Kernel.description, description,
    setting.contender_ne_owner, setting.duplicate_ne_owner]

/-- So the contender still does not have it. -/
theorem closed_refuses
    (description : world.ownership = .description) :
    (setting.closed world).Refuses world setting.contender
      (firstByte .wrlck) := by
  rw [Kernel.Refuses, closed_locks description]
  refine Table.refuses_put ?_ ⟨0, first_mem _, first_mem _⟩
  simp [Kernel.ownerOf, description, Kernel.description, Setting.kernel,
    descriptors, closed_descriptors, setting.contender_ne_owner,
    setting.duplicate_ne_owner]

/-- A process has no conflict with itself. -/
theorem locked_grants
    (process : world.ownership = .process)
    (fd : Fd)
    (lock : Flock) :
    ¬ (setting.locked world).Refuses world fd lock := by
  refine Table.not_refuses_own ?_
  intro other different
  funext position
  rw [Kernel.ownerOf, process] at different
  simp [locked, Kernel.locked, Table.put, Table.free, Setting.kernel,
    Kernel.ownerOf, process, different]

/-- Nobody has a lock once the duplicate has given it up. -/
theorem unlocked_grants
    (description : world.ownership = .description)
    (fd : Fd) :
    ¬ (setting.unlocked world).Refuses world fd (firstByte .wrlck) := by
  refine Table.not_refuses_own ?_
  intro other _
  funext position
  simp [unlocked, Kernel.locked, closed_locks description, locked,
    Table.put, Table.free, Setting.kernel, Kernel.ownerOf, description,
    Kernel.description, closed_descriptors, descriptors,
    setting.contender_ne_owner, setting.duplicate_ne_owner,
    setting.contender_ne_duplicate,
    firstByte, Flock.region]

end Setting

/-- Where all has gone as expected, cleaning up completes it. -/
theorem Setting.finished
    {setting : Setting}
    {before after : Watched}
    {final : Exit}
    (owned : world.ownership = .process → world.outsiders = true)
    (unfailed : before.failed = false)
    (steps :
      before.notes =
        [.granted setting.owner .wrlck, .refused setting.contender,
          .closed setting.owner, .refused setting.contender,
          .granted setting.duplicate .unlck,
          .granted setting.contender .wrlck])
    (cleaned :
      Cleaned { setting.held with owner := -1 } .success final before
        after) :
    Returned world final after := by
  refine ⟨cleaned.closed, cleaned.unlinked, ?_, ?_, ?_⟩
  · rintro rfl
    rcases cleaned.spoils with ⟨_, stillUnfailed⟩ | ⟨isFailure, _⟩
    · refine ⟨stillUnfailed.trans unfailed, setting.owner,
        setting.duplicate, setting.contender, ?_, ?_⟩
      · simp [setting.duplicate_ne_owner.symm,
          setting.contender_ne_owner.symm,
          setting.contender_ne_duplicate.symm]
      · rw [cleaned.steps, steps]
        simp [expectedSteps, Setting.held, setting.duplicate_nonneg,
          setting.contender_nonneg]
    · cases isFailure
  · intro _ _ honest
    rcases cleaned.spoils with ⟨same, _⟩ | ⟨_, failed⟩
    · exact same
    · rw [failed] at honest
      cases honest
  · intro process alone
    rw [owned process] at alone
    cases alone

/-- `main` from the first lock on. -/
theorem lockInTurn_ensures
    (setting : Setting)
    {failed : Bool}
    (unfailed : failed = false) :
    (lockInTurn setting.held).Ensures (monitor world)
      (fun result after => Returned world result after)
      { kernel := setting.kernel, failed := failed } := by
  subst unfailed
  have ownerOpen : setting.kernel.Open setting.owner :=
    ⟨0, by simp [Setting.kernel, Setting.descriptors]⟩
  refine .bind (.mono (setOfdLock_ensures ownerOpen) ?_)
  intro first _ answered
  cases first with
  | error error =>
      have kernel := answered.kernel
      exact giveUp_ensures
        (Setting.owns (by rw [kernel]; rfl) (by rw [kernel]; rfl))
        fun _ => answered.blamed fun _ => Setting.kernel_grants _ _
  | ok done =>
  obtain ⟨rfl, _⟩ := answered
  have contenderOpen : (setting.locked world).Open setting.contender :=
    ⟨1, by simp [Setting.locked, Kernel.locked, Setting.kernel,
      Setting.descriptors]⟩
  refine .bind (.mono (expectConflict_ensures contenderOpen) ?_)
  rintro conflict after ⟨descriptors, file, found, missed⟩
  cases conflict with
  | false =>
      exact giveUp_ensures (Setting.owns descriptors file)
        fun description _ =>
          missed rfl (Setting.locked_refuses description)
  | true =>
  obtain ⟨rfl, refuses⟩ := found rfl
  have owned : world.ownership = .process → world.outsiders = true :=
    fun process =>
      refuses.resolve_left (Setting.locked_grants process _ _)
  have stillOpen : (setting.locked world).Open setting.owner :=
    ⟨0, by simp [Setting.locked, Kernel.locked, Setting.kernel,
      Setting.descriptors]⟩
  refine .request_bind stillOpen ?_
  intro closing _
  cases closing with
  | error error =>
      exact giveUp_ensures
        (Setting.owns_closed (Setting.closed_descriptors world) rfl)
        fun _ _ => rfl
  | ok done =>
  have contenderOpen : (setting.closed world).Open setting.contender :=
    ⟨1, by rw [Setting.closed_descriptors world]; exact List.mem_cons_self⟩
  refine .bind (.mono (expectConflict_ensures contenderOpen) ?_)
  rintro conflict after ⟨descriptors, file, found, missed⟩
  cases conflict with
  | false =>
      exact giveUp_ensures
        (Setting.owns_closed
          (descriptors.trans (Setting.closed_descriptors world)) file)
        fun description _ =>
          missed rfl (Setting.closed_refuses description)
  | true =>
  obtain ⟨rfl, _⟩ := found rfl
  have duplicateOpen : (setting.closed world).Open setting.duplicate :=
    ⟨0, by rw [Setting.closed_descriptors world]; simp⟩
  refine .bind (.mono (setOfdLock_ensures duplicateOpen) ?_)
  intro unlocking _ answered
  cases unlocking with
  | error error =>
      have kernel := answered.kernel
      exact giveUp_ensures
        (Setting.owns_closed
          (by rw [kernel]; exact Setting.closed_descriptors world)
          (by rw [kernel]; rfl))
        fun _ => answered.blamed nofun
  | ok done =>
  obtain ⟨rfl, _⟩ := answered
  have contenderOpen : (setting.unlocked world).Open setting.contender :=
    ⟨1, by
      rw [Setting.unlocked, Kernel.locked, Setting.closed_descriptors world]
      exact List.mem_cons_self⟩
  refine .bind (.mono (setOfdLock_ensures contenderOpen) ?_)
  intro locking _ answered
  cases locking with
  | error error =>
      have kernel := answered.kernel
      exact giveUp_ensures
        (Setting.owns_closed
          (by rw [kernel]; exact Setting.closed_descriptors world)
          (by rw [kernel]; rfl))
        fun description =>
          answered.blamed fun _ => Setting.unlocked_grants description _
  | ok done =>
  obtain ⟨rfl, _⟩ := answered
  refine (cleanup_ensures
    (Setting.owns_closed (Setting.closed_descriptors world) rfl)).mono ?_
  exact fun _ _ => Setting.finished owned rfl rfl

/-- The cleanup section knows the first descriptor. -/
theorem owns_owner
    {owner : Fd}
    {path : String}
    {kernel : Kernel}
    (nonneg : 0 ≤ owner)
    (descriptors : kernel.descriptors = [(owner, 0)])
    (file : kernel.file = some path) :
    Owns { owner := owner, file := some path } kernel := by
  constructor
  · intro entry member
    rw [descriptors, List.mem_singleton] at member
    subst member
    exact ⟨nonneg, List.mem_cons_self⟩
  · exact fun _ => ⟨0, by rw [descriptors]; exact List.mem_cons_self⟩
  · exact fun nonneg => (invalid nonneg).elim
  · exact fun nonneg => (invalid nonneg).elim
  · exact file

/-- And the second. -/
theorem owns_duplicate
    {owner duplicate : Fd}
    {path : String}
    {kernel : Kernel}
    (nonneg : 0 ≤ owner)
    (duplicated : 0 ≤ duplicate)
    (different : duplicate ≠ owner)
    (descriptors : kernel.descriptors = [(duplicate, 0), (owner, 0)])
    (file : kernel.file = some path) :
    Owns { owner := owner, duplicate := duplicate, file := some path }
      kernel := by
  constructor
  · intro entry member
    rw [descriptors] at member
    simp only [List.mem_cons, List.not_mem_nil, or_false] at member
    rcases member with rfl | rfl <;> simp [nonneg, duplicated]
  · exact fun _ => ⟨0, by rw [descriptors]; simp⟩
  · exact fun _ => ⟨⟨0, by rw [descriptors]; simp⟩, different⟩
  · exact fun nonneg => (invalid nonneg).elim
  · exact file

/-- The file has its byte, or the write has failed. -/
theorem write_ensures
    {fd : Fd}
    (isOpen : watched.kernel.Open fd)
    (unfailed : watched.failed = false) :
    (Program.retry (· = Errno.eintr)
        (invoke (.write fd [120]))).Ensures (monitor world)
      (fun result after =>
        ∃ failed,
          after = { watched with failed := failed } ∧
            (result = .ok 1 → failed = false) ∧
            (result ≠ .ok 1 → failed = true))
      watched := by
  refine .retry (fun current => current = watched) ?_ rfl
  rintro _ rfl
  refine .request isOpen ?_
  intro answer _
  cases answer with
  | error error =>
      refine ⟨?_, ?_⟩
      · rintro rfl
        exact Noted.same rfl (Bool.or_false _) (List.append_nil _)
      · intro permanent
        refine ⟨true, ?_, nofun, fun _ => rfl⟩
        have failed : Fails (.write fd [120]) (.error error) = true :=
          decide_eq_true permanent
        refine Noted.same rfl ?_ (List.append_nil _)
        exact (congrArg _ failed).trans (Bool.or_true _)
  | ok count =>
      refine ⟨decide (count ≠ 1), ?_, ?_, ?_⟩
      · refine Noted.same rfl ?_ (List.append_nil _)
        exact congrArg (· || decide (count ≠ 1)) unfailed
      · intro whole
        obtain rfl := Except.ok.inj whole
        rfl
      · exact fun short =>
          decide_eq_true fun whole => short (congrArg Except.ok whole)

/-- A duplicate shares the description. -/
theorem dup_next
    {fd duplicate : Fd}
    {description : Nat}
    {rest : List (Fd × Nat)}
    (descriptors :
      watched.kernel.descriptors = (fd, description) :: rest) :
    (monitor world).next watched (.dup fd) (.ok duplicate) =
      { watched with
        kernel :=
          { watched.kernel with
            descriptors :=
              (duplicate, description) :: watched.kernel.descriptors } } := by
  simp [monitor, noting, audit, Kernel.next, Kernel.description, descriptors,
    Fails, stepsOf, Except.toOption]

/-- What `main` establishes. -/
theorem main_ensures :
    main.Ensures (monitor world)
      (fun result after => Returned world result after)
      { kernel := {} } := by
  have nothing : Owns {} ({} : Kernel) :=
    ⟨nofun, fun nonneg => (invalid nonneg).elim,
      fun nonneg => (invalid nonneg).elim,
      fun nonneg => (invalid nonneg).elim, rfl⟩
  refine .request_bind rfl ?_
  intro creating fresh
  cases creating with
  | error error => exact giveUp_ensures nothing fun _ _ => rfl
  | ok created =>
  obtain ⟨owner, path⟩ := created
  have ownerNonneg : 0 ≤ owner := fresh.1
  refine .bind (.mono
    (write_ensures ⟨0, List.mem_cons_self⟩ rfl) ?_)
  rintro written _ ⟨failed, rfl, whole, short⟩
  cases written with
  | error error =>
      exact giveUp_ensures (owns_owner ownerNonneg rfl rfl)
        fun _ _ => short nofun
  | ok count =>
  by_cases one : count = 1
  swap
  · have fails := short fun same => one (Except.ok.inj same)
    split
    · rename_i same
      exact (one (Except.ok.inj same)).elim
    · exact giveUp_ensures (owns_owner ownerNonneg rfl rfl)
        fun _ _ => fails
  subst one
  obtain rfl := whole rfl
  refine .request_bind ⟨0, List.mem_cons_self⟩ ?_
  intro duplicating duplicateFresh
  cases duplicating with
  | error error =>
      exact giveUp_ensures (owns_owner ownerNonneg rfl rfl) fun _ _ => rfl
  | ok duplicate =>
  have duplicateNonneg : 0 ≤ duplicate := duplicateFresh.1
  have notOwner : duplicate ≠ owner :=
    (duplicateFresh.2 _ List.mem_cons_self).symm
  rw [dup_next rfl]
  refine .request_bind rfl ?_
  intro opening contenderFresh
  cases opening with
  | error error =>
      exact giveUp_ensures
        (owns_duplicate ownerNonneg duplicateNonneg notOwner rfl rfl)
        fun _ _ => rfl
  | ok contender =>
  obtain ⟨contenderNonneg, others⟩ := contenderFresh
  have notOwnerToo : contender ≠ owner :=
    (others (owner, 0) (List.mem_cons_of_mem _ List.mem_cons_self)).symm
  have notDuplicate : contender ≠ duplicate :=
    (others _ List.mem_cons_self).symm
  exact lockInTurn_ensures
    ⟨owner, duplicate, contender, path, ownerNonneg, duplicateNonneg,
      contenderNonneg, notOwner, notOwnerToo, notDuplicate⟩ rfl

end Verdict

section Runs

/-- No allowed answer makes two owners hold conflicting locks. -/
theorem Kernel.compatible_next
    {kernel : Kernel}
    {request : Call}
    {answer : Answer request}
    (compatible : kernel.locks.Compatible)
    (allowed : kernel.Allows world request answer) :
    (kernel.next world request answer).locks.Compatible := by
  cases request with
  | close fd =>
      simp only [Kernel.next, Kernel.closed]
      split
      · exact compatible
      · exact compatible.drop
  | ofdSetlk fd lock =>
      cases answer with
      | error error => exact compatible
      | ok done =>
          obtain ⟨type, start, len, pid⟩ := lock
          cases type with
          | wrlck => exact compatible.put (allowed rfl)
          | unlck => exact compatible.release
  | _ => cases answer <;> exact compatible

/-- So in a legal run they never do. -/
theorem compatible_after
    {audited : Audited Kernel}
    {events : List (Event Answer)}
    (compatible : audited.kernel.locks.Compatible)
    (legal : (audit world).monitor.Legal audited events) :
    ((audit world).kernelAfter audited.kernel events).locks.Compatible := by
  induction events generalizing audited with
  | nil => exact compatible
  | cons event rest inductionHypothesis =>
      exact @inductionHypothesis
        ((audit world).monitor.next audited event.call event.answer)
        (Kernel.compatible_next compatible legal.1) legal.2

/-- What a run of the program shows. -/
structure LockVerdict
    (world : World)
    (events : List (Event Answer))
    (outcome : Option Exit) : Prop where
  exclusive :
    ∀ before later,
      events = before ++ later →
      ((audit world).kernelAfter {} before).locks.Compatible
  owned :
    ∀ before event later,
      events = before ++ event :: later →
      ((audit world).kernelAfter {} before).Safe event.call
  released :
    outcome ≠ none →
    ((audit world).kernelAfter {} events).descriptors = [] ∧
      (((audit world).kernelAfter {} events).file = none ∨
        ((audit world).kernelAfter {} events).unlinkFailed = true)
  verified :
    outcome = some .success →
    (audit world).failed events = false ∧
      ∃ owner duplicate contender,
        [owner, duplicate, contender].Nodup ∧
          events.flatMap stepsOf = expectedSteps owner duplicate contender
  descriptionLocks :
    world = ⟨.description, false⟩ →
    outcome ≠ none →
    (outcome = some .success ↔ (audit world).failed events = false)
  processLocks :
    world = ⟨.process, false⟩ →
    outcome ≠ some .success

/--
The program tells the two kinds of locks apart: with the locks of a file to
itself it succeeds on open file description locks unless a call fails, and
never on locks that belong to the process.
-/
theorem lock_verdict
    {world : World}
    {events : List (Event Answer)}
    {outcome : Option Exit}
    (run : main.Run events outcome)
    (legal : (audit world).Legal {} events) :
    LockVerdict world events outcome := by
  obtain ⟨dutiful, ended⟩ := noting_sound main_ensures run legal
  constructor
  case exclusive =>
    rintro before later rfl
    have free : ({} : Kernel).locks.Compatible :=
      fun _ _ _ _ _ _ holds => nomatch holds
    exact compatible_after free
      ((audit world).monitor.legal_append.mp legal).1
  case owned => exact dutiful
  case released =>
    intro some
    obtain ⟨result, rfl⟩ := Option.ne_none_iff_exists'.mp some
    exact ⟨(ended result rfl).closed, (ended result rfl).unlinked⟩
  case verified =>
    rintro rfl
    exact (ended .success rfl).honest rfl
  case descriptionLocks =>
    rintro rfl some
    obtain ⟨result, rfl⟩ := Option.ne_none_iff_exists'.mp some
    have returned := ended result rfl
    constructor
    · rintro ⟨⟩
      exact (returned.honest rfl).1
    · intro unfailed
      rw [returned.verified rfl rfl unfailed]
  case processLocks =>
    rintro rfl rfl
    cases (ended .success rfl).told rfl rfl

/-- The descriptors 3, 4 and 5. -/
def threeDescriptors : Setting :=
  ⟨3, 4, 5, "lab", by decide, by decide, by decide, by decide, by decide,
    by decide⟩

/-- Nobody else wants the lock, and the contender is refused it twice. -/
def undisturbed : Script Answer
  | _, .mkstemp => .ok (3, "lab")
  | _, .write _ bytes => .ok bytes.length
  | _, .dup _ => .ok 4
  | _, .openReadWrite _ => .ok 5
  | index, .ofdSetlk _ _ =>
      if index = 5 ∨ index = 7 then .error .eagain else .ok ()
  | _, .close _ => .ok ()
  | _, .unlink _ => .ok ()

/-- These answers are those of open file description locks. -/
theorem undisturbed_legal :
    (audit ⟨.description, false⟩).Legal {} (main.exec undisturbed 1).1 := by
  have first : ({} : Kernel).Fresh 3 := by decide
  have second :
      Kernel.Fresh { descriptors := [(3, 0)], descriptions := 1 } 4 := by
    decide
  have third :
      Kernel.Fresh
        { descriptors := [(4, 0), (3, 0)], descriptions := 1 } 5 := by
    decide
  exact ⟨first, Nat.le_refl 1, second, third,
    fun _ => threeDescriptors.kernel_grants _ _,
    fun _ => ⟨rfl, .inl (threeDescriptors.locked_refuses rfl)⟩, trivial,
    fun _ => ⟨rfl, .inl (threeDescriptors.closed_refuses rfl)⟩, nofun,
    fun _ => threeDescriptors.unlocked_grants rfl 5, trivial, trivial,
    trivial, trivial⟩

/-- With them the program succeeds. -/
theorem lock_verdict_undisturbed :
    (main.exec undisturbed 1).2 = some .success ∧
      LockVerdict ⟨.description, false⟩ (main.exec undisturbed 1).1
        (some .success) :=
  ⟨rfl, lock_verdict (main.exec_run undisturbed 1) undisturbed_legal⟩

end Runs

end AdvanceUnix.FileLocking
