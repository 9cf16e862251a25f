import AdvanceUnix.Ledger
import AdvanceUnix.SystemCalls

namespace AdvanceUnix

open CallTree

/-!
# Descriptors and temporary objects

What the calls of `02_filesystem`, `08_shared_memory`,
`12_filesystem_events` and `25_fifo` open, close, create, try to release and
remove.  A close always frees its descriptor, and every other call that fails
changes nothing.
-/

/-- What a program may leave behind besides its descriptors. -/
inductive Temporary where
  | directory (path : String)
  | file (path : String)
  | entry (dirfd : Fd) (name : String)
  | shared (name : String)
  | mapping
  | semaphore
  deriving DecidableEq, Repr

/-- What one call has changed. -/
structure Changes where
  opens : Option Fd := none
  creates : List Temporary := []
  attempts : List Temporary := []
  removes : List Temporary := []
  deriving DecidableEq, Repr

/-- A call that creates an object if it succeeds. -/
def creating (object : α → Temporary) : Result α → Changes
  | .error _ => {}
  | .ok value => { creates := [object value] }

/-- A call that opens a descriptor if it succeeds. -/
def opening : Result Fd → Changes
  | .error _ => {}
  | .ok fd => { opens := some fd }

/-- A call that opens a descriptor of an object that it creates. -/
def openingNew (object : Temporary) : Result Fd → Changes
  | .error _ => {}
  | .ok fd => { opens := some fd, creates := [object] }

/-- A call that gives an entry another name if it succeeds. -/
def movingEntry (dirfd : Fd) (old new : String) : Result Unit → Changes
  | .error _ => {}
  | .ok _ =>
      { creates := [.entry dirfd new], removes := [.entry dirfd old] }

/-- A call that removes an object if it succeeds. -/
def removing (object : Temporary) (answer : Result Unit) : Changes where
  attempts := [object]
  removes := (answer.toOption.map fun _ => object).toList

/-- What an answered call has changed. -/
def changes : Event Answer → Changes
  | ⟨.openReader _, answer⟩ => opening answer
  | ⟨.inotifyInit, answer⟩ => opening answer
  | ⟨.openDirectory _, answer⟩ => opening answer
  | ⟨.openatNofollow _ _, answer⟩ => opening answer
  | ⟨.openCreate path, answer⟩ => openingNew (.file path) answer
  | ⟨.openatCreate dirfd name _, answer⟩ =>
      openingNew (.entry dirfd name) answer
  | ⟨.shmOpen name, answer⟩ => openingNew (.shared name) answer
  | ⟨.mkdtemp, answer⟩ => creating .directory answer
  | ⟨.mkfifo path, answer⟩ =>
      creating (fun _ => .file path) (answer : Result Unit)
  | ⟨.symlinkat _ dirfd name, answer⟩ =>
      creating (fun _ => .entry dirfd name) (answer : Result Unit)
  | ⟨.mmap _, answer⟩ =>
      creating (fun _ => .mapping) (answer : Result Unit)
  | ⟨.semInit, answer⟩ =>
      creating (fun _ => .semaphore) (answer : Result Unit)
  | ⟨.renameat dirfd old new, answer⟩ => movingEntry dirfd old new answer
  | ⟨.rmdir path, answer⟩ => removing (.directory path) answer
  | ⟨.unlink path, answer⟩ => removing (.file path) answer
  | ⟨.unlinkat dirfd name, answer⟩ => removing (.entry dirfd name) answer
  | ⟨.shmUnlink name, answer⟩ => removing (.shared name) answer
  | ⟨.munmap, answer⟩ => removing .mapping answer
  | ⟨.semDestroy, answer⟩ => removing .semaphore answer
  | _ => {}

/-- The descriptor that a call closes, whatever it answers. -/
def closing : Syscall → Option Fd
  | .close fd => some fd
  | _ => none

/-- The descriptors that a call is made with. -/
def used : Syscall → List Fd
  | .close fd => [fd]
  | .read fd _ => [fd]
  | .write fd _ => [fd]
  | .readBuffer fd _ => [fd]
  | .poll fd _ => [fd]
  | .inotifyAddWatch fd _ _ => [fd]
  | .inotifyRmWatch fd _ => [fd]
  | .ftruncate fd => [fd]
  | .mmap fd => [fd]
  | .openatCreate dirfd _ _ => [dirfd]
  | .openatNofollow dirfd _ => [dirfd]
  | .fstatat dirfd _ => [dirfd]
  | .symlinkat _ dirfd _ => [dirfd]
  | .renameat dirfd _ _ => [dirfd]
  | .unlinkat dirfd _ => [dirfd]
  | _ => []

/-- The open descriptors: every close frees one. -/
def descriptors : Ledger (Event Answer) Fd where
  gains := fun event => (changes event).opens.toList
  attempts := fun _ => []
  loses := fun event => (closing event.call).toList

/-- The temporary objects that exist. -/
def temporaries : Ledger (Event Answer) Temporary where
  gains := fun event => (changes event).creates
  attempts := fun event => (changes event).attempts
  loses := fun event => (changes event).removes

/-- A new descriptor is not negative, and not one that is open. -/
def FreshDescriptors (events : Events) : Prop :=
  ∀ before event later fd,
    events = before ++ event :: later →
    (changes event).opens = some fd →
    0 ≤ fd ∧ ¬ descriptors.Held before fd

/-- Nothing is used after its release, and nothing stays behind. -/
structure NothingLeft (events : Events) : Prop where
  usedOpen :
    ∀ before event later fd,
      events = before ++ event :: later →
      fd ∈ used event.call →
      descriptors.Held before fd
  closed :
    ∀ fd, ¬ descriptors.Held events fd
  removed :
    temporaries.LastAttemptsSucceed events →
    ∀ object, ¬ temporaries.Held events object

/-- What a program has open and has not tried to release. -/
structure Tracked where
  opened : List Fd := []
  pending : List Temporary := []
  unmapped : Bool := false
  deriving DecidableEq, Repr

/-- Follow one answered call. -/
def Tracked.next
    (tracked : Tracked)
    (request : Syscall)
    (answer : Answer request) : Tracked where
  opened := descriptors.next tracked.opened ⟨request, answer⟩
  pending := temporaries.next tracked.pending ⟨request, answer⟩
  unmapped := tracked.unmapped || request = .munmap

/-- A monitor of descriptors and objects, with one more duty. -/
def tracking (duty : Tracked → Syscall → Prop) :
    Monitor Answer Tracked where
  next := Tracked.next
  allows := fun tracked request answer =>
    ∀ fd,
      (changes ⟨request, answer⟩).opens = some fd →
      0 ≤ fd ∧ fd ∉ tracked.opened
  safe := fun tracked request =>
    (∀ fd ∈ used request, fd ∈ tracked.opened) ∧ duty tracked request

/-- What is open and pending after a call is read off what it has changed. -/
theorem Tracked.next_changes
    {tracked : Tracked}
    {request : Syscall}
    {answer : Answer request}
    {changed : Changes}
    (changing : changes ⟨request, answer⟩ = changed)
    (notUnmap : request ≠ .munmap) :
    tracked.next request answer =
      { tracked with
        opened :=
          (tracked.opened.filter fun fd => fd ∉ (closing request).toList) ++
            changed.opens.toList
        pending :=
          (tracked.pending.filter fun object =>
              object ∉ changed.attempts ∧ object ∉ changed.removes) ++
            changed.creates } := by
  subst changed
  have kept (fd : Fd) :
      (fd ∉ descriptors.attempts ⟨request, answer⟩ ∧
          fd ∉ descriptors.loses ⟨request, answer⟩) =
        (fd ∉ (closing request).toList) := by
    simp [descriptors]
  simp only [Tracked.next, Ledger.next, kept, decide_eq_false notUnmap,
    Bool.or_false]
  rfl

/-- A call that changes nothing is not noticed. -/
theorem Tracked.next_nothing
    {tracked : Tracked}
    {request : Syscall}
    {answer : Answer request}
    (notClose : closing request = none)
    (nothing : changes ⟨request, answer⟩ = {}) :
    tracked.next request answer = tracked := by
  have notUnmap : request ≠ .munmap := by
    rintro rfl
    cases congrArg Changes.attempts nothing
  simp only [Tracked.next, decide_eq_false notUnmap, Bool.or_false]
  rw [Ledger.next_nothing, Ledger.next_nothing]
  · exact congrArg Changes.creates nothing
  · exact congrArg Changes.attempts nothing
  · exact congrArg Changes.removes nothing
  · exact congrArg (fun changed => changed.opens.toList) nothing
  · rfl
  · exact congrArg Option.toList notClose

/-- A call that never changes anything. -/
theorem request_unchanged
    {duty : Tracked → Syscall → Prop}
    {tracked : Tracked}
    {request : Syscall}
    (usesOpen : ∀ fd ∈ used request, fd ∈ tracked.opened)
    (dutiful : duty tracked request)
    (notClose : closing request = none)
    (nothing : ∀ answer, changes ⟨request, answer⟩ = {}) :
    (Syscall.invoke request).Ensures (tracking duty)
      (fun _ after => after = tracked) tracked :=
  .request ⟨usesOpen, dutiful⟩
    fun answer _ => Tracked.next_nothing notClose (nothing answer)

section Tracking

variable {duty : Tracked → Syscall → Prop} {events : Events}

/-- The monitor's state is what the ledgers say is pending. -/
theorem after_tracking
    (tracked : Tracked)
    (events : Events) :
    (tracking duty).after tracked events =
      { opened := events.foldl descriptors.next tracked.opened
        pending := events.foldl temporaries.next tracked.pending
        unmapped :=
          tracked.unmapped ||
            events.any fun event => event.call = .munmap } := by
  induction events generalizing tracked with
  | nil =>
      rw [List.any_nil, Bool.or_false]
      rfl
  | cons event rest inductionHypothesis =>
      rw [Monitor.after, inductionHypothesis, List.any_cons,
        ← Bool.or_assoc]
      rfl

/-- Every descriptor that is open is one that has not been closed. -/
theorem held_iff_opened {fd : Fd} :
    descriptors.Held events fd ↔ fd ∈ descriptors.pending events := by
  have noAttempts : descriptors.LastAttemptsSucceed events := by
    rintro before event later object split held ⟨⟩
  exact ⟨noAttempts.pending_of_held, descriptors.held_of_pending⟩

/-- Fresh descriptors are what the monitor assumes. -/
theorem legal_of_fresh
    (fresh : FreshDescriptors events) :
    (tracking duty).Legal {} events := by
  apply Monitor.legal_of_at
  intro before event later split fd opens
  obtain ⟨natural, notOpen⟩ := fresh before event later fd split opens
  refine ⟨natural, fun isOpen => notOpen (held_iff_opened.mpr ?_)⟩
  rw [after_tracking] at isOpen
  exact isOpen

/-- What the monitor assumes of each answer is that descriptors are fresh. -/
theorem fresh_of_legal
    (legal : (tracking duty).Legal {} events) :
    FreshDescriptors events := by
  intro before event later fd split opens
  rw [split] at legal
  have allowed := ((tracking duty).legal_append.mp legal).2.1 fd opens
  rw [after_tracking] at allowed
  exact ⟨allowed.1, fun held => allowed.2 (held_iff_opened.mp held)⟩

/-- A program that ends with nothing open or pending leaves nothing. -/
theorem NothingLeft.of_ensures
    {program : Sys Exit}
    (ensures :
      program.Ensures (tracking duty)
        (fun _ after => after.opened = [] ∧ after.pending = []) {})
    {result : Exit}
    (run : program.Run events (some result))
    (fresh : FreshDescriptors events) :
    NothingLeft events := by
  obtain ⟨safe, returned⟩ := ensures.sound run (legal_of_fresh fresh)
  have nothing := returned result rfl
  rw [after_tracking] at nothing
  constructor
  · intro before event later fd split uses
    rw [split] at safe
    have isOpen := ((tracking duty).safe_at safe).1 fd uses
    rw [after_tracking] at isOpen
    exact held_iff_opened.mpr isOpen
  · intro fd held
    have isOpen := held_iff_opened.mp held
    have noneOpen : descriptors.pending events = [] := nothing.1
    rw [noneOpen] at isOpen
    cases isOpen
  · intro succeed object held
    have pending := succeed.pending_of_held held
    have nonePending : temporaries.pending events = [] := nothing.2
    rw [nonePending] at pending
    cases pending

end Tracking

/-- What is open, and what may exist without an attempt to release it. -/
structure Owns
    (fds : List Fd)
    (objects : List Temporary)
    (tracked : Tracked) : Prop where
  opened : ∀ fd, fd ∈ tracked.opened ↔ fd ∈ fds
  distinct : fds.Nodup
  pending : ∀ object ∈ tracked.pending, object ∈ objects

namespace Owns

variable {fds : List Fd} {objects : List Temporary} {tracked : Tracked}
  {request : Syscall} {answer : Answer request}

/-- Nothing is owned at first. -/
theorem start : Owns [] [] {} :=
  ⟨fun _ => Iff.rfl, List.nodup_nil, nofun⟩

/-- More may exist. -/
theorem mono
    (owns : Owns fds objects tracked)
    {more : List Temporary}
    (within : objects ⊆ more) :
    Owns fds more tracked :=
  ⟨owns.opened, owns.distinct,
    fun object pending => within (owns.pending object pending)⟩

/-- In the end nothing is open or pending. -/
theorem nothing
    (owns : Owns [] [] tracked) :
    tracked.opened = [] ∧ tracked.pending = [] :=
  ⟨List.eq_nil_iff_forall_not_mem.mpr fun fd isOpen =>
      List.not_mem_nil ((owns.opened fd).mp isOpen),
    List.eq_nil_iff_forall_not_mem.mpr fun object pending =>
      List.not_mem_nil (owns.pending object pending)⟩

/-- The open descriptors after a call. -/
theorem mem_opened
    {fd : Fd} :
    fd ∈ (tracked.next request answer).opened ↔
      (fd ∈ tracked.opened ∧ closing request ≠ some fd) ∨
        (changes ⟨request, answer⟩).opens = some fd := by
  refine (descriptors.mem_next).trans ?_
  simp [descriptors]

/-- The pending objects after a call. -/
theorem mem_pending
    {object : Temporary} :
    object ∈ (tracked.next request answer).pending ↔
      (object ∈ tracked.pending ∧
          object ∉ (changes ⟨request, answer⟩).attempts ∧
            object ∉ (changes ⟨request, answer⟩).removes) ∨
        object ∈ (changes ⟨request, answer⟩).creates :=
  temporaries.mem_next

/-- What a call opens and creates is added. -/
theorem gains
    (owns : Owns fds objects tracked)
    (notClose : closing request = none)
    (fresh :
      ∀ fd, (changes ⟨request, answer⟩).opens = some fd →
        fd ∉ tracked.opened) :
    Owns ((changes ⟨request, answer⟩).opens.toList ++ fds)
      ((changes ⟨request, answer⟩).creates ++ objects)
      (tracked.next request answer) where
  opened := by
    intro fd
    rw [mem_opened, notClose, owns.opened fd]
    simp [or_comm]
  distinct := by
    cases opens : (changes ⟨request, answer⟩).opens with
    | none => exact owns.distinct
    | some fd =>
        refine List.nodup_cons.mpr ⟨fun member => ?_, owns.distinct⟩
        exact fresh fd opens ((owns.opened fd).mpr member)
  pending := by
    intro object
    rw [mem_pending, List.mem_append]
    rintro (⟨pending, _⟩ | new)
    · exact .inr (owns.pending object pending)
    · exact .inl new

/-- A close. -/
theorem closes
    {fd : Fd}
    (owns : Owns (fd :: fds) objects tracked)
    (answer : Result Unit) :
    Owns fds objects (tracked.next (.close fd) answer) where
  opened := by
    have apart := (List.nodup_cons.mp owns.distinct).1
    intro other
    rw [mem_opened, owns.opened other, List.mem_cons]
    constructor
    · rintro (⟨rfl | kept, different⟩ | new)
      · exact (different rfl).elim
      · exact kept
      · cases new
    · intro kept
      refine .inl ⟨.inr kept, fun same => ?_⟩
      exact apart (Option.some.inj same ▸ kept)
  distinct := (List.nodup_cons.mp owns.distinct).2
  pending := by
    intro object
    rw [mem_pending]
    rintro (⟨pending, _⟩ | new)
    · exact owns.pending object pending
    · cases new

/-- An attempt to release an object, whatever comes of it. -/
theorem attempts
    {object : Temporary}
    (owns : Owns fds (object :: objects) tracked)
    {outcome : Result Unit}
    (notClose : closing request = none)
    (changed : changes ⟨request, answer⟩ = removing object outcome) :
    Owns fds objects (tracked.next request answer) where
  opened := by
    intro fd
    rw [mem_opened, changed, notClose, ← owns.opened fd]
    simp [removing]
  distinct := owns.distinct
  pending := by
    intro other
    rw [mem_pending, changed]
    rintro (⟨pending, different, _⟩ | new)
    · rcases List.mem_cons.mp (owns.pending other pending) with rfl | rest
      · exact (different (List.mem_singleton_self _)).elim
      · exact rest
    · cases new

/-- A call may be made with what is open. -/
theorem uses
    (owns : Owns fds objects tracked)
    {fd : Fd}
    (member : fd ∈ fds) :
    ∀ other ∈ [fd], other ∈ tracked.opened := by
  intro other same
  rw [List.mem_singleton.mp same, owns.opened fd]
  exact member

end Owns

/-- The monitor of descriptors and objects alone. -/
def ownership : Monitor Answer Tracked :=
  tracking fun _ _ => True

/-- Something, if it is held. -/
def heldIf (held : Bool) (item : α) : List α :=
  if held then [item] else []

section Release

variable {fds : List Fd} {objects : List Temporary} {tracked : Tracked}
  {held : Bool} {tolerated : Option Errno} {result : Exit}

/-- A call with the descriptor that was opened last. -/
theorem uses_first
    {request : Syscall}
    {fd : Fd}
    (only : used request = [fd]) :
    ∀ other ∈ used request, other ∈ fd :: fds := by
  rw [only]
  exact List.forall_mem_singleton.mpr List.mem_cons_self

/-- A call that closes nothing. -/
theorem request_owns
    {duty : Tracked → Syscall → Prop}
    {request : Syscall}
    (owns : Owns fds objects tracked)
    (usesOpen : ∀ fd ∈ used request, fd ∈ fds)
    (dutiful : duty tracked request)
    (notClose : closing request = none) :
    (Syscall.invoke request).Ensures (tracking duty)
      (fun answer after =>
        Owns ((changes ⟨request, answer⟩).opens.toList ++ fds)
            ((changes ⟨request, answer⟩).creates ++ objects) after ∧
          ∀ fd, (changes ⟨request, answer⟩).opens = some fd → 0 ≤ fd)
      tracked := by
  refine .request ⟨fun fd uses => ?_, dutiful⟩ fun answer fresh => ⟨?_, ?_⟩
  · exact (owns.opened fd).mpr (usesOpen fd uses)
  · exact owns.gains notClose fun fd opens => (fresh fd opens).2
  · exact fun fd opens => (fresh fd opens).1

/-- Closing what is open. -/
theorem close_owns
    {fd : Fd}
    (owns : Owns (fd :: fds) objects tracked) :
    (Syscall.invoke (.close fd)).Ensures ownership
      (fun _ => Owns fds objects) tracked :=
  .request ⟨owns.uses List.mem_cons_self, trivial⟩
    fun answer _ => owns.closes answer

/-- Removing a directory. -/
theorem rmdir_owns
    {path : String}
    (owns : Owns fds (.directory path :: objects) tracked) :
    (Syscall.invoke (.rmdir path)).Ensures ownership
      (fun _ => Owns fds objects) tracked :=
  .request ⟨nofun, trivial⟩ fun _ _ => owns.attempts rfl rfl

/-- Unlinking a file. -/
theorem unlink_owns
    {path : String}
    (owns : Owns fds (.file path :: objects) tracked) :
    (Syscall.invoke (.unlink path)).Ensures ownership
      (fun _ => Owns fds objects) tracked :=
  .request ⟨nofun, trivial⟩ fun _ _ => owns.attempts rfl rfl

/-- Unlinking an entry of a directory that is open. -/
theorem unlinkat_owns
    {dirfd : Fd}
    {name : String}
    (owns : Owns fds (.entry dirfd name :: objects) tracked)
    (isOpen : dirfd ∈ fds) :
    (Syscall.invoke (.unlinkat dirfd name)).Ensures ownership
      (fun _ => Owns fds objects) tracked :=
  .request ⟨owns.uses isOpen, trivial⟩ fun _ _ => owns.attempts rfl rfl

/-- The release of a descriptor that may be open. -/
theorem release_closes
    {fd : Fd}
    (owns : Owns (heldIf held fd ++ fds) objects tracked) :
    (release held (Syscall.invoke (.close fd)) tolerated result).Ensures
      ownership (fun _ => Owns fds objects) tracked := by
  apply release_keeps
  · rintro rfl
    exact owns
  · rintro rfl
    exact close_owns owns

/-- The release of an object that may exist. -/
theorem release_attempts
    {object : Temporary}
    {attempt : Sys (Result Unit)}
    (attempted :
      Owns fds (object :: objects) tracked →
      attempt.Ensures ownership (fun _ => Owns fds objects) tracked)
    (owns : Owns fds (heldIf held object ++ objects) tracked) :
    (release held attempt tolerated result).Ensures ownership
      (fun _ => Owns fds objects) tracked := by
  apply release_keeps
  · rintro rfl
    exact owns
  · rintro rfl
    exact attempted owns

end Release

end AdvanceUnix
