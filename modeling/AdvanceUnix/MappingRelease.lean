import AdvanceUnix.ResourceRelease
import AdvanceUnix.SharedMemory

namespace AdvanceUnix.SharedMemory

open CallTree

/-!
# One mapping, unmapped once

The mapping of `08_shared_memory` outlives its descriptor and its name.  The
parent touches it until the semaphore in it is destroyed, and then unmaps it.
-/

/--
The calls that touch the mapping, `munmap` among them.  The two stores to it
are made right before `fork`, which stands for them.
-/
def touches : Syscall → Bool
  | .semInit => true
  | .fork => true
  | .semPost => true
  | .loadOutput => true
  | .semDestroy => true
  | .munmap => true
  | _ => false

/-- The mapping is touched while it is there, and its semaphore goes first. -/
structure Careful (tracked : Tracked) (request : Syscall) : Prop where
  mapped :
    touches request = true →
    .mapping ∈ tracked.pending ∧ tracked.unmapped = false
  semaphoreFirst :
    request = .munmap → .semaphore ∉ tracked.pending

/-- The monitor of the parent. -/
def mappingMonitor : Monitor Answer Tracked :=
  tracking Careful

/-- Everything has been released. -/
def Released (tracked : Tracked) : Prop :=
  tracked.opened = [] ∧ tracked.pending = []

/-- A mapping without a semaphore. -/
def mappedOnly : Tracked where
  pending := [.mapping]

/-- A mapping with its semaphore. -/
def initialised : Tracked where
  pending := [.mapping, .semaphore]

section Parent

variable {tracked : Tracked}

/-- Calls that touch nothing are made with care. -/
theorem careful_elsewhere
    {request : Syscall}
    (elsewhere : touches request = false) :
    Careful tracked request where
  mapped := by
    rw [elsewhere]
    exact nofun
  semaphoreFirst := by
    rintro rfl
    cases elsewhere

/-- The mapping with its semaphore may be touched. -/
theorem careful_initialised
    {request : Syscall}
    (notUnmap : request ≠ .munmap) :
    Careful initialised request where
  mapped := fun _ => ⟨List.mem_cons_self, rfl⟩
  semaphoreFirst := fun unmaps => (notUnmap unmaps).elim

/-- Without a semaphore everything may be done. -/
theorem careful_mappedOnly
    {request : Syscall} :
    Careful mappedOnly request where
  mapped := fun _ => ⟨List.mem_cons_self, rfl⟩
  semaphoreFirst := fun _ => by decide

/-- Unmapping releases what is left. -/
theorem munmap_released :
    (Syscall.invoke .munmap).Ensures mappingMonitor
      (fun _ after => Released after) mappedOnly :=
  .request ⟨fun _ => nofun, careful_mappedOnly⟩ fun _ _ => ⟨rfl, rfl⟩

/-- Destroying the semaphore leaves the mapping. -/
theorem semDestroy_mapped :
    (Syscall.invoke .semDestroy).Ensures mappingMonitor
      (fun _ after => after = mappedOnly) initialised :=
  .request ⟨fun _ => nofun, careful_initialised nofun⟩ fun answer _ => by
    cases answer with
    | error error => rfl
    | ok done => rfl

/-- Waiting changes nothing. -/
theorem waitForChild_mapped
    (child : Pid) :
    (ChildProcess.waitForChild child).Ensures mappingMonitor
      (fun _ after => after = tracked) tracked :=
  retryEintr_unchanged
    (request_unchanged (fun _ => nofun) (careful_elsewhere rfl) rfl
      fun _ => rfl)

/-- Ending the child changes nothing. -/
theorem terminateAndReap_mapped
    (child : Pid) :
    (terminateAndReap child).Ensures mappingMonitor
      (fun _ after => after = tracked) tracked := by
  refine .bind (Program.Ensures.mono
    (request_unchanged (fun _ => nofun) (careful_elsewhere rfl) rfl
      fun _ => rfl) ?_)
  rintro killed _ rfl
  refine .bind ((waitForChild_mapped child).mono ?_)
  rintro waited _ rfl
  exact .pure rfl

/-- Giving up releases the semaphore and the mapping. -/
theorem giveUp_released :
    giveUp.Ensures mappingMonitor (fun _ after => Released after)
      initialised := by
  refine .bind (semDestroy_mapped.mono ?_)
  rintro destroyed _ rfl
  refine .bind (munmap_released.mono ?_)
  intro unmapped _ released
  exact .pure released

/-- So does the verdict. -/
theorem verify_released
    (status : WaitStatus) :
    (verify status).Ensures mappingMonitor (fun _ after => Released after)
      initialised := by
  refine .bind (Program.Ensures.mono
    (request_unchanged (fun _ => nofun) (careful_initialised nofun) rfl
      fun _ => rfl) ?_)
  rintro output _ rfl
  refine .bind (semDestroy_mapped.mono ?_)
  rintro (error | ⟨⟩) _ rfl
  · refine .bind (munmap_released.mono ?_)
    intro unmapped _ released
    exact .pure released
  refine .bind (munmap_released.mono ?_)
  rintro (error | ⟨⟩) _ released
  · exact .pure released
  · exact .pure released

/-- And so does the parent after `fork`. -/
theorem parent_released
    (child : Pid) :
    (parent child).Ensures mappingMonitor (fun _ after => Released after)
      initialised := by
  refine .bind (Program.Ensures.mono
    (request_unchanged (fun _ => nofun) (careful_initialised nofun) rfl
      fun _ => rfl) ?_)
  rintro (error | ⟨⟩) _ rfl
  · refine .bind ((terminateAndReap_mapped child).mono ?_)
    rintro ended _ rfl
    exact giveUp_released
  refine .bind ((waitForChild_mapped child).mono ?_)
  rintro (error | status) _ rfl
  · refine .bind ((terminateAndReap_mapped child).mono ?_)
    rintro ended _ rfl
    exact giveUp_released
  · exact verify_released status

/-- A shared-memory object that is open. -/
def sharedOpen (descriptor : Fd) (name : String) : Tracked where
  opened := [descriptor]
  pending := [.shared name]

/-- The object is mapped, and still open. -/
def mappedOpen (descriptor : Fd) (name : String) : Tracked where
  opened := [descriptor]
  pending := [.shared name, .mapping]

/-- The object is mapped, and has its name. -/
def mappedNamed (name : String) : Tracked where
  pending := [.shared name, .mapping]

section Setup

variable (descriptor : Fd) (name : String)

/-- Closing the only open descriptor leaves none. -/
theorem next_close
    (tracked : Tracked)
    (only : tracked.opened = [descriptor])
    (answer : Result Unit) :
    tracked.next (.close descriptor) answer =
      { tracked with opened := [] } := by
  have nothing : changes ⟨.close descriptor, answer⟩ = {} := rfl
  rw [Tracked.next_changes nothing nofun]
  simp [closing, only]

/-- Unlinking the name, whatever comes of it, leaves the other objects. -/
theorem next_shmUnlink
    (tracked : Tracked)
    (answer : Result Unit) :
    tracked.next (.shmUnlink name) answer =
      { tracked with
        pending :=
          tracked.pending.filter fun object => object ≠ .shared name } := by
  have removes :
      changes ⟨.shmUnlink name, answer⟩ = removing (.shared name) answer :=
    rfl
  rw [Tracked.next_changes removes nofun]
  cases answer with
  | error error => simp [removing, closing, Except.toOption]
  | ok done => simp [removing, closing, Except.toOption]

/-- A new object is open. -/
theorem shmOpen_released :
    (Syscall.invoke (.shmOpen name)).Ensures mappingMonitor
      (fun answer after =>
        answer.Meets (fun _ => after = {})
          (fun descriptor => after = sharedOpen descriptor name)) {} := by
  refine .request ⟨fun _ => nofun, careful_elsewhere rfl⟩ ?_
  rintro (error | descriptor) _
  · exact rfl
  · exact rfl

/-- The object is mapped, or nothing has changed. -/
theorem mmap_released :
    (Syscall.invoke (.mmap descriptor)).Ensures mappingMonitor
      (fun answer after =>
        answer.Meets (fun _ => after = sharedOpen descriptor name)
          (fun _ => after = mappedOpen descriptor name))
      (sharedOpen descriptor name) := by
  refine .request ⟨fun _ => id, careful_elsewhere rfl⟩ ?_
  rintro (error | ⟨⟩) _
  · exact Tracked.next_nothing rfl rfl
  · exact rfl

/-- The exits before the object is mapped close and unlink it. -/
theorem discard_released :
    (do
      let _ ← Syscall.invoke (.close descriptor)
      let _ ← Syscall.invoke (.shmUnlink name)
      return Exit.failure : Sys Exit).Ensures mappingMonitor
      (fun _ after => Released after) (sharedOpen descriptor name) := by
  refine .request_bind ⟨fun _ => id, careful_elsewhere rfl⟩ ?_
  intro closed _
  have closes :
      mappingMonitor.next (sharedOpen descriptor name)
          (.close descriptor) closed =
        { sharedOpen descriptor name with opened := [] } :=
    next_close descriptor _ rfl closed
  rw [closes]
  refine .request_bind ⟨fun _ => nofun, careful_elsewhere rfl⟩ ?_
  intro unlinked _
  refine .pure ?_
  have unlinks :
      mappingMonitor.next { sharedOpen descriptor name with opened := [] }
          (.shmUnlink name) unlinked = {} := by
    refine (next_shmUnlink name _ unlinked).trans ?_
    simp [sharedOpen]
  rw [unlinks]
  exact ⟨rfl, rfl⟩

/-- The descriptor is closed once the object is mapped. -/
theorem close_mappedOpen :
    (Syscall.invoke (.close descriptor)).Ensures mappingMonitor
      (fun _ after => after = mappedNamed name)
      (mappedOpen descriptor name) := by
  refine .request ⟨fun _ => id, careful_elsewhere rfl⟩ fun answer _ => ?_
  exact next_close descriptor _ rfl answer

/-- The name is unlinked, whatever comes of it. -/
theorem shmUnlink_mappedNamed :
    (Syscall.invoke (.shmUnlink name)).Ensures mappingMonitor
      (fun _ after => after = mappedOnly) (mappedNamed name) := by
  refine .request ⟨fun _ => nofun, careful_elsewhere rfl⟩ ?_
  intro answer _
  refine (next_shmUnlink name _ answer).trans ?_
  simp [mappedNamed, mappedOnly]

end Setup

/-- The exits without a semaphore unmap. -/
theorem unmap_released :
    (do
      let _ ← Syscall.invoke .munmap
      return Exit.failure : Sys Exit).Ensures mappingMonitor
      (fun _ after => Released after) mappedOnly := by
  refine .bind (munmap_released.mono ?_)
  intro unmapped _ released
  exact .pure released

/-- Every exit of `main` releases what is held there. -/
theorem main_released :
    main.Ensures mappingMonitor (fun _ after => Released after) {} := by
  refine .bind (Program.Ensures.mono
    (request_unchanged (fun _ => nofun) (careful_elsewhere rfl) rfl
      fun _ => rfl) ?_)
  rintro process _ rfl
  refine .bind ((shmOpen_released _).mono ?_)
  rintro (error | descriptor) after opened
  · obtain rfl : after = {} := opened
    exact .pure ⟨rfl, rfl⟩
  obtain rfl : after = sharedOpen descriptor _ := opened
  refine .bind (Program.Ensures.mono
    (request_unchanged (fun _ => id) (careful_elsewhere rfl) rfl
      fun _ => rfl) ?_)
  rintro (error | ⟨⟩) _ rfl
  · exact discard_released descriptor _
  refine .bind ((mmap_released descriptor _).mono ?_)
  rintro (error | ⟨⟩) after mapped
  · obtain rfl : after = sharedOpen descriptor _ := mapped
    exact discard_released descriptor _
  obtain rfl : after = mappedOpen descriptor _ := mapped
  refine .bind ((close_mappedOpen descriptor _).mono ?_)
  rintro closed _ rfl
  refine .bind ((shmUnlink_mappedNamed _).mono ?_)
  rintro (error | ⟨⟩) _ rfl
  · exact unmap_released
  refine .request_bind ⟨fun _ => nofun, careful_mappedOnly⟩ ?_
  rintro (error | ⟨⟩) _
  · exact unmap_released
  refine .request_bind ⟨fun _ => nofun, careful_initialised nofun⟩ ?_
  rintro (error | child) _
  · exact giveUp_released
  · exact parent_released child

end Parent

/-- The call that releases an object; entries may also be renamed. -/
def releaser : Temporary → Option Syscall
  | .directory path => some (.rmdir path)
  | .file path => some (.unlink path)
  | .entry _ _ => none
  | .shared name => some (.shmUnlink name)
  | .mapping => some .munmap
  | .semaphore => some .semDestroy

/-- An object is released, or that is tried. -/
def Releases (changed : Changes) (object : Temporary) : Prop :=
  object ∈ changed.attempts ∨ object ∈ changed.removes

section Releases

variable {object other : Temporary}

/-- Creating an object releases nothing. -/
theorem creating_keeps
    {create : α → Temporary}
    {answer : Result α} :
    ¬ Releases (creating create answer) other := by
  cases answer with
  | error error => simp [creating, Releases]
  | ok value => simp [creating, Releases]

/-- Opening a descriptor releases nothing. -/
theorem opening_keeps
    {answer : Result Fd} :
    ¬ Releases (opening answer) other := by
  cases answer with
  | error error => simp [opening, Releases]
  | ok fd => simp [opening, Releases]

/-- Nor does opening a new object. -/
theorem openingNew_keeps
    {answer : Result Fd} :
    ¬ Releases (openingNew object answer) other := by
  cases answer with
  | error error => simp [openingNew, Releases]
  | ok fd => simp [openingNew, Releases]

/-- Renaming releases entries at most. -/
theorem releaser_of_moving
    {dirfd : Fd}
    {old new : String}
    {answer : Result Unit}
    (releases : Releases (movingEntry dirfd old new answer) other) :
    releaser other = none := by
  cases answer with
  | error error => simp [movingEntry, Releases] at releases
  | ok done =>
      obtain rfl : other = .entry dirfd old := by
        simpa [movingEntry, Releases] using releases
      rfl

/-- Removing an object releases that object only. -/
theorem eq_of_removing
    {answer : Result Unit}
    (releases : Releases (removing object answer) other) :
    other = object := by
  cases answer with
  | error error =>
      simpa [Releases, removing, Except.toOption] using releases
  | ok value =>
      simpa [Releases, removing, Except.toOption] using releases

/-- An object that is not an entry is released by its own call. -/
theorem call_of_releases
    {event : Event Answer}
    {call : Syscall}
    (releases : Releases (changes event) object)
    (only : releaser object = some call) :
    event.call = call := by
  unfold changes at releases
  split at releases
  all_goals first
    | exact (opening_keeps releases).elim
    | exact (openingNew_keeps releases).elim
    | exact (creating_keeps releases).elim
    | exact nomatch (releaser_of_moving releases).symm.trans only
    | rw [eq_of_removing releases] at only
    | simp [Releases] at releases
  all_goals first
    | exact Option.some.inj only
    | cases only

end Releases

/-- What has been created and is not pending has seen its own call. -/
theorem released_between
    {later : Events}
    {call : Syscall}
    (earlier : Events)
    (gaining : Event Answer)
    (object : Temporary)
    (created : object ∈ (changes gaining).creates)
    (only : releaser object = some call)
    (notPending :
      object ∉ temporaries.pending (earlier ++ gaining :: later)) :
    ∃ event ∈ later, event.call = call := by
  by_contra never
  refine notPending (temporaries.mem_pending.mpr
    ⟨earlier, gaining, later, rfl, created, ?_⟩)
  intro event member
  refine ⟨fun attempts => ?_, fun loses => ?_⟩
  · exact never ⟨event, member, call_of_releases (.inl attempts) only⟩
  · exact never ⟨event, member, call_of_releases (.inr loses) only⟩

/-- The mapping is unmapped once, when nothing needs it any more. -/
structure MappingReleased (events : Events) : Prop where
  unmapped :
    ∀ before fd later,
      events = before ++ ⟨.mmap fd, .ok ()⟩ :: later →
      ∃ event ∈ later, event.call = .munmap
  lastAccess :
    ∀ before answer later,
      events = before ++ ⟨.munmap, answer⟩ :: later →
      ∀ event ∈ later, touches event.call = false
  semaphoreFirst :
    ∀ before answer later,
      events = before ++ ⟨.munmap, answer⟩ :: later →
      ∀ earlier between,
        before = earlier ++ ⟨.semInit, .ok ()⟩ :: between →
        ∃ event ∈ between, event.call = .semDestroy

/-- What the monitor has seen to. -/
theorem MappingReleased.of_run
    {events : Events}
    {result : Exit}
    (run : main.Run events (some result))
    (fresh : FreshDescriptors events) :
    MappingReleased events := by
  obtain ⟨safe, returned⟩ :=
    main_released.sound run (legal_of_fresh fresh)
  have released : Released (mappingMonitor.after {} events) :=
    returned result rfl
  have careful :
      ∀ before event later,
        events = before ++ event :: later →
        Careful (mappingMonitor.after {} before) event.call := by
    intro before event later split
    rw [split] at safe
    exact (mappingMonitor.safe_at safe).2
  constructor
  · intro before fd later split
    have nonePending : temporaries.pending events = [] := by
      have nothing := released.2
      rw [mappingMonitor, after_tracking] at nothing
      exact nothing
    refine released_between before ⟨.mmap fd, .ok ()⟩ .mapping
      List.mem_cons_self rfl ?_
    rw [← split, nonePending]
    exact List.not_mem_nil
  · intro before answer later split event member
    obtain ⟨middle, rest, rfl⟩ := List.append_of_mem member
    have here :=
      careful (before ++ ⟨.munmap, answer⟩ :: middle) event rest
        (by simp [split])
    rw [Bool.eq_false_iff]
    intro touched
    have still := (here.mapped touched).2
    rw [mappingMonitor, after_tracking] at still
    simp at still
  · intro before answer later split earlier between before_split
    have here := (careful before _ later split).semaphoreFirst rfl
    rw [mappingMonitor, after_tracking, before_split] at here
    exact released_between earlier ⟨.semInit, .ok ()⟩ .semaphore
      List.mem_cons_self rfl here

end AdvanceUnix.SharedMemory
