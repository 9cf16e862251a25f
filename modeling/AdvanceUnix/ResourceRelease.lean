import AdvanceUnix.Resources
import AdvanceUnix.Filesystem
import AdvanceUnix.FilesystemEvents
import AdvanceUnix.NamedFifo

namespace AdvanceUnix

open CallTree

/-!
# Every exit releases what is held

In each program the descriptors and objects that are held when an exit is
taken are those that its cleanup section releases.
-/

/-- A descriptor that is not negative is not -1. -/
theorem ne_invalid
    {fd : Fd}
    (natural : 0 ≤ fd) :
    fd ≠ -1 := by
  rintro rfl
  exact absurd natural (by decide)

/-- A descriptor that is not negative is held. -/
theorem heldIf_natural
    {fd : Fd}
    (natural : 0 ≤ fd) :
    heldIf (fd ≥ 0) fd = [fd] :=
  if_pos (decide_eq_true natural)

/-- A descriptor that is not -1 is held. -/
theorem heldIf_valid
    {fd : Fd}
    (natural : 0 ≤ fd) :
    heldIf (fd ≠ -1) fd = [fd] :=
  if_pos (decide_eq_true (ne_invalid natural))

namespace FilesystemEvents

variable {tracked : Tracked}

/-- What is held when the cleanup section is entered. -/
structure Owned (held : Held) (tracked : Tracked) : Prop where
  owns :
    Owns
      (heldIf (held.fileFd ≥ 0) held.fileFd ++
        (heldIf (held.inotifyFd ≠ -1) held.inotifyFd ++ []))
      (heldIf held.fileExists (.file held.filePath) ++
        (heldIf held.directory.isSome
          (.directory (held.directory.getD "")) ++ []))
      tracked
  watched : held.watch ≠ -1 → held.inotifyFd ≠ -1

/-- The cleanup section releases it all. -/
theorem cleanup_owned
    {held : Held}
    {result : Exit}
    (owned : Owned held tracked) :
    (cleanup held result).Ensures ownership (fun _ => Owns [] [])
      tracked := by
  refine .bind ((release_closes owned.owns).mono ?_)
  intro _ afterFile owns
  refine .bind (Program.Ensures.mono
    (release_attempts unlink_owns owns) ?_)
  intro _ afterUnlink owns
  refine .bind (Program.Ensures.mono
    (release_keeps (Owns _ _) (fun _ => owns) fun watched => ?_) ?_)
  · have isHeld := owned.watched (of_decide_eq_true watched)
    have member : held.inotifyFd ∈
        heldIf (held.inotifyFd ≠ -1) held.inotifyFd ++ [] := by
      simp [heldIf, isHeld]
    have unchanged :
        (inotifyRmWatch held.inotifyFd held.watch).Ensures ownership
          (fun _ after => after = afterUnlink) afterUnlink :=
      request_unchanged (owns.uses member) trivial rfl fun _ => rfl
    refine unchanged.mono ?_
    rintro _ _ rfl
    exact owns
  intro _ afterWatch owns
  refine .bind ((release_closes owns).mono ?_)
  intro _ afterInotify owns
  exact release_attempts rmdir_owns owns

/-- The event loop changes nothing. -/
theorem eventLoop_unchanged
    {inotifyFd : Fd}
    {watch : BitVec 32}
    (isOpen : ∀ fd ∈ [inotifyFd], fd ∈ tracked.opened) :
    (eventLoop inotifyFd watch).Ensures ownership
      (fun _ after => after = tracked) tracked := by
  refine .iterate (fun _ current => current = tracked) ?_ rfl
  rintro observed current rfl
  unfold eventStep
  split
  · exact .pure rfl
  refine .bind (Program.Ensures.mono (retryEintr_unchanged
    (request_unchanged isOpen trivial rfl fun _ => rfl)) ?_)
  rintro polled after rfl
  rcases polled with error | timedOut | revents
  · exact .pure rfl
  · exact .pure rfl
  dsimp only
  split
  · exact .pure rfl
  refine .bind (Program.Ensures.mono (retryEintr_unchanged
    (request_unchanged isOpen trivial rfl fun _ => rfl)) ?_)
  rintro filled after rfl
  cases filled with
  | error error =>
      dsimp only
      split
      · exact .pure rfl
      · exact .pure rfl
  | ok buffer =>
      refine .pure ?_
      cases batchRead watch observed buffer with
      | again next => rfl
      | done result => rfl

/-- Every exit of `main` releases what is held there. -/
theorem main_released :
    main.Ensures ownership (fun _ => Owns [] []) {} := by
  refine .bind ((request_owns Owns.start ?_ trivial rfl).mono ?_)
  · exact fun _ => nofun
  rintro (error | directory) _ ⟨owns, _⟩
  · exact cleanup_owned ⟨owns, nofun⟩
  refine .bind ((request_owns owns ?_ trivial rfl).mono ?_)
  · exact fun _ => nofun
  rintro (error | inotifyFd) _ ⟨owns, natural⟩
  · exact cleanup_owned ⟨owns, nofun⟩
  have inotifyHeld :=
    heldIf_valid (natural inotifyFd rfl)
  have watching : inotifyFd ≠ -1 := ne_invalid (natural inotifyFd rfl)
  refine .bind ((request_owns owns ?_ trivial rfl).mono ?_)
  · exact uses_first rfl
  rintro (error | watch) _ ⟨owns, _⟩
  · refine cleanup_owned ⟨?_, nofun⟩
    rw [inotifyHeld]
    exact owns
  refine .bind ((request_owns owns ?_ trivial rfl).mono ?_)
  · exact fun _ => nofun
  rintro (error | fileFd) tracked ⟨owns, natural⟩
  · refine cleanup_owned ⟨?_, fun _ => watching⟩
    rw [inotifyHeld]
    exact owns
  have fileHeld := heldIf_natural (natural fileFd rfl)
  have fileOpen := owns.uses List.mem_cons_self
  refine .bind (Program.Ensures.mono (writeLoop_unchanged fun rest =>
    request_unchanged fileOpen trivial rfl fun _ => rfl) ?_)
  rintro (error | ⟨⟩) _ rfl
  · refine cleanup_owned ⟨?_, fun _ => watching⟩
    rw [fileHeld, inotifyHeld]
    exact owns
  refine .bind ((close_owns owns).mono ?_)
  rintro (error | ⟨⟩) _ owns
  · refine cleanup_owned ⟨?_, fun _ => watching⟩
    rw [inotifyHeld]
    exact owns
  refine .bind ((unlink_owns owns).mono ?_)
  rintro (error | ⟨⟩) tracked owns
  · refine cleanup_owned ⟨?_, fun _ => watching⟩
    rw [inotifyHeld]
    exact owns.mono (List.subset_cons_self _ _)
  refine .bind (Program.Ensures.mono
    (eventLoop_unchanged (owns.uses List.mem_cons_self)) ?_)
  rintro result _ rfl
  refine cleanup_owned ⟨?_, fun _ => watching⟩
  rw [inotifyHeld]
  exact owns

end FilesystemEvents

namespace Filesystem

variable {tracked : Tracked}

/-- The entries that the cleanup section tries to remove. -/
def entries (dirfd : Fd) : List Temporary :=
  [.entry dirfd "source.link", .entry dirfd "source.txt",
    .entry dirfd "renamed.txt"]

/-- What is held when the cleanup section is entered. -/
def Owned (held : Held) : Tracked → Prop :=
  Owns
    (heldIf (held.filefd ≥ 0) held.filefd ++
      (heldIf (held.dirfd ≥ 0) held.dirfd ++ []))
    ((if held.dirfd ≥ 0 then entries held.dirfd else []) ++
      (heldIf held.directory.isSome
        (.directory (held.directory.getD "")) ++ []))

/-- The entries are removed before their directory is closed. -/
theorem cleanupEntries_owned
    {dirfd : Fd}
    {objects : List Temporary}
    {result : Exit}
    (owns : Owns [dirfd] (entries dirfd ++ objects) tracked) :
    (cleanupEntries dirfd result).Ensures ownership
      (fun _ => Owns [] objects) tracked := by
  refine .bind (Program.Ensures.mono
    (unlinkat_owns owns List.mem_cons_self) ?_)
  intro _ afterLink owns
  refine .bind (Program.Ensures.mono
    (unlinkat_owns owns List.mem_cons_self) ?_)
  intro _ afterSource owns
  refine .bind (Program.Ensures.mono
    (unlinkat_owns owns List.mem_cons_self) ?_)
  intro _ afterRenamed owns
  refine .bind ((close_owns owns).mono ?_)
  rintro (error | ⟨⟩) _ owns
  · exact .pure owns
  · exact .pure owns

/-- The cleanup section releases it all. -/
theorem cleanup_owned
    {held : Held}
    {result : Exit}
    (owned : Owned held tracked) :
    (cleanup held result).Ensures ownership (fun _ => Owns [] [])
      tracked := by
  refine .bind ((release_closes owned).mono ?_)
  intro between afterFile owns
  dsimp only
  split
  next natural =>
    rw [if_pos natural, heldIf_natural natural] at owns
    refine .bind ((cleanupEntries_owned owns).mono ?_)
    intro _ afterDirectory owns
    exact release_attempts rmdir_owns owns
  next negative =>
    rw [if_neg negative] at owns
    have notHeld : heldIf (held.dirfd ≥ 0) held.dirfd = [] :=
      if_neg (fun natural => negative (of_decide_eq_true natural))
    rw [notHeld] at owns
    exact release_attempts rmdir_owns owns

/-- The cleanup section releases an open directory and entries of it. -/
theorem cleanup_opened
    {directory : String}
    {dirfd : Fd}
    {result : Exit}
    (objects : List Temporary)
    (natural : 0 ≤ dirfd)
    (owns : Owns [dirfd] (objects ++ [.directory directory]) tracked)
    (within : objects ⊆ entries dirfd) :
    (cleanup
        { directory := some directory, dirfd := dirfd } result).Ensures
      ownership (fun _ => Owns [] []) tracked := by
  have dirHeld := heldIf_natural natural
  apply cleanup_owned
  rw [Owned, dirHeld, if_pos natural]
  refine owns.mono fun object member => ?_
  rcases List.mem_append.mp member with inDirectory | rest
  · exact List.mem_append.mpr (.inl (within inDirectory))
  · exact List.mem_append.mpr (.inr rest)

/-- The part of `main` behind the symbolic link. -/
theorem probeAndRename_released
    {directory : String}
    {dirfd : Fd}
    (natural : 0 ≤ dirfd)
    (owns :
      Owns [dirfd]
        ([.entry dirfd "source.link", .entry dirfd "source.txt"] ++
          [.directory directory]) tracked) :
    (probeAndRename
        { directory := some directory, dirfd := dirfd }).Ensures ownership
      (fun _ => Owns [] []) tracked := by
  refine .bind ((request_owns owns ?_ trivial rfl).mono ?_)
  · simp [used]
  rintro (error | probe) _ ⟨owns, _⟩
  · dsimp only
    split
    · exact cleanup_opened _ natural owns (by simp [entries])
    refine .bind ((request_owns owns ?_ trivial rfl).mono ?_)
    · exact uses_first rfl
    rintro (error | ⟨⟩) renamed ⟨owns, _⟩
    · exact cleanup_opened _ natural owns (by simp [entries])
    have reordered :
        Owns [dirfd]
          (.entry dirfd "source.link" :: .entry dirfd "renamed.txt" ::
            [.entry dirfd "source.txt", .directory directory]) renamed :=
      owns.mono (by simp [changes, opening, movingEntry])
    refine .bind (Program.Ensures.mono
      (unlinkat_owns reordered List.mem_cons_self) ?_)
    rintro (error | ⟨⟩) _ owns
    · exact cleanup_opened
        [.entry dirfd "renamed.txt", .entry dirfd "source.txt"] natural
        owns (by simp [entries])
    refine .bind (Program.Ensures.mono
      (unlinkat_owns owns List.mem_cons_self) ?_)
    rintro (error | ⟨⟩) _ owns
    · exact cleanup_opened [.entry dirfd "source.txt"]
        natural owns (by simp [entries])
    · exact cleanup_opened [.entry dirfd "source.txt"]
        natural owns (by simp [entries])
  · refine .bind ((close_owns owns).mono ?_)
    rintro _ _ owns
    exact cleanup_opened _ natural owns (by simp [entries])

/-- Every exit of `main` releases what is held there. -/
theorem main_released :
    main.Ensures ownership (fun _ => Owns [] []) {} := by
  refine .bind ((request_owns Owns.start ?_ trivial rfl).mono ?_)
  · exact fun _ => nofun
  rintro (error | directory) _ ⟨owns, _⟩
  · exact cleanup_owned owns
  refine .bind ((request_owns owns ?_ trivial rfl).mono ?_)
  · exact fun _ => nofun
  rintro (error | dirfd) _ ⟨owns, natural⟩
  · exact cleanup_owned owns
  have natural := natural dirfd rfl
  refine .bind ((request_owns owns ?_ trivial rfl).mono ?_)
  · exact uses_first rfl
  rintro (error | filefd) _ ⟨owns, fileNatural⟩
  · exact cleanup_opened [] natural owns (by simp [entries])
  have fileOpen := owns.uses List.mem_cons_self
  refine .bind (Program.Ensures.mono (writeLoop_unchanged fun rest =>
    request_unchanged fileOpen trivial rfl fun _ => rfl) ?_)
  rintro (error | ⟨⟩) _ rfl
  · refine cleanup_owned ?_
    have dirHeld := heldIf_natural natural
    have fileHeld := heldIf_natural (fileNatural filefd rfl)
    rw [Owned, fileHeld, dirHeld, if_pos natural]
    exact owns.mono (by
      simp [entries, changes, openingNew, opening, creating, heldIf])
  refine .bind ((close_owns owns).mono ?_)
  rintro (error | ⟨⟩) _ owns
  · exact cleanup_opened [.entry dirfd "source.txt"]
      natural owns (by simp [entries])
  refine .bind ((request_owns owns ?_ trivial rfl).mono ?_)
  · exact uses_first rfl
  rintro (error | status) _ ⟨owns, _⟩
  · exact cleanup_opened [.entry dirfd "source.txt"]
      natural owns (by simp [entries])
  dsimp only
  split
  · exact cleanup_opened [.entry dirfd "source.txt"]
      natural owns (by simp [entries])
  refine .bind ((request_owns owns ?_ trivial rfl).mono ?_)
  · exact uses_first rfl
  rintro (error | ⟨⟩) _ ⟨owns, _⟩
  · exact cleanup_opened [.entry dirfd "source.txt"]
      natural owns (by simp [entries])
  exact probeAndRename_released natural owns

end Filesystem

namespace Fifo

variable {tracked : Tracked}

/-- What is held when the cleanup section is entered. -/
def Owned (held : Held) : Tracked → Prop :=
  Owns
    (heldIf (held.readDescriptor ≥ 0) held.readDescriptor ++ [])
    (heldIf held.fifoCreated (.file held.fifoPath) ++
      (heldIf held.directory.isSome
        (.directory (held.directory.getD "")) ++ []))

/-- Waiting changes nothing. -/
theorem waitForChild_unchanged
    {child : Pid} :
    (ChildProcess.waitForChild child).Ensures ownership
      (fun _ after => after = tracked) tracked :=
  retryEintr_unchanged
    (request_unchanged (fun _ => nofun) trivial rfl fun _ => rfl)

/-- Ending the child changes nothing. -/
theorem cleanupChild_unchanged
    {child : Option Pid}
    {childReaped : Bool}
    {result : Exit} :
    (ChildProcess.cleanupChild child childReaped result).Ensures ownership
      (fun _ after => after = tracked) tracked := by
  cases child with
  | none => exact .pure rfl
  | some child =>
      cases childReaped with
      | true => exact .pure rfl
      | false =>
          refine .bind (Program.Ensures.mono
            (release_keeps (fun after => after = tracked) (fun _ => rfl)
              fun _ => request_unchanged (fun _ => nofun) trivial rfl
                fun _ => rfl) ?_)
          rintro between _ rfl
          refine .bind (waitForChild_unchanged.mono ?_)
          rintro (error | status) _ rfl
          · exact .pure rfl
          · exact .pure rfl

/-- The cleanup section releases it all. -/
theorem cleanup_owned
    {held : Held}
    {result : Exit}
    (owned : Owned held tracked) :
    (cleanup held result).Ensures ownership (fun _ => Owns [] [])
      tracked := by
  refine .bind (cleanupChild_unchanged.mono ?_)
  rintro between _ rfl
  refine .bind ((release_closes owned).mono ?_)
  intro _ afterReader owns
  refine .bind (Program.Ensures.mono
    (release_attempts unlink_owns owns) ?_)
  intro _ afterFifo owns
  exact release_attempts rmdir_owns owns

/-- Reading the message changes nothing. -/
theorem readExactWithPoll_unchanged
    {descriptor : Fd}
    {size : Nat}
    (isOpen : ∀ fd ∈ [descriptor], fd ∈ tracked.opened) :
    (readExactWithPoll descriptor size).Ensures ownership
      (fun _ after => after = tracked) tracked := by
  refine .iterate (fun _ current => current = tracked) ?_ rfl
  rintro received current rfl
  split
  · refine .bind (Program.Ensures.mono (retryEintr_unchanged
      (request_unchanged isOpen trivial rfl fun _ => rfl)) ?_)
    rintro polled _ rfl
    rcases polled with error | timedOut | revents
    · exact .pure rfl
    · exact .pure rfl
    dsimp only
    split
    · exact .pure rfl
    split
    · exact .pure rfl
    refine .bind (Program.Ensures.mono (retryEintr_unchanged
      (request_unchanged isOpen trivial rfl fun _ => rfl)) ?_)
    rintro bytes _ rfl
    refine .pure ?_
    cases readAnswered received bytes with
    | again next => rfl
    | done result => rfl
  · exact .pure rfl

/-- The parent after `fork` changes nothing before its cleanup. -/
theorem parent_released
    {held : Held}
    {child : Pid}
    (natural : 0 ≤ held.readDescriptor)
    (owned : ∀ reaped, Owned { held with childReaped := reaped } tracked) :
    (parent held child).Ensures ownership (fun _ => Owns [] []) tracked := by
  refine .bind (waitForChild_unchanged.mono ?_)
  rintro (error | status) tracked rfl
  · exact cleanup_owned (owned _)
  dsimp only
  split
  · have isOpen :
        ∀ fd ∈ [held.readDescriptor], fd ∈ tracked.opened := by
      have owns := owned true
      rw [Owned, heldIf_natural natural] at owns
      exact owns.uses List.mem_cons_self
    refine .bind ((readExactWithPoll_unchanged isOpen).mono ?_)
    rintro (error | bytes) _ rfl
    · exact cleanup_owned (owned true)
    · exact cleanup_owned (owned true)
  · exact cleanup_owned (owned true)

/-- Every exit of `main` releases what is held there. -/
theorem main_released :
    main.Ensures ownership (fun _ => Owns [] []) {} := by
  refine .bind ((request_owns Owns.start ?_ trivial rfl).mono ?_)
  · exact fun _ => nofun
  rintro (error | directory) _ ⟨owns, _⟩
  · exact cleanup_owned owns
  refine .bind ((request_owns owns ?_ trivial rfl).mono ?_)
  · exact fun _ => nofun
  rintro (error | ⟨⟩) _ ⟨owns, _⟩
  · exact cleanup_owned owns
  refine .bind ((request_owns owns ?_ trivial rfl).mono ?_)
  · exact fun _ => nofun
  rintro (error | isFifo) _ ⟨owns, _⟩
  · exact cleanup_owned owns
  cases isFifo with
  | false => exact cleanup_owned owns
  | true =>
      refine .bind ((request_owns owns ?_ trivial rfl).mono ?_)
      · exact fun _ => nofun
      rintro (error | readDescriptor) _ ⟨owns, natural⟩
      · exact cleanup_owned owns
      have readerNatural := natural readDescriptor rfl
      have readerHeld := heldIf_natural readerNatural
      refine .bind ((request_owns owns ?_ trivial rfl).mono ?_)
      · exact fun _ => nofun
      rintro (error | child) _ ⟨owns, _⟩
      · apply cleanup_owned
        rw [Owned, readerHeld]
        exact owns
      · refine parent_released readerNatural fun reaped => ?_
        rw [Owned, readerHeld]
        exact owns

end Fifo

end AdvanceUnix
