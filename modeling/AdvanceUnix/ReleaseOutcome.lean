import AdvanceUnix.MappingRelease

namespace AdvanceUnix

open CallTree

/-!
# Nothing is left behind

The four experiments with temporary objects, in all their runs.
-/

/-- The experiments with temporary objects. -/
inductive Experiment where
  | filesystem
  | sharedMemory
  | filesystemEvents
  | fifo
  deriving DecidableEq, Repr

/-- `main` of each. -/
def Experiment.main : Experiment → Sys Exit
  | .filesystem => Filesystem.main
  | .sharedMemory => SharedMemory.main
  | .filesystemEvents => FilesystemEvents.main
  | .fifo => Fifo.main

/--
Whatever fails: every descriptor is closed once and not used any more, every
object is gone if the last attempts to release them succeed, and the mapping
is unmapped once, when nothing needs it any more.
-/
theorem nothing_left
    {events : Events}
    {result : Exit}
    (experiment : Experiment)
    (run : experiment.main.Run events (some result))
    (fresh : FreshDescriptors events) :
    NothingLeft events ∧
      (experiment = .sharedMemory →
        SharedMemory.MappingReleased events) := by
  cases experiment with
  | filesystem =>
      exact ⟨.of_ensures
        (Filesystem.main_released.mono fun _ _ => Owns.nothing) run fresh,
        nofun⟩
  | sharedMemory =>
      exact ⟨.of_ensures SharedMemory.main_released run fresh,
        fun _ => .of_run run fresh⟩
  | filesystemEvents =>
      exact ⟨.of_ensures
        (FilesystemEvents.main_released.mono fun _ _ => Owns.nothing) run
        fresh, nofun⟩
  | fifo =>
      exact ⟨.of_ensures
        (Fifo.main_released.mono fun _ _ => Owns.nothing) run fresh, nofun⟩

/-- A run of `02_filesystem` in which a rename and a close fail. -/
def renameFails : Events :=
  [⟨.mkdtemp, .ok "./lab"⟩, ⟨.openDirectory "./lab", .ok 3⟩,
    ⟨.openatCreate 3 "source.txt" 0o600, .ok 4⟩,
    ⟨.write 4 Filesystem.content, .ok 23⟩, ⟨.close 4, .ok ()⟩,
    ⟨.fstatat 3 "source.txt", .ok ⟨0o100600, 23, 8, ⟨0, 0⟩, ⟨0, 0⟩⟩⟩,
    ⟨.symlinkat "source.txt" 3 "source.link", .ok ()⟩,
    ⟨.openatNofollow 3 "source.link", .error .eloop⟩,
    ⟨.renameat 3 "source.txt" "renamed.txt", .error .eio⟩,
    ⟨.unlinkat 3 "source.link", .ok ()⟩,
    ⟨.unlinkat 3 "source.txt", .ok ()⟩,
    ⟨.unlinkat 3 "renamed.txt", .error .enoent⟩,
    ⟨.close 3, .error .eio⟩, ⟨.rmdir "./lab", .ok ()⟩]

/-- It is a run of `main`. -/
theorem renameFails_run :
    Filesystem.main.Run renameFails (some .failure) :=
  ⟨2, .call _ (.call _ (.call _ (.call _ (.call _ (.call _ (.call _ (.call _
    (.call _ (.call _ (.call _ (.call _ (.call _ (.call _
      (.ret _))))))))))))))⟩

/-- Its descriptors are fresh. -/
theorem renameFails_fresh :
    FreshDescriptors renameFails := by
  apply fresh_of_legal
  show ownership.Legal {} renameFails
  refine ⟨nofun, ?_, ?_, nofun, nofun, nofun, nofun, nofun, nofun, nofun,
    nofun, nofun, nofun, nofun, trivial⟩
  · rintro fd ⟨⟩
    decide
  · rintro fd ⟨⟩
    decide

/-- Nothing is left behind by it. -/
theorem nothing_left_renameFails :
    NothingLeft renameFails :=
  (nothing_left .filesystem renameFails_run renameFails_fresh).1

end AdvanceUnix
