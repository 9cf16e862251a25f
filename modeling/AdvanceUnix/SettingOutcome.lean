import AdvanceUnix.SignalRestoration

namespace AdvanceUnix

open CallTree Setting

/-!
# What is restored, and what is asked for

The settings of the four experiments in all their runs, and the limits that
`14_resource_limits` asks for.
-/

namespace ResourceLimits

/-- The limits that are asked for where the initial one is valid. -/
structure LimitsAsked (initial : Rlimit) (events : Events) : Prop where
  temporary :
    ∀ before new answer later,
      events = before ++ ⟨.prlimit new, answer⟩ :: later →
      (∀ event ∈ before, ∀ other, event.call ≠ .prlimit other) →
      new.cur.toNat = min initial.cur.toNat 64 ∧ new.max = initial.max
  valid :
    ∀ event ∈ events, ∀ new,
      event.call = .prlimit new →
      new.max = initial.max ∧ new.cur.toNat ≤ initial.cur.toNat ∧
        new.cur.toNat ≤ new.max.toNat

/-- No limit is raised, and none is invalid. -/
theorem LimitsAsked.of_run
    {initial : Rlimit}
    {events : Events}
    {result : Exit}
    (run : main.Run events (some result))
    (reported : limits.Reported initial events)
    (ordered : initial.cur.toNat ≤ initial.max.toNat) :
    LimitsAsked initial events := by
  have safe := ((main_fixed initial).sound run reported.legal).1
  constructor
  · intro before new answer later split never
    rw [split] at safe
    have lowers := ((limiting initial).safe_at safe).first new rfl
    have unasked : ∀ event ∈ before, limits.asks event = none := by
      rintro ⟨request, told⟩ member
      cases request with
      | prlimit other => exact (never _ member other rfl).elim
      | _ => rfl
    have value :
        ((limiting initial).after (untouched initial) before).value =
          initial :=
      (value_after _ before).trans (value_unasked unasked)
    rw [lowers value]
    exact ⟨temporary_cur initial, temporary_max initial⟩
  · intro event member new asks
    obtain ⟨before, later, _, lowers⟩ :=
      (limiting initial).safe_of_mem safe member
    rcases lowers.either new asks with rfl | rfl
    · have least := Nat.min_le_left initial.cur.toNat 64
      rw [← temporary_cur] at least
      rw [temporary_max]
      exact ⟨rfl, least, Nat.le_trans least ordered⟩
    · exact ⟨rfl, Nat.le_refl _, ordered⟩

end ResourceLimits

/--
Whatever fails: each setting has its initial value when `main` returns, unless
the last call to restore it failed and `main` returns a failure, and the
limits that are asked for are never higher than the initial ones.
-/
theorem settings_restored
    {events : Events}
    {result : Exit} :
    (∀ initial,
      ResourceLimits.main.Run events (some result) →
      ResourceLimits.limits.Reported initial events →
      ResourceLimits.limits.Restored initial events (result = .failure) ∧
        (initial.cur.toNat ≤ initial.max.toNat →
          ResourceLimits.LimitsAsked initial events)) ∧
      (∀ initial,
        Terminal.main.Run events (some result) →
        Terminal.attributes.Reported initial events →
        Terminal.attributes.Restored initial events
          (result = .failure)) ∧
      (∀ initial,
        FileMetadata.main.Run events (some result) →
        FileMetadata.creationMask.Reported initial events →
        FileMetadata.creationMask.Restored initial events
          (result = .failure)) ∧
      (∀ initial,
        PortableSignals.main.Run events (some result) →
        PortableSignals.signalMask.Reported initial events →
        PortableSignals.signalMask.Restored initial events
          (result = .failure)) ∧
      ∀ initial,
        PortableSignals.main.Run events (some result) →
        PortableSignals.disposition.Reported initial events →
        PortableSignals.disposition.Restored initial events
          (result = .failure) := by
  refine ⟨?_, ?_, ?_, ?_, ?_⟩
  · intro initial run reported
    exact ⟨.of_ensures (ResourceLimits.main_fixed initial) run reported,
      .of_run run reported⟩
  · intro initial run reported
    exact .of_ensures (Terminal.main_fixed initial) run reported
  · intro initial run reported
    exact .of_ensures (FileMetadata.main_fixed initial) run reported
  · intro initial run reported
    exact .of_ensures (PortableSignals.main_mask initial) run reported
  · intro initial run reported
    exact .of_ensures (PortableSignals.main_action initial) run reported

/-- A run in which the limit is restored only by the cleanup section. -/
def restoredLate : Events :=
  [⟨.getrlimit, .ok ⟨1024, 4096⟩⟩, ⟨.prlimitQuery, .ok ⟨1024, 4096⟩⟩,
    ⟨.prlimit ⟨64, 4096⟩, .ok ⟨1024, 4096⟩⟩, ⟨.getrlimit, .ok ⟨64, 4096⟩⟩,
    ⟨.prlimit ⟨1024, 4096⟩, .error .einval⟩,
    ⟨.prlimit ⟨1024, 4096⟩, .ok ⟨64, 4096⟩⟩]

/-- It is a run of `main`. -/
theorem restoredLate_run :
    ResourceLimits.main.Run restoredLate (some .failure) :=
  ⟨0, .call _ (.call _ (.call _ (.call _ (.call _ (.call _ (.ret _))))))⟩

/-- What is reported in it is true. -/
theorem restoredLate_reported :
    ResourceLimits.limits.Reported ⟨1024, 4096⟩ restoredLate := by
  apply reported_of_legal
  show (ResourceLimits.limiting ⟨1024, 4096⟩).Legal _ restoredLate
  exact ⟨rfl, rfl, rfl, rfl, trivial, rfl, trivial⟩

/-- The attributes of a terminal that edits lines. -/
def cookedTermios : Termios :=
  ⟨0x500, 0x5, 0xbf, 0x8a3b, List.replicate 32 0⟩

/-- A run in which nothing can be written to the terminal in raw mode. -/
def writeRefused : Events :=
  [⟨.posixOpenpt, .ok 3⟩, ⟨.grantpt 3, .ok ()⟩, ⟨.unlockpt 3, .ok ()⟩,
    ⟨.ptsname 3, .ok "/dev/pts/4"⟩, ⟨.openSlave "/dev/pts/4", .ok 4⟩,
    ⟨.tcgetattr 4, .ok cookedTermios⟩,
    ⟨.tcsetattr 4 (Terminal.makeRaw cookedTermios), .ok ()⟩,
    ⟨.write 3 Terminal.toSlave, .error .eio⟩,
    ⟨.tcsetattr 4 cookedTermios, .ok ()⟩, ⟨.close 4, .ok ()⟩,
    ⟨.close 3, .ok ()⟩]

/-- It is a run of `main`. -/
theorem writeRefused_run :
    Terminal.main.Run writeRefused (some .failure) :=
  ⟨1, .call _ (.call _ (.call _ (.call _ (.call _ (.call _ (.call _ (.call _
    (.call _ (.call _ (.call _ (.ret _)))))))))))⟩

/-- What is reported in it is true. -/
theorem writeRefused_reported :
    Terminal.attributes.Reported cookedTermios writeRefused := by
  apply reported_of_legal
  show (Terminal.attending cookedTermios).Legal _ writeRefused
  exact ⟨trivial, trivial, trivial, trivial, trivial, rfl, trivial, trivial,
    trivial, trivial, trivial, trivial⟩

/-- The mask under which groups and others may not write. -/
def usualMask : FileMetadata.CreationMask :=
  .of 0o022

/-- A run in which the file cannot be created under the other mask. -/
def createRefused : Events :=
  [⟨.mkdtemp, .ok "./lab_metadata.4cJ3zK"⟩,
    ⟨.openDirectory "./lab_metadata.4cJ3zK", .ok 3⟩,
    ⟨.umask 0o027, 0o022#32⟩,
    ⟨.openatCreate 3 "sample" 0o666, .error .eio⟩,
    ⟨.umask 0o022, 0o027#32⟩, ⟨.close 3, .ok ()⟩,
    ⟨.rmdir "./lab_metadata.4cJ3zK", .ok ()⟩]

/-- It is a run of `main`. -/
theorem createRefused_run :
    FileMetadata.main.Run createRefused (some .failure) :=
  ⟨0, .call _ (.call _ (.call _ (.call _ (.call _ (.call _ (.call _
    (.ret _)))))))⟩

/-- What is reported in it is true. -/
theorem createRefused_reported :
    FileMetadata.creationMask.Reported usualMask createRefused := by
  apply reported_of_legal
  show (FileMetadata.masking usualMask).Legal _ createRefused
  exact ⟨trivial, trivial, rfl, trivial, rfl, trivial, trivial, trivial⟩

/-- A run in which the child cannot be created. -/
def forkRefused : Events :=
  [⟨.sigemptyset, .ok 0⟩, ⟨.sigemptyset, .ok 0⟩, ⟨.sigaddset 0, .ok 0x200⟩,
    ⟨.sigprocmask .block 0x200, .ok 0x4000⟩,
    ⟨.sigaction .handleSigusr1, .ok (.inherited 0)⟩,
    ⟨.fork, .error .eagain⟩, ⟨.sigprocmask .setmask 0x4000, .ok 0x4200⟩,
    ⟨.sigaction (.inherited 0), .ok .handleSigusr1⟩]

/-- It is a run of `main`. -/
theorem forkRefused_run :
    PortableSignals.main.Run forkRefused (some .failure) :=
  ⟨0, .call _ (.call _ (.call _ (.call _ (.call _ (.call _ (.call _ (.call _
    (.ret _))))))))⟩

/-- What is reported of the mask in it is true. -/
theorem forkRefused_mask :
    PortableSignals.signalMask.Reported 0x4000 forkRefused := by
  apply reported_of_legal
  show (PortableSignals.signalMask.watch 0x4000 freely).Legal _ forkRefused
  exact ⟨trivial, trivial, trivial, rfl, trivial, trivial, rfl, trivial,
    trivial⟩

/-- What is reported of the disposition in it is true. -/
theorem forkRefused_disposition :
    PortableSignals.disposition.Reported (.inherited 0) forkRefused := by
  apply reported_of_legal
  show (PortableSignals.disposition.watch (.inherited 0) freely).Legal _
    forkRefused
  exact ⟨trivial, trivial, trivial, trivial, rfl, trivial, trivial, rfl,
    trivial⟩

/-- All settings are restored where the rest fails, and none was raised. -/
theorem settings_restored_late :
    (ResourceLimits.limits.Restored ⟨1024, 4096⟩ restoredLate
        (Exit.failure = .failure) ∧
      ResourceLimits.LimitsAsked ⟨1024, 4096⟩ restoredLate) ∧
      Terminal.attributes.Restored cookedTermios writeRefused
        (Exit.failure = .failure) ∧
      FileMetadata.creationMask.Restored usualMask createRefused
        (Exit.failure = .failure) ∧
      PortableSignals.signalMask.Restored 0x4000 forkRefused
        (Exit.failure = .failure) ∧
      PortableSignals.disposition.Restored (.inherited 0) forkRefused
        (Exit.failure = .failure) := by
  obtain ⟨restored, asked⟩ :=
    settings_restored.1 _ restoredLate_run restoredLate_reported
  exact ⟨⟨restored, asked (by decide)⟩,
    settings_restored.2.1 _ writeRefused_run writeRefused_reported,
    settings_restored.2.2.1 _ createRefused_run createRefused_reported,
    settings_restored.2.2.2.1 _ forkRefused_run forkRefused_mask,
    settings_restored.2.2.2.2 _ forkRefused_run forkRefused_disposition⟩

end AdvanceUnix
