import AdvanceUnix.SavedSetting
import AdvanceUnix.ResourceLimits
import AdvanceUnix.Terminal
import AdvanceUnix.FileMetadata
import AdvanceUnix.PortableSignals

namespace AdvanceUnix

open CallTree Setting

/-!
# Settings restored on every path

The limit of `14_resource_limits`, the attributes of the slave of
`16_terminal`, the mask of `19_file_metadata`, and the signal mask and the
disposition of `23_portable_signals`.
-/

/-- An answer tells the value, if it tells any. -/
def Result.Tells (value : α) : Result α → Prop :=
  Result.Meets (fun _ => True) (fun told => told = value)

/-- An answer is an error. -/
def Result.failed : Result α → Bool
  | .error _ => true
  | .ok _ => false

/-- A restored setting, or a failure that admits that it is not. -/
abbrev Fixed
    {Value : Type}
    (initial : Value) : Exit → Watched Value → Prop :=
  Settled initial (fun result => result = .failure)

/-- No duty. -/
abbrev freely {Value : Type} : Value → Syscall → Prop :=
  fun _ _ => True

section Unconcerned

variable {Value : Type} {setting : Setting Answer Value}
  {initial : Value} {watched : Watched Value}

/-- A call that has nothing to do with the setting. -/
theorem request_ignored
    {request : Syscall}
    (asks : ∀ answer, setting.asks ⟨request, answer⟩ = none) :
    (Syscall.invoke request).Ensures (setting.watch initial freely)
      (fun _ after => after = watched) watched :=
  (request_unasked trivial asks).mono fun _ _ => And.left

/-- A release that has nothing to do with the setting. -/
theorem release_fixed
    {held : Bool}
    {attempt : Sys (Result Unit)}
    {tolerated : Option Errno}
    {result : Exit}
    (ignored :
      attempt.Ensures (setting.watch initial freely)
        (fun _ after => after = watched) watched)
    (fixed : Fixed initial result watched) :
    (release held attempt tolerated result).Ensures
      (setting.watch initial freely) (Fixed initial) watched := by
  apply release_ensures
  · exact fun _ => fixed
  · intro _
    refine ignored.mono ?_
    rintro _ _ rfl
    exact ⟨fixed, fixed.imp_right fun refused => ⟨refused.1, rfl⟩⟩

end Unconcerned

namespace ResourceLimits

/-- `RLIMIT_NOFILE` as the calls see it. -/
def limits : Setting Answer Rlimit where
  asks
    | ⟨.prlimit new, _⟩ => some fun _ => new
    | _ => none
  fails
    | ⟨.prlimit _, answer⟩ => Result.failed (answer : Result Rlimit)
    | _ => false
  reports value
    | ⟨.getrlimit, answer⟩ => Result.Tells value answer
    | ⟨.prlimitQuery, answer⟩ => Result.Tells value answer
    | ⟨.prlimit _, answer⟩ => Result.Tells value answer
    | _ => True

/-- From the initial limit only the temporary one is set. -/
structure Lowers
    (initial value : Rlimit)
    (request : Syscall) : Prop where
  first :
    ∀ new, request = .prlimit new →
      value = initial → new = temporary initial
  either :
    ∀ new, request = .prlimit new →
      new = temporary initial ∨ new = initial

/-- The monitor of the limit. -/
def limiting (initial : Rlimit) : Monitor Answer (Watched Rlimit) :=
  limits.watch initial (Lowers initial)

variable {initial : Rlimit} {watched : Watched Rlimit}

/-- The cleanup section restores what has been changed. -/
theorem cleanup_fixed
    {changed : Bool}
    {result : Exit}
    (value :
      watched.value = if changed then temporary initial else initial) :
    (cleanup changed initial result).Ensures (limiting initial)
      (Fixed initial) watched := by
  cases changed with
  | false => exact .pure (.inl value)
  | true =>
      refine .request_bind ⟨?_, ?_⟩ ?_
      · rintro new ⟨⟩ same
        exact same.symm.trans value
      · rintro new ⟨⟩
        exact .inr rfl
      rintro (error | replaced) _
      · exact .pure (.inr ⟨rfl, rfl⟩)
      · exact .pure (.inl rfl)

/-- The part of `main` under the temporary limit. -/
theorem afterSet_fixed
    {replaced : Rlimit}
    (value : watched.value = temporary initial) :
    (afterSet initial replaced).Ensures (limiting initial)
      (Fixed initial) watched := by
  unfold afterSet
  split
  · exact cleanup_fixed value
  refine .bind (Program.Ensures.mono
    (request_unasked ⟨nofun, nofun⟩ fun _ => rfl) ?_)
  rintro (error | observed) _ ⟨rfl, _⟩
  · exact cleanup_fixed value
  dsimp only
  split
  · exact cleanup_fixed value
  refine .request_bind ⟨?_, ?_⟩ ?_
  · rintro new ⟨⟩ same
    exact same.symm.trans value
  · rintro new ⟨⟩
    exact .inr rfl
  rintro (error | replaced) _
  · exact cleanup_fixed value
  refine .bind (Program.Ensures.mono
    (request_unasked ⟨nofun, nofun⟩ fun _ => rfl) ?_)
  rintro (error | times) _ ⟨rfl, _⟩
  · exact cleanup_fixed rfl
  · exact cleanup_fixed rfl

/-- The limit is restored. -/
theorem main_fixed (initial : Rlimit) :
    main.Ensures (limiting initial) (Fixed initial)
      (untouched initial) := by
  refine .bind (Program.Ensures.mono
    (request_unasked ⟨nofun, nofun⟩ fun _ => rfl) ?_)
  rintro (error | original) _ ⟨rfl, told⟩
  · exact .pure (.inl rfl)
  obtain rfl : original = initial := told
  refine .bind (Program.Ensures.mono
    (request_unasked ⟨nofun, nofun⟩ fun _ => rfl) ?_)
  rintro (error | queried) _ ⟨rfl, _⟩
  · exact cleanup_fixed rfl
  dsimp only
  split
  · exact cleanup_fixed rfl
  refine .request_bind ⟨?_, ?_⟩ ?_
  · rintro new ⟨⟩ _
    rfl
  · rintro new ⟨⟩
    exact .inl rfl
  rintro (error | replaced) _
  · exact cleanup_fixed rfl
  · exact afterSet_fixed rfl

end ResourceLimits

namespace Terminal

/-- The attributes of the slave as the calls see them. -/
def attributes : Setting Answer Termios where
  asks
    | ⟨.tcsetattr _ new, _⟩ => some fun _ => new
    | _ => none
  fails
    | ⟨.tcsetattr _ _, answer⟩ => Result.failed (answer : Result Unit)
    | _ => false
  reports value
    | ⟨.tcgetattr _, answer⟩ => Result.Tells value answer
    | _ => True

/-- The monitor of the attributes. -/
def attending (initial : Termios) : Monitor Answer (Watched Termios) :=
  attributes.watch initial freely

variable {initial : Termios} {watched : Watched Termios} {held : Held}

/-- The cleanup section restores what has been changed. -/
theorem cleanup_fixed
    {result : Exit}
    (saved : ∀ value ∈ held.saved, value = initial)
    (unchanged : held.saved = none → watched.value = initial) :
    (cleanup held result).Ensures (attending initial) (Fixed initial)
      watched := by
  have restored :
      (restoreTermios held result).Ensures (attending initial)
        (Fixed initial) watched := by
    unfold restoreTermios
    split
    next value found =>
      obtain rfl := saved value found
      apply release_answers
      · exact nofun
      · intro _
        refine .request trivial ?_
        rintro (error | ⟨⟩) _
        · exact .inr ⟨rfl, rfl⟩
        · exact .inl rfl
    next found => exact .pure (.inl (unchanged found))
  refine .bind (restored.mono ?_)
  intro afterRestore _ fixed
  refine .bind (Program.Ensures.mono
    (release_fixed (request_ignored fun _ => rfl) fixed) ?_)
  intro afterSlave _ fixed
  exact release_fixed (request_ignored fun _ => rfl) fixed

/-- Sending changes nothing. -/
theorem transferOut_ignored
    {fd : Fd}
    {data : List UInt8} :
    (transferOut fd data).Ensures (attending initial)
      (fun _ after => after = watched) watched :=
  writeLoop_unchanged fun _ => request_ignored fun _ => rfl

/-- Receiving changes nothing. -/
theorem transferIn_ignored
    {fd : Fd}
    {size : Nat} :
    (transferIn fd size).Ensures (attending initial)
      (fun _ after => after = watched) watched :=
  readLoop_unchanged fun _ => request_ignored fun _ => rfl

/-- The part of `main` in raw mode. -/
theorem transferring_fixed
    {first second : List UInt8}
    (saved : held.saved = some initial) :
    (transferring first second held).Ensures (attending initial) (Fixed initial)
      watched := by
  have cleans :
      ∀ result,
        (cleanup held result).Ensures (attending initial) (Fixed initial)
          watched := by
    intro result
    apply cleanup_fixed
    · rintro value found
      exact Option.some.inj (found.symm.trans saved)
    · rw [saved]
      exact nofun
  refine .bind (transferOut_ignored.mono ?_)
  rintro (error | ⟨⟩) _ rfl
  · exact cleans .failure
  refine .bind (transferIn_ignored.mono ?_)
  rintro ⟨error | ⟨⟩, slaveBuffer⟩ _ rfl
  · exact cleans .failure
  refine .bind (transferOut_ignored.mono ?_)
  rintro (error | ⟨⟩) _ rfl
  · exact cleans .failure
  refine .bind (transferIn_ignored.mono ?_)
  rintro ⟨error | ⟨⟩, masterBuffer⟩ _ rfl
  · exact cleans .failure
  dsimp only
  split
  · exact cleans .failure
  · exact cleans .success

/-- The attributes are restored. -/
theorem main_fixed (initial : Termios) :
    main.Ensures (attending initial) (Fixed initial)
      (untouched initial) := by
  have cleans :
      ∀ held : Held,
        held.saved = none →
        (cleanup held .failure).Ensures (attending initial) (Fixed initial)
          (untouched initial) := by
    intro held unsaved
    apply cleanup_fixed
    · rw [unsaved]
      exact nofun
    · exact fun _ => rfl
  refine .bind (Program.Ensures.mono (request_ignored fun _ => rfl) ?_)
  rintro (error | masterFd) _ rfl
  · exact cleans _ rfl
  refine .bind (Program.Ensures.mono (request_ignored fun _ => rfl) ?_)
  rintro (error | ⟨⟩) _ rfl
  · exact cleans _ rfl
  refine .bind (Program.Ensures.mono (request_ignored fun _ => rfl) ?_)
  rintro (error | ⟨⟩) _ rfl
  · exact cleans _ rfl
  refine .bind (Program.Ensures.mono (request_ignored fun _ => rfl) ?_)
  rintro (error | slaveName) _ rfl
  · exact cleans _ rfl
  refine .bind (Program.Ensures.mono (request_ignored fun _ => rfl) ?_)
  rintro (error | slaveFd) _ rfl
  · exact cleans _ rfl
  refine .bind (Program.Ensures.mono
    (request_unasked trivial fun _ => rfl) ?_)
  rintro (error | saved) _ ⟨rfl, told⟩
  · exact cleans _ rfl
  obtain rfl : saved = initial := told
  refine .request_bind trivial ?_
  rintro (error | ⟨⟩) _
  · exact cleanup_fixed nofun fun _ => rfl
  · exact transferring_fixed rfl

end Terminal

namespace FileMetadata

/-- A file mode creation mask: permission bits and no others. -/
structure CreationMask where
  bits : BitVec 32
  permissions : bits &&& 0o777 = bits
  deriving DecidableEq, Repr

/-- The mask that `umask` sets. -/
def CreationMask.of (mode : BitVec 32) : CreationMask where
  bits := mode &&& 0o777
  permissions := by rw [BitVec.and_assoc, BitVec.and_self]

/-- A mask is set to itself. -/
theorem CreationMask.of_bits (mask : CreationMask) :
    CreationMask.of mask.bits = mask := by
  obtain ⟨bits, permissions⟩ := mask
  simp only [CreationMask.of, permissions]

/-- The mask as the calls see it: `umask` never fails. -/
def creationMask : Setting Answer CreationMask where
  asks
    | ⟨.umask mode, _⟩ => some fun _ => .of mode
    | _ => none
  fails _ := false
  reports value
    | ⟨.umask _, answer⟩ => (answer : BitVec 32) = value.bits
    | _ => True

/-- The monitor of the mask. -/
def masking (initial : CreationMask) :
    Monitor Answer (Watched CreationMask) :=
  creationMask.watch initial freely

variable {initial : CreationMask} {watched : Watched CreationMask}
  {held : Held}

/-- Setting the initial mask restores it. -/
theorem umask_restores :
    (umask initial.bits).Ensures (masking initial)
      (fun _ after => after.value = initial) watched :=
  .request trivial fun _ _ => initial.of_bits

/-- The cleanup section restores what has been changed. -/
theorem cleanup_fixed
    {result : Exit}
    (original : ∀ mask ∈ held.originalMask, mask = initial.bits)
    (unchanged : held.originalMask = none → watched.value = initial) :
    (cleanup held result).Ensures (masking initial) (Fixed initial)
      watched := by
  have restored :
      (restoreMask held).Ensures (masking initial)
        (fun _ after => after.value = initial) watched := by
    unfold restoreMask
    split
    next mask found =>
      obtain rfl := original mask found
      refine .bind (umask_restores.mono ?_)
      intro _ _ same
      exact .pure same
    next found => exact .pure (unchanged found)
  refine .bind (restored.mono ?_)
  intro _ _ same
  refine .bind (Program.Ensures.mono
    (release_fixed (request_ignored fun _ => rfl) (.inl same)) ?_)
  intro _ _ fixed
  refine .bind (Program.Ensures.mono
    (release_fixed (request_ignored fun _ => rfl) fixed) ?_)
  intro _ _ fixed
  refine .bind (Program.Ensures.mono
    (release_fixed (request_ignored fun _ => rfl) fixed) ?_)
  intro _ _ fixed
  exact release_fixed (request_ignored fun _ => rfl) fixed

/-- A cleanup with nothing to restore. -/
theorem cleanup_unchanged
    {result : Exit}
    (nothing : held.originalMask = none)
    (same : watched.value = initial) :
    (cleanup held result).Ensures (masking initial) (Fixed initial)
      watched := by
  apply cleanup_fixed
  · rw [nothing]
    exact nofun
  · exact fun _ => same

/-- The part of `main` behind the restoration. -/
theorem setMetadata_fixed
    (nothing : held.originalMask = none)
    (same : watched.value = initial) :
    (setMetadata held).Ensures (masking initial) (Fixed initial)
      watched := by
  refine .bind (Program.Ensures.mono (request_ignored fun _ => rfl) ?_)
  rintro (error | ⟨⟩) _ rfl
  · exact cleanup_unchanged nothing same
  refine .bind (Program.Ensures.mono (request_ignored fun _ => rfl) ?_)
  rintro (error | ⟨⟩) _ rfl
  · exact cleanup_unchanged nothing same
  refine .bind (Program.Ensures.mono (request_ignored fun _ => rfl) ?_)
  rintro (error | status) _ rfl
  · exact cleanup_unchanged nothing same
  · exact cleanup_unchanged nothing same

/-- The part of `main` from the restoration on. -/
theorem restore_fixed :
    (restore held initial.bits).Ensures (masking initial) (Fixed initial)
      watched := by
  refine .bind (umask_restores.mono ?_)
  intro activeMask _ same
  dsimp only
  split
  · exact cleanup_unchanged rfl same
  refine .bind (umask_restores.mono ?_)
  intro restoredMask _ same
  split
  · exact cleanup_unchanged rfl same
  · exact setMetadata_fixed rfl same

/-- The mask is restored. -/
theorem main_fixed (initial : CreationMask) :
    main.Ensures (masking initial) (Fixed initial)
      (untouched initial) := by
  refine .bind (Program.Ensures.mono (request_ignored fun _ => rfl) ?_)
  rintro (error | directory) _ rfl
  · exact cleanup_unchanged rfl rfl
  refine .bind (Program.Ensures.mono (request_ignored fun _ => rfl) ?_)
  rintro (error | directoryFd) _ rfl
  · exact cleanup_unchanged rfl rfl
  refine .request_bind trivial ?_
  intro originalMask told
  obtain rfl : originalMask = initial.bits := told
  have cleans :
      ∀ (held : Held) (watched : Watched CreationMask),
        held.originalMask = some initial.bits →
        (cleanup held .failure).Ensures (masking initial) (Fixed initial)
          watched := by
    intro held watched original
    apply cleanup_fixed
    · rintro mask found
      exact Option.some.inj (found.symm.trans original)
    · rw [original]
      exact nofun
  refine .bind (Program.Ensures.mono (request_ignored fun _ => rfl) ?_)
  rintro (error | fd) _ rfl
  · exact cleans _ _ rfl
  refine .bind (Program.Ensures.mono (request_ignored fun _ => rfl) ?_)
  rintro (error | status) _ rfl
  · exact cleans _ _ rfl
  dsimp only
  split
  · exact cleans _ _ rfl
  split
  · exact cleans _ _ rfl
  · exact restore_fixed

end FileMetadata

end AdvanceUnix
