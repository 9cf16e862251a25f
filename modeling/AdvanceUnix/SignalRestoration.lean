import AdvanceUnix.SettingRestoration

namespace AdvanceUnix.PortableSignals

open CallTree Setting

/-!
# The signal mask and the disposition, restored

Both settings of `23_portable_signals` are followed through the same program;
only the two calls that change them and their restoration differ.
-/

/-- The signal mask as the calls see it. -/
def signalMask : Setting Answer SignalSet where
  asks
    | ⟨.sigprocmask .block set, _⟩ => some fun mask => mask ||| set
    | ⟨.sigprocmask .setmask set, _⟩ => some fun _ => set
    | _ => none
  fails
    | ⟨.sigprocmask _ _, answer⟩ => Result.failed (answer : Result SignalSet)
    | _ => false
  reports value
    | ⟨.sigprocmask _ _, answer⟩ => Result.Tells value answer
    | _ => True

/-- The disposition of `SIGUSR1` as the calls see it. -/
def disposition : Setting Answer Disposition where
  asks
    | ⟨.sigaction new, _⟩ => some fun _ => new
    | _ => none
  fails
    | ⟨.sigaction _, answer⟩ => Result.failed (answer : Result Disposition)
    | _ => false
  reports value
    | ⟨.sigaction _, answer⟩ => Result.Tells value answer
    | _ => True

/-- Calls that change neither setting. -/
def Elsewhere : Syscall → Prop
  | .sigprocmask _ _ => False
  | .sigaction _ => False
  | _ => True

/-- A setting that only the two calls change. -/
def Aloof {Value : Type} (setting : Setting Answer Value) : Prop :=
  ∀ request,
    Elsewhere request → ∀ answer, setting.asks ⟨request, answer⟩ = none

section Aloof

variable {Value : Type} {setting : Setting Answer Value}
  {initial : Value} {watched : Watched Value} {held : Held}

/-- Waiting changes nothing. -/
theorem waitForChild_ignored
    (aloof : Aloof setting)
    (child : Pid) :
    (waitForChild child).Ensures (setting.watch initial freely)
      (fun _ after => after = watched) watched :=
  retryEintr_unchanged (request_ignored (aloof _ trivial))

/-- The cleanup of the child changes nothing. -/
theorem cleanupChild_ignored
    {result : Exit}
    (aloof : Aloof setting) :
    (cleanupChild held result).Ensures (setting.watch initial freely)
      (fun _ after => after = watched) watched := by
  unfold cleanupChild
  split
  · split
    · exact .pure rfl
    · refine .bind ((waitForChild_ignored aloof _).mono ?_)
      rintro (error | status) _ rfl
      · exact .pure rfl
      · exact .pure rfl
  · exact .pure rfl

/-- The `sigsuspend` loop changes nothing. -/
theorem suspendLoop_ignored
    (aloof : Aloof setting)
    (waitMask : SignalSet) :
    (suspendLoop waitMask).Ensures (setting.watch initial freely)
      (fun _ after => after = watched) watched := by
  refine .iterate (fun _ current => current = watched) ?_ rfl
  rintro _ current rfl
  refine .bind (Program.Ensures.mono
    (request_ignored (aloof _ trivial)) ?_)
  rintro (notYet | arrived) _ rfl
  · refine .bind (Program.Ensures.mono
      (request_ignored (aloof _ trivial)) ?_)
    rintro (error | ⟨⟩) _ rfl
    · dsimp only
      split
      · exact .pure rfl
      · exact .pure rfl
    · exact .pure rfl
  · exact .pure rfl

/-- The part of `main` behind the reaped child. -/
theorem awaitSignal_fixed
    {oldMask : SignalSet}
    (aloof : Aloof setting)
    (cleans :
      ∀ result,
        (cleanup held result).Ensures (setting.watch initial freely)
          (Fixed initial) watched) :
    (awaitSignal held oldMask).Ensures (setting.watch initial freely)
      (Fixed initial) watched := by
  refine .bind (Program.Ensures.mono
    (request_ignored (aloof _ trivial)) ?_)
  rintro (error | pending) _ rfl
  · exact cleans .failure
  refine .bind (Program.Ensures.mono
    (request_ignored (aloof _ trivial)) ?_)
  rintro (error | isPending) _ rfl
  · exact cleans .failure
  cases isPending with
  | false => exact cleans .failure
  | true =>
      refine .bind (Program.Ensures.mono
        (request_ignored (aloof _ trivial)) ?_)
      rintro (notYet | arrived) _ rfl
      · refine .bind (Program.Ensures.mono
          (request_ignored (aloof _ trivial)) ?_)
        rintro (error | waitMask) _ rfl
        · exact cleans .failure
        refine .bind ((suspendLoop_ignored aloof waitMask).mono ?_)
        rintro (error | ⟨⟩) _ rfl
        · exact cleans .failure
        · exact cleans .success
      · exact cleans .failure

/-- The part of `main` behind `fork`. -/
theorem afterFork_fixed
    {oldMask : SignalSet}
    {child : Pid}
    (aloof : Aloof setting)
    (cleans :
      ∀ reaped result,
        (cleanup { held with childReaped := reaped } result).Ensures
          (setting.watch initial freely) (Fixed initial) watched) :
    (afterFork held oldMask child).Ensures (setting.watch initial freely)
      (Fixed initial) watched := by
  refine .bind ((waitForChild_ignored aloof child).mono ?_)
  rintro (error | status) _ rfl
  · exact cleans held.childReaped .failure
  dsimp only
  split
  · exact awaitSignal_fixed aloof (cleans true)
  · exact cleans true .failure

end Aloof

section Mask

variable {initial : SignalSet} {watched : Watched SignalSet} {held : Held}

/-- The monitor of the mask. -/
def masking (initial : SignalSet) : Monitor Answer (Watched SignalSet) :=
  signalMask.watch initial freely

/-- Only `sigprocmask` changes the mask. -/
theorem signalMask_aloof : Aloof signalMask := by
  intro request elsewhere answer
  cases request with
  | sigprocmask how set => exact elsewhere.elim
  | _ => rfl

/-- Restoring the mask, where it has been changed. -/
theorem restoreMask_fixed
    {result : Exit}
    (old : ∀ mask ∈ held.oldMask, mask = initial)
    (unchanged : held.oldMask = none → watched.value = initial) :
    (restoreMask held result).Ensures (masking initial) (Fixed initial)
      watched := by
  unfold restoreMask
  split
  next mask found =>
    obtain rfl := old mask found
    refine .request_bind trivial ?_
    rintro (error | replaced) _
    · exact .pure (.inr ⟨rfl, rfl⟩)
    · exact .pure (.inl rfl)
  next found => exact .pure (.inl (unchanged found))

/-- Restoring the disposition has nothing to do with the mask. -/
theorem restoreAction_fixed
    {result : Exit}
    (fixed : Fixed initial result watched) :
    (restoreAction held result).Ensures (masking initial) (Fixed initial)
      watched := by
  unfold restoreAction
  split
  · refine .bind (Program.Ensures.mono (request_ignored fun _ => rfl) ?_)
    rintro (error | replaced) _ rfl
    · exact .pure (fixed.imp_right fun refused => ⟨refused.1, rfl⟩)
    · exact .pure fixed
  · exact .pure fixed

/-- The cleanup section restores the mask. -/
theorem cleanup_mask
    {result : Exit}
    (old : ∀ mask ∈ held.oldMask, mask = initial)
    (unchanged : held.oldMask = none → watched.value = initial) :
    (cleanup held result).Ensures (masking initial) (Fixed initial)
      watched := by
  refine .bind ((cleanupChild_ignored signalMask_aloof).mono ?_)
  rintro afterChild _ rfl
  refine .bind ((restoreMask_fixed old unchanged).mono ?_)
  intro afterMask _ fixed
  exact restoreAction_fixed fixed

/-- The cleanup section restores a mask that was replaced. -/
theorem cleanup_blocked
    {result : Exit}
    (old : held.oldMask = some initial) :
    (cleanup held result).Ensures (masking initial) (Fixed initial)
      watched := by
  apply cleanup_mask
  · rintro mask found
    exact Option.some.inj (found.symm.trans old)
  · rw [old]
    exact nofun

/-- The mask is restored. -/
theorem main_mask (initial : SignalSet) :
    main.Ensures (masking initial) (Fixed initial)
      (untouched initial) := by
  refine .bind (Program.Ensures.mono (request_ignored fun _ => rfl) ?_)
  rintro (error | set) _ rfl
  · exact cleanup_mask nofun fun _ => rfl
  refine .bind (Program.Ensures.mono (request_ignored fun _ => rfl) ?_)
  rintro (error | empty) _ rfl
  · exact cleanup_mask nofun fun _ => rfl
  refine .bind (Program.Ensures.mono (request_ignored fun _ => rfl) ?_)
  rintro (error | blocked) _ rfl
  · exact cleanup_mask nofun fun _ => rfl
  refine .request_bind trivial ?_
  rintro (error | oldMask) told
  · exact cleanup_mask nofun fun _ => rfl
  obtain rfl : oldMask = initial := told
  refine .bind (Program.Ensures.mono (request_ignored fun _ => rfl) ?_)
  rintro (error | oldAction) _ rfl
  · exact cleanup_blocked rfl
  refine .bind (Program.Ensures.mono (request_ignored fun _ => rfl) ?_)
  rintro (error | child) _ rfl
  · exact cleanup_blocked rfl
  · exact afterFork_fixed signalMask_aloof fun _ _ => cleanup_blocked rfl

end Mask

section Action

variable {initial : Disposition} {watched : Watched Disposition}
  {held : Held}

/-- The monitor of the disposition. -/
def disposing (initial : Disposition) :
    Monitor Answer (Watched Disposition) :=
  disposition.watch initial freely

/-- Only `sigaction` changes the disposition. -/
theorem disposition_aloof : Aloof disposition := by
  intro request elsewhere answer
  cases request with
  | sigaction new => exact elsewhere.elim
  | _ => rfl

/-- Restoring the mask has nothing to do with the disposition. -/
theorem restoreMask_ignored
    {result : Exit} :
    (restoreMask held result).Ensures (disposing initial)
      (fun _ after => after = watched) watched := by
  unfold restoreMask
  split
  · refine .bind (Program.Ensures.mono (request_ignored fun _ => rfl) ?_)
    rintro (error | replaced) _ rfl
    · exact .pure rfl
    · exact .pure rfl
  · exact .pure rfl

/-- The cleanup section restores the disposition. -/
theorem cleanup_action
    {result : Exit}
    (old : ∀ action ∈ held.oldAction, action = initial)
    (unchanged : held.oldAction = none → watched.value = initial) :
    (cleanup held result).Ensures (disposing initial) (Fixed initial)
      watched := by
  refine .bind ((cleanupChild_ignored disposition_aloof).mono ?_)
  rintro afterChild _ rfl
  refine .bind (restoreMask_ignored.mono ?_)
  rintro afterMask _ rfl
  unfold restoreAction
  split
  next action found =>
    obtain rfl := old action found
    refine .request_bind trivial ?_
    rintro (error | replaced) _
    · exact .pure (.inr ⟨rfl, rfl⟩)
    · exact .pure (.inl rfl)
  next found => exact .pure (.inl (unchanged found))

/-- The cleanup section restores a disposition that was replaced. -/
theorem cleanup_installed
    {result : Exit}
    (old : held.oldAction = some initial) :
    (cleanup held result).Ensures (disposing initial) (Fixed initial)
      watched := by
  apply cleanup_action
  · rintro action found
    exact Option.some.inj (found.symm.trans old)
  · rw [old]
    exact nofun

/-- The disposition is restored. -/
theorem main_action (initial : Disposition) :
    main.Ensures (disposing initial) (Fixed initial)
      (untouched initial) := by
  refine .bind (Program.Ensures.mono (request_ignored fun _ => rfl) ?_)
  rintro (error | set) _ rfl
  · exact cleanup_action nofun fun _ => rfl
  refine .bind (Program.Ensures.mono (request_ignored fun _ => rfl) ?_)
  rintro (error | empty) _ rfl
  · exact cleanup_action nofun fun _ => rfl
  refine .bind (Program.Ensures.mono (request_ignored fun _ => rfl) ?_)
  rintro (error | blocked) _ rfl
  · exact cleanup_action nofun fun _ => rfl
  refine .bind (Program.Ensures.mono (request_ignored fun _ => rfl) ?_)
  rintro (error | oldMask) _ rfl
  · exact cleanup_action nofun fun _ => rfl
  refine .request_bind trivial ?_
  rintro (error | oldAction) told
  · exact cleanup_action nofun fun _ => rfl
  obtain rfl : oldAction = initial := told
  refine .bind (Program.Ensures.mono (request_ignored fun _ => rfl) ?_)
  rintro (error | child) _ rfl
  · exact cleanup_installed rfl
  · exact afterFork_fixed disposition_aloof fun _ _ => cleanup_installed rfl

end Action

end AdvanceUnix.PortableSignals
