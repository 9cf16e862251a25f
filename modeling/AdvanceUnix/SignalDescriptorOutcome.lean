import AdvanceUnix.SignalDescriptor

namespace AdvanceUnix.SignalDescriptor

open CallTree PortableSignals Audit

/-!
# No signal gets through

The signal is read or taken away before the mask is restored, whatever fails.
So the program is never hit by it, and it succeeds exactly if nothing fails
and no foreign signal was there first.
-/

variable {world : World} {held : Held} {kernel : Kernel}
  {audited : Audited Kernel}

section Cleanup

/-- What is pending does not get through the initial mask. -/
def Harmless (world : World) (pending : Option Siginfo) : Prop :=
  pending = none ∨ pending = world.pending

/-- It is nothing, or it is blocked. -/
theorem Harmless.covered
    {pending : Option Siginfo}
    (harmless : Harmless world pending) :
    blocks world.mask = true ∨ pending = none := by
  rcases harmless with nothing | rfl
  · exact .inr nothing
  cases initially : world.pending with
  | none => exact .inr rfl
  | some information => exact .inl (world.kept information initially).1

/-- The program remembers what it has changed and what it has sent. -/
structure Owns (world : World) (held : Held) (kernel : Kernel) : Prop where
  undelivered : kernel.delivered = false
  signalFd :
    0 ≤ held.signalFd → ∃ set, kernel.signalFd = some (held.signalFd, set)
  noSignalFd : ¬ 0 ≤ held.signalFd → kernel.signalFd = none
  changed : ∀ mask, held.previous = some mask → mask = world.mask
  unchanged : held.previous = none → kernel.mask = world.mask
  sent :
    (held.signalSent && !held.signalConsumed) = true →
    blocks held.watched = true ∧ blocks kernel.mask = true
  notSent :
    (held.signalSent && !held.signalConsumed) = false →
    Harmless world kernel.pending

/-- A refusal changes nothing about that. -/
theorem Owns.refused
    (owns : Owns world held kernel) :
    Owns world held { kernel with maskRefused := true } where
  undelivered := owns.undelivered
  signalFd := owns.signalFd
  noSignalFd := owns.noSignalFd
  changed := owns.changed
  unchanged := owns.unchanged
  sent := owns.sent
  notSent := owns.notSent

/-- What the program leaves behind. -/
structure Settled
    (world : World)
    (result : Exit)
    (after : Audited Kernel) : Prop where
  undelivered : after.kernel.delivered = false
  closed : after.kernel.signalFd = none
  pending : Harmless world after.kernel.pending
  mask :
    after.kernel.mask = world.mask ∨ after.kernel.maskRefused = true

/-- What the program has sent is gone. -/
theorem drain_ensures
    (owns : Owns world held kernel)
    (failed : Bool) :
    (drain held).Ensures (audit world).monitor
      (fun _ after =>
        ∃ pending, Harmless world pending ∧
          after =
            { kernel := { kernel with pending := pending }
              failed := failed })
      { kernel := kernel, failed := failed } := by
  unfold drain
  split
  next unread =>
    have draining :
        (Program.retry (· = Errno.eintr)
          (invoke (.sigtimedwait held.watched))).Ensures
          (audit world).monitor
          (fun _ after =>
            after =
              { kernel := { kernel with pending := none }
                failed := failed })
          { kernel := kernel, failed := failed } := by
      refine .retry (· = { kernel := kernel, failed := failed }) ?_ rfl
      rintro _ rfl
      refine .request (owns.sent unread) ?_
      intro answer allowed
      cases answer with
      | error error =>
          refine ⟨?_, fun permanent => ?_⟩
          · rintro rfl
            exact congrArg (Audited.mk kernel) (Bool.or_false failed)
          · obtain ⟨_, nothing⟩ := allowed.resolve_left permanent
            rw [← nothing]
            exact congrArg (Audited.mk kernel) (Bool.or_false failed)
      | ok done =>
          exact congrArg (Audited.mk { kernel with pending := none })
            (Bool.or_false failed)
    refine .bind (draining.mono ?_)
    rintro _ _ rfl
    exact .pure ⟨none, .inl rfl, rfl⟩
  next read =>
    exact .pure
      ⟨kernel.pending, owns.notSent (eq_false_of_ne_true read), rfl⟩

/-- A mask that lets nothing through delivers nothing. -/
theorem withMask_covered
    {mask : SignalSet}
    (covered : blocks mask = true ∨ kernel.pending = none) :
    kernel.withMask mask = { kernel with mask := mask } := by
  refine if_neg fun through => ?_
  rw [Bool.and_eq_true, Bool.not_eq_true'] at through
  rcases covered with blocked | nothing
  · exact Bool.noConfusion (blocked.symm.trans through.2)
  · rw [nothing] at through
    exact Bool.noConfusion through.1

/-- Setting the mask back. -/
theorem setMask_ensures
    (covered : blocks world.mask = true ∨ kernel.pending = none)
    (failed : Bool) :
    (setMask world.mask).Ensures (audit world).monitor
      (fun answer after =>
        answer.Meets
          (fun _ =>
            after =
              { kernel := { kernel with maskRefused := true }
                failed := true })
          (fun _ =>
            after =
              { kernel :=
                  { kernel with mask := world.mask, maskRefused := false }
                failed := failed }))
      { kernel := kernel, failed := failed } := by
  refine .request_bind ⟨rfl, covered⟩ ?_
  rintro (error | previous) _
  · have refused :
        ({ kernel := { kernel with maskRefused := true }
           failed := failed || true } : Audited Kernel) =
          { kernel := { kernel with maskRefused := true }
            failed := true } :=
      congrArg _ (Bool.or_true failed)
    exact .pure refused
  · refine .pure ?_
    have restored :
        { kernel.withMask world.mask with maskRefused := false } =
          { kernel with mask := world.mask, maskRefused := false } := by
      rw [withMask_covered covered]
    exact congr (congrArg Audited.mk restored) (Bool.or_false failed)

/-- The mask is restored, or that has failed. -/
theorem restoreMask_ensures
    {result : Exit}
    (changed : ∀ mask, held.previous = some mask → mask = world.mask)
    (unchanged : held.previous = none → kernel.mask = world.mask)
    (harmless : Harmless world kernel.pending)
    (failed : Bool) :
    (restoreMask held result).Ensures (audit world).monitor
      (fun final after =>
        ∃ mask refused,
          after.kernel =
              { kernel with mask := mask, maskRefused := refused } ∧
            (mask = world.mask ∨ refused = true) ∧
            Spoils .failure result final failed after.failed)
      { kernel := kernel, failed := failed } := by
  unfold restoreMask
  split
  next unblocked =>
    exact .pure ⟨kernel.mask, kernel.maskRefused, rfl,
      .inl (unchanged unblocked), .inl ⟨rfl, rfl⟩⟩
  next previous blocked =>
    obtain rfl := changed previous blocked
    refine .releasing nofun fun _ =>
      (setMask_ensures harmless.covered failed).mono ?_
    rintro (error | ⟨⟩) after met
    · obtain rfl := met
      exact ⟨kernel.mask, true, rfl, .inr rfl, .inr ⟨rfl, rfl⟩⟩
    · obtain rfl := met
      exact ⟨world.mask, false, rfl, .inl rfl, .inl ⟨rfl, rfl⟩⟩

/-- The cleanup section. -/
theorem cleanup_ensures
    {result : Exit}
    (owns : Owns world held audited.kernel) :
    (cleanup held result).Ensures (audit world).monitor
      (Cleaned .failure result audited.failed (Settled world)) audited := by
  refine .bind ((drain_ensures owns audited.failed).mono ?_)
  rintro ⟨⟩ _ ⟨pending, harmless, rfl⟩
  have closing :
      (Program.releasing (0 ≤ held.signalFd)
        (invoke (.close held.signalFd)) .failure result).Ensures
        (audit world).monitor
        (Released
          (· = { audited.kernel with pending := pending, signalFd := none })
          .failure result audited.failed)
        { kernel := { audited.kernel with pending := pending }
          failed := audited.failed } := by
    refine releasing_ensures ?_ fun isOpen => .request
      (owns.signalFd (of_decide_eq_true isOpen)) ?_
    · intro notOpen
      have closed := owns.noSignalFd (of_decide_eq_false notOpen)
      exact congrArg
        (fun signalFd =>
          { audited.kernel with pending := pending, signalFd := signalFd })
        closed
    · rintro (error | done) _
      · exact ⟨rfl, Bool.or_true _⟩
      · exact ⟨rfl, Bool.or_false _⟩
  refine .bind (closing.mono ?_)
  rintro middle ⟨_, failed⟩ ⟨rfl, spoils⟩
  have restoring :=
    @restoreMask_ensures world held
      { audited.kernel with pending := pending, signalFd := none } middle
      owns.changed owns.unchanged harmless failed
  refine restoring.mono ?_
  rintro final ⟨_, lastFailed⟩ ⟨mask, refused, rfl, restored, spoilsMask⟩
  exact ⟨⟨owns.undelivered, rfl, harmless, restored⟩,
    spoils.trans spoilsMask⟩

end Cleanup

section Verdict

/-- The pending signal, if there is one at first, is an own one. -/
def World.Undisturbed (world : World) : Prop :=
  ∀ information ∈ world.pending, information.pid = world.self.number

/-- What `main` is to establish. -/
abbrev Establishes (world : World) : Exit → Audited Kernel → Prop :=
  Returned Exit.success world.Undisturbed (Settled world)

/-- Giving up after a failure, or over a foreign signal. -/
theorem giveUp_ensures
    (owns : Owns world held audited.kernel)
    (reason : audited.failed = true ∨ ¬ world.Undisturbed) :
    (cleanup held .failure).Ensures (audit world).monitor
      (Establishes world) audited :=
  Cleaned.givenUp (cleanup_ensures owns) nofun reason

/-- The kernel once the program has blocked `SIGUSR1`. -/
def blockedKernel
    (world : World)
    (pending : Option Siginfo)
    (signalFd : Option (Fd × SignalSet)) : Kernel where
  mask := world.mask ||| sigusr1Set
  pending := pending
  signalFd := signalFd

/-- What the program has to give back then. -/
theorem owns_blocked
    {pending : Option Siginfo}
    {signalFd : Option (Fd × SignalSet)}
    (previous : held.previous = some world.mask)
    (watched : held.watched = sigusr1Set)
    (isOpen :
      0 ≤ held.signalFd → ∃ set, signalFd = some (held.signalFd, set))
    (notOpen : ¬ 0 ≤ held.signalFd → signalFd = none)
    (notSent :
      (held.signalSent && !held.signalConsumed) = false →
      Harmless world pending) :
    Owns world held (blockedKernel world pending signalFd) where
  undelivered := rfl
  signalFd := isOpen
  noSignalFd := notOpen
  changed := fun _ same => Option.some.inj (same.symm.trans previous)
  unchanged := fun unblocked =>
    (Option.some_ne_none _ (previous.symm.trans unblocked)).elim
  sent := fun _ => ⟨watched ▸ rfl, blocks_add world.mask⟩
  notSent := notSent

/-- The own signal merges into one that is pending already. -/
def World.generated (world : World) : Option Siginfo :=
  world.pending.or (some ⟨sigusr1, world.self.number⟩)

/-- So what is read is a `SIGUSR1`, and tells whether one was there first. -/
theorem generated_read
    {information : Siginfo}
    (read : world.generated = some information) :
    information.signo = sigusr1 ∧
      (information.pid = world.self.number ↔ world.Undisturbed) := by
  cases initially : world.pending with
  | none =>
      rw [World.generated, initially, Option.none_or] at read
      obtain rfl := Option.some.inj read
      refine ⟨rfl, iff_of_true rfl fun other member => ?_⟩
      rw [initially] at member
      exact (Option.not_mem_none other member).elim
  | some first =>
      rw [World.generated, initially, Option.some_or] at read
      obtain rfl := Option.some.inj read
      refine ⟨(world.kept first initially).2, ?_⟩
      constructor
      · intro own other member
        obtain rfl := Option.some.inj (initially.symm.trans member)
        exact own
      · exact fun undisturbed => undisturbed first initially

/-- A signal is pending after it has been sent. -/
theorem generated_pending : world.generated ≠ none := by
  cases initially : world.pending with
  | none => simp [World.generated, initially]
  | some first => simp [World.generated, initially]

/-- The kernel once the signal has been sent. -/
def sentKernel (world : World) (fd : Fd) : Kernel :=
  blockedKernel world world.generated (some (fd, sigusr1Set))

/-- The kernel once it has been read. -/
def readKernel (world : World) (fd : Fd) : Kernel :=
  blockedKernel world none (some (fd, sigusr1Set))

/-- Sending it. -/
theorem generate_blocked (world : World) (fd : Fd) :
    (blockedKernel world world.pending (some (fd, sigusr1Set))).generate
        world.self =
      sentKernel world fd :=
  if_pos (blocks_add world.mask)

/-- Reading it. -/
theorem read_ensures {fd : Fd} :
    (Program.retry (· = Errno.eintr) (invoke (.read fd))).Ensures
      (audit world).monitor
      (fun answer after =>
        (answer : Result (Nat × Siginfo)).Meets
          (fun _ => after = { kernel := sentKernel world fd, failed := true })
          (fun filled =>
            if filled.1 = siginfoSize then
              world.generated = some filled.2 ∧
                after = { kernel := readKernel world fd }
            else
              after = { kernel := sentKernel world fd, failed := true }))
      { kernel := sentKernel world fd } := by
  refine .retry (· = { kernel := sentKernel world fd }) ?_ rfl
  rintro _ rfl
  refine .request ⟨generated_pending, sigusr1Set, rfl, rfl⟩ ?_
  rintro (error | ⟨count, information⟩) allowed
  · refine ⟨?_, fun permanent => ?_⟩
    · rintro rfl
      rfl
    · exact congrArg (Audited.mk _) (decide_eq_true permanent)
  · have filled : count = siginfoSize →
        world.generated = some information := allowed.2
    by_cases whole : count = siginfoSize
    · subst whole
      exact ⟨filled rfl, rfl⟩
    · simp only [Attempted, Result.Meets, whole, ↓reduceIte]
      refine congr (congrArg Audited.mk (if_neg whole)) ?_
      simp [audit, Fails, FailsFor, whole]

/-- `main` once the signal has been read. -/
theorem consumed_ensures
    {fd : Fd}
    {information : Siginfo}
    (valid : 0 ≤ fd)
    (read : world.generated = some information) :
    (consumed
      { watched := sigusr1Set
        previous := some world.mask
        signalSent := true
        signalConsumed := true
        signalFd := fd } world.mask information).Ensures
      (audit world).monitor (Establishes world)
      { kernel := readKernel world fd } := by
  obtain ⟨isSigusr1, own⟩ := generated_read read
  have verifying :
      (verify information).Ensures (audit world).monitor
        (fun verified after =>
          (verified = true ↔ world.Undisturbed) ∧
            after =
              { kernel := readKernel world fd })
        { kernel := readKernel world fd } := by
    simp only [verify, isSigusr1, ↓reduceIte]
    refine .request_bind trivial ?_
    rintro self rfl
    exact .pure ⟨decide_eq_true_iff.trans own, rfl⟩
  refine .bind (verifying.mono ?_)
  rintro verified _ ⟨verdict, rfl⟩
  cases verified with
  | false =>
      refine giveUp_ensures (owns_blocked rfl rfl (fun _ => ⟨_, rfl⟩)
        (fun invalid => (invalid valid).elim) fun _ => .inl rfl) (.inr ?_)
      exact fun undisturbed => Bool.noConfusion (verdict.mpr undisturbed)
  | true =>
      have undisturbed := verdict.mp rfl
      refine .request_bind ⟨_, rfl⟩ ?_
      rintro (error | ⟨⟩) _
      · exact giveUp_ensures (owns_blocked rfl rfl nofun (fun _ => rfl)
          fun _ => .inl rfl) (.inl rfl)
      have restoring :=
        @setMask_ensures world (blockedKernel world none none) (.inr rfl)
          false
      refine .bind (restoring.mono ?_)
      rintro (error | ⟨⟩) _ rfl
      · exact giveUp_ensures
          (@Owns.refused world _ (blockedKernel world none none)
            (owns_blocked rfl rfl nofun (fun _ => rfl) fun _ => .inl rfl))
          (.inl rfl)
      · refine Cleaned.succeeded (cleanup_ensures ?_) nofun rfl undisturbed
        exact ⟨rfl, nofun, fun _ => rfl, nofun, fun _ => rfl, nofun,
          fun _ => .inl rfl⟩

/-- `main` once `SIGUSR1` is blocked. -/
theorem blocked_ensures :
    (blocked sigusr1Set world.mask).Ensures (audit world).monitor
      (Establishes world)
      { kernel := blockedKernel world world.pending none } := by
  refine .request_bind ⟨rfl, rfl, blocks_add world.mask⟩ ?_
  rintro (error | fd) opened
  · exact giveUp_ensures (owns_blocked rfl rfl nofun (fun _ => rfl)
      fun _ => .inr rfl) (.inl rfl)
  have valid : 0 ≤ fd := opened
  refine .request_bind trivial ?_
  rintro self rfl
  refine .request_bind ⟨rfl, blocks_add world.mask⟩ ?_
  rintro (error | ⟨⟩) _
  · exact giveUp_ensures (owns_blocked rfl rfl (fun _ => ⟨_, rfl⟩)
      (fun invalid => (invalid valid).elim) fun _ => .inr rfl) (.inl rfl)
  have sent :
      (audit world).monitor.next
          { kernel :=
              blockedKernel world world.pending (some (fd, sigusr1Set)) }
          (.kill world.self) (.ok ()) =
        { kernel := sentKernel world fd } := by
    refine congrArg (Audited.mk · false) ((if_pos rfl).trans ?_)
    exact generate_blocked world fd
  refine sent.symm ▸ ?_
  have owns :
      Owns world
        { watched := sigusr1Set
          previous := some world.mask
          signalSent := true
          signalFd := fd }
        (sentKernel world fd) :=
    owns_blocked rfl rfl (fun _ => ⟨_, rfl⟩)
      (fun invalid => (invalid valid).elim) nofun
  refine .bind (read_ensures.mono ?_)
  rintro (error | ⟨count, information⟩) after met
  · obtain rfl := met
    exact giveUp_ensures owns (.inl rfl)
  by_cases whole : count = siginfoSize
  · subst whole
    obtain ⟨read, rfl⟩ := met
    exact consumed_ensures valid read
  · simp only [Result.Meets, whole, ↓reduceIte] at met ⊢
    obtain rfl := met
    exact giveUp_ensures owns (.inl rfl)

/-- What `main` establishes. -/
theorem main_ensures (world : World) :
    main.Ensures (audit world).monitor (Establishes world)
      { kernel := world.kernel } := by
  have owns {watched : SignalSet} :
      Owns world { watched := watched } world.kernel :=
    ⟨rfl, nofun, fun _ => rfl, nofun, fun _ => rfl, nofun,
      fun _ => .inr rfl⟩
  refine .request_bind trivial ?_
  rintro (error | empty) told
  · exact giveUp_ensures owns (.inl rfl)
  obtain rfl : empty = 0 := told
  refine .request_bind trivial ?_
  rintro (error | watched) told
  · exact giveUp_ensures owns (.inl rfl)
  obtain rfl : watched = sigusr1Set := told.trans BitVec.zero_or
  refine .request_bind trivial ?_
  rintro (error | previous) told
  · exact giveUp_ensures owns (.inl rfl)
  obtain rfl : previous = world.mask := told
  have blocking :
      (audit world).monitor.next { kernel := world.kernel }
          (.sigprocmask .block sigusr1Set) (.ok world.mask) =
        { kernel := blockedKernel world world.pending none } :=
    congrArg (Audited.mk · false)
      (withMask_covered (.inl (blocks_add world.mask)))
  exact blocking.symm ▸ blocked_ensures

end Verdict

section Runs

variable {events : List (Event Answer)} {outcome : Option Exit}

/--
Whatever fails and whatever is pending at first: `SIGUSR1` never gets through
to the program, no read waits, the mask is as before or restoring it was
refused last, no signal of its own is left, and the program succeeds exactly
if nothing fails and no foreign signal was there first.
-/
theorem signal_verdict
    (run : main.Run events outcome)
    (legal : (audit world).Legal world.kernel events) :
    (audit world).Report world.kernel .success world.Undisturbed
      (Settled world) events outcome :=
  .of_ensures (main_ensures world) run legal

/-- A process in which a foreign signal is pending at first. -/
def disturbed : World where
  self := ⟨4711, by decide⟩
  mask := sigusr1Set
  pending := some ⟨sigusr1, 815⟩
  kept := by
    rintro _ ⟨⟩
    exact ⟨rfl, rfl⟩

/-- The own signal merges into it, and the read is interrupted once. -/
def foreign : List (Event Answer) :=
  [⟨.sigemptyset, .ok 0⟩, ⟨.sigaddset 0, .ok sigusr1Set⟩,
    ⟨.sigprocmask .block sigusr1Set, .ok sigusr1Set⟩,
    ⟨.signalfd sigusr1Set, .ok 3⟩, ⟨.getpid, ⟨4711, by decide⟩⟩,
    ⟨.kill ⟨4711, by decide⟩, .ok ()⟩, ⟨.read 3, .error .eintr⟩,
    ⟨.read 3, .ok (128, ⟨sigusr1, 815⟩)⟩, ⟨.getpid, ⟨4711, by decide⟩⟩,
    ⟨.close 3, .ok ()⟩, ⟨.sigprocmask .setmask sigusr1Set, .ok sigusr1Set⟩]

/-- It is a run of `main`. -/
theorem foreign_run : main.Run foreign (some .failure) :=
  ⟨3, .call _ (.call _ (.call _ (.call _ (.call _ (.call _ (.call _ (.call _
    (.call _ (.call _ (.call _ (.ret _)))))))))))⟩

/-- The kernel may answer so. -/
theorem foreign_legal :
    (audit disturbed).Legal disturbed.kernel foreign := by
  exact ⟨rfl, rfl, rfl, (by decide : (0 : Fd) ≤ 3), rfl, trivial, trivial,
    ⟨Nat.le_refl 128, fun _ => rfl⟩, rfl, trivial, rfl, trivial⟩

/-- No call fails, and yet the program does. -/
theorem signal_verdict_foreign :
    (audit disturbed).Report disturbed.kernel .success
      disturbed.Undisturbed (Settled disturbed) foreign (some .failure) :=
  signal_verdict foreign_run foreign_legal

end Runs

end AdvanceUnix.SignalDescriptor
