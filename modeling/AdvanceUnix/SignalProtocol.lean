import AdvanceUnix.SignalContract

namespace AdvanceUnix.PortableSignals

open CallTree ChildProcess Processes

/-!
# The signal protocol

`main` keeps the order that its monitor asks for: it blocks before it installs
the handler, it forks inside the window, it sleeps only on a signal that it
has seen pending, and on every path it reaps the child, restores the mask and
then the disposition.
-/

section Programs

variable {dependable : Prop} {progress : Progress}

/-- How a wait ends: it tells that the child is gone, if it tells anything. -/
structure Waited
    (dependable : Prop)
    (progress : Progress)
    (result : Result WaitStatus)
    (after : Progress) : Prop where
  unchanged : ∃ live, after = { progress with childLive := live }
  gone : dependable → after.childLive = false
  reaped : ∀ status, result = .ok status → after.childLive = false

/-- Waiting for the child. -/
theorem waitForChild_ensures
    (child : Pid) :
    (waitForChild child).Ensures (parentMonitor dependable)
      (Waited dependable progress) progress := by
  refine retryEintr_ensures (fun current => current = progress) ?_ rfl
  rintro current rfl
  refine .request trivial ?_
  intro answer allowed
  cases answer with
  | ok status =>
      exact ⟨⟨false, rfl⟩, fun _ => rfl, fun _ _ => rfl⟩
  | error error =>
  constructor
  · rintro rfl
    rfl
  · intro permanent
    by_cases lost : error = .echild
    · have after :
          (parentMonitor dependable).next current (.waitpid child)
              (.error error) =
            { current with childLive := false } :=
        if_pos lost
      rw [after]
      exact ⟨⟨false, rfl⟩, fun _ => rfl, fun _ _ => rfl⟩
    · have after :
          (parentMonitor dependable).next current (.waitpid child)
              (.error error) =
            current :=
        if_neg lost
      rw [after]
      exact ⟨⟨current.childLive, rfl⟩,
        fun reliable =>
          absurd ((allowed reliable).resolve_left permanent) lost,
        nofun⟩

/-- What the cleanup finds held is what the parent has changed. -/
structure Held.Describes
    (dependable : Prop)
    (held : Held)
    (progress : Progress) : Prop where
  unblocks : ∀ mask, held.oldMask = some mask → blocks mask = false
  restores :
    ∀ action, held.oldAction = some action → action ≠ .handleSigusr1
  unmasked : held.oldMask = none → held.oldAction = none
  untouched : held.oldMask = none → progress.window = .before
  installed :
    dependable →
    held.oldMask.isSome = true →
    progress.installed = true ∧ held.oldAction.isSome = true
  child :
    progress.childLive = true →
    held.child.isSome = true ∧ held.childReaped = false

/-- A dependable kernel lets the parent close the window that it opened. -/
def Progress.Closed (dependable : Prop) (progress : Progress) : Prop :=
  dependable → progress.window ≠ .opened

variable {held : Held}

/-- The first part of the cleanup leaves no child behind. -/
theorem cleanupChild_ensures
    {result : Exit}
    (describes : held.Describes dependable progress) :
    (cleanupChild held result).Ensures (parentMonitor dependable)
      (fun _ after =>
        (∃ live, after = { progress with childLive := live }) ∧
          (dependable → after.childLive = false))
      progress := by
  have noChild :
      (held.child = none ∨ held.childReaped = true) →
      progress.childLive = false := by
    intro childOver
    cases live : progress.childLive with
    | false => rfl
    | true =>
        obtain ⟨forked, notReaped⟩ := describes.child live
        rcases childOver with unborn | reaped
        · rw [unborn] at forked
          cases forked
        · rw [notReaped] at reaped
          cases reaped
  unfold cleanupChild
  cases forked : held.child with
  | none =>
      exact .pure
        ⟨⟨progress.childLive, rfl⟩, fun _ => noChild (.inl forked)⟩
  | some child =>
  dsimp only
  split
  · rename_i reaped
    exact .pure
      ⟨⟨progress.childLive, rfl⟩, fun _ => noChild (.inr reaped)⟩
  · refine .bind ((waitForChild_ensures child).mono ?_)
    intro answer after waited
    cases answer with
    | error error => exact .pure ⟨waited.unchanged, waited.gone⟩
    | ok status => exact .pure ⟨waited.unchanged, waited.gone⟩

/-- The mask is restored and no child is left: the disposition is next. -/
structure Held.Unmasked
    (dependable : Prop)
    (held : Held)
    (progress : Progress) : Prop where
  untouched : held.oldMask = none → progress.window = .before
  inOrder :
    dependable →
    held.oldMask.isSome = true →
    progress.blocked = false ∧ progress.childLive = false

/-- The second part of the cleanup restores the mask. -/
theorem restoreMask_ensures
    {live : Bool}
    {result : Exit}
    (describes : held.Describes dependable progress)
    (noChild : dependable → live = false) :
    (restoreMask held result).Ensures (parentMonitor dependable)
      (fun _ => held.Unmasked dependable)
      { progress with childLive := live } := by
  unfold restoreMask
  cases masked : held.oldMask with
  | none =>
      refine .pure ⟨fun _ => describes.untouched masked, ?_⟩
      rw [masked]
      nofun
  | some mask =>
  have changed : held.oldMask ≠ none := by
    rw [masked]
    nofun
  refine .request_bind ⟨describes.unblocks mask masked, ?_⟩ ?_
  · intro reliable
    exact (describes.installed reliable
      (Option.isSome_iff_ne_none.mpr changed)).1
  intro answer allowed
  cases answer with
  | error error =>
      exact .pure ⟨fun masked => absurd masked changed,
        fun reliable => absurd reliable allowed⟩
  | ok old =>
      exact .pure ⟨fun masked => absurd masked changed,
        fun reliable _ => ⟨rfl, noChild reliable⟩⟩

/-- The last part of the cleanup restores the disposition. -/
theorem restoreAction_ensures
    {after : Progress}
    {result : Exit}
    (describes : held.Describes dependable progress)
    (unmasked : held.Unmasked dependable after) :
    (restoreAction held result).Ensures (parentMonitor dependable)
      (fun _ => Progress.Closed dependable) after := by
  unfold restoreAction
  cases changed : held.oldAction with
  | none =>
      refine .pure ?_
      intro reliable
      cases masked : held.oldMask with
      | none =>
          rw [unmasked.untouched masked]
          decide
      | some mask =>
          have installed := (describes.installed reliable
            (Option.isSome_of_eq_some masked)).2
          rw [changed] at installed
          cases installed
  | some action =>
  have masked : held.oldMask.isSome = true := by
    apply Option.isSome_iff_ne_none.mpr
    intro notMasked
    have unchanged := describes.unmasked notMasked
    rw [changed] at unchanged
    cases unchanged
  cases action with
  | handleSigusr1 =>
      exact absurd rfl (describes.restores .handleSigusr1 changed)
  | inherited action =>
  refine .request_bind (fun reliable => unmasked.inOrder reliable masked) ?_
  intro answer allowed
  cases answer with
  | error error => exact .pure fun reliable => absurd reliable allowed
  | ok old =>
      refine .pure ?_
      intro _ opened
      cases opened

/-- The cleanup closes the window. -/
theorem cleanup_ensures
    {result : Exit}
    (describes : held.Describes dependable progress) :
    (cleanup held result).Ensures (parentMonitor dependable)
      (fun _ => Progress.Closed dependable) progress := by
  refine .bind ((cleanupChild_ensures describes).mono ?_)
  rintro reapedResult current ⟨⟨live, rfl⟩, noChild⟩
  refine .bind ((restoreMask_ensures describes noChild).mono ?_)
  intro maskResult after unmasked
  exact restoreAction_ensures describes unmasked

/-- The parent after it has installed the handler and reaped the child. -/
structure Progress.Armed (progress : Progress) : Prop where
  blocked : progress.blocked = true
  installed : progress.installed = true
  noChild : progress.childLive = false

/-- The loop sleeps only on a signal that it has seen pending. -/
theorem suspendLoop_ensures
    {waitMask : SignalSet}
    (armed : progress.Armed)
    (seen : progress.seenPending = true)
    (letsThrough : blocks waitMask = false) :
    (suspendLoop waitMask).Ensures (parentMonitor dependable)
      (fun _ => Progress.Armed) progress := by
  refine .iterate
    (fun _ current => current.Armed ∧ current.seenPending = true) ?_
    ⟨armed, seen⟩
  rintro _ current ⟨armed, seen⟩
  refine .request_bind seen ?_
  intro flag _
  cases flag with
  | true =>
      exact .pure ⟨armed.blocked, armed.installed, armed.noChild⟩
  | false =>
  have again :
      ∀ {decision : Progress},
        decision =
            { current with
              flagClear := false
              looped := current.looped || true } →
        decision.Armed ∧ decision.seenPending = true := by
    rintro _ rfl
    exact ⟨⟨armed.blocked, armed.installed, armed.noChild⟩, seen⟩
  refine .request_bind ?_ ?_
  · exact ⟨Bool.or_true _, armed.installed, seen, armed.blocked,
      letsThrough⟩
  intro answer _
  cases answer with
  | ok done => exact .pure (again rfl)
  | error error =>
  dsimp only
  split
  · exact .pure (again rfl)
  · exact .pure (again rfl).1

/-- What the parent holds once the handler is installed. -/
structure Held.Complete (held : Held) : Prop where
  unblocks : ∃ mask, held.oldMask = some mask ∧ blocks mask = false
  restores :
    ∃ action, held.oldAction = some action ∧ action ≠ .handleSigusr1

/-- With the handler installed only the child is left to describe. -/
theorem Held.Complete.describes
    (complete : held.Complete)
    (installed : progress.installed = true)
    (child :
      progress.childLive = true →
      held.child.isSome = true ∧ held.childReaped = false) :
    held.Describes dependable progress := by
  obtain ⟨mask, masked, unblocked⟩ := complete.unblocks
  obtain ⟨action, changed, notHandler⟩ := complete.restores
  constructor
  · intro other same
    rw [masked] at same
    cases same
    exact unblocked
  · intro other same
    rw [changed] at same
    cases same
    exact notHandler
  · intro notMasked
    rw [masked] at notMasked
    cases notMasked
  · intro notMasked
    rw [masked] at notMasked
    cases notMasked
  · intro _ _
    exact ⟨installed, Option.isSome_of_eq_some changed⟩
  · exact child

/-- An armed parent may clean up at any point. -/
theorem Progress.Armed.cleanup
    {result : Exit}
    (armed : progress.Armed)
    (complete : held.Complete) :
    (cleanup held result).Ensures (parentMonitor dependable)
      (fun _ => Progress.Closed dependable) progress :=
  cleanup_ensures (complete.describes armed.installed fun live => by
    rw [armed.noChild] at live
    cases live)

/-- `main` from the reaped child on. -/
theorem awaitSignal_ensures
    {oldMask : SignalSet}
    (armed : progress.Armed)
    (complete : held.Complete) :
    (awaitSignal held oldMask).Ensures (parentMonitor dependable)
      (fun _ => Progress.Closed dependable) progress := by
  unfold awaitSignal
  refine .request_bind trivial fun reported _ => ?_
  cases reported with
  | error error => exact armed.cleanup complete
  | ok pending =>
  have armedHere :
      Progress.Armed { progress with seenPending := blocks pending } :=
    ⟨armed.blocked, armed.installed, armed.noChild⟩
  refine .request_bind trivial fun tested allowed => ?_
  cases tested with
  | error error => exact armedHere.cleanup complete
  | ok isPending =>
  obtain rfl := allowed
  dsimp only
  split
  · rename_i seen
    refine .request_bind trivial fun flag _ => ?_
    have armedThere :
        ∀ {looped flagClear : Bool},
          Progress.Armed
            { progress with
              seenPending := blocks pending
              flagClear := flagClear
              looped := looped } :=
      ⟨armed.blocked, armed.installed, armed.noChild⟩
    cases flag with
    | true => exact armedThere.cleanup complete
    | false =>
    refine .request_bind trivial fun removed letsThrough => ?_
    cases removed with
    | error error => exact armedThere.cleanup complete
    | ok waitMask =>
    refine .bind ((suspendLoop_ensures armedThere seen
      letsThrough).mono ?_)
    intro ended after stillArmed
    cases ended with
    | error error => exact stillArmed.cleanup complete
    | ok done => exact stillArmed.cleanup complete
  · exact armedHere.cleanup complete

/-- `main` of the parent from the fork on. -/
theorem afterFork_ensures
    {oldMask : SignalSet}
    {child : Pid}
    (blocked : progress.blocked = true)
    (installed : progress.installed = true)
    (complete : held.Complete)
    (forked : held.child = some child)
    (notReaped : held.childReaped = false) :
    (afterFork held oldMask child).Ensures (parentMonitor dependable)
      (fun _ => Progress.Closed dependable) progress := by
  refine .bind ((waitForChild_ensures child).mono ?_)
  intro answer after waited
  obtain ⟨live, rfl⟩ := waited.unchanged
  cases answer with
  | error error =>
      exact cleanup_ensures (complete.describes installed fun _ =>
        ⟨Option.isSome_of_eq_some forked, notReaped⟩)
  | ok status =>
  have armed :
      Progress.Armed { progress with childLive := live } :=
    ⟨blocked, installed, waited.reaped status rfl⟩
  have reaped : Held.Complete { held with childReaped := true } :=
    ⟨complete.unblocks, complete.restores⟩
  dsimp only
  split
  · exact awaitSignal_ensures armed reaped
  · exact armed.cleanup reaped

/-- `main` from the block on. -/
theorem afterBlock_ensures
    {oldMask : SignalSet}
    (blocked : progress.blocked = true)
    (opened : progress.window = .opened)
    (notInstalled : progress.installed = false)
    (noChild : progress.childLive = false)
    (unblocks : blocks oldMask = false) :
    (afterBlock oldMask).Ensures (parentMonitor dependable)
      (fun _ => Progress.Closed dependable) progress := by
  unfold afterBlock
  refine .request_bind ⟨blocked, opened⟩ fun answer allowed => ?_
  cases answer with
  | error error =>
      refine cleanup_ensures ⟨?_, nofun, nofun, nofun,
        fun reliable => absurd reliable allowed, fun live => ?_⟩
      · intro mask same
        cases same
        exact unblocks
      · exact absurd (noChild.symm.trans live) Bool.false_ne_true
  | ok oldAction =>
  have complete :
      ∀ {child : Option Pid},
        Held.Complete
          { child := child
            oldMask := some oldMask
            oldAction := some oldAction } :=
    ⟨⟨oldMask, rfl, unblocks⟩, ⟨oldAction, rfl, allowed notInstalled⟩⟩
  refine .request_bind opened fun forked _ => ?_
  cases forked with
  | error error =>
      refine cleanup_ensures (complete.describes rfl fun live => ?_)
      exact absurd (noChild.symm.trans live) Bool.false_ne_true
  | ok child => exact afterFork_ensures blocked rfl complete rfl rfl

/-- `main` of the parent keeps its order and closes its window. -/
theorem main_ensures :
    main.Ensures (parentMonitor dependable)
      (fun _ => Progress.Closed dependable) .start := by
  have untouched :
      (cleanup {} .failure).Ensures (parentMonitor dependable)
        (fun _ => Progress.Closed dependable) .start :=
    cleanup_ensures
      ⟨nofun, nofun, fun _ => rfl, fun _ => rfl, nofun, nofun⟩
  unfold main
  refine .request_bind trivial fun actionMask _ => ?_
  cases actionMask with
  | error error => exact untouched
  | ok actionMask =>
  refine .request_bind trivial fun empty _ => ?_
  cases empty with
  | error error => exact untouched
  | ok empty =>
  refine .request_bind trivial fun blocked blocksSigusr1 => ?_
  cases blocked with
  | error error => exact untouched
  | ok blocked =>
  refine .request_bind blocksSigusr1 fun answer notBlocked => ?_
  cases answer with
  | error error => exact untouched
  | ok oldMask => exact afterBlock_ensures rfl rfl rfl rfl notBlocked

end Programs

/-- What the processes establish when they return. -/
def post (dependable : Prop) :
    (role : Role) → Outcome role → Watch role → Prop
  | .parent => fun _ => Progress.Closed dependable
  | .child => fun _ _ => True

/-- The kernel as the monitors know it. -/
def Known
    (dependable : Prop)
    (kernel : Kernel)
    (watch : (role : Role) → Watch role) : Prop :=
  Joint dependable kernel (watch .parent)

/-- The contract of the two processes. -/
abbrev Contract (dependable : Prop) :
    State Answer Kernel Outcome → Prop :=
  Composed (monitor dependable) watchStart (Known dependable)
    (post dependable)

variable {dependable : Prop} {kernel : Kernel}
  {state : State Answer Kernel Outcome}

/-- Both programs are ensured from their first states. -/
theorem programs_ensured
    (fuel : Nat)
    (role : Role) :
    (programs fuel role).Ensures (monitor dependable role)
      (post dependable role) (watchStart role) := by
  cases role with
  | parent => exact main_ensures fuel
  | child => exact Tree.Ensures.unwatched _ _

/-- Every answer is allowed and keeps the kernel as the monitors know it. -/
theorem answered_known
    {watch : (role : Role) → Watch role}
    {role : Role}
    {request : Syscall}
    {answer : Answer request}
    {after : Kernel}
    (known : Known dependable kernel watch)
    (safe : (monitor dependable role).safe (watch role) request)
    (given : Answered dependable kernel role request answer after) :
    (monitor dependable role).allows (watch role) request answer ∧
      Known dependable after
        (Function.update watch role
          ((monitor dependable role).next (watch role) request answer)) := by
  cases role with
  | parent =>
      obtain ⟨allowed, kept⟩ := known.parent safe given
      refine ⟨allowed, ?_⟩
      rw [Known, Function.update_self]
      exact kept
  | child =>
      have other : Role.parent ≠ .child := nofun
      refine ⟨trivial, ?_⟩
      rw [Known, Function.update_of_ne other]
      exact known.child given

/-- The contract holds of every state that the processes reach. -/
theorem contract
    {fuel : Nat}
    (initial : kernel.Initial)
    (reaches :
      Reaches (rules dependable) (.start (programs fuel) kernel) state) :
    Contract dependable state := by
  refine Composed.reaches ?_ ?_
    (.start (Joint.initially initial) (programs_ensured fuel)) reaches
  · exact answered_known
  · intro current watch after known evolved
    exact known.evolves evolved

/-- The parent is at the head of its loop. -/
def AtHead (event : Event Answer) : Prop :=
  ∃ flag, event = ⟨.loadReceived .loopHead, flag⟩

/-- The parent restores its mask. -/
def RestoresMask (event : Event Answer) : Prop :=
  ∃ set old, event = ⟨.sigprocmask .setmask set, .ok old⟩

/-- Only the head of the loop tells that it was reached. -/
theorem looped_next
    {progress : Progress}
    {request : Syscall}
    {answer : Answer request}
    (looped : (progress.next request answer).looped = true) :
    progress.looped = true ∨ AtHead ⟨request, answer⟩ := by
  rw [Progress.next.eq_def] at looped
  split at looped
  case h_9 place flag =>
    rcases Bool.or_eq_true_iff.mp looped with already | here
    · exact .inl already
    · obtain rfl := eq_of_beq here
      exact .inr ⟨flag, rfl⟩
  case h_7 =>
    split at looped
    · exact .inl looped
    · exact .inl looped
  all_goals exact .inl looped

/-- Only a successful `SIG_SETMASK` tells that the mask is restored. -/
theorem maskRestored_next
    {progress : Progress}
    {request : Syscall}
    {answer : Answer request}
    (restored : (progress.next request answer).maskRestored = true) :
    progress.maskRestored = true ∨ RestoresMask ⟨request, answer⟩ := by
  rw [Progress.next.eq_def] at restored
  split at restored
  case h_2 set old => exact .inr ⟨set, old, rfl⟩
  case h_7 =>
    split at restored
    · exact .inl restored
    · exact .inl restored
  all_goals exact .inl restored

/--
The protocol in a state that was reached.  The last four hold where the kernel
is dependable: what is generated while the window is open is handled by the
time it is closed, and the child lives only while it is open.
-/
structure SignalProtocol
    (dependable : Prop)
    (state : State Answer Kernel Outcome) : Prop where
  pendingAtHead :
    ∀ next,
      state.rest .parent = .call (.loadReceived .loopHead) next →
      state.kernel.received = false →
      state.kernel.pending = true
  pendingAtSuspend :
    ∀ mask next,
      state.rest .parent = .call (.sigsuspend mask) next →
      state.kernel.pending = true ∧ blocks mask = false
  handlerAwaited :
    0 < state.kernel.handlerRuns →
    ∃ event ∈ state.events .parent, AtHead event ∨ RestoresMask event
  account :
    state.kernel.generated =
      state.kernel.handled + state.kernel.merged + state.kernel.lost
  stillPending : 0 < state.kernel.merged → state.kernel.pending = true
  noneLost : dependable → state.kernel.lost = 0
  allHandled :
    dependable →
    state.kernel.window = .closed →
    state.kernel.handled = state.kernel.generated
  childInside :
    dependable →
    state.kernel.child = .alive →
    state.kernel.window = .opened
  windowClosed :
    dependable →
    ∀ exit,
      state.rest .parent = .ret exit →
      state.kernel.window ≠ .opened

/--
Under any interleaving with the child and with other signals the parent never
sleeps on a signal that is gone, its handler never runs early, and where the
kernel is dependable no `SIGUSR1` of the window is lost.
-/
theorem signal_protocol
    {dependable : Prop}
    {fuel : Nat}
    {kernel : Kernel}
    {state : State Answer Kernel Outcome}
    (initial : kernel.Initial)
    (reaches :
      Reaches (rules dependable) (.start (programs fuel) kernel) state) :
    SignalProtocol dependable state := by
  have contract := contract initial reaches
  have joint := contract.holds
  constructor
  · intro next position notReceived
    have seen := contract.safe position
    exact joint.awaited seen notReceived
  · intro mask next position
    have maySuspend := contract.safe position
    have notReceived := (joint.clear maySuspend.flagClear).1
    exact ⟨joint.awaited maySuspend.seenPending notReceived,
      maySuspend.letsThrough⟩
  · intro ran
    rcases joint.handlerRan ran with looped | restored
    · rcases (parentMonitor dependable).raised (·.looped = true) AtHead
        looped_next looped with early | ⟨event, member, head⟩
      · cases early
      · exact ⟨event, member, .inl head⟩
    · rcases (parentMonitor dependable).raised (·.maskRestored = true)
        RestoresMask maskRestored_next restored with
        early | ⟨event, member, restores⟩
      · cases early
      · exact ⟨event, member, .inr restores⟩
  · exact joint.account
  · exact joint.merged
  · exact joint.noneLost
  · intro reliable closed
    have account := joint.account
    rw [joint.noneLost reliable,
      joint.settled (joint.window ▸ closed)] at account
    exact account.symm
  · intro reliable alive
    rw [joint.window]
    exact joint.childInside reliable alive
  · intro reliable exit returned
    rw [joint.window]
    exact contract.returned returned reliable

/-- Process 300 with an empty mask and the default disposition. -/
def freshKernel : Kernel where
  parent := ⟨300, Nat.succ_pos 299⟩
  mask := 0
  pending := false
  disposition := .inherited 0
  received := false
  child := .unborn
  window := .before
  handlerRuns := 0
  generated := 0
  handled := 0
  merged := 0
  lost := 0

/--
The protocol in a run to the end: an unrelated signal arrives before the
handler is installed, and the child's merges into it.
-/
theorem signal_protocol_twoSignals :
    ∃ state,
      Reaches (rules True) (.start (programs 2) freshKernel) state ∧
        state.rest .parent = .ret .success ∧
        state.kernel.generated = 2 ∧
        SignalProtocol True state := by
  have start :
      Reaches (rules True) (.start (programs 2) freshKernel)
        (.start (programs 2) freshKernel) :=
    .refl
  have blocked :=
    (((start.call .parent rfl (.ok 0) (.sigemptyset rfl)).call .parent rfl
      (.ok 0) (.sigemptyset rfl)).call .parent rfl (.ok sigusr1Set)
        (.sigaddset rfl)).call .parent rfl _ .block
  have forked :=
    ((blocked.evolve .unrelated).call .parent rfl _ .install).call .parent
      rfl _ (.fork ⟨301, Nat.succ_pos 300⟩ rfl)
  have signalled :=
    ((forked.call .child rfl _ (.getppid rfl)).call .child rfl _
      (.kill rfl)).call .child rfl _ (.exit rfl)
  have reaped := signalled.call .parent rfl _ (.waitpid (.exited 0) rfl)
  have seen :=
    ((reaped.call .parent rfl (.ok sigusr1Set) (.sigpending rfl)).call
      .parent rfl (.ok true) (.sigismember rfl)).call .parent rfl _
        .loadReceived
  have asleep :=
    (seen.call .parent rfl (.ok 0) (.sigdelset rfl)).call .parent rfl _
      .loadReceived
  have woken :=
    (asleep.call .parent rfl _ (.sigsuspend rfl rfl)).call .parent rfl _
      .loadReceived
  have restored :=
    (woken.call .parent rfl _ .setmask).call .parent rfl _ (.restore false)
  have initial : freshKernel.Initial :=
    ⟨rfl, rfl, by decide, rfl, rfl, rfl, rfl, rfl, rfl, rfl, rfl⟩
  exact ⟨_, restored, rfl, rfl, signal_protocol initial restored⟩

end AdvanceUnix.PortableSignals
