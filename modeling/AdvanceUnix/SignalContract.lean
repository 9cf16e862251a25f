import AdvanceUnix.SignalDelivery

namespace AdvanceUnix.PortableSignals

open CallTree ChildProcess

/-!
# What the parent knows of its signals

The parent's monitor keeps what the answers so far tell about the signal
state.  It asks the program to touch mask and disposition in the right order,
and the invariant relates its knowledge to the kernel.
-/

/-- What the parent's answers tell. -/
structure Progress where
  window : Window
  blocked : Bool
  installed : Bool
  childLive : Bool
  seenPending : Bool
  flagClear : Bool
  looped : Bool
  maskRestored : Bool
  deriving DecidableEq, Repr

namespace Progress

/-- Before the first call. -/
def start : Progress where
  window := .before
  blocked := false
  installed := false
  childLive := false
  seenPending := false
  flagClear := false
  looped := false
  maskRestored := false

/-- Follow one answered call. -/
def next (progress : Progress) :
    (request : Syscall) → Answer request → Progress
  | .sigprocmask .block _, .ok _ =>
      { progress with blocked := true, window := progress.window.opening }
  | .sigprocmask .setmask _, .ok _ =>
      { progress with
        blocked := false
        maskRestored := true
        seenPending := false
        flagClear := false }
  | .sigaction .handleSigusr1, .ok _ => { progress with installed := true }
  | .sigaction (.inherited _), .ok _ =>
      { progress with
        installed := false
        window := .closed
        seenPending := false }
  | .fork, .ok _ => { progress with childLive := true }
  | .waitpid _, .ok _ => { progress with childLive := false }
  | .waitpid _, .error error =>
      if error = .echild then
        { progress with childLive := false }
      else
        progress
  | .sigpending, .ok set => { progress with seenPending := blocks set }
  | .loadReceived place, flag =>
      { progress with
        flagClear := !flag && progress.blocked
        looped := progress.looped || place == .loopHead }
  | .sigsuspend _, _ => { progress with flagClear := false }
  | _, _ => progress

end Progress

/-- What the parent may rely on. -/
def parentAllows (dependable : Prop) (progress : Progress) :
    (request : Syscall) → Answer request → Prop
  | .sigaddset _, answer =>
      answer.Meets (fun _ => True) (blocks · = true)
  | .sigdelset _, answer =>
      answer.Meets (fun _ => True) (blocks · = false)
  | .sigismember set, answer =>
      answer.Meets (fun _ => True) (· = blocks set)
  | .sigprocmask .block _, answer =>
      answer.Meets (fun _ => True) (blocks · = progress.blocked)
  | .sigprocmask .setmask _, answer =>
      answer.Meets (fun _ => ¬ dependable) (fun _ => True)
  | .sigaction _, answer =>
      answer.Meets (fun _ => ¬ dependable)
        (fun old => progress.installed = false → old ≠ .handleSigusr1)
  | .waitpid _, answer =>
      answer.Meets
        (fun error => dependable → error = .eintr ∨ error = .echild)
        (fun _ => True)
  | _, _ => True

/-- What the parent may sleep on: a signal that it knows to be pending. -/
structure MaySuspend (progress : Progress) (mask : SignalSet) : Prop where
  looped : progress.looped = true
  installed : progress.installed = true
  seenPending : progress.seenPending = true
  flagClear : progress.flagClear = true
  letsThrough : blocks mask = false

/-- The order in which the parent touches mask and disposition. -/
def parentSafe (dependable : Prop) (progress : Progress) : Syscall → Prop
  | .sigprocmask .block set => blocks set = true
  | .sigprocmask .setmask set =>
      blocks set = false ∧ (dependable → progress.installed = true)
  | .sigaction .handleSigusr1 =>
      progress.blocked = true ∧ progress.window = .opened
  | .sigaction (.inherited _) =>
      dependable → progress.blocked = false ∧ progress.childLive = false
  | .fork => progress.window = .opened
  | .loadReceived .loopHead => progress.seenPending = true
  | .sigsuspend mask => MaySuspend progress mask
  | _ => True

/-- The monitor of the parent. -/
def parentMonitor (dependable : Prop) : Monitor Answer Progress where
  next := Progress.next
  allows := parentAllows dependable
  safe := parentSafe dependable

/-- What is watched of each process: nothing of the child. -/
@[reducible] def Watch : Role → Type
  | .parent => Progress
  | .child => Unit

/-- The monitors. -/
def monitor (dependable : Prop) :
    (role : Role) → Monitor Answer (Watch role)
  | .parent => parentMonitor dependable
  | .child => Monitor.observe fun _ _ _ => ()

/-- Their first states. -/
def watchStart : (role : Role) → Watch role
  | .parent => .start
  | .child => ()

/-- The kernel as the parent knows it. -/
structure Joint
    (dependable : Prop)
    (kernel : Kernel)
    (progress : Progress) : Prop where
  window : kernel.window = progress.window
  mask : blocks kernel.mask = progress.blocked
  disposition :
    kernel.disposition = .handleSigusr1 ↔ progress.installed = true
  held : kernel.pending = true → progress.blocked = true
  guarded :
    progress.installed = true →
    progress.blocked = true ∨ progress.maskRestored = true
  awaited :
    progress.seenPending = true →
    kernel.received = false →
    kernel.pending = true
  clear :
    progress.flagClear = true →
    kernel.received = false ∧ progress.blocked = true
  handlerRan :
    0 < kernel.handlerRuns →
    progress.looped = true ∨ progress.maskRestored = true
  merged : 0 < kernel.merged → kernel.pending = true
  settled : progress.window = .closed → kernel.merged = 0
  account :
    kernel.generated = kernel.handled + kernel.merged + kernel.lost
  noneLost : dependable → kernel.lost = 0
  covered :
    dependable →
    progress.window = .opened →
    progress.blocked = true ∨ progress.installed = true
  childKnown :
    dependable → progress.childLive = false → kernel.child ≠ .alive
  childInside :
    dependable → kernel.child = .alive → progress.window = .opened

namespace Joint

variable {dependable : Prop} {kernel : Kernel} {progress : Progress}

/-- The start. -/
theorem initially
    (initial : kernel.Initial) :
    Joint dependable kernel .start where
  window := initial.before
  mask := initial.notBlocked
  disposition := iff_of_false initial.inherited Bool.false_ne_true
  held := fun pending =>
    absurd (initial.notPending.symm.trans pending) Bool.false_ne_true
  guarded := nofun
  awaited := nofun
  clear := nofun
  handlerRan := fun ran =>
    absurd ran (Nat.not_lt.mpr (Nat.le_of_eq initial.nothingHandled))
  merged := fun some =>
    absurd some (Nat.not_lt.mpr (Nat.le_of_eq initial.nothingCounted.2.2.1))
  settled := nofun
  account := by
    obtain ⟨generated, handled, merged, lost⟩ := initial.nothingCounted
    rw [generated, handled, merged, lost]
  noneLost := fun _ => initial.nothingCounted.2.2.2
  covered := nofun
  childKnown := fun _ _ alive => by
    rw [initial.unborn] at alive
    cases alive
  childInside := fun _ alive => by
    rw [initial.unborn] at alive
    cases alive

/-- The handler takes the pending signal and what arrives with it. -/
theorem deliver_handled
    (joint : Joint dependable kernel progress)
    (count : Nat)
    (installed : progress.installed = true)
    (permitted :
      progress.looped = true ∨ progress.maskRestored = true)
    (unclear : progress.flagClear = false) :
    Joint dependable (kernel.arrive count).deliver progress := by
  have handler : (kernel.arrive count).disposition = .handleSigusr1 :=
    joint.disposition.mpr installed
  have account := joint.account
  simp only [Kernel.deliver, handler]
  exact
    { joint with
      disposition := iff_of_true rfl installed
      held := nofun
      awaited := fun _ notReceived => nomatch notReceived
      clear := fun flagClear =>
        absurd (unclear.symm.trans flagClear) Bool.false_ne_true
      handlerRan := fun _ => permitted
      merged := nofun
      settled := fun _ => rfl
      account := by
        simp only [Kernel.arrive]
        omega }

/-- An inherited disposition takes the pending signal. -/
theorem deliver_lost
    (joint : Joint dependable kernel progress)
    (count : Nat)
    (notInstalled : progress.installed = false)
    (unawaited :
      progress.seenPending = true → kernel.received = true)
    (nothingThere : dependable → kernel.merged + count = 0) :
    Joint dependable (kernel.arrive count).deliver progress := by
  have account := joint.account
  cases inherited : kernel.disposition with
  | handleSigusr1 =>
      have installed := joint.disposition.mp inherited
      rw [notInstalled] at installed
      cases installed
  | inherited action =>
  have same : (kernel.arrive count).disposition = .inherited action :=
    inherited
  simp only [Kernel.deliver, same]
  exact
    { joint with
      disposition := by simp [notInstalled]
      held := nofun
      awaited := fun seen notReceived =>
        absurd (notReceived.symm.trans (unawaited seen)) Bool.false_ne_true
      merged := nofun
      settled := fun _ => rfl
      account := by
        simp only [Kernel.arrive]
        omega
      noneLost := fun reliable => by
        have lost := joint.noneLost reliable
        have nothing := nothingThere reliable
        simp only [Kernel.arrive]
        omega }

/-- Nothing is merged while nothing is pending. -/
theorem notMerged
    (joint : Joint dependable kernel progress)
    (notPending : kernel.pending = false) :
    kernel.merged = 0 := by
  rcases Nat.eq_zero_or_pos kernel.merged with nothing | some
  · exact nothing
  · have pending := joint.merged some
    rw [notPending] at pending
    cases pending

/-- Nothing is pending while `SIGUSR1` is not blocked. -/
theorem notPending
    (joint : Joint dependable kernel progress)
    (unblocked : progress.blocked = false) :
    kernel.pending = false := by
  cases pending : kernel.pending with
  | false => rfl
  | true =>
      have blocked := joint.held pending
      rw [unblocked] at blocked
      cases blocked

/-- A `SIGUSR1` at any moment. -/
theorem generate
    (joint : Joint dependable kernel progress) :
    Joint dependable kernel.generate progress := by
  rw [Kernel.generate, joint.mask]
  cases blocked : progress.blocked with
  | true =>
      have account := joint.account
      rw [if_pos rfl]
      exact
        { joint with
          held := fun _ => blocked
          awaited := fun _ _ => rfl
          merged := fun _ => rfl
          settled := fun closed => by
            have notOpened : kernel.window ≠ .opened := by
              rw [joint.window, closed]
              decide
            simp only [Kernel.arrive, Kernel.counting, if_neg notOpened]
            exact joint.settled closed
          account := by
            simp only [Kernel.arrive]
            omega }
  | false =>
  have notPending := joint.notPending blocked
  cases installed : progress.installed with
  | true =>
      apply joint.deliver_handled _ installed
      · have guarded := joint.guarded installed
        rw [blocked] at guarded
        exact .inr (guarded.resolve_left Bool.false_ne_true)
      · cases clear : progress.flagClear with
        | false => rfl
        | true =>
            have stillBlocked := (joint.clear clear).2
            rw [blocked] at stillBlocked
            cases stillBlocked
  | false =>
      apply joint.deliver_lost _ installed
      · intro seen
        cases received : kernel.received with
        | true => rfl
        | false =>
            have pending := joint.awaited seen received
            rw [notPending] at pending
            cases pending
      · intro reliable
        have notOpened : kernel.window ≠ .opened := by
          intro opened
          have covered := joint.covered reliable (joint.window ▸ opened)
          rw [blocked, installed] at covered
          simp at covered
        rw [Kernel.counting, if_neg notOpened, joint.notMerged notPending]

/-- `SIG_BLOCK`. -/
theorem block
    {set : SignalSet}
    (joint : Joint dependable kernel progress)
    (blocksSigusr1 : blocks set = true) :
    Joint dependable
      { kernel with
        mask := kernel.mask ||| set
        window := kernel.window.opening }
      { progress with
        blocked := true
        window := progress.window.opening } :=
  { joint with
    window := by
      rw [joint.window]
    mask := by simp [blocksSigusr1]
    held := fun _ => rfl
    guarded := fun _ => .inl rfl
    clear := fun flagClear => ⟨(joint.clear flagClear).1, rfl⟩
    settled := fun closed =>
      joint.settled (Window.opening_closed.mp closed)
    covered := fun _ _ => .inl rfl
    childInside := fun reliable alive => by
      have inside := joint.childInside reliable alive
      rw [inside]
      rfl }

/-- Restoring the mask, before `SIGUSR1` is let through. -/
theorem restoring
    (joint : Joint dependable kernel progress) :
    Joint dependable kernel
      { progress with
        maskRestored := true
        seenPending := false
        flagClear := false } :=
  { joint with
    guarded := fun _ => .inr rfl
    awaited := nofun
    clear := nofun
    handlerRan := fun _ => .inr rfl }

/-- A mask that lets `SIGUSR1` through, when none is pending. -/
theorem unblock
    {set : SignalSet}
    (joint : Joint dependable kernel progress)
    (notBlocked : blocks set = false)
    (notPending : kernel.pending = false)
    (restored : progress.maskRestored = true)
    (unclear : progress.flagClear = false)
    (installed : dependable → progress.installed = true) :
    Joint dependable { kernel with mask := set }
      { progress with blocked := false } :=
  { joint with
    mask := notBlocked
    held := fun pending =>
      absurd (notPending.symm.trans pending) Bool.false_ne_true
    guarded := fun _ => .inr restored
    clear := fun flagClear =>
      absurd (unclear.symm.trans flagClear) Bool.false_ne_true
    covered := fun reliable _ => .inr (installed reliable) }

/-- `SIG_SETMASK` with a mask that lets `SIGUSR1` through. -/
theorem setMask
    {set : SignalSet}
    (joint : Joint dependable kernel progress)
    (notBlocked : blocks set = false)
    (installed : dependable → progress.installed = true) :
    Joint dependable (kernel.setMask set)
      { progress with
        blocked := false
        maskRestored := true
        seenPending := false
        flagClear := false } := by
  have restoring := joint.restoring
  cases pending : kernel.pending with
  | false =>
      have same : kernel.setMask set = { kernel with mask := set } := by
        simp [Kernel.setMask, pending]
      rw [same]
      exact restoring.unblock notBlocked pending rfl rfl installed
  | true =>
      have delivered :
          kernel.setMask set = { kernel.deliver with mask := set } := by
        simp only [Kernel.setMask, pending, notBlocked, Kernel.deliver]
        cases kernel.disposition <;> rfl
      have taken : kernel.deliver.pending = false := by
        rw [Kernel.deliver]
        cases kernel.disposition <;> rfl
      have after :
          Joint dependable kernel.deliver
            { progress with
              maskRestored := true
              seenPending := false
              flagClear := false } := by
        rcases Bool.eq_false_or_eq_true progress.installed with
          handler | handler
        · exact restoring.deliver_handled 0 handler (.inr rfl) rfl
        · apply restoring.deliver_lost 0 handler nofun
          intro reliable
          rw [installed reliable] at handler
          cases handler
      rw [delivered]
      exact after.unblock notBlocked taken rfl rfl installed

/-- Installing the handler. -/
theorem install
    (joint : Joint dependable kernel progress)
    (blocked : progress.blocked = true) :
    Joint dependable { kernel with disposition := .handleSigusr1 }
      { progress with installed := true } :=
  { joint with
    disposition := iff_of_true rfl rfl
    guarded := fun _ => .inl blocked
    covered := fun _ _ => .inl blocked }

/-- Restoring the inherited disposition. -/
theorem restoreDisposition
    {action : Nat}
    {discarded : Bool}
    (joint : Joint dependable kernel progress)
    (inOrder :
      dependable →
      progress.blocked = false ∧ progress.childLive = false) :
    Joint dependable (kernel.restoreDisposition action discarded)
      { progress with
        installed := false
        window := .closed
        seenPending := false } :=
  { joint with
    window := rfl
    disposition := by simp [Kernel.restoreDisposition]
    held := fun pending => joint.held (Bool.and_eq_true_iff.mp pending).1
    guarded := nofun
    awaited := nofun
    merged := nofun
    settled := fun _ => rfl
    account := by
      have account := joint.account
      simp only [Kernel.restoreDisposition]
      omega
    noneLost := fun reliable => by
      have lost := joint.noneLost reliable
      have nothing := joint.notMerged (joint.notPending (inOrder reliable).1)
      simp only [Kernel.restoreDisposition]
      omega
    covered := nofun
    childInside := fun reliable alive =>
      absurd alive (joint.childKnown reliable (inOrder reliable).2) }

/-- A child is forked inside the window. -/
theorem fork
    (joint : Joint dependable kernel progress)
    (opened : progress.window = .opened) :
    Joint dependable { kernel with child := .alive }
      { progress with childLive := true } :=
  { joint with
    childKnown := nofun
    childInside := fun _ _ => opened }

/-- A child that has terminated is one that the parent may know of. -/
theorem childGone
    (joint : Joint dependable kernel progress)
    (terminated : dependable → kernel.child = .terminated) :
    Joint dependable kernel { progress with childLive := false } :=
  { joint with
    childKnown := fun reliable _ alive => by
      rw [terminated reliable] at alive
      cases alive }

/-- The child terminates. -/
theorem terminate
    (joint : Joint dependable kernel progress) :
    Joint dependable { kernel with child := .terminated } progress :=
  { joint with
    childKnown := nofun
    childInside := nofun }

/-- `sigpending`. -/
theorem sigpending
    {set : SignalSet}
    (joint : Joint dependable kernel progress)
    (reported : blocks set = kernel.pending) :
    Joint dependable kernel
      { progress with seenPending := blocks set } :=
  { joint with
    awaited := fun seen _ => reported.symm.trans seen }

/-- Reading the flag. -/
theorem loadReceived
    (joint : Joint dependable kernel progress)
    (place : FlagCheck) :
    Joint dependable kernel
      { progress with
        flagClear := !kernel.received && progress.blocked
        looped := progress.looped || place == .loopHead } :=
  { joint with
    clear := fun flagClear => by simpa using flagClear
    handlerRan := fun ran =>
      (joint.handlerRan ran).imp_left fun looped => by simp [looped] }

/-- `sigsuspend` lets the pending signal through. -/
theorem sigsuspend
    {mask : SignalSet}
    (joint : Joint dependable kernel progress)
    (maySuspend : MaySuspend progress mask) :
    Joint dependable kernel.deliver { progress with flagClear := false } := by
  have waking :
      Joint dependable kernel { progress with flagClear := false } :=
    { joint with clear := nofun }
  exact waking.deliver_handled 0 maySuspend.installed
    (.inl maySuspend.looped) rfl

/-- `sigsuspend` returns without it. -/
theorem sigsuspendOther
    (joint : Joint dependable kernel progress) :
    Joint dependable kernel { progress with flagClear := false } :=
  { joint with clear := nofun }

/-- The parent's answers are allowed and keep the invariant. -/
theorem parent
    {after : Kernel}
    {request : Syscall}
    {answer : Answer request}
    (joint : Joint dependable kernel progress)
    (safe : parentSafe dependable progress request)
    (given : Answered dependable kernel .parent request answer after) :
    parentAllows dependable progress request answer ∧
      Joint dependable after (progress.next request answer) := by
  cases given with
  | @sigemptyset answer cleared =>
      cases answer with
      | error error => exact ⟨trivial, joint⟩
      | ok set => exact ⟨trivial, joint⟩
  | @sigaddset set answer added =>
      cases answer with
      | error error => exact ⟨trivial, joint⟩
      | ok sum =>
          obtain rfl := added
          exact ⟨blocks_add set, joint⟩
  | @sigdelset set answer removed =>
      cases answer with
      | error error => exact ⟨trivial, joint⟩
      | ok difference =>
          obtain rfl := removed
          exact ⟨blocks_remove set, joint⟩
  | @sigismember set answer tested =>
      cases answer with
      | error error => exact ⟨trivial, joint⟩
      | ok member => exact ⟨tested, joint⟩
  | @sigpending answer reported =>
      cases answer with
      | error error => exact ⟨trivial, joint⟩
      | ok set => exact ⟨trivial, joint.sigpending reported⟩
  | blockFailed error => exact ⟨trivial, joint⟩
  | block => exact ⟨joint.mask, joint.block safe⟩
  | setmaskFailed error undependable => exact ⟨undependable, joint⟩
  | setmask => exact ⟨trivial, joint.setMask safe.1 safe.2⟩
  | @sigactionFailed new error undependable =>
      cases new with
      | handleSigusr1 => exact ⟨undependable, joint⟩
      | inherited action => exact ⟨undependable, joint⟩
  | install =>
      refine ⟨fun notInstalled handler => ?_, joint.install safe.1⟩
      have installed := joint.disposition.mp handler
      rw [notInstalled] at installed
      cases installed
  | restore discarded =>
      refine ⟨fun notInstalled handler => ?_, joint.restoreDisposition safe⟩
      have installed := joint.disposition.mp handler
      rw [notInstalled] at installed
      cases installed
  | forkFailed error => exact ⟨trivial, joint⟩
  | fork child unborn => exact ⟨trivial, joint.fork safe⟩
  | @waitpidFailed child error known =>
      refine ⟨fun reliable => (known reliable).imp_right And.left, ?_⟩
      simp only [Progress.next]
      split
      · rename_i gone
        apply joint.childGone
        intro reliable
        rcases known reliable with interrupted | ⟨_, terminated⟩
        · rw [gone] at interrupted
          cases interrupted
        · exact terminated
      · exact joint
  | waitpid status terminated =>
      exact ⟨trivial, joint.childGone fun _ => terminated⟩
  | @loadReceived place => exact ⟨trivial, joint.loadReceived place⟩
  | sigsuspend pending letThrough =>
      exact ⟨trivial, joint.sigsuspend safe⟩
  | sigsuspendOther error => exact ⟨trivial, joint.sigsuspendOther⟩

/-- Whatever the child does keeps the invariant. -/
theorem child
    {after : Kernel}
    {request : Syscall}
    {answer : Answer request}
    (joint : Joint dependable kernel progress)
    (given : Answered dependable kernel .child request answer after) :
    Joint dependable after progress := by
  cases given with
  | getppid alive => exact joint
  | killFailed alive error => exact joint
  | kill alive => exact joint.generate
  | exit alive => exact joint.terminate

/-- What happens by itself keeps the invariant. -/
theorem evolves
    {after : Kernel}
    (joint : Joint dependable kernel progress)
    (evolved : Evolves kernel after) :
    Joint dependable after progress := by
  cases evolved with
  | unrelated => exact joint.generate
  | childKilled alive => exact joint.terminate

end Joint

end AdvanceUnix.PortableSignals
