import AdvanceUnix.DescriptorReceive
import Mathlib.Data.List.Nodup

namespace AdvanceUnix.FdPassing

open CallTree

/-!
# Accounting of received descriptors

Every run of `receiveDescriptor` against the ledger of what the kernel
delivered and which descriptors were closed.  `Accounted` is the invariant of
both loops of the walk.
-/

/-- What the kernel delivered and what became of it. -/
structure Ledger where
  delivered : Option Received
  closed : List Fd
  flagsRead : Option (Fd × BitVec 32)
  flagsSet : Option (Fd × BitVec 32)
  fcntlError : Option Errno

namespace Ledger

/-- Nothing delivered and nothing closed yet. -/
def empty : Ledger where
  delivered := none
  closed := []
  flagsRead := none
  flagsSet := none
  fcntlError := none

/-- Enter one answered call in the ledger. -/
def enter (ledger : Ledger) : (call : Syscall) → Answer call → Ledger
  | .recvmsg _, .ok message => { ledger with delivered := some message }
  | .close fd, _ => { ledger with closed := ledger.closed ++ [fd] }
  | .fcntlGetfd fd, .ok flags => { ledger with flagsRead := some (fd, flags) }
  | .fcntlGetfd _, .error error => { ledger with fcntlError := some error }
  | .fcntlSetfd fd flags, .ok _ =>
      { ledger with flagsSet := some (fd, flags) }
  | .fcntlSetfd _ _, .error error => { ledger with fcntlError := some error }
  | _, _ => ledger

/-- The installed descriptors of the delivered message, if there is one. -/
def installed (ledger : Ledger) : List Fd :=
  match ledger.delivered with
  | none => []
  | some message => message.installed

/--
The calls of the function: it receives from its socket until something is
delivered, closes what was installed, and changes the flags of a descriptor
that was installed alone.
-/
def Permits (socketFd : Fd) (ledger : Ledger) : Syscall → Prop
  | .recvmsg fd => fd = socketFd ∧ ledger.delivered = none
  | .close fd => fd ∈ ledger.installed
  | .fcntlGetfd fd => ledger.installed = [fd]
  | .fcntlSetfd fd _ => ledger.installed = [fd]
  | _ => False

end Ledger

/--
Descriptors that the kernel installs are non-negative and pairwise distinct;
every other answer is arbitrary.
-/
def kernelInstalls : (call : Syscall) → Answer call → Prop
  | .recvmsg _, .ok message =>
      (∀ fd ∈ message.installed, 0 ≤ fd) ∧ message.installed.Nodup
  | _, _ => True

/-- The monitor that keeps the ledger. -/
def ledgerMonitor (socketFd : Fd) : Monitor Answer Ledger where
  next := Ledger.enter
  allows := fun _ => kernelInstalls
  safe := Ledger.Permits socketFd

/-- The descriptor that the walk holds back from closing, if any. -/
def Walk.kept (walk : Walk) : List Fd :=
  if walk.descriptor < 0 then [] else [walk.descriptor]

/--
The descriptors seen so far are the kept one followed by the closed ones, and
none is closed before one is kept.
-/
structure Accounted
    (seen : List Fd)
    (walk : Walk)
    (closed : List Fd) : Prop where
  count : walk.descriptorCount = seen.length
  split : walk.kept ++ closed = seen
  keptFirst : walk.kept = [] → closed = []

namespace Accounted

/-- Nothing is seen before the walk. -/
theorem start : Accounted [] .start [] where
  count := rfl
  split := rfl
  keptFirst := fun _ => rfl

variable {seen closed : List Fd} {walk : Walk} {candidate : Fd}

/-- The first descriptor is kept. -/
theorem keep
    (accounted : Accounted seen walk closed)
    (nothingKept : walk.descriptor < 0)
    (nonnegative : 0 ≤ candidate) :
    Accounted (seen ++ [candidate])
      { walk with
        descriptor := candidate
        descriptorCount := walk.descriptorCount + 1 }
      closed := by
  have keptEmpty : walk.kept = [] := by
    simp [Walk.kept, nothingKept]
  have closedEmpty := accounted.keptFirst keptEmpty
  have seenEmpty : seen = [] := by
    rw [← accounted.split, keptEmpty, closedEmpty]
    rfl
  subst closedEmpty seenEmpty
  constructor
  case count => simp [accounted.count]
  case split => simp [Walk.kept, Int.not_lt.mpr nonnegative]
  case keptFirst => exact fun _ => rfl

/-- A further descriptor is closed. -/
theorem close
    (accounted : Accounted seen walk closed)
    (somethingKept : ¬ walk.descriptor < 0) :
    Accounted (seen ++ [candidate])
      { walk with descriptorCount := walk.descriptorCount + 1 }
      (closed ++ [candidate]) where
  count := by simp [accounted.count]
  split := by
    rw [← accounted.split]
    simp [Walk.kept]
  keptFirst := by
    intro keptEmpty
    simp [Walk.kept, somethingKept] at keptEmpty

end Accounted

section Walk

variable {socketFd : Fd}

/-- The inner loop accounts for the descriptors of its control message. -/
theorem takeCandidates_ensures
    (header : ControlMessage)
    {offsets : List Nat}
    {seen : List Fd}
    {walk : Walk}
    {ledger : Ledger}
    (nonnegative : ∀ offset ∈ offsets, 0 ≤ header.intAt offset)
    (delivered : ∀ offset ∈ offsets, header.intAt offset ∈ ledger.installed)
    (accounted : Accounted seen walk ledger.closed) :
    (takeCandidates header walk offsets).Ensures (ledgerMonitor socketFd)
      (fun walk' ledger' =>
        ∃ closed,
          ledger' = { ledger with closed := closed } ∧
            Accounted (seen ++ offsets.map header.intAt) walk' closed ∧
            walk'.malformed = walk.malformed)
      ledger := by
  induction offsets generalizing seen walk ledger with
  | nil =>
      exact .pure ⟨ledger.closed, rfl, by simpa using accounted, rfl⟩
  | cons offset rest inductionHypothesis =>
      have headNonnegative := nonnegative offset (by simp)
      have restNonnegative :
          ∀ later ∈ rest, 0 ≤ header.intAt later :=
        fun later member => nonnegative later (by simp [member])
      have restDelivered :
          ∀ later ∈ rest, header.intAt later ∈ ledger.installed :=
        fun later member => delivered later (by simp [member])
      unfold takeCandidates
      split
      · rename_i nothingKept
        have continued :=
          inductionHypothesis restNonnegative restDelivered
            (accounted.keep nothingKept headNonnegative)
        simpa using continued
      · rename_i somethingKept
        refine .request_bind (delivered offset (by simp)) ?_
        intro answer _
        have entered :
            (ledgerMonitor socketFd).next ledger
                (.close (header.intAt offset)) answer =
              { ledger with
                closed := ledger.closed ++ [header.intAt offset] } := by
          rfl
        rw [entered]
        have continued :=
          @inductionHypothesis _ _
            { ledger with
              closed := ledger.closed ++ [header.intAt offset] }
            restNonnegative restDelivered (accounted.close somethingKept)
        simpa using continued

/-- An `SCM_RIGHTS` message whose length is not one of whole `int`s. -/
def illegalRights (header : ControlMessage) : Bool :=
  header.isRights && !decide header.carriesInts

/-- Messages that carry `int`s are those that pass both checks of a length. -/
theorem carriesInts_iff {header : ControlMessage} :
    header.carriesInts ↔
      ¬ header.len < cmsgHeaderSize ∧
        ¬ (header.dataSize = 0 ∨ header.dataSize % intSize ≠ 0) := by
  simp only [ControlMessage.carriesInts, ControlMessage.dataSize]
  omega

/-- The walk accounts for every descriptor of every control message. -/
theorem walkControl_ensures
    {headers : List ControlMessage}
    {seen : List Fd}
    {walk : Walk}
    {ledger : Ledger}
    (nonnegative :
      ∀ fd ∈ headers.flatMap ControlMessage.installed, 0 ≤ fd)
    (delivered :
      ∀ fd ∈ headers.flatMap ControlMessage.installed,
        fd ∈ ledger.installed)
    (accounted : Accounted seen walk ledger.closed) :
    (walkControl walk headers).Ensures (ledgerMonitor socketFd)
      (fun walk' ledger' =>
        ∃ closed,
          ledger' = { ledger with closed := closed } ∧
            Accounted
              (seen ++ headers.flatMap ControlMessage.installed)
              walk' closed ∧
            walk'.malformed =
              (walk.malformed || headers.any illegalRights))
      ledger := by
  induction headers generalizing seen walk ledger with
  | nil =>
      exact .pure
        ⟨ledger.closed, rfl, by simpa using accounted, by simp⟩
  | cons header rest inductionHypothesis =>
      have restNonnegative :
          ∀ fd ∈ rest.flatMap ControlMessage.installed, 0 ≤ fd :=
        fun fd member => nonnegative fd (by simp_all)
      have restDelivered :
          ∀ fd ∈ rest.flatMap ControlMessage.installed,
            fd ∈ ledger.installed :=
        fun fd member => delivered fd (by simp_all)
      unfold walkControl
      by_cases foreign : header.isRights = false
      · have nothingInstalled : header.installed = [] := by
          simp [ControlMessage.installed, foreign]
        have legal : illegalRights header = false := by
          simp [illegalRights, foreign]
        simpa [foreign, nothingInstalled, legal] using
          inductionHypothesis restNonnegative restDelivered accounted
      have rights : header.isRights = true := by
        simpa using foreign
      by_cases carries : header.carriesInts
      · obtain ⟨longEnough, wellSized⟩ := carriesInts_iff.mp carries
        have installedInts :
            header.installed = header.offsets.map header.intAt := by
          simp [ControlMessage.installed, rights, carries]
        have legal : illegalRights header = false := by
          simp [illegalRights, carries]
        have headNonnegative :
            ∀ offset ∈ header.offsets, 0 ≤ header.intAt offset := by
          intro offset member
          apply nonnegative
          rw [List.flatMap_cons, installedInts]
          exact List.mem_append_left _
            (List.mem_map_of_mem member)
        have headDelivered :
            ∀ offset ∈ header.offsets,
              header.intAt offset ∈ ledger.installed := by
          intro offset member
          apply delivered
          rw [List.flatMap_cons, installedInts]
          exact List.mem_append_left _ (List.mem_map_of_mem member)
        simp only [rights, Bool.not_true, Bool.false_eq_true, ↓reduceIte,
          longEnough, wellSized]
        refine .bind
          ((takeCandidates_ensures header headNonnegative headDelivered
            accounted).mono ?_)
        rintro walk' ledger' ⟨closed, rfl, accounted', sameFlag⟩
        have continued :=
          @inductionHypothesis _ _ { ledger with closed := closed }
            restNonnegative restDelivered accounted'
        simpa [installedInts, legal, sameFlag] using continued
      · have nothingInstalled : header.installed = [] := by
          simp [ControlMessage.installed, carries]
        have illegal : illegalRights header = true := by
          simp [illegalRights, rights, carries]
        have flagged :=
          @inductionHypothesis _ { walk with malformed := true } _
            restNonnegative restDelivered ⟨accounted.count, accounted.split,
              accounted.keptFirst⟩
        by_cases short : header.len < cmsgHeaderSize
        · simpa [rights, short, nothingInstalled, illegal] using flagged
        · have wrongSize :
              header.dataSize = 0 ∨ header.dataSize % intSize ≠ 0 :=
            by_contra fun wellSized =>
              carries (carriesInts_iff.mpr ⟨short, wellSized⟩)
          simpa [rights, short, wrongSize, nothingInstalled, illegal]
            using flagged

end Walk

end AdvanceUnix.FdPassing

namespace AdvanceUnix.Received

open FdPassing

/-- A message that carries exactly what `send_descriptor` sends. -/
structure Acceptable (message : Received) : Prop where
  count : message.count = 1
  payload : message.payload = payloadByte
  lengths :
    ∀ header ∈ message.control,
      header.isRights = true → header.carriesInts
  one : message.installed.length = 1
  noCtrunc : message.flags &&& msgCtrunc = 0
  noTrunc : message.flags &&& msgTrunc = 0

end AdvanceUnix.Received

namespace AdvanceUnix.FdPassing

open CallTree

/-- One flag test against both truncation bits at once. -/
theorem truncation_eq_zero
    (flags : BitVec 32) :
    flags &&& (msgCtrunc ||| msgTrunc) = 0 ↔
      flags &&& msgCtrunc = 0 ∧ flags &&& msgTrunc = 0 := by
  rw [BitVec.and_or_distrib_left]
  exact BitVec.or_eq_zero_iff

/-- After the walk, exactly the acceptable messages are not refused. -/
theorem refuses_eq_false
    {message : Received}
    {walk : Walk}
    {closed : List Fd}
    (accounted : Accounted message.installed walk closed)
    (malformed :
      walk.malformed = message.control.any illegalRights) :
    refuses message walk = false ↔ message.Acceptable := by
  have lengths :
      walk.malformed = false ↔
        ∀ header ∈ message.control,
          header.isRights = true → header.carriesInts := by
    rw [malformed]
    simp [illegalRights]
  have split :
      refuses message walk = false ↔
        message.count = 1 ∧ message.payload = payloadByte ∧
          walk.malformed = false ∧ walk.descriptorCount = 1 ∧
          message.flags &&& (msgCtrunc ||| msgTrunc) = 0 := by
    simp [refuses, and_assoc]
  rw [split, lengths, accounted.count, truncation_eq_zero]
  constructor
  · rintro ⟨count, payload, legal, one, noCtrunc, noTrunc⟩
    exact ⟨count, payload, legal, one, noCtrunc, noTrunc⟩
  · rintro ⟨count, payload, legal, one, noCtrunc, noTrunc⟩
    exact ⟨count, payload, legal, one, noCtrunc, noTrunc⟩

/-- With one installed descriptor, it is kept and nothing is closed. -/
theorem Accounted.single
    {seen closed : List Fd}
    {walk : Walk}
    (accounted : Accounted seen walk closed)
    (one : seen.length = 1) :
    seen = [walk.descriptor] ∧ closed = [] := by
  have split := accounted.split
  by_cases nothingKept : walk.descriptor < 0
  · have keptEmpty : walk.kept = [] := by
      simp [Walk.kept, nothingKept]
    rw [keptEmpty, accounted.keptFirst keptEmpty] at split
    simp [← split] at one
  · have keptOne : walk.kept = [walk.descriptor] := by
      simp [Walk.kept, nothingKept]
    rw [keptOne] at split
    have closedEmpty : closed = [] := by
      rw [← split] at one
      simpa using one
    subst closedEmpty
    exact ⟨split.symm, rfl⟩

/-- Closing the kept descriptor as well closes every installed one. -/
theorem Accounted.closeKept
    {seen closed : List Fd}
    {walk : Walk}
    (accounted : Accounted seen walk closed) :
    (closed ++ walk.kept).Perm seen := by
  rw [← accounted.split]
  exact List.perm_append_comm

/-- What the ledger says of a delivered message after the function. -/
structure Settled
    (message : Received)
    (result : Result Fd)
    (ledger : Ledger) : Prop where
  delivered : ledger.delivered = some message
  returned :
    (∃ fd, result = .ok fd) ↔
      message.Acceptable ∧ ledger.fcntlError = none
  kept :
    ∀ fd,
      result = .ok fd →
      message.installed = [fd] ∧
        ledger.closed = [] ∧
        ∃ flags,
          ledger.flagsRead = some (fd, flags) ∧
            ledger.flagsSet = some (fd, flags ||| fdCloexec)
  released :
    ∀ error,
      result = .error error →
      ledger.closed.Perm message.installed ∧
        ∀ fd ∈ message.installed, ledger.closed.count fd = 1
  reason :
    ∀ error,
      result = .error error →
      (message.Acceptable → ledger.fcntlError = some error) ∧
        (¬ message.Acceptable → error = .ebadmsg)

/-- A failing return settles the ledger once everything is closed. -/
theorem Settled.failure
    {message : Received}
    {ledger : Ledger}
    {error : Errno}
    (distinct : message.installed.Nodup)
    (delivered : ledger.delivered = some message)
    (reason : message.Acceptable → ledger.fcntlError = some error)
    (refused : ¬ message.Acceptable → error = .ebadmsg)
    (closedAll : ledger.closed.Perm message.installed) :
    Settled message (.error error) ledger := by
  constructor
  case delivered => exact delivered
  case returned =>
    refine iff_of_false nofun ?_
    rintro ⟨acceptable, unfailed⟩
    rw [reason acceptable] at unfailed
    cases unfailed
  case kept => exact nofun
  case released =>
    intro _ _
    refine ⟨closedAll, fun fd member => ?_⟩
    rw [closedAll.count_eq]
    exact List.count_eq_one_of_mem distinct member
  case reason =>
    rintro _ ⟨⟩
    exact ⟨reason, refused⟩

/-- The ledger right after the walk over a delivered message. -/
def afterWalk (message : Received) (closed : List Fd) : Ledger :=
  { Ledger.empty with delivered := some message, closed := closed }

section Conclusion

variable {socketFd : Fd}

/-- Closing a descriptor enters it last in the ledger's closed list. -/
theorem close_ensures
    {post : Result Fd → Ledger → Prop}
    {fd : Fd}
    {error : Errno}
    {ledger : Ledger}
    (delivered : fd ∈ ledger.installed)
    (settled :
      post (.error error)
        { ledger with closed := ledger.closed ++ [fd] }) :
    (do
      let _ ← close fd
      return Except.error error : Sys (Result Fd)).Ensures
      (ledgerMonitor socketFd) post ledger :=
  .request_bind delivered fun _ _ => .pure settled

/-- A refused message has all its descriptors closed. -/
theorem concludeReceive_refused
    {message : Received}
    {walk : Walk}
    {closed : List Fd}
    (distinct : message.installed.Nodup)
    (accounted : Accounted message.installed walk closed)
    (unacceptable : ¬ message.Acceptable)
    (refused : refuses message walk = true) :
    (concludeReceive message walk).Ensures (ledgerMonitor socketFd)
      (Settled message) (afterWalk message closed) := by
  have closedAll := accounted.closeKept
  simp only [concludeReceive, refused, ↓reduceIte]
  by_cases somethingKept : 0 ≤ walk.descriptor
  · have kept : walk.kept = [walk.descriptor] := by
      simp [Walk.kept, Int.not_lt.mpr somethingKept]
    rw [kept] at closedAll
    have delivered :
        walk.descriptor ∈ (afterWalk message closed).installed :=
      closedAll.subset (by simp)
    simp only [somethingKept, ↓reduceIte]
    exact close_ensures delivered
      (.failure distinct rfl unacceptable.elim (fun _ => rfl) closedAll)
  · have kept : walk.kept = [] := by
      simp [Walk.kept, Int.not_le.mp somethingKept]
    rw [kept, List.append_nil] at closedAll
    simp only [somethingKept, ↓reduceIte]
    exact .pure
      (.failure distinct rfl unacceptable.elim (fun _ => rfl) closedAll)

/-- An accepted message keeps its descriptor unless an `fcntl` fails. -/
theorem concludeReceive_accepted
    {message : Received}
    {walk : Walk}
    (distinct : message.installed.Nodup)
    (acceptable : message.Acceptable)
    (accepted : refuses message walk = false)
    (installedOne : message.installed = [walk.descriptor]) :
    (concludeReceive message walk).Ensures (ledgerMonitor socketFd)
      (Settled message) (afterWalk message []) := by
  have closedAll : [walk.descriptor].Perm message.installed := by
    rw [installedOne]
  have delivered : walk.descriptor ∈ message.installed := by
    rw [installedOne]
    exact List.mem_singleton_self _
  have failure :
      ∀ {ledger : Ledger} {error : Errno},
        ledger.delivered = some message →
        ledger.closed = [walk.descriptor] →
        ledger.fcntlError = some error →
        Settled message (.error error) ledger := by
    intro ledger error known closed failed
    exact .failure distinct known (fun _ => failed) (absurd acceptable)
      (by rw [closed]; exact closedAll)
  simp only [concludeReceive, accepted, Bool.false_eq_true, ↓reduceIte]
  refine .request_bind installedOne ?_
  rintro (error | flags) _
  · exact close_ensures delivered (failure rfl rfl rfl)
  refine .request_bind installedOne ?_
  rintro (error | done) _
  · exact close_ensures delivered (failure rfl rfl rfl)
  refine .pure ⟨rfl, iff_of_true ⟨_, rfl⟩ ⟨acceptable, rfl⟩, ?_, nofun, nofun⟩
  rintro fd ⟨⟩
  exact ⟨installedOne, rfl, flags, rfl, rfl⟩

/-- The walk over a delivered message and the conclusion settle the ledger. -/
theorem walked_ensures
    {message : Received}
    (nonnegative : ∀ fd ∈ message.installed, 0 ≤ fd)
    (distinct : message.installed.Nodup) :
    (do
      let walk ← walkControl .start message.control
      concludeReceive message walk : Sys (Result Fd)).Ensures
      (ledgerMonitor socketFd) (Settled message) (afterWalk message []) := by
  have delivered :
      ∀ fd ∈ message.installed, fd ∈ (afterWalk message []).installed :=
    fun _ member => member
  refine .bind ((walkControl_ensures nonnegative delivered
    Accounted.start).mono ?_)
  rintro walk after ⟨closed, rfl, accounted, malformed⟩
  have whole : Accounted message.installed walk closed := by
    simpa [Received.installed] using accounted
  have refusal :=
    refuses_eq_false whole (by simpa [Walk.start] using malformed)
  cases refused : refuses message walk with
  | true =>
      rw [refused] at refusal
      have unacceptable : ¬ message.Acceptable := by simp [← refusal]
      exact concludeReceive_refused distinct whole unacceptable refused
  | false =>
      have acceptable := refusal.mp refused
      obtain ⟨installedOne, rfl⟩ := whole.single acceptable.one
      exact concludeReceive_accepted distinct acceptable refused installedOne

/-- What the ledger says of a result, if a message was delivered or not. -/
def Ledger.Explains (ledger : Ledger) (result : Result Fd) : Prop :=
  match ledger.delivered with
  | none => ∃ error, result = .error error
  | some message => Settled message result ledger

/-- The function makes permitted calls, and the ledger explains its result. -/
theorem receiveDescriptor_ensures :
    (receiveDescriptor socketFd).Ensures (ledgerMonitor socketFd)
      (fun result ledger => ledger.Explains result) Ledger.empty := by
  have delivery :
      (retryEintr (recvmsg socketFd)).Ensures (ledgerMonitor socketFd)
        (fun result ledger =>
          Result.Meets (fun _ => ledger = Ledger.empty)
            (fun message =>
              ledger = afterWalk message [] ∧
                (∀ fd ∈ message.installed, 0 ≤ fd) ∧
                message.installed.Nodup)
            result)
        Ledger.empty := by
    refine retryEintr_ensures (fun ledger => ledger = Ledger.empty) ?_ rfl
    rintro ledger rfl
    refine .request ⟨rfl, rfl⟩ ?_
    intro answer allowed
    cases answer with
    | error error => exact ⟨fun _ => rfl, fun _ => rfl⟩
    | ok message => exact ⟨rfl, allowed⟩
  unfold receiveDescriptor
  refine .bind (delivery.mono ?_)
  intro answer ledger entered
  cases answer with
  | error error =>
      -- Nothing was delivered, so there is nothing to account for.
      obtain rfl : ledger = Ledger.empty := entered
      exact .pure ⟨error, rfl⟩
  | ok message =>
      obtain ⟨rfl, nonnegative, distinct⟩ := entered
      refine (walked_ensures nonnegative distinct).mono ?_
      intro result after settled
      rw [Ledger.Explains, settled.delivered]
      exact settled

end Conclusion

section Return

variable {script : Script Answer} {index : Nat}

/-- The inner loop returns. -/
theorem takeCandidates_returns
    (header : ControlMessage)
    (walk : Walk)
    (offsets : List Nat) :
    (takeCandidates header walk offsets).Returns script
      (fun _ _ => True) index := by
  induction offsets generalizing walk index with
  | nil => exact .pure trivial
  | cons offset rest inductionHypothesis =>
      unfold takeCandidates
      dsimp only
      split
      · exact inductionHypothesis _
      · exact .request_bind (inductionHypothesis _)

/-- The walk returns, whatever the control messages. -/
theorem walkControl_returns
    (walk : Walk)
    (headers : List ControlMessage) :
    (walkControl walk headers).Returns script (fun _ _ => True) index := by
  induction headers generalizing walk index with
  | nil => exact .pure trivial
  | cons header rest inductionHypothesis =>
      unfold walkControl
      split
      · exact inductionHypothesis _
      split
      · exact inductionHypothesis _
      split
      · exact inductionHypothesis _
      refine .bind ((takeCandidates_returns header walk _).mono ?_)
      exact fun next _ _ => inductionHypothesis next

/-- The conclusion returns. -/
theorem concludeReceive_returns
    (message : Received)
    (walk : Walk) :
    (concludeReceive message walk).Returns script
      (fun _ _ => True) index := by
  unfold concludeReceive
  split
  · split
    · exact .request_bind (.pure trivial)
    · exact .pure trivial
  refine .request_bind ?_
  split
  · exact .request_bind (.pure trivial)
  refine .request_bind ?_
  split
  · exact .request_bind (.pure trivial)
  · exact .pure trivial

/-- The function returns, unless `recvmsg` is interrupted for ever. -/
theorem receiveDescriptor_returns
    (socketFd : Fd)
    (ceasing : script.Ceasing Interrupted) :
    (receiveDescriptor socketFd).Returns script
      (fun _ _ => True) index := by
  unfold receiveDescriptor
  refine .bind (retryEintr_returns (.recvmsg socketFd)
    (fun current => script current (.recvmsg socketFd))
    (Syscall.invoke_returns (.recvmsg socketFd))
    (fun _ given => ⟨Received, heq_of_eq given⟩) ceasing ?_)
  rintro (error | message) after _ _
  · exact .pure trivial
  · refine .bind ((walkControl_returns _ _).mono ?_)
    exact fun walk _ _ => concludeReceive_returns message walk

end Return

/-- Two rights messages with a surplus descriptor, after an interruption. -/
def surplusMessage : Received where
  count := 1
  payload := payloadByte
  control :=
    [⟨solSocket, scmRights, 20, [5, 0, 0, 0], rfl⟩,
      ⟨solSocket, scmRights, 20, [6, 0, 0, 0], rfl⟩]
  flags := 0

/-- The events of refusing it: the surplus is closed, then the kept one. -/
def surplusEvents : Events :=
  [⟨.recvmsg 3, .error .eintr⟩, ⟨.recvmsg 3, .ok surplusMessage⟩,
    ⟨.close 6, .ok ()⟩, ⟨.close 5, .ok ()⟩]

/-- One rights message with one descriptor, beside a foreign message. -/
def singleMessage : Received where
  count := 1
  payload := payloadByte
  control :=
    [⟨solSocket, 2, 18, [9, 9], rfl⟩,
      ⟨solSocket, scmRights, 20, [8, 0, 0, 0], rfl⟩]
  flags := 0

/-- The events of returning it. -/
def singleEvents : Events :=
  [⟨.recvmsg 3, .ok singleMessage⟩, ⟨.fcntlGetfd 8, .ok 4⟩,
    ⟨.fcntlSetfd 8 5, .ok ()⟩]

end AdvanceUnix.FdPassing
