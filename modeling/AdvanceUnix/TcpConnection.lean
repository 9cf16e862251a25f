import AdvanceUnix.FilledStreams
import AdvanceUnix.TcpLoopback
import Mathlib.Data.Nat.Digits.Defs
import Mathlib.Logic.Basic

namespace AdvanceUnix.TcpSockets

open CallTree PositionedIo

/-!
# The parts of the connection

What the functions of the program make of the kernel, whatever it answers:
the flags and the port come back as they were, a stream carries everything
that is put into it, and the cleanup section releases what is held.
-/

variable {world : World} {watched : Watched} {kernel : Kernel} {fd : Fd}

section Flags

/-- What `set_nonblocking` makes of the flags. -/
def World.changed
    (world : World)
    (flags : BitVec 32)
    (enabled : Bool) : BitVec 32 :=
  (flags &&& ~~~world.settable) |||
    ((if enabled then flags ||| oNonblock else flags &&& ~~~oNonblock) &&&
      world.settable)

/-- `O_NONBLOCK` is one bit. -/
theorem getLsbD_oNonblock (index : Nat) :
    oNonblock.getLsbD index = decide (index = nonblockIndex) := by
  have single : oNonblock = BitVec.twoPow 32 nonblockIndex := rfl
  rw [single, BitVec.getLsbD_twoPow]
  by_cases same : index = nonblockIndex
  · subst same
    rfl
  · simp [same, Ne.symm same]

/-- A socket that is made non-blocking is. -/
theorem changed_nonblocking (flags : BitVec 32) :
    (world.changed flags true).getLsbD nonblockIndex = true := by
  simp only [World.changed, if_true, BitVec.getLsbD_or, BitVec.getLsbD_and,
    getLsbD_oNonblock, world.changeable, decide_true, Bool.or_true,
    Bool.and_self]

/-- Made blocking again it has the flags that it was created with. -/
theorem changed_changed :
    world.changed (world.changed world.flags true) false = world.flags := by
  refine BitVec.eq_of_getLsbD_eq fun index inside => ?_
  simp only [World.changed, if_true, Bool.false_eq_true, if_false,
    BitVec.getLsbD_or, BitVec.getLsbD_and, BitVec.getLsbD_not,
    getLsbD_oNonblock, inside, decide_true, Bool.true_and]
  by_cases same : index = nonblockIndex
  · subst same
    simp [world.waits, world.changeable]
  · simp only [same, decide_false, Bool.or_false, Bool.not_false,
      Bool.and_true]
    cases world.settable.getLsbD index <;> simp

/-- A socket of that kind waits. -/
theorem stream_waits :
    world.flags ||| ((sockStream ||| sockCloexec) &&& oNonblock) =
      world.flags :=
  BitVec.or_zero

end Flags

section Port

/-- The two bytes of a port are swapped once and once again. -/
theorem ntohs_ntohs (port : BitVec 16) : ntohs (ntohs port) = port := by
  refine BitVec.eq_of_getLsbD_eq fun index inside => ?_
  simp only [ntohs, BitVec.getLsbD_append, BitVec.getLsbD_extractLsb']
  by_cases low : index < 8
  · simp [low]
  · have high : index - 8 < 8 := by omega
    have whole : 8 + (index - 8) = index := by omega
    simp [low, high, whole]

/-- The decimal digits of a port fit into the buffer. -/
theorem service_fits (port : BitVec 16) :
    (Nat.repr port.toNat).length < 6 := by
  have small : port.toNat < 10 ^ 5 :=
    Nat.lt_of_lt_of_le port.isLt (by decide)
  exact Nat.lt_succ_of_le (Nat.repr_length _ 5 (by decide) small)

/-- The service that is looked up is the port of the listener. -/
theorem service_port (port : BitVec 16) :
    Nat.ofDigitChars 10 (Nat.repr port.toNat).toList 0 = port.toNat := by
  rw [Nat.toList_repr, Nat.ofDigitChars_ten_toDigits]

end Port

section Cleanup

/-- What a variable of the program says about a descriptor. -/
def descriptor (fd : Fd) : Option Fd :=
  if fd = -1 then none else some fd

/-- A descriptor from the kernel is one. -/
theorem descriptor_valid (valid : 0 ≤ fd) : descriptor fd = some fd :=
  if_neg fun invalid => absurd (invalid ▸ valid) (by decide)

/-- No two of the descriptors are the same. -/
structure Kernel.Distinct (kernel : Kernel) : Prop where
  listener :
    ∀ fd,
      kernel.listener = some fd →
      kernel.client ≠ some fd ∧ kernel.peer ≠ some fd
  client : ∀ fd, kernel.client = some fd → kernel.peer ≠ some fd

/-- The program remembers what it holds. -/
structure Owns (held : Held) (kernel : Kernel) : Prop where
  lists :
    kernel.lists =
      held.serverAddresses.toList ++ held.clientAddresses.toList
  listener : kernel.listener = descriptor held.listener
  client : kernel.client = descriptor held.client
  peer : kernel.peer = descriptor held.peer
  distinct : kernel.Distinct

/-- Nothing is held any more. -/
def Kernel.released (kernel : Kernel) : Kernel :=
  { kernel with lists := [], listener := none, client := none, peer := none }

/-- A list is freed if there is one. -/
theorem freeing_ensures
    {list : Option Nat}
    {rest : List Nat}
    (lists : kernel.lists = list.toList ++ rest)
    (failed : Bool) :
    (freeing list).Ensures (monitor world)
      (fun _ after =>
        after =
          { kernel := { kernel with lists := rest }, failed := failed })
      { kernel := kernel, failed := failed } := by
  cases list with
  | none =>
      refine .pure ?_
      rw [← show kernel.lists = rest from lists]
  | some list =>
      have first : kernel.lists = list :: rest := lists
      have allocated : list ∈ kernel.lists := by
        rw [first]
        exact List.mem_cons_self
      refine .request allocated ?_
      intro answer _
      have erased : kernel.lists.erase list = rest := by
        rw [first, List.erase_cons_head]
      subst erased
      exact congrArg (Audited.mk _) (Bool.or_false _)

/-- A descriptor is closed if there is one. -/
theorem closing_ensures
    {closed : Kernel}
    (isOpen : ∀ named, descriptor fd = some named → kernel.IsOpen named)
    (leaves :
      (if descriptor fd = none then kernel else kernel.without fd) = closed)
    (failed : Bool) :
    (closing fd).Ensures (monitor world)
      (fun _ after => after = { kernel := closed, failed := failed })
      { kernel := kernel, failed := failed } := by
  subst leaves
  by_cases invalid : fd = -1
  · have skipped : descriptor fd = none := if_pos invalid
    simp only [closing, ne_eq, invalid, not_true_eq_false, ↓reduceIte]
    rw [← invalid, if_pos skipped]
    exact .pure rfl
  · have valid : descriptor fd = some fd := if_neg invalid
    simp only [closing, ne_eq, invalid, not_false_eq_true, ↓reduceIte]
    rw [valid, if_neg nofun]
    refine .request_bind (isOpen fd valid) ?_
    intro answer _
    exact .pure (congrArg (Audited.mk _) (Bool.or_false _))

/-- Closing the peer leaves the other two. -/
theorem closed_peer
    (distinct : kernel.Distinct)
    (peer : kernel.peer = descriptor fd) :
    (if descriptor fd = none then kernel else kernel.without fd) =
      { kernel with peer := none } := by
  split
  · rename_i closed
    rw [← closed, ← peer]
  · rename_i isOpen
    have valid : descriptor fd = some fd :=
      if_neg fun invalid => isOpen (if_pos invalid)
    have same : kernel.peer = some fd := peer.trans valid
    have listener : kernel.listener ≠ some fd :=
      fun listens => (distinct.listener fd listens).2 same
    have client : kernel.client ≠ some fd :=
      fun connects => distinct.client fd connects same
    simp only [Kernel.without, same, if_pos, if_neg listener,
      if_neg client]

/-- Then closing the client leaves the listener. -/
theorem closed_client
    (distinct : kernel.Distinct)
    (client : kernel.client = descriptor fd)
    (peer : kernel.peer = none) :
    (if descriptor fd = none then kernel else kernel.without fd) =
      { kernel with client := none } := by
  split
  · rename_i closed
    rw [← closed, ← client]
  · rename_i isOpen
    have valid : descriptor fd = some fd :=
      if_neg fun invalid => isOpen (if_pos invalid)
    have same : kernel.client = some fd := client.trans valid
    have listener : kernel.listener ≠ some fd :=
      fun listens => (distinct.listener fd listens).1 same
    have none : ¬ Option.none = some fd := nofun
    simp only [Kernel.without, same, peer, if_pos, if_neg listener,
      if_neg none]

/-- And then there is only the listener. -/
theorem closed_listener
    (listener : kernel.listener = descriptor fd)
    (client : kernel.client = none)
    (peer : kernel.peer = none) :
    (if descriptor fd = none then kernel else kernel.without fd) =
      { kernel with listener := none } := by
  split
  · rename_i closed
    rw [← closed, ← listener]
  · rename_i isOpen
    have valid : descriptor fd = some fd :=
      if_neg fun invalid => isOpen (if_pos invalid)
    have same : kernel.listener = some fd := listener.trans valid
    have none : ¬ Option.none = some fd := nofun
    simp only [Kernel.without, same, client, peer, if_pos, if_neg none]

/-- The cleanup section releases everything and keeps the result. -/
theorem cleanup_ensures
    {held : Held}
    {result : Exit}
    (owns : Owns held watched.kernel) :
    (cleanup held result).Ensures (monitor world)
      (fun final after =>
        final = result ∧
          after =
            { kernel := watched.kernel.released, failed := watched.failed })
      watched := by
  obtain ⟨kernel, failed⟩ := watched
  refine .bind (.mono (freeing_ensures owns.lists failed) ?_)
  rintro _ _ rfl
  have rest :
      held.clientAddresses.toList = held.clientAddresses.toList ++ [] :=
    (List.append_nil _).symm
  refine .bind (.mono (freeing_ensures rest failed) ?_)
  rintro _ _ rfl
  have distinct :
      ({ kernel with lists := [] } : Kernel).Distinct :=
    ⟨owns.distinct.listener, owns.distinct.client⟩
  have afterPeer := closed_peer distinct owns.peer
  refine .bind (.mono (closing_ensures ?_ afterPeer failed) ?_)
  · exact fun _ isOpen => .inr (.inr (owns.peer.trans isOpen))
  rintro _ _ rfl
  have withoutPeer :
      ({ kernel with lists := [], peer := none } : Kernel).Distinct :=
    ⟨fun fd listens => ⟨(owns.distinct.listener fd listens).1, nofun⟩,
      fun _ _ => nofun⟩
  have afterClient := closed_client withoutPeer owns.client rfl
  refine .bind (.mono (closing_ensures ?_ afterClient failed) ?_)
  · exact fun _ isOpen => .inr (.inl (owns.client.trans isOpen))
  rintro _ _ rfl
  have afterListener :=
    @closed_listener
      { kernel with lists := [], peer := none, client := none } _
      owns.listener rfl rfl
  refine .bind (.mono (closing_ensures ?_ afterListener failed) ?_)
  · exact fun _ isOpen => .inl (owns.listener.trans isOpen)
  rintro _ _ rfl
  exact .pure ⟨rfl, rfl⟩

/-- What the program has established when it returns. -/
structure Returned (result : Exit) (after : Watched) : Prop where
  released : after.kernel = after.kernel.released
  verdict : result = .success ↔ after.failed = false
  success :
    result = .success →
    after.kernel.toPeer = [] ∧ after.kernel.toClient = []

/-- Giving up after a failure. -/
theorem giveUp_ensures
    {held : Held}
    (owns : Owns held watched.kernel)
    (failing : watched.failed = true) :
    (cleanup held .failure).Ensures (monitor world) Returned watched := by
  refine (cleanup_ensures owns).mono ?_
  rintro _ _ ⟨rfl, rfl⟩
  refine ⟨rfl, iff_of_false nofun ?_, nofun⟩
  exact fun unfailed => Bool.noConfusion (failing.symm.trans unfailed)

end Cleanup

section Streams

variable {fill : List UInt8 → Kernel}

/-- A descriptor that fills a stream. -/
structure Fills (world : World) (fd : Fd) (fill : List UInt8 → Kernel) :
    Prop where
  safe :
    ∀ content bytes,
      content.length + bytes.length ≤ world.capacity →
      (fill content).Safe world (.send fd bytes)
  moves :
    ∀ content bytes count,
      (fill content).next world (.send fd bytes) (.ok count) =
        fill (content ++ bytes.take count)

/-- A descriptor that empties it. -/
structure Empties (world : World) (fd : Fd) (fill : List UInt8 → Kernel) :
    Prop where
  safe :
    ∀ content size,
      content ≠ [] → (fill content).Safe world (.recv fd size)
  arrives : ∀ content, (fill content).arriving fd = content
  moves :
    ∀ content size bytes,
      (fill content).next world (.recv fd size) (.ok bytes) =
        fill (content.drop bytes.length)

/-- The state with something in the stream. -/
def flowing (fill : List UInt8 → Kernel) (content : List UInt8) : Watched where
  kernel := fill content

/-- A call has failed, with something in the stream. -/
def Lost (fill : List UInt8 → Kernel) (after : Watched) : Prop :=
  ∃ content, after = { kernel := fill content, failed := true }

/-- Everything is in the stream, or a call has failed. -/
theorem sendAll_ensures
    {bytes : List UInt8}
    (fills : Fills world fd fill)
    (fits : bytes.length ≤ world.capacity) :
    (sendAll fd bytes).Ensures (monitor world)
      (WriteOutcome bytes.length
        (fun written after => after = flowing fill (bytes.take written))
        (fun _ => Lost fill))
      (flowing fill []) := by
  refine .filling (flowing fill) (Lost fill) fun content rest whole =>
    .request (fills.safe _ _ ?_) ?_
  · rw [← List.length_append, whole]
    exact fits
  intro answer allowed
  cases answer with
  | error error =>
      refine ⟨?_, ?_⟩
      · rintro rfl
        rfl
      · intro permanent
        exact ⟨_, congrArg (Audited.mk _) (decide_eq_true permanent)⟩
  | ok count =>
      have next := fills.moves content rest count
      cases count with
      | zero => exact ⟨_, congrArg (Audited.mk · true) next⟩
      | succ count => exact ⟨allowed, congrArg (Audited.mk · false) next⟩

/-- Everything is taken out of it again, or a call has failed. -/
theorem receiveAll_ensures
    {content : List UInt8}
    (empties : Empties world fd fill) :
    (receiveAll fd content.length).Ensures (monitor world)
      (fun result after =>
        result.Meets (fun _ => Lost fill after)
          (fun received => received = content ∧ after = flowing fill []))
      (flowing fill content) := by
  refine .mono
    (.draining (flowing fill) (Lost fill) fun received unfinished => ?_) ?_
  · have remaining : content.drop received ≠ [] :=
      fun nothing =>
        Nat.not_le_of_lt unfinished (List.drop_eq_nil_iff.mp nothing)
    refine .request
      (empties.safe _ (content.length - received) remaining) ?_
    intro answer allowed
    cases answer with
    | error error =>
        refine ⟨?_, ?_⟩
        · rintro rfl
          rfl
        · intro permanent
          exact ⟨_, congrArg (Audited.mk _) (decide_eq_true permanent)⟩
    | ok bytes =>
        refine ⟨?_, ?_⟩
        · rw [← empties.arrives (content.drop received)]
          exact allowed
        · exact congrArg (Audited.mk · false)
            (empties.moves _ (content.length - received) bytes)
  · intro result after met
    cases result with
    | error error => exact met
    | ok received => exact met

end Streams

section Connecting

/-- The flags are changed, or a call has failed. -/
theorem setNonblocking_ensures
    {enabled : Bool}
    (isClient : kernel.client = some fd) :
    (setNonblocking fd enabled).Ensures (monitor world)
      (fun result after =>
        result.Meets
          (fun _ => after = { kernel := kernel, failed := true })
          (fun _ =>
            after =
              { kernel :=
                  { kernel with
                    flags := world.changed kernel.flags enabled } }))
      { kernel := kernel } := by
  have getting :
      (Program.retry (· = Errno.eintr)
        (invoke (.fcntlGetfl fd))).Ensures (monitor world)
        (fun result after =>
          (result : Result (BitVec 32)).Meets
            (fun _ => after = { kernel := kernel, failed := true })
            (fun flags =>
              flags = kernel.flags ∧ after = { kernel := kernel }))
        { kernel := kernel } := by
    refine .retry (· = { kernel := kernel }) ?_ rfl
    rintro _ rfl
    refine .request isClient ?_
    intro answer allowed
    cases answer with
    | error error =>
        refine ⟨?_, ?_⟩
        · rintro rfl
          rfl
        · exact fun permanent =>
            congrArg (Audited.mk _) (decide_eq_true permanent)
    | ok flags => exact ⟨allowed, rfl⟩
  refine .bind (getting.mono ?_)
  intro result after met
  cases result with
  | error error => exact .pure met
  | ok flags =>
      obtain ⟨rfl, rfl⟩ := met
      refine .retry (· = { kernel := kernel }) ?_ rfl
      rintro _ rfl
      refine .request isClient ?_
      intro answer allowed
      cases answer with
      | error error =>
          refine ⟨?_, ?_⟩
          · rintro rfl
            rfl
          · exact fun permanent =>
              congrArg (Audited.mk _) (decide_eq_true permanent)
      | ok done => exact rfl

/-- The connection is there, or it does not come about. -/
theorem finishNonblockingConnect_ensures
    (isClient : kernel.client = some fd)
    (pending : kernel.connection = .pending) :
    (finishNonblockingConnect fd).Ensures (monitor world)
      (fun result after =>
        result.Meets
          (fun _ =>
            ∃ connection,
              after =
                { kernel := { kernel with connection := connection }
                  failed := true })
          (fun _ =>
            after = { kernel := { kernel with connection := .established } }))
      { kernel := kernel } := by
  have polling :
      (Program.retry (· = Errno.eintr)
        (invoke (.poll fd 2000))).Ensures (monitor world)
        (fun result after =>
          (result : Result Polled).Meets
            (fun _ => after = { kernel := kernel, failed := true })
            (fun polled =>
              match polled with
              | none => after = { kernel := kernel, failed := true }
              | some revents =>
                  ¬ IsInvalid revents ∧
                    after =
                      { kernel := { kernel with connection := .settled } }))
        { kernel := kernel } := by
    refine .retry (· = { kernel := kernel }) ?_ rfl
    rintro _ rfl
    refine .request ⟨isClient, pending⟩ ?_
    intro answer allowed
    cases answer with
    | error error =>
        refine ⟨?_, ?_⟩
        · rintro rfl
          rfl
        · exact fun permanent =>
            congrArg (Audited.mk _) (decide_eq_true permanent)
    | ok polled =>
        cases polled with
        | none => exact rfl
        | some revents => exact ⟨allowed revents rfl, rfl⟩
  refine .bind (polling.mono ?_)
  intro result after met
  cases result with
  | error error => exact .pure ⟨_, met⟩
  | ok polled =>
  cases polled with
  | none => exact .pure ⟨_, met⟩
  | some revents =>
  obtain ⟨valid, rfl⟩ := met
  simp only [valid, ↓reduceIte]
  have asking :
      (Program.retry (· = Errno.eintr)
        (invoke (.getsockopt fd))).Ensures (monitor world)
        (fun result after =>
          if (result : Result (Option Errno)).toOption = some none then
            after =
              { kernel := { kernel with connection := .established } }
          else
            after =
              { kernel := { kernel with connection := .settled }
                failed := true })
        { kernel := { kernel with connection := .settled } } := by
    refine .retry
      (· = { kernel := { kernel with connection := .settled } }) ?_ rfl
    rintro _ rfl
    refine .request ⟨isClient, rfl⟩ ?_
    intro answer _
    cases answer with
    | error error =>
        refine ⟨?_, ?_⟩
        · rintro rfl
          rfl
        · exact fun permanent =>
            congrArg (Audited.mk _) (decide_eq_true permanent)
    | ok asked =>
        cases asked with
        | none => exact rfl
        | some error => exact rfl
  refine .bind (asking.mono ?_)
  intro result after met
  cases result with
  | error error => exact .pure ⟨_, met⟩
  | ok asked =>
      cases asked with
      | none => exact .pure met
      | some error => exact .pure ⟨_, met⟩

end Connecting

end AdvanceUnix.TcpSockets
