import AdvanceUnix.ScatterGatherOrder
import AdvanceUnix.ScatteredStore
import Mathlib.Algebra.Ring.Nat

namespace AdvanceUnix.FileIo

open CallTree ScatteredStore

/-!
# Writing with one split and reading with another

The bytes that a run puts into the stream, the memory that a run leaves when
it takes bytes from the stream, and what a transfer of either direction
guarantees in the end.
-/

/-- The bytes that the answered `writev` calls put into the stream. -/
def sent (memory : Nat → UInt8) : Events → List UInt8
  | [] => []
  | ⟨.writev _ vectors, .ok count⟩ :: rest =>
      ((spans vectors).take count).map memory ++ sent memory rest
  | _ :: rest => sent memory rest

/-- The memory after the answered `readv` calls, from an unread stream. -/
def received :
    Events → (Nat → UInt8) → List UInt8 → Nat → UInt8
  | [], memory, _ => memory
  | ⟨.readv _ vectors, .ok count⟩ :: rest, memory, stream =>
      received rest
        (store memory ((spans vectors).take count) stream)
        (stream.drop count)
  | _ :: rest, memory, stream => received rest memory stream

/-- A writing transfer sends the bytes at the addresses it moved. -/
theorem sent_eq
    {fd : Fd}
    {total : List Nat}
    {events : Events}
    {progress : Progress}
    (safe : (transferMonitor fd true total).Safe progress events)
    (memory : Nat → UInt8) :
    sent memory events = (moved events).map memory := by
  induction events generalizing progress with
  | nil =>
      rfl
  | cons event rest inductionHypothesis =>
      obtain ⟨call, answer⟩ := event
      obtain ⟨⟨vectors, request, offers⟩, laterSafe⟩ := safe
      have laterSent := inductionHypothesis laterSafe
      subst request
      cases answer with
      | error error => exact laterSent
      | ok count =>
          rw [moved, List.flatMap_cons, List.map_append]
          exact congrArg _ laterSent

/-- A reading transfer stores the stream at the addresses it moved. -/
theorem received_eq
    {fd : Fd}
    {total : List Nat}
    {events : Events}
    {progress : Progress}
    (safe : (transferMonitor fd false total).Safe progress events)
    (legal : (transferMonitor fd false total).Legal progress events)
    (memory : Nat → UInt8)
    (stream : List UInt8) :
    received events memory stream =
      store memory (moved events) stream := by
  induction events generalizing progress memory stream with
  | nil =>
      rfl
  | cons event rest inductionHypothesis =>
      obtain ⟨call, answer⟩ := event
      obtain ⟨⟨vectors, request, offers⟩, laterSafe⟩ := safe
      have laterStored := inductionHypothesis laterSafe legal.2
      subst request
      cases answer with
      | error error => exact laterStored memory stream
      | ok count =>
          have counted : ((spans vectors).take count).length = count :=
            List.length_take_of_le legal.1
          have here :
              movedBy ⟨.readv fd vectors, .ok count⟩ =
                (spans vectors).take count := rfl
          rw [moved, List.flatMap_cons, store_append]
          change _ = store
            (store memory ((spans vectors).take count) stream)
            (moved rest)
            (stream.drop ((spans vectors).take count).length)
          rw [counted]
          exact laterStored _ _

/-- The addresses of the vectors are as many as their lengths add up to. -/
theorem length_spans (vectors : List IoVec) :
    (spans vectors).length = (vectors.map IoVec.len).sum := by
  induction vectors with
  | nil =>
      rfl
  | cons vector rest inductionHypothesis =>
      rw [List.map_cons, List.sum_cons, ← inductionHypothesis]
      simp [spans, IoVec.span]

/-- Every answered count is within the bytes that its call was offered. -/
def KernelCounts (events : Events) : Prop :=
  ∀ event ∈ events, kernelCounts event.call event.answer

/--
What a run of `transfer_iovecs` guarantees, returned or not.  Every call is
one of its direction on its descriptor, made while addresses are left and
nothing has stopped the transfer, and it offers those that come next.
-/
structure TransferGuarantee
    (fd : Fd)
    (vectors : List IoVec)
    (writing : Bool)
    (events : Events)
    (outcome : Option (Result Unit)) : Prop where
  calls :
    ∀ before event later,
      events = before ++ event :: later →
      ∃ offers,
        event.call = requested fd writing offers ∧
          OffersNext (spans vectors)
            { moved := moved before, stopped := before.any stops } offers
  inOrder : moved events <+: spans vectors
  zeroReturned :
    ∀ result,
      outcome = some result →
      (result = .ok () ↔
        (moved events).length = (vectors.map IoVec.len).sum)
  errorReturned :
    ∀ result,
      outcome = some result →
      ((∃ error, result = .error error) ↔
        ∃ event ∈ events, stops event = true)
  properPrefix :
    (∃ error, outcome = some (.error error)) →
    (moved events).length < (vectors.map IoVec.len).sum

section Runs

variable {fd : Fd} {vectors : List IoVec} {writing : Bool}
  {events : Events} {outcome : Option (Result Unit)}

/-- The transfer with its exit dropped again. -/
theorem transferIovecs_ensures :
    (transferIovecs fd vectors writing).Ensures
      (transferMonitor fd writing (spans vectors))
      (fun result progress =>
        ∃ exit,
          result = TransferExit.returned exit ∧
            Concluded (spans vectors) exit progress)
      .start := by
  refine .bind ((transferExit_ensures fd vectors writing).mono ?_)
  intro exit progress concluded
  exact .pure ⟨exit, rfl, concluded⟩

/-- Within the kernel's bounds every run is legal for the monitor. -/
theorem KernelCounts.legal
    (kernel : KernelCounts events) :
    (transferMonitor fd writing (spans vectors)).Legal .start events :=
  Monitor.legal_of_forall _ kernelCounts (fun _ _ _ holds => holds) _ kernel

/-- A run with answers within the kernel's bounds is safe. -/
theorem transfer_safe
    (run : (transferIovecs fd vectors writing).Run events outcome)
    (kernel : KernelCounts events) :
    (transferMonitor fd writing (spans vectors)).Safe .start events :=
  (transferIovecs_ensures.sound run kernel.legal).1

/-- The guarantee of one transfer. -/
theorem transfer_guarantee
    (run : (transferIovecs fd vectors writing).Run events outcome)
    (kernel : KernelCounts events) :
    TransferGuarantee fd vectors writing events outcome := by
  have safe := transfer_safe run kernel
  have inOrder : moved events <+: spans vectors := by
    simpa [Progress.start] using moved_isPrefix List.nil_prefix safe
  have ended := (transferIovecs_ensures.sound run kernel.legal).2
  simp only [transferMonitor_after, Progress.start, List.nil_append,
    Bool.false_or] at ended
  refine ⟨?_, inOrder, ?_, ?_, ?_⟩
  · rintro before event later rfl
    have offers := Monitor.safe_at _ safe
    rw [transferMonitor_after] at offers
    simpa [transferMonitor, Progress.start] using offers
  · rintro result rfl
    obtain ⟨exit, rfl, concluded⟩ := ended result rfl
    rw [← length_spans]
    cases exit with
    | complete =>
        exact iff_of_true rfl (congrArg List.length concluded.1)
    | failed error =>
        exact iff_of_false (by rintro ⟨⟩) (Nat.ne_of_lt concluded.1)
    | noProgress =>
        exact iff_of_false (by rintro ⟨⟩) (Nat.ne_of_lt concluded.1)
    | ranOut => exact concluded.elim
  · rintro result rfl
    obtain ⟨exit, rfl, concluded⟩ := ended result rfl
    rw [← List.any_eq_true]
    cases exit with
    | complete =>
        refine iff_of_false ?_ (Bool.eq_false_iff.mp concluded.2)
        rintro ⟨_, ⟨⟩⟩
    | failed error =>
        exact iff_of_true ⟨error, rfl⟩ concluded.2
    | noProgress =>
        exact iff_of_true ⟨.eio, rfl⟩ concluded.2
    | ranOut => exact concluded.elim
  · rintro ⟨error, rfl⟩
    obtain ⟨exit, returned, concluded⟩ := ended _ rfl
    rw [← length_spans]
    cases exit with
    | complete => cases returned
    | failed error => exact concluded.1
    | noProgress => exact concluded.1
    | ranOut => exact concluded.elim

/-- The vectors never run out under a count within the kernel's bounds. -/
theorem never_ranOut
    (run : (transferExit fd vectors writing).Run events (some .ranOut))
    (kernel : KernelCounts events) :
    False :=
  ((transferExit_ensures fd vectors writing).sound run
    kernel.legal).2 .ranOut rfl

end Runs

/-- A completed transfer has moved the addresses of all its vectors. -/
theorem moved_of_complete
    {fd : Fd}
    {vectors : List IoVec}
    {writing : Bool}
    {events : Events}
    (run : (transferIovecs fd vectors writing).Run events (some (.ok ())))
    (kernel : KernelCounts events) :
    moved events = spans vectors := by
  have guarantee := transfer_guarantee run kernel
  refine guarantee.inOrder.eq_of_length ?_
  rw [length_spans]
  exact (guarantee.zeroReturned (.ok ()) rfl).mp rfl

/--
What was written from one split into vectors and read back with another, of
the same length and without overlap, is the same concatenated bytes.
-/
theorem round_trip
    {fd : Fd}
    {output input : List IoVec}
    {written read : Events}
    (writeRun :
      (transferIovecs fd output true).Run written (some (.ok ())))
    (writeKernel : KernelCounts written)
    (readRun :
      (transferIovecs fd input false).Run read (some (.ok ())))
    (readKernel : KernelCounts read)
    (sameLength :
      (output.map IoVec.len).sum = (input.map IoVec.len).sum)
    (disjoint : (spans input).Nodup)
    (source target : Nat → UInt8) :
    (spans input).map (received read target (sent source written)) =
      (spans output).map source := by
  rw [sent_eq (transfer_safe writeRun writeKernel),
    received_eq (transfer_safe readRun readKernel) readKernel.legal,
    moved_of_complete writeRun writeKernel,
    moved_of_complete readRun readKernel]
  refine map_store disjoint target ?_
  rw [List.length_map, length_spans, length_spans, sameLength]

/--
Scatter/gather transfer, for every array of vectors and every sequence of
answers within the kernel's bounds.  In either direction it returns unless its
call is interrupted for ever, every run has its guarantee, and the vectors
never run out under a count; and what was written with one split is read back
with any other split of the same length.
-/
theorem scatter_gather_transfer (fd : Fd) (vectors : List IoVec) :
    (∀ writing,
      (∀ script : Script Answer,
        script.Ceasing Interrupted →
        (transferIovecs fd vectors writing).Halts script) ∧
        ∀ events,
          KernelCounts events →
          (∀ outcome,
            (transferIovecs fd vectors writing).Run events outcome →
            TransferGuarantee fd vectors writing events outcome) ∧
            ¬ (transferExit fd vectors writing).Run events
              (some .ranOut)) ∧
      ∀ (input : List IoVec) (written read : Events)
        (source target : Nat → UInt8),
        (transferIovecs fd vectors true).Run written (some (.ok ())) →
        KernelCounts written →
        (transferIovecs fd input false).Run read (some (.ok ())) →
        KernelCounts read →
        (vectors.map IoVec.len).sum = (input.map IoVec.len).sum →
        (spans input).Nodup →
        (spans input).map (received read target (sent source written)) =
          (spans vectors).map source := by
  refine ⟨fun writing => ⟨fun script ceasing => ?_, ?_⟩, ?_⟩
  · exact transferIovecs_returns fd vectors writing ceasing
  · intro events kernel
    exact ⟨fun outcome run => transfer_guarantee run kernel,
      fun run => never_ranOut run kernel⟩
  · intro input written read source target writeRun writeKernel readRun
      readKernel sameLength disjoint
    exact round_trip writeRun writeKernel readRun readKernel sameLength
      disjoint source target

/-- Two bytes, an empty vector and three more bytes. -/
def outputVectors : List IoVec :=
  [⟨100, 2⟩, ⟨200, 0⟩, ⟨300, 3⟩]

/-- Four bytes and one. -/
def inputVectors : List IoVec :=
  [⟨400, 4⟩, ⟨500, 1⟩]

/-- A first count that ends inside the third vector, then the rest. -/
def writtenEvents : Events :=
  [⟨.writev 3 outputVectors, .ok 3⟩,
    ⟨.writev 3 [⟨301, 2⟩], .error .eintr⟩,
    ⟨.writev 3 [⟨301, 2⟩], .ok 2⟩]

/-- A first count that ends at the boundary of the two vectors. -/
def readEvents : Events :=
  [⟨.readv 3 inputVectors, .ok 4⟩, ⟨.readv 3 [⟨500, 1⟩], .ok 1⟩]

/-- The transfer at two different splits of five bytes. -/
theorem scatter_gather_transfer_fiveBytes :
    (spans inputVectors).map
        (received readEvents (fun _ => 0)
          (sent UInt8.ofNat writtenEvents)) =
      (spans outputVectors).map UInt8.ofNat :=
  (scatter_gather_transfer 3 outputVectors).2 inputVectors writtenEvents
    readEvents UInt8.ofNat (fun _ => 0)
    ⟨3, .call _ (.call _ (.call _ (.ret _)))⟩
    (by simp [KernelCounts, writtenEvents, kernelCounts]; decide)
    ⟨3, .call _ (.call _ (.ret _))⟩
    (by simp [KernelCounts, readEvents, kernelCounts]; decide)
    (by decide)
    (by decide)

end AdvanceUnix.FileIo
