import AdvanceUnix.FilesystemEvents
import AdvanceUnix.InotifyNames

namespace AdvanceUnix

open CallTree LittleEndian

/-!
# What the event loop observes

The batches that a run has read are followed by a monitor.  The event loop
goes on only behind a batch of records, and `observed` collects the bits of
the records of all batches so far.
-/

/-- The bytes that were read. -/
def Filled.bytes (buffer : Filled) : List UInt8 :=
  slice buffer.memory 0 buffer.length

namespace FilesystemEvents

/-- Add the batch of a successful `read`. -/
def enterBatch
    (batches : List Filled) : (call : Syscall) → Answer call → List Filled
  | .readBuffer _ _, .ok buffer => batches ++ [buffer]
  | _, _ => batches

/-- The monitor that collects the batches. -/
abbrev batchMonitor : Monitor Answer (List Filled) :=
  .observe enterBatch

/-- The batches of a run, in order. -/
def batches (events : Events) : List Filled :=
  batchMonitor.after [] events

/-- What the parsing loop does with a buffer, in terms of its events. -/
theorem parse_walked (buffer : Filled) :
    ∃ exit,
      Walked buffer.memory buffer.length 0 exit
          (visited buffer.memory buffer.length) ∧
        ∀ {σ : Type} (visit : σ → InotifyEvent → σ) (state : σ),
          parseEvents visit buffer.memory buffer.length 0 state =
            (exit,
              (visited buffer.memory buffer.length).foldl visit state) := by
  obtain ⟨exit, events, walked, ends⟩ :=
    @parseEvents_walked buffer.memory _ _ (Nat.zero_le buffer.length)
  have same : visited buffer.memory buffer.length = events := by
    rw [visited, ends, List.foldl_append_eq_append, List.nil_append,
      ← List.flatMap_def]
    exact List.flatMap_singleton' events
  rw [same]
  exact ⟨exit, walked, ends⟩

/-- What the parsing loop guarantees for a buffer of any bytes. -/
structure ParserGuarantee (buffer : Filled) : Prop where
  accepts :
    ∀ watch observed,
      (parseEvents (observe watch buffer.memory) buffer.memory
          buffer.length 0 observed).1 = .accepted ↔
        ∃ records, EncodedBy buffer.bytes records
  within :
    ∀ event ∈ visited buffer.memory buffer.length,
      event.name + event.len.toNat ≤ buffer.length
  folds :
    ∀ watch observed,
      (parseEvents (observe watch buffer.memory) buffer.memory
          buffer.length 0 observed).2 =
        (visited buffer.memory buffer.length).foldl
          (observe watch buffer.memory) observed
  visits :
    ∀ records,
      EncodedBy buffer.bytes records →
      (visited buffer.memory buffer.length).map
          (fun event => event.record buffer.memory) =
        records
  staysInside :
    ∀ records,
      EncodedBy buffer.bytes records →
      (∀ record ∈ records, record.Terminated) →
      ∀ event ∈ visited buffer.memory buffer.length,
        event.len > 0 →
        (strcmp buffer.memory event.name fileName).2 ≤ event.len.toNat

/-- The events of terminated records are those of terminated records. -/
theorem terminated_of_encoded
    {buffer : Filled}
    {records : List Record}
    (encoded : EncodedBy buffer.bytes records)
    (terminated : ∀ record ∈ records, record.Terminated) :
    ∀ event ∈ visited buffer.memory buffer.length,
      (event.record buffer.memory).Terminated := by
  obtain ⟨exit, walked, -⟩ := parse_walked buffer
  intro event member
  apply terminated
  rw [← walked.taken records encoded]
  exact List.mem_map_of_mem member

/-- The guarantee of the parsing loop. -/
theorem parser_guarantee (buffer : Filled) : ParserGuarantee buffer := by
  obtain ⟨exit, walked, ends⟩ := parse_walked buffer
  refine ⟨?_, walked.within, ?_, walked.taken, ?_⟩
  · intro watch observed
    rw [ends]
    exact walked.accepts
  · intro watch observed
    rw [ends]
  · intro records encoded terminated event member named
    exact strcmp_reads
      (nul_in_name (terminated_of_encoded encoded terminated event member)
        named) _

/-- Collecting bits on top of others. -/
theorem foldl_bits
    (watch observed : BitVec 32)
    (records : List Record) :
    records.foldl (fun bits record => bits ||| record.bits watch)
        observed =
      observed ||| observedBits watch records := by
  induction records generalizing observed with
  | nil =>
      exact BitVec.or_zero.symm
  | cons record rest inductionHypothesis =>
      have nothingBefore :
          (0 : BitVec 32) ||| record.bits watch = record.bits watch :=
        BitVec.zero_or
      rw [observedBits, List.foldl_cons, List.foldl_cons,
        inductionHypothesis, inductionHypothesis, nothingBefore,
        BitVec.or_assoc]

/-- The bits of two lists of records together. -/
theorem observedBits_append
    (watch : BitVec 32)
    (first second : List Record) :
    observedBits watch (first ++ second) =
      observedBits watch first ||| observedBits watch second := by
  rw [observedBits, List.foldl_append, foldl_bits, ← observedBits]

/-- A batch of records is accepted and adds its bits. -/
theorem batchRead_of_encoded
    {watch observed : BitVec 32}
    {buffer : Filled}
    {records : List Record}
    (nonempty : buffer.length ≠ 0)
    (encoded : EncodedBy buffer.bytes records)
    (terminated : ∀ record ∈ records, record.Terminated) :
    batchRead watch observed buffer =
      .again (observed ||| observedBits watch records) := by
  obtain ⟨exit, walked, ends⟩ := parse_walked buffer
  obtain rfl : exit = .accepted := walked.accepts.mpr ⟨records, encoded⟩
  rw [batchRead, if_neg nonempty, ends, foldl_observe
    (terminated_of_encoded encoded terminated), walked.taken records encoded,
    foldl_bits]

/-- The loop goes on only behind a batch of records. -/
theorem encoded_of_batchRead
    {watch observed next : BitVec 32}
    {buffer : Filled}
    (goesOn : batchRead watch observed buffer = .again next) :
    buffer.length ≠ 0 ∧ ∃ records, EncodedBy buffer.bytes records := by
  obtain ⟨exit, walked, ends⟩ := parse_walked buffer
  unfold batchRead at goesOn
  split at goesOn
  · cases goesOn
  · rename_i nonempty
    rw [ends] at goesOn
    cases exit with
    | accepted => exact ⟨nonempty, walked.accepts.mp rfl⟩
    | truncated => cases goesOn
    | overflowed => cases goesOn
    | trailing => cases goesOn

/--
What an iteration has done: it read no batch and keeps `observed` if it goes
on, or it decided on a batch.
-/
def StepTaken
    (watch observed : BitVec 32)
    (batches : List Filled)
    (decision : LoopStep (BitVec 32) Exit)
    (after : List Filled) : Prop :=
  (after = batches ∧ ∀ next, decision = .again next → next = observed) ∨
    ∃ buffer,
      after = batches ++ [buffer] ∧
        decision = batchRead watch observed buffer

/-- Every iteration reads at most one batch and decides on it. -/
theorem eventStep_ensures
    (inotifyFd : Fd)
    (watch observed : BitVec 32)
    (batches : List Filled) :
    (eventStep inotifyFd watch observed).Ensures batchMonitor
      (StepTaken watch observed batches) batches := by
  unfold eventStep
  split
  · exact .pure (.inl ⟨rfl, nofun⟩)
  refine .bind ((retryEintr_unchanged
    (.request trivial fun _ _ => rfl)).mono ?_)
  rintro answer after rfl
  rcases answer with error | timedOut | revents
  · exact .pure (.inl ⟨rfl, nofun⟩)
  · exact .pure (.inl ⟨rfl, nofun⟩)
  dsimp only
  split
  · exact .pure (.inl ⟨rfl, nofun⟩)
  have readOnce :
      (retryEintr (readBuffer inotifyFd bufferSize)).Ensures batchMonitor
        (fun answer entered =>
          Result.Meets (fun _ => entered = after)
            (fun buffer => entered = after ++ [buffer]) answer)
        after := by
    refine retryEintr_ensures (fun current => current = after) ?_ rfl
    rintro current rfl
    refine .request trivial ?_
    intro answer _
    cases answer with
    | error error => exact ⟨fun _ => rfl, fun _ => rfl⟩
    | ok buffer => rfl
  refine .bind (readOnce.mono ?_)
  intro answer entered noted
  cases answer with
  | error error =>
      obtain rfl : entered = after := noted
      dsimp only
      split
      · exact .pure (.inl ⟨rfl, by rintro next ⟨⟩; rfl⟩)
      · exact .pure (.inl ⟨rfl, nofun⟩)
  | ok buffer =>
      obtain rfl : entered = after ++ [buffer] := noted
      exact .pure (.inr ⟨buffer, rfl, rfl⟩)

/--
Batches that cut a list of overflow-free records with terminated names at
record boundaries.
-/
structure CutInto
    (batches : List Filled)
    (cut : List (List Record)) : Prop where
  spelled :
    batches.map Filled.bytes =
      cut.map fun records => records.flatMap Record.encode
  noOverflow :
    ∀ records ∈ cut, ∀ record ∈ records, ¬ record.Overflowed
  terminated :
    ∀ records ∈ cut, ∀ record ∈ records, record.Terminated

/-- The last batch is the last piece of the cut. -/
theorem CutInto.of_append
    {batches : List Filled}
    {buffer : Filled}
    {cut : List (List Record)}
    (cutInto : CutInto (batches ++ [buffer]) cut) :
    ∃ earlier records,
      cut = earlier ++ [records] ∧
        CutInto batches earlier ∧
        EncodedBy buffer.bytes records ∧
        ∀ record ∈ records, record.Terminated := by
  have spelled := cutInto.spelled
  rw [List.map_append, List.map_singleton] at spelled
  obtain ⟨earlier, last, rfl, earlierSpelled, lastSpelled⟩ :=
    List.map_eq_append_iff.mp spelled.symm
  obtain ⟨records, rfl, recordsSpelled⟩ :=
    List.map_eq_singleton_iff.mp lastSpelled
  have isLast : records ∈ earlier ++ [records] := by
    simp
  have isEarlier :
      ∀ piece ∈ earlier, piece ∈ earlier ++ [records] := fun _ member =>
    List.mem_append_left _ member
  exact ⟨earlier, records, rfl,
    ⟨earlierSpelled.symm,
      fun piece member => cutInto.noOverflow piece (isEarlier piece member),
      fun piece member => cutInto.terminated piece (isEarlier piece member)⟩,
    ⟨recordsSpelled.symm, cutInto.noOverflow records isLast⟩,
    cutInto.terminated records isLast⟩

/-- `observed` has the bits of all records of the batches, however cut. -/
def Accumulated
    (watch observed : BitVec 32)
    (batches : List Filled) : Prop :=
  ∀ cut, CutInto batches cut → observed = observedBits watch cut.flatten

/-- Deciding on a batch of records keeps the accumulation. -/
theorem Accumulated.batch
    {watch observed next : BitVec 32}
    {batches : List Filled}
    {buffer : Filled}
    (accumulated : Accumulated watch observed batches)
    (goesOn : batchRead watch observed buffer = .again next) :
    Accumulated watch next (batches ++ [buffer]) := by
  intro cut cutInto
  obtain ⟨earlier, records, rfl, earlierCut, encoded, terminated⟩ :=
    cutInto.of_append
  have nonempty := (encoded_of_batchRead goesOn).1
  rw [batchRead_of_encoded nonempty encoded terminated] at goesOn
  obtain rfl := LoopStep.again.inj goesOn
  rw [List.flatten_append, List.flatten_singleton, observedBits_append,
    ← accumulated earlier earlierCut]

/--
What the event loop guarantees: its runs are completed iterations and one
more, an iteration goes on behind a batch of records, and after any number of
iterations `observed` has the bits of all records read.
-/
structure EventLoopGuarantee
    (inotifyFd : Fd)
    (watch : BitVec 32) : Prop where
  iterates :
    ∀ events outcome,
      (eventLoop inotifyFd watch).Run events outcome →
      ∃ completed current observed,
        events = completed ++ current ∧
          Program.Iterations (eventStep inotifyFd watch) 0 completed
            observed ∧
          (eventStep inotifyFd watch observed).Run current
            (outcome.map .done)
  goesOn :
    ∀ observed events decision buffer records,
      (eventStep inotifyFd watch observed).Run events (some decision) →
      batches events = [buffer] →
      buffer.length ≠ 0 →
      EncodedBy buffer.bytes records →
      (∀ record ∈ records, record.Terminated) →
      decision = .again (observed ||| observedBits watch records)
  accumulates :
    ∀ events observed,
      Program.Iterations (eventStep inotifyFd watch) 0 events observed →
      ∀ cut,
        CutInto (batches events) cut →
        observed = observedBits watch cut.flatten

/-- The guarantee of the event loop. -/
theorem event_loop_guarantee
    (inotifyFd : Fd)
    (watch : BitVec 32) :
    EventLoopGuarantee inotifyFd watch := by
  refine ⟨fun events outcome run => Program.Iterations.of_run run, ?_, ?_⟩
  · intro observed events decision buffer records run read nonempty encoded
      terminated
    have taken :=
      (eventStep_ensures inotifyFd watch observed []).observed run
    rcases taken with ⟨nothingRead, -⟩ | ⟨same, oneRead, decided⟩
    · rw [batches, nothingRead] at read
      cases read
    · rw [batches, oneRead] at read
      cases read
      rw [decided]
      exact batchRead_of_encoded nonempty encoded terminated
  · intro events observed iterations
    refine iterations.preserve (Accumulated watch)
      (fun current before accumulated =>
        (eventStep_ensures inotifyFd watch current before).mono ?_)
      (Monitor.observe_legal enterBatch [] events) ?_
    · rintro (next | exit) after taken
      · rcases taken with ⟨rfl, unchanged⟩ | ⟨buffer, rfl, decided⟩
        · rw [unchanged next rfl]
          exact accumulated
        · exact accumulated.batch decided.symm
      · trivial
    · intro cut cutInto
      have nothingCut : cut = [] := by
        simpa using cutInto.spelled
      rw [nothingCut]
      rfl

/-- A batch that does not make the program fail. -/
def Acceptable (buffer : Filled) : Prop :=
  buffer.length ≠ 0 ∧ ∃ records, EncodedBy buffer.bytes records

/-- A batch ends the loop with a failure only. -/
theorem batchRead_done
    {watch observed : BitVec 32}
    {buffer : Filled}
    {exit : Exit}
    (ended : batchRead watch observed buffer = .done exit) :
    exit = .failure := by
  unfold batchRead at ended
  split at ended
  · exact (LoopStep.done.inj ended).symm
  · split at ended
    · cases ended
    · exact (LoopStep.done.inj ended).symm

/-- The event loop succeeds behind acceptable batches only. -/
theorem eventLoop_ensures
    (inotifyFd : Fd)
    (watch : BitVec 32) :
    (eventLoop inotifyFd watch).Ensures batchMonitor
      (fun exit batches =>
        exit = .success → ∀ buffer ∈ batches, Acceptable buffer) [] := by
  refine .iterate (fun _ batches => ∀ buffer ∈ batches, Acceptable buffer)
    ?_ nofun
  intro observed batches acceptable
  refine (eventStep_ensures inotifyFd watch observed batches).mono ?_
  rintro (next | exit) after taken
  · rcases taken with ⟨rfl, -⟩ | ⟨buffer, rfl, decided⟩
    · exact acceptable
    · intro other member
      rcases List.mem_append.mp member with earlier | last
      · exact acceptable other earlier
      · obtain rfl := List.mem_singleton.mp last
        exact encoded_of_batchRead decided.symm
  · rcases taken with ⟨rfl, -⟩ | ⟨buffer, rfl, decided⟩
    · exact fun _ => acceptable
    · intro succeeded
      rw [batchRead_done decided.symm] at succeeded
      cases succeeded

/-- A release reads no batch and never turns a failure into a success. -/
theorem release_quiet
    {held : Bool}
    {attempt : Sys (Result Unit)}
    {tolerated : Option Errno}
    {result : Exit}
    {batches : List Filled}
    (unchanged :
      attempt.Ensures batchMonitor (fun _ after => after = batches)
        batches) :
    (release held attempt tolerated result).Ensures batchMonitor
      (fun exit after =>
        after = batches ∧ (exit = .success → result = .success))
      batches := by
  refine release_ensures (fun _ => ⟨rfl, id⟩) fun _ => ?_
  exact unchanged.mono fun _ _ same => ⟨⟨same, id⟩, ⟨same, nofun⟩⟩

/-- The cleanup reads no batch and keeps a failure. -/
theorem cleanup_ensures
    (held : Held)
    (result : Exit)
    (batches : List Filled) :
    (cleanup held result).Ensures batchMonitor
      (fun exit after =>
        after = batches ∧ (exit = .success → result = .success))
      batches := by
  refine .bind ((release_quiet (.request trivial fun _ _ => rfl)).mono ?_)
  rintro first after ⟨rfl, firstKept⟩
  refine .bind ((release_quiet (.request trivial fun _ _ => rfl)).mono ?_)
  rintro second after ⟨rfl, secondKept⟩
  refine .bind ((release_quiet (.request trivial fun _ _ => rfl)).mono ?_)
  rintro third after ⟨rfl, thirdKept⟩
  refine .bind ((release_quiet (.request trivial fun _ _ => rfl)).mono ?_)
  rintro fourth after ⟨rfl, fourthKept⟩
  refine (release_quiet (.request trivial fun _ _ => rfl)).mono ?_
  rintro fifth after ⟨rfl, fifthKept⟩
  exact ⟨rfl, fun succeeded =>
    firstKept (secondKept (thirdKept (fourthKept (fifthKept succeeded))))⟩

/-- `main` succeeds behind acceptable batches only. -/
theorem main_ensures :
    main.Ensures batchMonitor
      (fun exit batches =>
        exit = .success → ∀ buffer ∈ batches, Acceptable buffer) [] := by
  have gaveUp :
      ∀ held : Held,
        (cleanup held .failure).Ensures batchMonitor
          (fun exit batches =>
            exit = .success → ∀ buffer ∈ batches, Acceptable buffer)
          [] := by
    intro held
    refine (cleanup_ensures held .failure []).mono ?_
    intro exit after kept succeeded
    cases kept.2 succeeded
  unfold main
  refine .request_bind trivial fun directory _ => ?_
  cases directory with
  | error error => exact gaveUp _
  | ok directory =>
  refine .request_bind trivial fun inotifyFd _ => ?_
  cases inotifyFd with
  | error error => exact gaveUp _
  | ok inotifyFd =>
  refine .request_bind trivial fun watch _ => ?_
  cases watch with
  | error error => exact gaveUp _
  | ok watch =>
  refine .request_bind trivial fun fileFd _ => ?_
  cases fileFd with
  | error error => exact gaveUp _
  | ok fileFd =>
  refine .bind ((writeLoop_unchanged
    fun _ => .request trivial fun _ _ => rfl).mono ?_)
  rintro written after rfl
  cases written with
  | error error => exact gaveUp _
  | ok done =>
  refine .request_bind trivial fun closed _ => ?_
  cases closed with
  | error error => exact gaveUp _
  | ok done =>
  refine .request_bind trivial fun removed _ => ?_
  cases removed with
  | error error => exact gaveUp _
  | ok done =>
  refine .bind ((eventLoop_ensures inotifyFd watch).mono ?_)
  intro result batches acceptable
  refine (cleanup_ensures _ result batches).mono ?_
  rintro exit after ⟨rfl, kept⟩ succeeded
  exact acceptable (kept succeeded)

/-- The creation of `sample.txt` as watch 1 reports it. -/
def createdRecord : Record where
  wd := 1
  mask := 0x100
  cookie := 0
  name := [115, 97, 109, 112, 108, 101, 46, 116, 120, 116, 0, 0, 0, 0, 0, 0]
  name_fits := by decide

/-- Its closing and its removal, behind a record without a name. -/
def laterRecords : List Record :=
  [⟨2, 0x8, 0, [], by decide⟩,
    { createdRecord with mask := 0x8 },
    { createdRecord with mask := 0x200 }]

/-- A buffer that holds records, with other bytes behind them. -/
def bufferOf (records : List Record) : Filled where
  length := (records.flatMap Record.encode).length
  memory := fun index => (records.flatMap Record.encode)[index]?.getD 255

/-- `POLLIN` and nothing else. -/
def readable : Revents := ⟨true, false, false, false⟩

/-- The events of an iteration that reads the creation. -/
def firstBatch : Events :=
  [⟨.poll 3 1000, .ok (.ready readable)⟩,
    ⟨.readBuffer 3 4096, .ok (bufferOf [createdRecord])⟩]

/-- The events of an interrupted iteration that reads the others. -/
def secondBatch : Events :=
  [⟨.poll 3 1000, .error .eintr⟩,
    ⟨.poll 3 1000, .ok (.ready readable)⟩,
    ⟨.readBuffer 3 4096, .ok (bufferOf laterRecords)⟩]

/-- The two iterations. -/
def twoBatches : Events :=
  firstBatch ++ (secondBatch ++ [])

/-- The two iterations: the second batch completes the required bits. -/
theorem twoBatches_iterations :
    Program.Iterations (eventStep 3 1) 0 twoBatches requiredEvents := by
  have first :
      batchRead 1 0 (bufferOf [createdRecord]) = .again 0x100 := by
    decide +kernel
  have second :
      batchRead 1 0x100 (bufferOf laterRecords) = .again requiredEvents := by
    decide +kernel
  have firstRun :
      (eventStep 3 1 0).Run firstBatch (some (.again 0x100)) := by
    rw [← first]
    exact ⟨1, .call _ (.call _ (.ret _))⟩
  have secondRun :
      (eventStep 3 1 0x100).Run secondBatch
        (some (.again requiredEvents)) := by
    rw [← second]
    exact ⟨2, .call _ (.call _ (.call _ (.ret _)))⟩
  exact .more firstRun (.more secondRun (.none _))

/-- The two batches cut the list of the four records. -/
theorem twoBatches_cutInto :
    CutInto (batches twoBatches) [[createdRecord], laterRecords] where
  spelled := by decide +kernel
  noOverflow := by decide +kernel
  terminated := by decide +kernel

end FilesystemEvents

end AdvanceUnix
