import AdvanceUnix.StdioBuffering
import Mathlib.Logic.Basic

namespace AdvanceUnix.StdioBuffering

open CallTree PositionedIo

/-!
# What is flushed arrives

Wherever the stream passes its bytes on, they are taken in the order in which
they were written and none of them twice.  The program waits at no call and
succeeds exactly if nothing fails, however much it finds before the flush.
-/

variable {capacity : Nat} {watched : Watched} {kernel : Kernel} {fd : Fd}
  {text : List UInt8}

section Order

/-- Taken, on their way and buffered, the bytes are those that were accepted. -/
structure Kernel.Ordered (kernel : Kernel) : Prop where
  isPrefix : kernel.bytes.all <+: kernel.accepted
  whole : kernel.stream ≠ none → kernel.bytes.all = kernel.accepted

/-- Closing a descriptor leaves the bytes alone. -/
theorem Kernel.Ordered.without
    (ordered : kernel.Ordered)
    (fd : Fd) :
    (kernel.without fd).Ordered := by
  unfold Kernel.without
  split
  · exact ⟨ordered.isPrefix, ordered.whole⟩
  · exact ⟨ordered.isPrefix, ordered.whole⟩

/-- No call changes the order. -/
theorem Kernel.Ordered.next
    {request : Call}
    {answer : Answer request}
    (ordered : kernel.Ordered)
    (safe : kernel.Safe capacity request) :
    (kernel.next request answer).Ordered := by
  cases request with
  | pipe =>
      cases answer with
      | error error => exact ordered
      | ok ends => exact ⟨List.nil_prefix, fun _ => rfl⟩
  | fcntlGetfl fd => cases answer <;> exact ordered
  | fcntlSetfl fd flags =>
      cases answer with
      | error error => exact ordered
      | ok done => exact ⟨ordered.isPrefix, ordered.whole⟩
  | fdopen fd =>
      cases answer with
      | error error => exact ordered
      | ok stream =>
          have nothing : kernel.bytes.all = kernel.accepted := by
            have isPrefix := ordered.isPrefix
            rw [safe.2.2] at isPrefix ⊢
            exact List.prefix_nil.mp isPrefix
          exact ⟨ordered.isPrefix, fun _ => nothing⟩
  | setvbuf stream size => cases answer <;> exact ordered
  | fileno stream => exact ordered
  | fwrite bytes stream =>
      obtain ⟨_, isStream⟩ := safe.1
      have whole := ordered.whole (isStream ▸ nofun)
      have same :
          ((kernel.bytes.accept (bytes.take answer.answer)).pass
              answer.count).all =
            kernel.accepted ++ bytes.take answer.answer := by
        rw [StagedQueue.all_pass, StagedQueue.all_accept, whole]
      exact ⟨⟨[], (List.append_nil _).trans same⟩, fun _ => same⟩
  | fflush stream =>
      obtain ⟨flushed, count⟩ := answer
      cases flushed with
      | error error =>
          refine ⟨?_, fun isOpen => ?_⟩
          · exact (kernel.bytes.all_pass count).symm ▸ ordered.isPrefix
          · exact (kernel.bytes.all_pass count).trans (ordered.whole isOpen)
      | ok done =>
          have same := kernel.bytes.all_pass kernel.bytes.kept.length
          refine ⟨?_, fun isOpen => ?_⟩
          · exact same.symm ▸ ordered.isPrefix
          · exact same.trans (ordered.whole isOpen)
  | fclose stream =>
      obtain ⟨closed, count⟩ := answer
      cases closed with
      | error error =>
          refine ⟨?_, fun isOpen => (isOpen rfl).elim⟩
          have lost := (kernel.bytes.pass count).all_lose
          rw [kernel.bytes.all_pass] at lost
          exact lost.trans ordered.isPrefix
      | ok done =>
          refine ⟨?_, fun isOpen => (isOpen rfl).elim⟩
          have same := kernel.bytes.all_pass kernel.bytes.kept.length
          exact same.symm ▸ ordered.isPrefix
  | read fd size =>
      cases answer with
      | error error => exact ordered
      | ok bytes =>
          have same := kernel.bytes.all_take bytes.length
          refine ⟨?_, fun isOpen => ?_⟩
          · exact same.symm ▸ ordered.isPrefix
          · exact same.trans (ordered.whole isOpen)
  | close fd => exact ordered.without fd

/-- Nor do some calls. -/
theorem ordered_after
    {events : List (Event Answer)}
    (ordered : watched.kernel.Ordered)
    (safe : (monitor capacity).Safe watched events) :
    ((monitor capacity).after watched events).kernel.Ordered :=
  (monitor capacity).keeps (fun watched => watched.kernel.Ordered)
    Kernel.Ordered.next ordered safe

end Order

section Cleanup

/-- The program remembers what it owns. -/
structure Owns (capacity : Nat) (held : Held) (kernel : Kernel) : Prop where
  reader : 0 ≤ held.reader → kernel.reader = some held.reader
  noReader : ¬ 0 ≤ held.reader → kernel.reader = none
  writer : 0 ≤ held.writer → kernel.writer = some held.writer
  noWriter : ¬ 0 ≤ held.writer → kernel.writer = none
  distinct : ∀ fd, kernel.reader = some fd → kernel.writer ≠ some fd
  stream : ∀ stream, held.stream = some stream → kernel.IsStream stream
  noStream : held.stream = none → kernel.stream = none
  fits :
    (kernel.bytes.passing ++ kernel.bytes.kept).length ≤ capacity

/-- Nothing is owned any more, and nothing more has been taken. -/
structure Released
    (result final : Exit)
    (before after : Watched) : Prop where
  reader : after.kernel.reader = none
  writer : after.kernel.writer = none
  stream : after.kernel.stream = none
  taken : after.kernel.bytes.taken = before.kernel.bytes.taken
  accepted : after.kernel.accepted = before.kernel.accepted
  spoils : Spoils .failure result final before.failed after.failed

/-- The stream is closed, and its descriptor with it. -/
theorem cleanupStream_ensures
    {held : Held}
    {result : Exit}
    (owns : Owns capacity held watched.kernel) :
    (cleanupStream held result).Ensures (monitor capacity)
      (fun final after =>
        ∃ bytes : StagedQueue UInt8,
          bytes.taken = watched.kernel.bytes.taken ∧
            after.kernel =
                { watched.kernel with stream := none, bytes := bytes } ∧
              Spoils .failure result final watched.failed after.failed)
      watched := by
  cases isHeld : held.stream with
  | none =>
      simp only [cleanupStream, isHeld]
      refine .pure ⟨watched.kernel.bytes, rfl, ?_, .inl ⟨rfl, rfl⟩⟩
      rw [← owns.noStream isHeld]
  | some stream =>
      simp only [cleanupStream, isHeld]
      refine .releasing nofun fun _ => .bind
        (.request ⟨owns.stream stream isHeld, owns.fits⟩ ?_)
      rintro ⟨error | ⟨⟩, count⟩ _
      · exact .pure ⟨(watched.kernel.bytes.pass count).lose, rfl, rfl,
          .inr ⟨rfl, Bool.or_true _⟩⟩
      · exact .pure
          ⟨watched.kernel.bytes.pass watched.kernel.bytes.kept.length, rfl,
            rfl, .inl ⟨rfl, Bool.or_false _⟩⟩

/-- Closing a descriptor that the program owns itself. -/
theorem close_ensures
    {result : Exit}
    {closed : Kernel}
    (isOpen :
      0 ≤ fd → kernel.reader = some fd ∨ kernel.writer = some fd)
    (closes : 0 ≤ fd → kernel.without fd = closed)
    (skips : ¬ 0 ≤ fd → kernel = closed)
    (failed : Bool) :
    (Program.releasing (0 ≤ fd) (invoke (.close fd)) .failure
      result).Ensures (monitor capacity)
      (fun final after =>
        after.kernel = closed ∧
          Spoils .failure result final failed after.failed)
      { kernel := kernel, failed := failed } := by
  refine .releasing ?_ fun isHeld =>
    .request (isOpen (of_decide_eq_true isHeld)) ?_
  · intro notHeld
    exact ⟨skips (of_decide_eq_false notHeld), .inl ⟨rfl, rfl⟩⟩
  · intro answer _
    have closing := closes (of_decide_eq_true isHeld)
    cases answer with
    | error error => exact ⟨closing, .inr ⟨rfl, Bool.or_true _⟩⟩
    | ok done => exact ⟨closing, .inl ⟨rfl, Bool.or_false _⟩⟩

/-- The cleanup section closes the stream and both ends. -/
theorem cleanup_ensures
    {held : Held}
    {result : Exit}
    (owns : Owns capacity held watched.kernel) :
    (cleanup held result).Ensures (monitor capacity)
      (fun final after => Released result final watched after)
      watched := by
  refine .bind ((cleanupStream_ensures owns).mono ?_)
  rintro closed ⟨_, failed⟩ ⟨bytes, taken, rfl, spoils⟩
  have closingReader :=
    @close_ensures capacity
      { watched.kernel with stream := none, bytes := bytes } held.reader
      closed
      { watched.kernel with stream := none, bytes := bytes, reader := none }
      (fun isHeld => .inl (owns.reader isHeld))
      (fun isHeld => if_pos (owns.reader isHeld))
      (fun notHeld => by rw [← owns.noReader notHeld])
      failed
  refine .bind (closingReader.mono ?_)
  rintro middle ⟨_, middleFailed⟩ ⟨rfl, spoilsReader⟩
  have noReader : ¬ Option.none = some held.writer := nofun
  have closingWriter :=
    @close_ensures capacity
      { watched.kernel with stream := none, bytes := bytes, reader := none }
      held.writer middle
      { watched.kernel with
        stream := none
        bytes := bytes
        reader := none
        writer := none }
      (fun isHeld => .inr (owns.writer isHeld))
      (fun _ => if_neg noReader)
      (fun notHeld => by rw [← owns.noWriter notHeld])
      middleFailed
  refine closingWriter.mono ?_
  rintro final ⟨_, lastFailed⟩ ⟨rfl, spoilsWriter⟩
  exact ⟨rfl, rfl, rfl, taken, rfl,
    (spoils.trans spoilsReader).trans spoilsWriter⟩

/-- What the program has established when it returns. -/
structure Returned
    (text : List UInt8)
    (result : Exit)
    (after : Watched) : Prop where
  reader : after.kernel.reader = none
  writer : after.kernel.writer = none
  stream : after.kernel.stream = none
  verdict : result = .success ↔ after.failed = false
  success :
    result = .success →
    after.kernel.bytes.taken = text ∧ after.kernel.accepted = text

/-- Giving up after a failure. -/
theorem giveUp_ensures
    {held : Held}
    (owns : Owns capacity held watched.kernel)
    (failing : watched.failed = true) :
    (cleanup held .failure).Ensures (monitor capacity)
      (fun result after => Returned text result after) watched := by
  refine (cleanup_ensures owns).mono ?_
  intro final after released
  have stays : final = .failure ∧ after.failed = true := by
    rcases released.spoils with ⟨same, kept⟩ | spoiled
    · exact ⟨same, kept.trans failing⟩
    · exact spoiled
  obtain ⟨rfl, isFailed⟩ := stays
  refine ⟨released.reader, released.writer, released.stream,
    iff_of_false nofun ?_, nofun⟩
  exact fun unfailed => Bool.noConfusion (isFailed.symm.trans unfailed)

end Cleanup

section Verdict

variable {reader writer : Fd} {stream : Stream}

/-- The kernel once the program has its stream. -/
def streamKernel
    (reader writer : Fd)
    (stream : Stream)
    (accepted : List UInt8)
    (bytes : StagedQueue UInt8) : Kernel where
  reader := some reader
  stream := some ⟨stream, writer⟩
  nonblocking := true
  accepted := accepted
  bytes := bytes

/-- A variable that is still -1 is no descriptor. -/
theorem unset : ¬ (0 : Fd) ≤ -1 := by decide

/-- What the program then owns. -/
theorem owns_stream
    {accepted : List UInt8}
    {bytes : StagedQueue UInt8}
    (valid : 0 ≤ reader)
    (fits : (bytes.passing ++ bytes.kept).length ≤ capacity) :
    Owns capacity { reader := reader, stream := some stream }
      (streamKernel reader writer stream accepted bytes) where
  reader := fun _ => rfl
  noReader := fun invalid => (invalid valid).elim
  writer := fun held => (unset held).elim
  noWriter := fun _ => rfl
  distinct := fun _ _ => nofun
  stream := by
    rintro _ ⟨⟩
    exact ⟨writer, rfl⟩
  noStream := nofun
  fits := fits

/-- What is left to be read after the flush is read. -/
theorem readExact_ensures
    {accepted before rest : List UInt8} :
    (readExact reader rest.length).Ensures (monitor capacity)
      (fun result after =>
        result.Meets
          (fun _ =>
            after.failed = true ∧
              ∃ received,
                after.kernel =
                  streamKernel reader writer stream accepted
                    ⟨before ++ rest.take received, rest.drop received, []⟩)
          (fun bytes =>
            bytes = rest ∧
              after =
                { kernel :=
                    streamKernel reader writer stream accepted
                      ⟨before ++ rest, [], []⟩ }))
      { kernel :=
          streamKernel reader writer stream accepted ⟨before, rest, []⟩ } := by
  have reading :
      (readExact reader rest.length).Ensures (monitor capacity)
        (ReadOutcome rest rest.length (fun _ => .error .epipe)
          (fun received after =>
            after =
              { kernel :=
                  streamKernel reader writer stream accepted
                    ⟨before ++ rest.take received, rest.drop received, []⟩ })
          (fun _ after =>
            after.failed = true ∧
              ∃ received,
                after.kernel =
                  streamKernel reader writer stream accepted
                    ⟨before ++ rest.take received, rest.drop received, []⟩))
        { kernel :=
            streamKernel reader writer stream accepted
              ⟨before, rest, []⟩ } := by
    refine .reading ?_ ?_
    · rintro received _ unfinished _ rfl
      refine .request ⟨rfl, rfl⟩ ?_
      intro answer allowed
      cases answer with
      | error error =>
          refine ⟨?_, ?_⟩
          · rintro rfl
            rfl
          · intro permanent
            have available : error ≠ .eagain := fun again =>
              Nat.not_le_of_lt unfinished
                (List.drop_eq_nil_iff.mp (allowed again).2)
            exact ⟨decide_eq_true ⟨permanent, available⟩, received, rfl⟩
      | ok bytes =>
          obtain ⟨reads, _⟩ := allowed
          refine ⟨reads, ?_⟩
          have taken :
              before ++ rest.take received ++
                  (rest.drop received).take bytes.length =
                before ++ rest.take (received + bytes.length) := by
            rw [List.append_assoc, ← List.take_add]
          have remaining :
              (rest.drop received).drop bytes.length =
                rest.drop (received + bytes.length) :=
            List.drop_drop
          beta_reduce
          rw [← taken, ← remaining]
          rfl
    · rw [List.take_zero, List.append_nil, List.drop_zero]
  refine reading.mono ?_
  intro result after outcome
  cases outcome with
  | complete enough holds =>
      rw [List.take_length, List.drop_length] at holds
      exact ⟨List.take_length, holds⟩
  | ended short _ => exact (Nat.lt_irrefl _ short).elim
  | failed error failure => exact failure

/-- The bit is set whatever the flags were. -/
theorem nonblocking_set (flags : BitVec 32) :
    (flags ||| oNonblock).getLsbD nonblockBit = true := by
  have bit : oNonblock.getLsbD nonblockBit = true := rfl
  rw [BitVec.getLsbD_or, bit, Bool.or_true]

/-- `set_nonblocking` on the read end. -/
theorem setNonblocking_ensures
    (isReader : kernel.reader = some reader) :
    (setNonblocking reader).Ensures (monitor capacity)
      (fun result after =>
        result.Meets (fun _ => after = { kernel := kernel, failed := true })
          (fun _ =>
            after = { kernel := { kernel with nonblocking := true } }))
      { kernel := kernel } := by
  have asking :
      (Program.retry (· = Errno.eintr)
        (invoke (.fcntlGetfl reader))).Ensures (monitor capacity)
        (fun result after =>
          (result : Result (BitVec 32)).Meets
            (fun _ => after = { kernel := kernel, failed := true })
            (fun _ => after = { kernel := kernel }))
        { kernel := kernel } := by
    refine .retry (· = { kernel := kernel }) ?_ rfl
    rintro _ rfl
    refine .request isReader ?_
    intro answer _
    cases answer with
    | error error =>
        refine ⟨?_, fun permanent => ?_⟩
        · rintro rfl
          rfl
        · exact congrArg (Audited.mk _) (decide_eq_true permanent)
    | ok flags => rfl
  refine .bind (asking.mono ?_)
  rintro (error | flags) after met
  · exact .pure met
  obtain rfl := met
  refine .retry (· = { kernel := kernel }) ?_ rfl
  rintro _ rfl
  refine .request isReader ?_
  intro answer _
  cases answer with
  | error error =>
      refine ⟨?_, fun permanent => ?_⟩
      · rintro rfl
        rfl
      · exact congrArg (Audited.mk _) (decide_eq_true permanent)
  | ok done =>
      have isSet := nonblocking_set flags
      exact congrArg
        (fun bit : Bool =>
          ({ kernel := { kernel with nonblocking := bit } } : Watched))
        isSet

/-- The probe takes some of what has been passed on already. -/
theorem probe_ensures
    {accepted passing kept : List UInt8}
    {size : Nat}
    (nonempty : size ≠ 0) :
    (Program.retry (· = Errno.eintr)
      (invoke (.read reader size))).Ensures (monitor capacity)
      (fun result after =>
        match probed result with
        | none =>
            after =
              { kernel :=
                  streamKernel reader writer stream accepted
                    ⟨[], passing, kept⟩
                failed := true }
        | some before =>
            ∃ rest, before ++ rest = passing ∧
              after =
                { kernel :=
                    streamKernel reader writer stream accepted
                      ⟨before, rest, kept⟩ })
      { kernel :=
          streamKernel reader writer stream accepted ⟨[], passing, kept⟩ } := by
  refine .retry
    (· =
      { kernel :=
          streamKernel reader writer stream accepted ⟨[], passing, kept⟩ })
    ?_ rfl
  rintro _ rfl
  refine .request ⟨rfl, rfl⟩ ?_
  intro answer allowed
  rcases answer with error | _ | ⟨first, others⟩
  · refine ⟨?_, fun permanent => ?_⟩
    · rintro rfl
      rfl
    by_cases again : error = .eagain
    · obtain rfl := again
      exact ⟨passing, rfl, rfl⟩
    · simp only [probed, again, ↓reduceIte]
      exact congrArg (Audited.mk _) (decide_eq_true ⟨permanent, again⟩)
  · rcases allowed.2 rfl with nothing | ⟨_, noStream⟩
    · exact (nonempty nothing).elim
    · exact (Option.some_ne_none _ noStream).elim
  · obtain ⟨rest, rfl⟩ := allowed.1.next
    refine ⟨rest, rfl, ?_⟩
    have taken := StagedQueue.take_front [] (first :: others) rest kept
    exact congrArg
      (fun bytes : StagedQueue UInt8 =>
        ({ kernel := streamKernel reader writer stream accepted bytes } :
          Watched))
      taken

/-- `main` once everything is in the stream. -/
theorem observe_ensures
    {passing kept : List UInt8}
    (valid : 0 ≤ reader)
    (nonempty : text ≠ [])
    (whole : passing ++ kept = text)
    (fits : text.length ≤ capacity) :
    (observe text { reader := reader, stream := some stream }
      stream).Ensures (monitor capacity)
      (fun result after => Returned text result after)
      { kernel :=
          streamKernel reader writer stream text ⟨[], passing, kept⟩ } := by
  have owns
      {bytes : StagedQueue UInt8}
      (isRest : ∃ before, before ++ (bytes.passing ++ bytes.kept) = text) :
      Owns capacity { reader := reader, stream := some stream }
        (streamKernel reader writer stream text bytes) := by
    obtain ⟨before, whole⟩ := isRest
    refine owns_stream valid ?_
    rw [← whole, List.length_append] at fits
    exact Nat.le_trans (Nat.le_add_left _ _) fits
  have something : text.length ≠ 0 :=
    fun nothing => nonempty (List.eq_nil_of_length_eq_zero nothing)
  refine .bind ((probe_ensures something).mono ?_)
  intro probe after outcome
  cases found : probed probe with
  | none =>
      rw [found] at outcome
      obtain rfl := outcome
      exact giveUp_ensures (owns ⟨[], whole⟩) rfl
  | some before =>
  rw [found] at outcome
  obtain ⟨rest, rfl, rfl⟩ := outcome
  have remaining : before ++ (rest ++ kept) = text := by
    rw [← whole, List.append_assoc]
  have missing : text.length - before.length = (rest ++ kept).length := by
    rw [← remaining, List.length_append, Nat.add_sub_cancel_left]
  have inside : (rest ++ kept).length ≤ capacity := by
    rw [← missing]
    exact Nat.le_trans (Nat.sub_le _ _) fits
  refine .request_bind ⟨⟨writer, rfl⟩, inside⟩ ?_
  rintro ⟨error | ⟨⟩, count⟩ _
  · refine giveUp_ensures (owns ⟨before, ?_⟩) rfl
    rw [StagedQueue.rest_pass]
    exact remaining
  have flushed :
      (monitor capacity).next
          { kernel :=
              streamKernel reader writer stream text
                ⟨before, rest, kept⟩ }
          (.fflush stream) ⟨.ok (), count⟩ =
        { kernel :=
            streamKernel reader writer stream text
              ⟨before, rest ++ kept, []⟩ } :=
    congrArg
      (fun bytes : StagedQueue UInt8 =>
        ({ kernel := streamKernel reader writer stream text bytes } :
          Watched))
      (StagedQueue.pass_all ⟨before, rest, kept⟩)
  refine flushed.symm ▸ ?_
  simp only [Except.toOption, ↓reduceIte, missing]
  refine .bind (readExact_ensures.mono ?_)
  rintro (error | received) ⟨_, _⟩ met
  · obtain ⟨failing, count, rfl⟩ := met
    refine giveUp_ensures (owns ⟨before ++ (rest ++ kept).take count, ?_⟩)
      failing
    rw [List.append_nil, List.append_assoc, List.take_append_drop]
    exact remaining
  obtain ⟨rfl, arrived⟩ := met
  obtain ⟨rfl, rfl⟩ := Audited.mk.inj arrived
  simp only [remaining, ↓reduceIte]
  refine (cleanup_ensures (owns ⟨text, List.append_nil _⟩)).mono ?_
  intro final after released
  refine ⟨released.reader, released.writer, released.stream, ?_, fun _ =>
    ⟨released.taken, released.accepted⟩⟩
  rcases released.spoils with ⟨rfl, same⟩ | ⟨rfl, isFailed⟩
  · exact iff_of_true rfl same
  · exact iff_of_false nofun fun unfailed =>
      Bool.noConfusion (isFailed.symm.trans unfailed)

/-- `main` once it has its stream. -/
theorem writing_ensures
    (valid : 0 ≤ reader)
    (nonempty : text ≠ [])
    (fits : text.length ≤ capacity) :
    (writing text { reader := reader, stream := some stream } stream
      writer).Ensures (monitor capacity)
      (fun result after => Returned text result after)
      { kernel := streamKernel reader writer stream [] {} } := by
  have owns
      {accepted : List UInt8}
      {bytes : StagedQueue UInt8}
      (inside : (bytes.passing ++ bytes.kept).length ≤ capacity) :=
    @owns_stream capacity reader writer stream accepted bytes valid inside
  refine .request_bind ⟨⟨writer, rfl⟩, rfl⟩ ?_
  rintro (error | ⟨⟩) _
  · exact giveUp_ensures (owns (Nat.zero_le _)) rfl
  refine .request_bind ⟨writer, rfl⟩ ?_
  intro number allowed
  obtain rfl : number = writer := allowed writer rfl
  simp only [↓reduceIte]
  refine .request_bind ⟨⟨number, rfl⟩, fits⟩ ?_
  rintro ⟨written, count⟩ short
  have onward :=
    StagedQueue.rest_pass (StagedQueue.accept {} (text.take written)) count
  by_cases all : written = text.length
  · subst all
    simp only [↓reduceIte]
    have settled :
        (monitor capacity).next
            { kernel := streamKernel reader number stream [] {} }
            (.fwrite text stream) ⟨text.length, count⟩ =
          { kernel :=
              streamKernel reader number stream text
                (StagedQueue.pass ⟨[], [], text⟩ count) } := by
      refine Eq.trans ?_ (congrArg
        (fun bytes : List UInt8 =>
          ({ kernel :=
              streamKernel reader number stream bytes
                (StagedQueue.pass ⟨[], [], bytes⟩ count) } : Watched))
        (@List.take_length _ text))
      exact congrArg (Audited.mk _) (decide_eq_false (not_not_intro rfl))
    refine settled.symm ▸ ?_
    rw [List.take_length] at onward
    exact observe_ensures valid nonempty onward fits
  · simp only [all, ↓reduceIte]
    have inside := Nat.le_trans (List.length_take_le' written text) fits
    rw [← List.nil_append (text.take written)] at inside
    exact giveUp_ensures (owns (onward.symm ▸ inside)) (decide_eq_true all)

/-- What `main` establishes. -/
theorem main_ensures
    (nonempty : text ≠ [])
    (fits : text.length ≤ capacity) :
    (mainWriting text).Ensures (monitor capacity)
      (fun result after => Returned text result after)
      { kernel := {} } := by
  refine .request_bind rfl ?_
  rintro (error | ⟨reader, writer⟩) opened
  · exact giveUp_ensures ⟨fun held => (unset held).elim, fun _ => rfl,
      fun held => (unset held).elim, fun _ => rfl, fun _ => nofun, nofun,
      fun _ => rfl, Nat.zero_le _⟩ rfl
  obtain ⟨validReader, validWriter, different⟩ :
      0 ≤ reader ∧ 0 ≤ writer ∧ reader ≠ writer := opened
  have owns (waits : Bool) :
      Owns capacity { reader := reader, writer := writer }
        { reader := some reader
          writer := some writer
          nonblocking := waits } :=
    ⟨fun _ => rfl, fun invalid => (invalid validReader).elim, fun _ => rfl,
      fun invalid => (invalid validWriter).elim,
      fun _ isReader isWriter => different
        ((Option.some.inj isReader).trans (Option.some.inj isWriter).symm),
      nofun, fun _ => rfl, Nat.zero_le _⟩
  refine .bind ((setNonblocking_ensures rfl).mono ?_)
  rintro (error | ⟨⟩) after met
  · obtain rfl := met
    exact giveUp_ensures (owns false) rfl
  obtain rfl := met
  refine .request_bind ⟨rfl, rfl, rfl⟩ ?_
  rintro (error | stream) _
  · exact giveUp_ensures (owns true) rfl
  exact writing_ensures validReader nonempty fits

end Verdict

section Runs

variable {events : List (Event Answer)} {outcome : Option Exit}

/-- What a run of the program shows. -/
structure StdioVerdict
    (capacity : Nat)
    (text : List UInt8)
    (events : List (Event Answer))
    (outcome : Option Exit) : Prop where
  owned :
    ∀ before event later,
      events = before ++ event :: later →
      ((audit capacity).kernelAfter {} before).Safe capacity event.call
  ordered :
    ∀ before later,
      events = before ++ later →
      ((audit capacity).kernelAfter {} before).bytes.all <+:
        ((audit capacity).kernelAfter {} before).accepted
  released :
    outcome ≠ none →
    ((audit capacity).kernelAfter {} events).reader = none ∧
      ((audit capacity).kernelAfter {} events).writer = none ∧
      ((audit capacity).kernelAfter {} events).stream = none
  verdict :
    outcome ≠ none →
    (outcome = some .success ↔ (audit capacity).failed events = false)
  arrived :
    outcome = some .success →
    ((audit capacity).kernelAfter {} events).bytes.taken = text ∧
      ((audit capacity).kernelAfter {} events).accepted = text

/--
Whenever the stream passes its bytes on: no call has to wait, the bytes stay
in order, all of them arrive, and the program succeeds exactly if nothing
fails.
-/
theorem stdio_verdict
    (nonempty : text ≠ [])
    (fits : text.length ≤ capacity)
    (run : (mainWriting text).Run events outcome)
    (legal : (audit capacity).Legal {} events) :
    StdioVerdict capacity text events outcome := by
  have safe := ((main_ensures nonempty fits).sound run legal).1
  obtain ⟨dutiful, ended⟩ :=
    Audit.sound (main_ensures nonempty fits) run legal
  constructor
  case owned => exact dutiful
  case ordered =>
    rintro before later rfl
    have initially : ({} : Kernel).Ordered :=
      ⟨List.nil_prefix, fun _ => rfl⟩
    have ordered :=
      @ordered_after capacity { kernel := {} } before initially
        ((monitor capacity).safe_append.mp safe).1
    rw [monitor, Audit.after_eq] at ordered
    exact ordered.isPrefix
  case released =>
    intro some
    obtain ⟨result, rfl⟩ := Option.ne_none_iff_exists'.mp some
    have returned := ended result rfl
    exact ⟨returned.reader, returned.writer, returned.stream⟩
  case verdict =>
    intro some
    obtain ⟨result, rfl⟩ := Option.ne_none_iff_exists'.mp some
    rw [Option.some_inj]
    exact (ended result rfl).verdict
  case arrived =>
    rintro rfl
    exact (ended .success rfl).success rfl

/-- Some bytes arrive early, the others in two pieces after the flush. -/
def early : List (Event Answer) :=
  [⟨.pipe, .ok (3, 4)⟩, ⟨.fcntlGetfl 3, .ok 0⟩,
    ⟨.fcntlSetfl 3 0x800, .error .eintr⟩, ⟨.fcntlSetfl 3 0x800, .ok ()⟩,
    ⟨.fdopen 4, .ok 618⟩, ⟨.setvbuf 618 128, .ok ()⟩, ⟨.fileno 618, 4⟩,
    ⟨.fwrite message 618, ⟨16, 8⟩⟩, ⟨.read 3 16, .ok (message.take 5)⟩,
    ⟨.fflush 618, ⟨.ok (), 8⟩⟩, ⟨.read 3 11, .ok ((message.drop 5).take 7)⟩,
    ⟨.read 3 4, .ok (message.drop 12)⟩, ⟨.fclose 618, ⟨.ok (), 0⟩⟩,
    ⟨.close 3, .ok ()⟩]

/-- It is a run of `main`. -/
theorem early_run : (mainWriting message).Run early (some .success) :=
  ⟨4, .call _ (.call _ (.call _ (.call _ (.call _ (.call _ (.call _ (.call _
    (.call _ (.call _ (.call _ (.call _ (.call _ (.call _
      (.ret _))))))))))))))⟩

/-- The kernel and the stream may answer so. -/
theorem early_legal : (audit 65536).Legal {} early := by
  have some (first : UInt8) (rest : List UInt8) : first :: rest ≠ [] :=
    List.cons_ne_nil first rest
  have taken (answer rest : List UInt8) (size : Nat)
      (some : answer ≠ []) (bounded : answer.length ≤ size) :
      Reads (answer ++ rest) size answer :=
    ⟨List.prefix_append _ _, bounded, fun nothing => (some nothing).elim⟩
  have owner (owned : Fd) :
      Option.some (OpenStream.mk 618 4) = .some ⟨618, owned⟩ → 4 = owned := by
    rintro ⟨⟩
    rfl
  refine ⟨(by decide : (0 : Fd) ≤ 3 ∧ (0 : Fd) ≤ 4 ∧ (3 : Fd) ≠ 4),
    trivial, trivial, trivial, trivial, trivial, owner, Nat.le_refl 16,
    ⟨taken (message.take 5) _ 16 (some _ _) (by decide), nofun⟩, trivial,
    ⟨taken ((message.drop 5).take 7) _ 11 (some _ _) (by decide), nofun⟩,
    ⟨taken (message.drop 12) [] 4 (some _ _) (by decide), nofun⟩,
    trivial, trivial, trivial⟩

/-- The message arrives although the stream passed half of it on early. -/
theorem stdio_verdict_early :
    StdioVerdict 65536 message early (some .success) := by
  have nonempty : message ≠ [] := by decide
  have fits : message.length ≤ 65536 := by decide
  exact stdio_verdict nonempty fits early_run early_legal

end Runs

end AdvanceUnix.StdioBuffering
