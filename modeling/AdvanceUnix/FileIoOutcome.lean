import AdvanceUnix.Delimited
import AdvanceUnix.FileIoMain

namespace AdvanceUnix.FileIo

open CallTree Audit PositionedIo
open FilesystemEvents (strcmp strcmp_eq_zero)

/-!
# What positioned and scattered access leave in the file

For every pattern of short transfers and interruptions the program succeeds
exactly if no call fails and the text it expects is the one that it has put
together.
-/

variable {setting : Setting} {watched : Watched} {fd : Fd} {path : String}

section Transfers

/-- The text before it is patched. -/
def Setting.text (setting : Setting) : List UInt8 :=
  (spans setting.output).map setting.memory

/-- The text that the file holds in the end. -/
def Setting.final (setting : Setting) : List UInt8 :=
  overwrite setting.text setting.position setting.patch

/-- The text is as long as the expected one. -/
theorem length_text : setting.text.length = setting.expected.length := by
  rw [Setting.text, List.length_map, setting.outputLength]

/-- And so is what it becomes. -/
theorem length_final : setting.final.length = setting.expected.length := by
  have fits := setting.patchFits
  rw [Setting.final, length_overwrite (by rw [length_text]; omega),
    length_text]
  omega

/-- The kernel with some content behind the open descriptor. -/
def opened
    (fd : Fd)
    (path : String)
    (memory : Nat → UInt8)
    (content : List UInt8)
    (offset : Nat) : Kernel where
  memory := memory
  fd := some fd
  file := some path
  content := content
  offset := offset

/-- How a transfer ends, and whether a call has stopped it. -/
theorem stopped_of_concluded
    {total : List Nat}
    {exit : TransferExit}
    {progress : Progress}
    (concluded : Concluded total exit progress) :
    exit.returned.Meets (fun _ => progress.stopped = true)
      (fun _ => progress.moved = total ∧ progress.stopped = false) := by
  cases exit with
  | complete => exact concluded
  | failed error => exact concluded.2
  | noProgress => exact concluded.2
  | ranOut => exact concluded.elim

/-- What is written next comes behind what has been written. -/
theorem written_next
    {memory : Nat → UInt8}
    {moved : List Nat}
    {stopped : Bool}
    {offered : List IoVec}
    {count : Nat}
    (within : count ≤ (spans offered).length) :
    sysMonitor.next
        { kernel := opened fd path memory (moved.map memory) moved.length
          failed := stopped }
        (.writev fd offered) (.ok count) =
      { kernel :=
          opened fd path memory
            ((moved ++ (spans offered).take count).map memory)
            (moved ++ (spans offered).take count).length
        failed := stopped || stops ⟨.writev fd offered, .ok count⟩ } := by
  have counted : ((spans offered).take count).length = count :=
    List.length_take_of_le within
  have appended :
      stored 0 (moved.map memory) moved.length
          (((spans offered).take count).map memory) =
        (moved ++ (spans offered).take count).map memory := by
    have ends : moved.length = (moved.map memory).length := by simp
    rw [ends, stored_inside (Nat.le_refl _), overwrite_end, List.map_append]
  simp only [sysMonitor, sysAudit, Audit.monitor, Kernel.sysNext, opened,
    appended, Fails, List.length_append, counted]

/-- What a transfer has written is in the file, or a call has failed. -/
theorem transferOut_ensures
    {memory : Nat → UInt8}
    {vectors : List IoVec} :
    (transferIovecs fd vectors true).Ensures sysMonitor
      (fun result after =>
        after.kernel.fd = some fd ∧ after.kernel.file = some path ∧
          result.Meets (fun _ => after.failed = true)
            (fun _ =>
              after =
                { kernel :=
                    opened fd path memory ((spans vectors).map memory)
                      (spans vectors).length }))
      { kernel := opened fd path memory [] 0 } := by
  refine .mono (.simulate
    (fun progress after =>
      after =
        { kernel :=
            opened fd path memory (progress.moved.map memory)
              progress.moved.length
          failed := progress.stopped })
    ?_ transferIovecs_ensures rfl) ?_
  · rintro progress _ request rfl ⟨offered, requests, _⟩
    obtain rfl : request = .writev fd offered := requests
    refine ⟨rfl, fun answer allowed => ?_⟩
    cases answer with
    | error error =>
        refine ⟨trivial, ?_⟩
        simp [transferMonitor, sysMonitor, sysAudit, Audit.monitor,
          Kernel.sysNext, movedBy, Fails]
    | ok count => exact ⟨allowed, written_next allowed⟩
  · rintro result _ ⟨progress, rfl, exit, rfl, concluded⟩
    have ended := stopped_of_concluded concluded
    refine ⟨rfl, rfl, ?_⟩
    cases returned : exit.returned with
    | error error =>
        rw [returned] at ended
        exact ended
    | ok done =>
        rw [returned] at ended
        rw [ended.1, ended.2]
        rfl

/-- What is read next is stored behind what has been read. -/
theorem read_next
    {memory : Nat → UInt8}
    {content : List UInt8}
    {moved : List Nat}
    {stopped : Bool}
    {offered : List IoVec}
    {count : Nat}
    (within : count ≤ (spans offered).length) :
    sysMonitor.next
        { kernel :=
            opened fd path (ScatteredStore.store memory moved content)
              content moved.length
          failed := stopped }
        (.readv fd offered) (.ok count) =
      { kernel :=
          opened fd path
            (ScatteredStore.store memory
              (moved ++ (spans offered).take count) content)
            content (moved ++ (spans offered).take count).length
        failed := stopped || stops ⟨.readv fd offered, .ok count⟩ } := by
  have counted : ((spans offered).take count).length = count :=
    List.length_take_of_le within
  simp only [sysMonitor, sysAudit, Audit.monitor, Kernel.sysNext, opened,
    ScatteredStore.store_append, Fails, List.length_append, counted]

/-- A transfer has read the file into its vectors, or a call has failed. -/
theorem transferIn_ensures
    {memory : Nat → UInt8}
    {content : List UInt8}
    {vectors : List IoVec} :
    (transferIovecs fd vectors false).Ensures sysMonitor
      (fun result after =>
        after.kernel.fd = some fd ∧ after.kernel.file = some path ∧
          result.Meets (fun _ => after.failed = true)
            (fun _ =>
              after =
                { kernel :=
                    opened fd path
                      (ScatteredStore.store memory (spans vectors) content)
                      content (spans vectors).length }))
      { kernel := opened fd path memory content 0 } := by
  refine .mono (.simulate
    (fun progress after =>
      after =
        { kernel :=
            opened fd path
              (ScatteredStore.store memory progress.moved content)
              content progress.moved.length
          failed := progress.stopped })
    ?_ transferIovecs_ensures rfl) ?_
  · rintro progress _ request rfl ⟨offered, requests, _⟩
    obtain rfl : request = .readv fd offered := requests
    refine ⟨rfl, fun answer allowed => ?_⟩
    cases answer with
    | error error =>
        refine ⟨trivial, ?_⟩
        simp [transferMonitor, sysMonitor, sysAudit, Audit.monitor,
          Kernel.sysNext, movedBy, Fails]
    | ok count => exact ⟨allowed.1, read_next allowed.1⟩
  · rintro result _ ⟨progress, rfl, exit, rfl, concluded⟩
    have ended := stopped_of_concluded concluded
    refine ⟨rfl, rfl, ?_⟩
    cases returned : exit.returned with
    | error error =>
        rw [returned] at ended
        exact ended
    | ok done =>
        rw [returned] at ended
        rw [ended.1, ended.2]
        rfl

/-- A transfer among all the calls of the program. -/
theorem transfers
    {program : Sys (Result Unit)}
    {post : Result Unit → Watched → Prop}
    (ensures : program.Ensures sysMonitor post watched) :
    (program.extended FileAnswer).Ensures monitor post watched :=
  ensures.within rfl id id

/-- The patch is written over the text. -/
theorem pwriteAll_ensures
    {memory : Nat → UInt8}
    {text patch : List UInt8}
    {position offset : Nat}
    (inside : position ≤ text.length) :
    (pwriteAll fd patch position).Ensures monitor
      (WriteOutcome patch.length
        (fun written after =>
          after =
            { kernel :=
                opened fd path memory
                  (overwrite text position (patch.take written)) offset })
        (fun _ after =>
          after.kernel.fd = some fd ∧ after.kernel.file = some path ∧
            after.failed = true))
      { kernel := opened fd path memory text offset } := by
  refine .writing ?_ ?_
  · rintro written _ unfinished rfl
    refine .request rfl ?_
    intro answer allowed
    cases answer with
    | error error =>
        refine ⟨?_, ?_⟩
        · rintro rfl
          rfl
        · intro permanent
          exact ⟨rfl, rfl, decide_eq_true permanent⟩
    | ok count =>
        cases count with
        | zero => exact ⟨rfl, rfl, rfl⟩
        | succ count =>
            have within : count + 1 ≤ (patch.drop written).length := allowed.2
            refine ⟨le_of_le_of_eq within List.length_drop, ?_⟩
            have done : (patch.take written).length = written :=
              List.length_take_of_le (Nat.le_of_lt unfinished)
            have reaches :
                position + written ≤
                  (overwrite text position (patch.take written)).length := by
              rw [length_overwrite inside, done]
              exact Nat.le_max_right _ _
            have continued :=
              overwrite_overwrite inside (patch.take written)
                ((patch.drop written).take (count + 1))
            rw [done, ← List.take_add] at continued
            have stores :
                stored 0 (overwrite text position (patch.take written))
                    (position + written)
                    ((patch.drop written).take (count + 1)) =
                  overwrite text position
                    (patch.take (written + (count + 1))) := by
              rw [stored_inside reaches, continued]
            exact congrArg
              (fun content =>
                ({ kernel := opened fd path memory content offset } :
                  Watched))
              stores
  · rw [List.take_zero, overwrite_nil]

/-- The whole file is read, or a call has failed. -/
theorem preadFull_ensures
    {memory : Nat → UInt8}
    {content : List UInt8}
    {size offset : Nat}
    (length : content.length = size) :
    (preadFull fd size 0).Ensures monitor
      (fun result after =>
        after.kernel = opened fd path memory content offset ∧
          result.Meets (fun _ => after.failed = true)
            (fun bytes => bytes = content ∧ after.failed = false))
      { kernel := opened fd path memory content offset } := by
  have reading :
      (preadFull fd size 0).Ensures monitor
        (ReadOutcome content size .ok
          (fun _ after =>
            after = { kernel := opened fd path memory content offset })
          (fun _ after =>
            after =
              { kernel := opened fd path memory content offset
                failed := true }))
        { kernel := opened fd path memory content offset } := by
    refine .reading ?_ rfl
    rintro received _ _ _ rfl
    refine .request rfl ?_
    intro answer allowed
    cases answer with
    | error error =>
        refine ⟨?_, ?_⟩
        · rintro rfl
          rfl
        · intro permanent
          exact congrArg (Audited.mk _) (decide_eq_true permanent)
    | ok bytes =>
        rw [Nat.zero_add] at allowed
        exact ⟨allowed, rfl⟩
  refine reading.mono ?_
  intro result after outcome
  cases outcome with
  | complete enough holds =>
      subst holds
      exact ⟨rfl, List.take_of_length_le (Nat.le_of_eq length), rfl⟩
  | ended short _ => exact (Nat.ne_of_lt short length).elim
  | failed error failure =>
      subst failure
      exact ⟨rfl, rfl⟩

end Transfers

section Cleanup

/-- The program remembers its descriptor and its file. -/
structure Owns (held : Held) (kernel : Kernel) : Prop where
  fd : 0 ≤ held.fd → kernel.fd = some held.fd
  closed : ¬ 0 ≤ held.fd → kernel.fd = none
  file : kernel.file = held.file

/-- The file has the expected text, and so have the vectors. -/
structure Complete (setting : Setting) (kernel : Kernel) : Prop where
  content : kernel.content = setting.expected
  memory : (spans setting.input).map kernel.memory = setting.expected

/-- What the program leaves behind. -/
structure Settled
    (setting : Setting)
    (result : Exit)
    (after : Watched) : Prop where
  closed : after.kernel.fd = none
  unlinked : after.kernel.file = none ∨ after.kernel.unlinkFailed = true
  complete : result = .success → Complete setting after.kernel

/-- The file is gone, or removing it has failed. -/
def Unlinked (kernel after : Kernel) : Prop :=
  ∃ file refused,
    after = { kernel with file := file, unlinkFailed := refused } ∧
      (file = none ∨ refused = true)

/-- The file is closed, if it is open. -/
theorem closing_ensures
    {held : Held}
    {result : Exit}
    (owns : Owns held watched.kernel) :
    (Program.releasing (0 ≤ held.fd) (invoke (.inl (.close held.fd)))
      .failure result).Ensures monitor
      (Released (· = { watched.kernel with fd := none }) .failure result
        watched.failed) watched := by
  refine releasing_ensures ?_ fun held =>
    .request (owns.fd (of_decide_eq_true held)) ?_
  · intro notHeld
    have closed := owns.closed (of_decide_eq_false notHeld)
    exact congrArg (fun fd => { watched.kernel with fd := fd }) closed
  · rintro (error | done) _
    · exact ⟨rfl, Bool.or_true _⟩
    · exact ⟨rfl, Bool.or_false _⟩

/-- The file is removed, if there is one. -/
theorem cleanupFile_ensures
    {held : Held}
    {result : Exit}
    (file : watched.kernel.file = held.file) :
    (cleanupFile held result).Ensures monitor
      (Released (Unlinked watched.kernel) .failure result watched.failed)
      watched := by
  refine releasingSome_ensures ?_ fun path isNamed =>
    .request (file.trans isNamed) ?_
  · exact fun none => ⟨_, _, rfl, .inl (file.trans none)⟩
  · rintro (error | done) _
    · exact ⟨⟨_, _, rfl, .inr rfl⟩, Bool.or_true _⟩
    · exact ⟨⟨_, _, rfl, .inl rfl⟩, Bool.or_false _⟩

/-- The cleanup section closes and removes the file. -/
theorem cleanup_ensures
    {held : Held}
    {result : Exit}
    (owns : Owns held watched.kernel)
    (complete : result = .success → Complete setting watched.kernel) :
    (cleanup held result).Ensures monitor
      (Cleaned .failure result watched.failed (Settled setting))
      watched := by
  refine .bind (.mono (closing_ensures owns) ?_)
  rintro closed ⟨_, closeFailed⟩ ⟨rfl, spoilsClose⟩
  refine .mono (cleanupFile_ensures owns.file) ?_
  rintro final ⟨_, lastFailed⟩ ⟨⟨file, refused, rfl, removed⟩, spoilsFile⟩
  have spoils : Spoils Exit.failure result final watched.failed lastFailed :=
    spoilsClose.trans spoilsFile
  refine ⟨⟨rfl, removed, ?_⟩, spoils⟩
  rintro rfl
  rcases spoils with ⟨same, _⟩ | ⟨different, _⟩
  · obtain ⟨content, memory⟩ := complete same.symm
    exact ⟨content, memory⟩
  · exact Exit.noConfusion different

/-- What `main` is to establish. -/
abbrev Establishes (setting : Setting) : Exit → Watched → Prop :=
  Returned Exit.success (setting.expected = setting.final) (Settled setting)

/-- Giving up after a failure, or where another text is expected. -/
theorem giveUp_ensures
    {held : Held}
    (owns : Owns held watched.kernel)
    (reason :
      watched.failed = true ∨ ¬ setting.expected = setting.final) :
    (cleanup held .failure).Ensures monitor (Establishes setting)
      watched :=
  Cleaned.givenUp (cleanup_ensures owns nofun) nofun reason

end Cleanup

section Verdict

/-- What is kept of an answer that is no error. -/
theorem toOption_ok {α : Type} (value : α) :
    (Except.ok value : Result α).toOption = some value :=
  rfl

/-- The program knows its open file. -/
theorem owns_opened
    {kernel : Kernel}
    (nonneg : 0 ≤ fd)
    (isOpen : kernel.fd = some fd)
    (named : kernel.file = some path) :
    Owns { fd := fd, file := some path } kernel :=
  ⟨fun _ => isOpen, fun invalid => (invalid nonneg).elim, named⟩

/-- An array of zeros with a text in it holds the terminated text. -/
theorem slice_zeroed (text : List UInt8) :
    LittleEndian.slice (zeroed text) 0 (text.length + 1) =
      text ++ [0] := by
  apply List.ext_getElem
  · simp
  · intro index inside _
    rw [LittleEndian.length_slice] at inside
    simp only [LittleEndian.slice, List.getElem_map, List.getElem_range',
      Nat.zero_add, Nat.one_mul, zeroed]
    by_cases before : index < text.length
    · rw [List.getElem_append_left before, List.getD_eq_getElem?_getD,
        List.getElem?_eq_getElem before, Option.getD_some]
    · have last : index = text.length := by omega
      subst last
      rw [List.getElem_concat_length rfl, List.getD_eq_getElem?_getD,
        List.getElem?_eq_none (Nat.le_refl _), Option.getD_none]

/-- So the comparison with the text finds no difference. -/
theorem strcmp_zeroed
    {text : List UInt8}
    (noNul : 0 ∉ text) :
    (strcmp (zeroed text) 0 (text ++ [0])).1 = 0 := by
  have terminated :
      0 ∈ LittleEndian.slice (zeroed text) 0 (text.length + 1) := by
    rw [slice_zeroed]
    exact List.mem_append_right _ List.mem_cons_self
  rw [strcmp_eq_zero terminated noNul, slice_zeroed,
    Delimited.takeWhile_ended noNul]

/-- What is read back into the vectors is the expected text. -/
theorem readBack_ensures
    {offset : Nat}
    (nonneg : 0 ≤ fd)
    (expected : setting.expected = setting.final) :
    (readBack setting { fd := fd, file := some path }).Ensures monitor
      (Establishes setting)
      { kernel := opened fd path setting.memory setting.final offset } := by
  refine .request_bind rfl ?_
  intro rewinding _
  cases rewinding with
  | error error =>
      exact giveUp_ensures (owns_opened nonneg rfl rfl) (.inl rfl)
  | ok start =>
  refine .bind (.mono (transfers transferIn_ensures) ?_)
  rintro read after ⟨isOpen, named, met⟩
  cases read with
  | error error =>
      exact giveUp_ensures (owns_opened nonneg isOpen named) (.inl met)
  | ok done =>
  obtain rfl := met
  have stored :
      (spans setting.input).map
          (ScatteredStore.store setting.memory (spans setting.input)
            setting.final) =
        setting.expected := by
    rw [expected]
    refine ScatteredStore.map_store setting.distinct _ ?_
    rw [setting.inputLength, length_final]
  refine .request_bind trivial ?_
  intro gathered loaded
  obtain rfl : gathered = setting.expected := loaded.trans stored
  simp only [strcmp_zeroed setting.noNul, ↓reduceIte]
  have complete :
      Complete setting
        (opened fd path
          (ScatteredStore.store setting.memory (spans setting.input)
            setting.final)
          setting.final (spans setting.input).length) :=
    ⟨expected.symm, stored⟩
  exact Cleaned.succeeded
    (cleanup_ensures (owns_opened nonneg rfl rfl) fun _ => complete)
    (by decide) rfl expected

/-- `main` with its file open. -/
theorem transfer_ensures (nonneg : 0 ≤ fd) :
    (transfer setting { fd := fd, file := some path }).Ensures monitor
      (Establishes setting)
      { kernel := opened fd path setting.memory [] 0 } := by
  refine .bind (.mono (transfers transferOut_ensures) ?_)
  rintro wrote after ⟨isOpen, named, met⟩
  cases wrote with
  | error error =>
      exact giveUp_ensures (owns_opened nonneg isOpen named) (.inl met)
  | ok done =>
  obtain rfl := met
  have inside : setting.position ≤ setting.text.length := by
    rw [length_text]
    exact Nat.le_trans (Nat.le_add_right _ _) setting.patchFits
  refine .bind (.mono (pwriteAll_ensures inside) ?_)
  intro patched after outcome
  cases patched with
  | error error =>
      obtain ⟨isOpen, named, failed⟩ := outcome
      exact giveUp_ensures (owns_opened nonneg isOpen named) (.inl failed)
  | ok done =>
  have state :
      after =
        { kernel :=
            opened fd path setting.memory setting.final
              setting.expected.length } := by
    rw [outcome, List.take_length, setting.outputLength]
    rfl
  subst state
  refine .request_bind rfl ?_
  intro position atEnd
  cases position with
  | error error =>
      exact giveUp_ensures (owns_opened nonneg rfl rfl) (.inl rfl)
  | ok offset =>
  obtain rfl : offset = setting.expected.length := atEnd
  rw [if_pos (toOption_ok _)]
  refine .bind (.mono (preadFull_ensures length_final) ?_)
  rintro positioned ⟨kernel, failed⟩ ⟨rfl, met⟩
  cases positioned with
  | error error =>
      exact giveUp_ensures (owns_opened nonneg rfl rfl) (.inl met)
  | ok bytes =>
  obtain ⟨rfl, rfl⟩ := met
  by_cases expected : setting.expected = setting.final
  · rw [if_pos ((toOption_ok _).trans (congrArg some expected.symm))]
    refine .request_bind rfl ?_
    intro again still
    cases again with
    | error error =>
        exact giveUp_ensures (owns_opened nonneg rfl rfl) (.inl rfl)
    | ok offset =>
        obtain rfl : offset = setting.expected.length := still
        rw [if_pos (toOption_ok _)]
        exact readBack_ensures nonneg expected
  · have different :
        ¬ (Except.ok setting.final : Result (List UInt8)).toOption =
          some setting.expected := by
      rw [toOption_ok]
      exact fun same => expected (Option.some.inj same).symm
    rw [if_neg different]
    exact giveUp_ensures (owns_opened nonneg rfl rfl) (.inr expected)

/-- The program has its memory, and no file is open. -/
def Setting.fresh (setting : Setting) : Kernel where
  memory := setting.memory

/-- What `main` establishes. -/
theorem main_ensures :
    (mainTransferring setting).Ensures monitor
      (Establishes setting)
      { kernel := setting.fresh } := by
  refine .request_bind rfl ?_
  intro creating allowed
  cases creating with
  | error error =>
      exact giveUp_ensures
        ⟨fun valid => absurd valid (by decide), fun _ => rfl, rfl⟩
        (.inl rfl)
  | ok created => exact transfer_ensures allowed

end Verdict

section Runs

variable {events : List (Event Answers)} {outcome : Option Exit}

/-- What a run of the program shows. -/
structure FileVerdict
    (setting : Setting)
    (events : List (Event Answers))
    (outcome : Option Exit) : Prop where
  owned :
    ∀ before event later,
      events = before ++ event :: later →
      (audit.kernelAfter setting.fresh before).Safe event.call
  released :
    outcome ≠ none →
    (audit.kernelAfter setting.fresh events).fd = none ∧
      ((audit.kernelAfter setting.fresh events).file = none ∨
        (audit.kernelAfter setting.fresh events).unlinkFailed = true)
  verdict :
    outcome ≠ none →
    (outcome = some .success ↔
      audit.failed events = false ∧ setting.expected = setting.final)
  success :
    outcome = some .success →
    (audit.kernelAfter setting.fresh events).content = setting.expected ∧
      (spans setting.input).map
          (audit.kernelAfter setting.fresh events).memory =
        setting.expected

/--
Whatever is transferred at once: the program only uses its open file, releases
it, and succeeds exactly if nothing fails and the text that it has put together
is the expected one.
-/
theorem file_io_verdict
    (run : (mainTransferring setting).Run events outcome)
    (legal : audit.Legal setting.fresh events) :
    FileVerdict setting events outcome := by
  obtain ⟨dutiful, ended⟩ := Audit.sound main_ensures run legal
  constructor
  case owned => exact dutiful
  case released =>
    intro some
    obtain ⟨result, rfl⟩ := Option.ne_none_iff_exists'.mp some
    have returned := ended result rfl
    exact ⟨returned.settled.closed, returned.settled.unlinked⟩
  case verdict =>
    intro some
    obtain ⟨result, rfl⟩ := Option.ne_none_iff_exists'.mp some
    rw [Option.some_inj]
    exact (ended result rfl).honest
  case success =>
    rintro rfl
    obtain ⟨content, memory⟩ := (ended .success rfl).settled.complete rfl
    exact ⟨content, memory⟩

/-- The text of the program is the one that it expects. -/
example : patchedGreeting.expected = patchedGreeting.final := by decide

/-- The first write is short, and the patch is interrupted. -/
def shortWrites : List (Event Answers) :=
  [⟨.inl .mkstemp, .ok (3, "./lab_file_io.qT40xz")⟩,
    ⟨.inl (.writev 3 (threeParts 0)), .ok 3⟩,
    ⟨.inl (.writev 3 [⟨3, 2⟩, ⟨5, 1⟩, ⟨6, 5⟩]), .ok 8⟩,
    ⟨.inl (.pwrite 3 patchedGreeting.patch 6), .error .eintr⟩,
    ⟨.inl (.pwrite 3 patchedGreeting.patch 6), .ok 5⟩,
    ⟨.inr (.seekCurrent 3), .ok 11⟩,
    ⟨.inr (.pread 3 11 0), .ok helloUnix⟩,
    ⟨.inr (.seekCurrent 3), .ok 11⟩,
    ⟨.inr (.seekStart 3), .ok 0⟩,
    ⟨.inl (.readv 3 (threeParts 64)), .ok 11⟩,
    ⟨.inr (.loadBuffers (spans (threeParts 64))), helloUnix⟩,
    ⟨.inl (.close 3), .ok ()⟩,
    ⟨.inl (.unlink "./lab_file_io.qT40xz"), .ok ()⟩]

/-- It is a run of `main`. -/
theorem shortWrites_run : main.Run shortWrites (some .success) :=
  ⟨9, .call _ (.call _ (.call _ (.call _ (.call _ (.call _ (.call _ (.call _
    (.call _ (.call _ (.call _ (.call _ (.call _ (.ret _)))))))))))))⟩

/-- The kernel may answer so. -/
theorem shortWrites_legal :
    audit.Legal patchedGreeting.fresh shortWrites := by
  have reads : Reads helloUnix 11 helloUnix :=
    ⟨List.prefix_refl _, by decide, nofun⟩
  exact ⟨(by decide : (0 : Fd) ≤ 3), (by decide : 3 ≤ 11),
    (by decide : 8 ≤ 8), trivial, ⟨(by decide : (0 : Int) ≤ 6),
      (by decide : 5 ≤ 5)⟩, rfl, reads, rfl, rfl,
    ⟨(by decide : 11 ≤ 11), (by decide : 0 + 11 ≤ max 0 11)⟩, rfl,
    trivial, trivial, trivial⟩

/-- The greeting is patched and read back. -/
theorem file_io_verdict_shortWrites :
    FileVerdict patchedGreeting shortWrites (some .success) :=
  file_io_verdict shortWrites_run shortWrites_legal

end Runs

end AdvanceUnix.FileIo
