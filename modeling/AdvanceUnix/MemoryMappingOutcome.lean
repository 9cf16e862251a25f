import AdvanceUnix.MemoryMapping
import Mathlib.Logic.Basic

namespace AdvanceUnix.MemoryMapping

open CallTree Audit PositionedIo

/-!
# What is stored is in the file

Through a shared mapping the payload reaches the file, through a private one
it does not.  Nothing is stored outside the mapping or behind the end of the
file, and everything is given back.
-/

variable {pageSize : Nat} {held : Held} {kernel : Kernel}
  {audited : Audited Kernel} {payload : List UInt8} {fd : Fd}
  {visibility : Visibility}

section Cleanup

/-- The program remembers what it has to give back. -/
structure Owns (held : Held) (kernel : Kernel) : Prop where
  fd : 0 ≤ held.fd → kernel.fd = some held.fd
  noFd : ¬ 0 ≤ held.fd → kernel.fd = none
  file : kernel.file = held.file
  mapping :
    ∀ address,
      held.mapping = some address →
      kernel.Maps address held.mappingLength
  noMapping : held.mapping = none → kernel.mapping = none

/-- What is in a file of one page after the payload has been stored. -/
def visible
    (pageSize : Nat)
    (visibility : Visibility)
    (payload : List UInt8) : List UInt8 :=
  match visibility with
  | .isShared => overwrite (List.replicate pageSize 0) 0 payload
  | .isPrivate => List.replicate pageSize 0

/-- What the program leaves behind, when it was to leave some content. -/
structure Settled
    (content : List UInt8)
    (result : Exit)
    (after : Audited Kernel) : Prop where
  closed : after.kernel.fd = none
  unmapped :
    after.kernel.mapping = none ∨ after.kernel.munmapFailed = true
  unlinked : after.kernel.file = none ∨ after.kernel.unlinkFailed = true
  stored : result = .success → after.kernel.content = content

/-- The mapping is gone, or removing it has failed. -/
def Unmapped (kernel after : Kernel) : Prop :=
  ∃ mapping refused,
    after = { kernel with mapping := mapping, munmapFailed := refused } ∧
      (mapping = none ∨ refused = true)

/-- The file is gone, or removing it has failed. -/
def Unlinked (kernel after : Kernel) : Prop :=
  ∃ file refused,
    after = { kernel with file := file, unlinkFailed := refused } ∧
      (file = none ∨ refused = true)

/-- The mapping is removed, if there is one. -/
theorem cleanupMapping_ensures
    {result : Exit}
    (owns : Owns held audited.kernel) :
    (cleanupMapping held result).Ensures (audit pageSize).monitor
      (Released (Unmapped audited.kernel) .failure result audited.failed)
      audited := by
  refine releasingSome_ensures ?_ fun address isMapped =>
    .request (owns.mapping address isMapped) ?_
  · exact fun none => ⟨_, _, rfl, .inl (owns.noMapping none)⟩
  · rintro (error | done) _
    · exact ⟨⟨_, _, rfl, .inr rfl⟩, Bool.or_true _⟩
    · exact ⟨⟨_, _, rfl, .inl rfl⟩, Bool.or_false _⟩

/-- The file is closed, if it is open. -/
theorem closing_ensures
    {result : Exit}
    (isOpen : 0 ≤ held.fd → audited.kernel.fd = some held.fd)
    (notOpen : ¬ 0 ≤ held.fd → audited.kernel.fd = none) :
    (Program.releasing (0 ≤ held.fd) (invoke (.close held.fd)) .failure
      result).Ensures (audit pageSize).monitor
      (Released (· = { audited.kernel with fd := none }) .failure result
        audited.failed) audited := by
  refine releasing_ensures ?_ fun held =>
    .request (isOpen (of_decide_eq_true held)) ?_
  · intro notHeld
    have closed := notOpen (of_decide_eq_false notHeld)
    exact congrArg (fun fd => { audited.kernel with fd := fd }) closed
  · rintro (error | done) _
    · exact ⟨rfl, Bool.or_true _⟩
    · exact ⟨rfl, Bool.or_false _⟩

/-- The file is removed, if there is one. -/
theorem cleanupFile_ensures
    {result : Exit}
    (file : audited.kernel.file = held.file) :
    (cleanupFile held result).Ensures (audit pageSize).monitor
      (Released (Unlinked audited.kernel) .failure result audited.failed)
      audited := by
  refine releasingSome_ensures ?_ fun path isNamed =>
    .request (file.trans isNamed) ?_
  · exact fun none => ⟨_, _, rfl, .inl (file.trans none)⟩
  · rintro (error | done) _
    · exact ⟨⟨_, _, rfl, .inr rfl⟩, Bool.or_true _⟩
    · exact ⟨⟨_, _, rfl, .inl rfl⟩, Bool.or_false _⟩

/-- The cleanup section. -/
theorem cleanup_ensures
    {content : List UInt8}
    {result : Exit}
    (owns : Owns held audited.kernel)
    (stored : result = .success → audited.kernel.content = content) :
    (cleanup held result).Ensures (audit pageSize).monitor
      (Cleaned .failure result audited.failed (Settled content))
      audited := by
  refine .bind (.mono (cleanupMapping_ensures owns) ?_)
  rintro unmapped ⟨_, failed⟩ ⟨⟨mapping, refused, rfl, gone⟩, spoils⟩
  refine .bind (.mono (closing_ensures owns.fd owns.noFd) ?_)
  rintro closed ⟨_, closeFailed⟩ ⟨rfl, spoilsClose⟩
  refine .mono (cleanupFile_ensures owns.file) ?_
  rintro final ⟨_, lastFailed⟩ ⟨⟨file, kept, rfl, removed⟩, spoilsFile⟩
  have spoiled : Spoils Exit.failure result final audited.failed lastFailed :=
    spoils.trans (spoilsClose.trans spoilsFile)
  refine ⟨⟨rfl, gone, removed, ?_⟩, spoiled⟩
  rintro rfl
  rcases spoiled with ⟨same, _⟩ | ⟨different, _⟩
  · exact stored same.symm
  · exact Exit.noConfusion different

end Cleanup

section Verdict

/-- What the program tests: the payload fits, and storing it shows. -/
def Shows
    (pageSize : Nat)
    (visibility : Visibility)
    (payload : List UInt8) : Prop :=
  payload.length ≤ pageSize ∧
    (visibility = .isShared ∨ payload = List.replicate payload.length 0)

/-- What `main` is to establish. -/
abbrev Establishes
    (pageSize : Nat)
    (visibility : Visibility)
    (payload : List UInt8) : Exit → Audited Kernel → Prop :=
  Returned Exit.success (Shows pageSize visibility payload)
    (Settled (visible pageSize visibility payload))

/-- Giving up after a failure, or because the payload does not show. -/
theorem giveUp_ensures
    (owns : Owns held audited.kernel)
    (reason :
      audited.failed = true ∨ ¬ Shows pageSize visibility payload) :
    (cleanup held .failure).Ensures (audit pageSize).monitor
      (Establishes pageSize visibility payload) audited :=
  Cleaned.givenUp (cleanup_ensures owns nofun) nofun reason

/-- A new file of one page. -/
theorem padded_empty (pageSize : Nat) :
    padded 0 (([] : List UInt8).take pageSize) pageSize =
      List.replicate pageSize 0 := by
  rw [List.take_nil, padded, List.nil_append]
  rfl

/-- The page is as long as before. -/
theorem length_visible
    (fits : payload.length ≤ pageSize) :
    (visible pageSize visibility payload).length = pageSize := by
  cases visibility with
  | isShared =>
      rw [visible, length_overwrite (Nat.zero_le _), List.length_replicate,
        Nat.zero_add, Nat.max_eq_left fits]
  | isPrivate => exact List.length_replicate

/-- What is read back is the payload exactly if it shows. -/
theorem take_visible
    (fits : payload.length ≤ pageSize) :
    (visible pageSize visibility payload).take payload.length = payload ↔
      Shows pageSize visibility payload := by
  cases visibility with
  | isShared =>
      have written :=
        slice_overwrite (Nat.zero_le (List.replicate pageSize 0).length)
          payload
      exact iff_of_true written ⟨fits, .inl rfl⟩
  | isPrivate =>
      rw [visible, List.take_replicate, Nat.min_eq_left fits]
      exact ⟨fun same => ⟨fits, .inr same.symm⟩, fun shows =>
        (shows.2.resolve_left nofun).symm⟩

/-- The kernel with the file open. -/
def fileKernel
    (fd : Fd)
    (path : String)
    (content : List UInt8)
    (mapping : Option Mapped) : Kernel where
  fd := some fd
  file := some path
  content := content
  mapping := mapping

/-- What the program holds then. -/
theorem owns_file
    {path : String}
    {content : List UInt8}
    {mapping : Option Nat}
    {length : Nat}
    (valid : 0 ≤ fd) :
    Owns
      { fd := fd
        file := some path
        mapping := mapping
        mappingLength := length }
      (fileKernel fd path content
        (mapping.map fun address => ⟨address, length, visibility⟩)) where
  fd := fun _ => rfl
  noFd := fun invalid => (invalid valid).elim
  file := rfl
  mapping := by
    rintro address ⟨⟩
    exact ⟨visibility, rfl⟩
  noMapping := by
    rintro ⟨⟩
    rfl

/-- Reading back the beginning of the file. -/
theorem preadFull_ensures
    {path : String}
    {content : List UInt8}
    {size : Nat}
    (enough : size ≤ content.length) :
    (preadFull fd size).Ensures (audit pageSize).monitor
      (fun answer after =>
        answer.Meets
          (fun _ =>
            after =
              { kernel := fileKernel fd path content none, failed := true })
          (fun bytes =>
            bytes = content.take size ∧
              after = { kernel := fileKernel fd path content none }))
      { kernel := fileKernel fd path content none } := by
  have reading :
      (preadFull fd size).Ensures (audit pageSize).monitor
        (ReadOutcome content size .ok
          (fun _ after =>
            after = { kernel := fileKernel fd path content none })
          (fun _ after =>
            after =
              { kernel := fileKernel fd path content none, failed := true }))
        { kernel := fileKernel fd path content none } := by
    refine .reading ?_ rfl
    rintro received _ _ _ rfl
    refine .request rfl ?_
    intro answer allowed
    cases answer with
    | error error =>
        refine ⟨?_, fun permanent => ?_⟩
        · rintro rfl
          rfl
        · exact congrArg (Audited.mk _) (decide_eq_true permanent)
    | ok bytes => exact ⟨allowed, rfl⟩
  refine reading.mono ?_
  intro answer after outcome
  cases outcome with
  | complete _ holds => exact ⟨rfl, holds⟩
  | ended short _ => exact (Nat.not_le_of_lt short enough).elim
  | failed error failure => exact failure

/-- Storing through either kind of mapping. -/
theorem stores_mapped
    {path : String}
    {address length : Nat} :
    (fileKernel fd path (List.replicate pageSize 0)
        (some ⟨address, length, visibility⟩)).stores payload =
      fileKernel fd path (visible pageSize visibility payload)
        (some ⟨address, length, visibility⟩) := by
  cases visibility with
  | isShared => rfl
  | isPrivate => rfl

/-- `main` with the file mapped. -/
theorem store_ensures
    {path : String}
    {address : Nat}
    (valid : 0 ≤ fd)
    (fits : payload.length ≤ pageSize) :
    (store payload
      { fd := fd, file := some path, mappingLength := pageSize }
      address).Ensures (audit pageSize).monitor
      (Establishes pageSize visibility payload)
      { kernel :=
          fileKernel fd path (List.replicate pageSize 0)
            (some ⟨address, pageSize, visibility⟩) } := by
  have owns
      {content : List UInt8}
      (mapping : Option Nat) :=
    @owns_file fd visibility path content mapping pageSize valid
  have within :
      payload.length ≤ (List.replicate pageSize (0 : UInt8)).length := by
    rw [List.length_replicate]
    exact fits
  refine .request_bind ⟨⟨pageSize, ⟨visibility, rfl⟩, fits⟩, within⟩ ?_
  rintro ⟨⟩ _
  have stored :
      (audit pageSize).monitor.next
          { kernel :=
              fileKernel fd path (List.replicate pageSize 0)
                (some ⟨address, pageSize, visibility⟩) }
          (.memcpy address payload) () =
        { kernel :=
            fileKernel fd path (visible pageSize visibility payload)
              (some ⟨address, pageSize, visibility⟩) } :=
    congrArg (Audited.mk · false) stores_mapped
  refine stored.symm ▸ ?_
  refine .request_bind ⟨visibility, rfl⟩ ?_
  rintro (error | ⟨⟩) _
  · exact giveUp_ensures (owns (some address)) (.inl rfl)
  refine .request_bind ⟨visibility, rfl⟩ ?_
  rintro (error | ⟨⟩) _
  · -- The refusal is on record, and the cleanup section tries again.
    have mapped := @owns [] (some address)
    exact giveUp_ensures
      ⟨mapped.fd, mapped.noFd, mapped.file, mapped.mapping, mapped.noMapping⟩
      (.inl rfl)
  have whole :
      payload.length ≤ (visible pageSize visibility payload).length := by
    rw [length_visible fits]
    exact fits
  refine .bind ((preadFull_ensures whole).mono ?_)
  rintro (error | observed) after met
  · obtain rfl := met
    exact giveUp_ensures (owns none) (.inl rfl)
  obtain ⟨rfl, rfl⟩ := met
  dsimp only
  split
  next same =>
    have shows := (take_visible fits).mp (Option.some.inj same)
    exact Cleaned.succeeded (cleanup_ensures (owns none) fun _ => rfl) nofun
      rfl shows
  next different =>
    refine giveUp_ensures (owns none) (.inr fun shows => different ?_)
    exact congrArg some ((take_visible fits).mpr shows)

/-- What `main` establishes. -/
theorem main_ensures :
    (mainMapping visibility payload).Ensures (audit pageSize).monitor
      (Establishes pageSize visibility payload) { kernel := {} } := by
  have owns (length : Nat) : Owns { mappingLength := length } {} :=
    ⟨nofun, fun _ => rfl, rfl, nofun, fun _ => rfl⟩
  refine .request_bind trivial ?_
  intro answer told
  by_cases none : answer ≤ 0
  · simp only [none, ↓reduceIte]
    exact giveUp_ensures (owns 0) (.inl (decide_eq_true none))
  obtain rfl : answer = pageSize := told (Int.not_le.mp none)
  have asked :
      (audit pageSize).monitor.next { kernel := {} } .sysconf
          (pageSize : Int) =
        { kernel := {} } :=
    congrArg (Audited.mk _) (decide_eq_false none)
  simp only [none, ↓reduceIte, Int.toNat_natCast]
  refine asked.symm ▸ ?_
  by_cases large : payload.length > pageSize
  · simp only [large, ↓reduceIte]
    refine giveUp_ensures (owns pageSize) (.inr fun shows => ?_)
    exact Nat.not_le_of_lt large shows.1
  simp only [large, ↓reduceIte]
  have fits : payload.length ≤ pageSize := Nat.le_of_not_lt large
  refine .request_bind ⟨rfl, rfl⟩ ?_
  rintro (error | ⟨fd, path⟩) opened
  · exact giveUp_ensures (owns pageSize) (.inl rfl)
  have valid : 0 ≤ fd := opened
  have holds {content : List UInt8} :=
    @owns_file fd visibility path content .none pageSize valid
  refine .request_bind rfl ?_
  rintro (error | ⟨⟩) _
  · exact giveUp_ensures holds (.inl rfl)
  have truncated :
      (audit pageSize).monitor.next
          { kernel := fileKernel fd path [] .none } (.ftruncate fd pageSize)
          (.ok ()) =
        { kernel := fileKernel fd path (List.replicate pageSize 0) .none } :=
    congrArg
      (fun content : List UInt8 =>
        ({ kernel := fileKernel fd path content .none } : Audited Kernel))
      (padded_empty pageSize)
  refine truncated.symm ▸ ?_
  have page : pageSize ≠ 0 := by
    rintro rfl
    exact none (Int.le_refl 0)
  refine .request_bind ⟨rfl, rfl, page⟩ ?_
  rintro (error | address) _
  · exact giveUp_ensures holds (.inl rfl)
  exact store_ensures valid fits

end Verdict

section Runs

variable {events : List (Event Answer)} {outcome : Option Exit}

/--
For any payload, any page size and either kind of mapping: nothing is stored
outside the mapping or behind the end of the file, everything is given back
unless that fails, and the program succeeds exactly if nothing fails, the
payload fits and storing it shows in the file, which then holds a page with
what was stored.
-/
theorem mapping_verdict
    (run : (mainMapping visibility payload).Run events outcome)
    (legal : (audit pageSize).Legal {} events) :
    (audit pageSize).Report {} .success (Shows pageSize visibility payload)
      (Settled (visible pageSize visibility payload)) events outcome :=
  .of_ensures main_ensures run legal

/-- One byte through a private mapping, read back after an interruption. -/
def hidden : List (Event Answer) :=
  [⟨.sysconf, (4096 : Int)⟩, ⟨.mkstemp, .ok (3, "lab")⟩,
    ⟨.ftruncate 3 4096, .ok ()⟩, ⟨.mmap 4096 .isPrivate 3, .ok 912⟩,
    ⟨.memcpy 912 [118], ()⟩, ⟨.msync 912 4096, .ok ()⟩,
    ⟨.munmap 912 4096, .ok ()⟩, ⟨.pread 3 1 0, .error .eintr⟩,
    ⟨.pread 3 1 0, .ok [0]⟩, ⟨.close 3, .ok ()⟩, ⟨.unlink "lab", .ok ()⟩]

/-- It is a run of the program with a private mapping. -/
theorem hidden_run :
    (mainMapping .isPrivate [118]).Run hidden (some .failure) :=
  ⟨4, .call _ (.call _ (.call _ (.call _ (.call _ (.call _ (.call _ (.call _
    (.call _ (.call _ (.call _ (.ret _)))))))))))⟩

/-- The kernel may answer so. -/
theorem hidden_legal : (audit 4096).Legal {} hidden := by
  have sized : (0 : Int) < 4096 → (4096 : Int) = ((4096 : Nat) : Int) :=
    fun _ => rfl
  have blank : Reads (List.replicate 4096 (0 : UInt8)) 1 [0] :=
    ⟨⟨List.replicate 4095 0, rfl⟩, Nat.le_refl 1, nofun⟩
  exact ⟨sized, (by decide : (0 : Fd) ≤ 3), trivial, trivial, trivial,
    trivial, trivial, trivial, blank, trivial, trivial, trivial⟩

/-- No call fails, but the byte does not show. -/
theorem mapping_verdict_hidden :
    (audit 4096).Report {} .success (Shows 4096 .isPrivate [118])
      (Settled (visible 4096 .isPrivate [118])) hidden (some .failure) :=
  mapping_verdict hidden_run hidden_legal

end Runs

end AdvanceUnix.MemoryMapping
