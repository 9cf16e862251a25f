import AdvanceUnix.AttributeRoundTrip
import Mathlib.Logic.Basic

namespace AdvanceUnix.AttributeRoundTrip

open CallTree Audit ExtendedAttributes Delimited LittleEndian

/-!
# The attribute comes back

Whatever other attributes the file has, the one that was set is found in the
list, read as it was written and gone after its removal.  So the program
succeeds exactly if no call fails and the list keeps its length.
-/

variable {held : Held} {kernel : Kernel} {audited : Audited Kernel}
  {name value : List UInt8} {fd : Fd} {path : String}

section Cleanup

/-- The program remembers what it has to give back. -/
structure Owns (held : Held) (kernel : Kernel) : Prop where
  fd : 0 ≤ held.fd → kernel.fd = some held.fd
  noFd : ¬ 0 ≤ held.fd → kernel.fd = none
  file : kernel.file = held.file
  list : held.list = kernel.allocated.isSome

/-- What a run that succeeds has done with the attribute. -/
def wholeHistory : List Step :=
  [.set, .read, .listed, .removed]

/-- The attribute is gone, and all has been done with it. -/
structure Complete (kernel : Kernel) : Prop where
  removed : kernel.present = none
  history : kernel.history = wholeHistory

/-- What the program leaves behind. -/
structure Settled (result : Exit) (after : Audited Kernel) : Prop where
  closed : after.kernel.fd = none
  freed : after.kernel.allocated = none
  unlinked : after.kernel.file = none ∨ after.kernel.unlinkFailed = true
  complete : result = .success → Complete after.kernel

/-- The file is gone, or removing it has failed. -/
def Unlinked (kernel after : Kernel) : Prop :=
  ∃ file refused,
    after = { kernel with file := file, unlinkFailed := refused } ∧
      (file = none ∨ refused = true)

/-- The file is closed, if it is open. -/
theorem closing_ensures
    {result : Exit}
    (isOpen : 0 ≤ held.fd → audited.kernel.fd = some held.fd)
    (notOpen : ¬ 0 ≤ held.fd → audited.kernel.fd = none) :
    (Program.releasing (0 ≤ held.fd) (invoke (.close held.fd)) .failure
      result).Ensures audit.monitor
      (Released (· = { audited.kernel with fd := none }) .failure result
        audited.failed) audited := by
  refine releasing_ensures ?_ fun held =>
    .request (isOpen (of_decide_eq_true held)) ?_
  · intro notHeld
    have closed := notOpen (of_decide_eq_false notHeld)
    exact congrArg (fun fd => { audited.kernel with fd := fd }) closed
  · rintro (error | done) _
    · exact ⟨rfl, Bool.or_true _⟩
    · exact ⟨rfl, Bool.or_false _⟩

/-- The file is removed, if there is one. -/
theorem cleanupFile_ensures
    {result : Exit}
    (file : audited.kernel.file = held.file) :
    (cleanupFile held result).Ensures audit.monitor
      (Released (Unlinked audited.kernel) .failure result audited.failed)
      audited := by
  refine releasingSome_ensures ?_ fun path isNamed =>
    .request (file.trans isNamed) ?_
  · exact fun none => ⟨_, _, rfl, .inl (file.trans none)⟩
  · rintro (error | done) _
    · exact ⟨⟨_, _, rfl, .inr rfl⟩, Bool.or_true _⟩
    · exact ⟨⟨_, _, rfl, .inl rfl⟩, Bool.or_false _⟩

/-- Closing the file and removing it. -/
theorem cleanupOpen_ensures
    {result : Exit}
    (isOpen : 0 ≤ held.fd → audited.kernel.fd = some held.fd)
    (notOpen : ¬ 0 ≤ held.fd → audited.kernel.fd = none)
    (file : audited.kernel.file = held.file)
    (freed : audited.kernel.allocated = none)
    (complete : result = .success → Complete audited.kernel) :
    (do
      let result ←
        Program.releasing (0 ≤ held.fd) (invoke (.close held.fd)) .failure
          result
      cleanupFile held result : Describing Exit).Ensures audit.monitor
      (Cleaned .failure result audited.failed Settled) audited := by
  refine .bind (.mono (closing_ensures isOpen notOpen) ?_)
  rintro closed ⟨_, closeFailed⟩ ⟨rfl, spoilsClose⟩
  refine .mono (cleanupFile_ensures file) ?_
  rintro final ⟨_, lastFailed⟩ ⟨⟨file, refused, rfl, removed⟩, spoilsFile⟩
  have spoils : Spoils Exit.failure result final audited.failed lastFailed :=
    spoilsClose.trans spoilsFile
  refine ⟨⟨rfl, freed, removed, ?_⟩, spoils⟩
  rintro rfl
  rcases spoils with ⟨same, _⟩ | ⟨different, _⟩
  · obtain ⟨gone, done⟩ := complete same.symm
    exact ⟨gone, done⟩
  · exact Exit.noConfusion different

/-- The cleanup section. -/
theorem cleanup_ensures
    {result : Exit}
    (owns : Owns held audited.kernel)
    (complete : result = .success → Complete audited.kernel) :
    (cleanup held result).Ensures audit.monitor
      (Cleaned .failure result audited.failed Settled) audited := by
  unfold cleanup
  split
  next listed =>
    have allocated := owns.list.symm.trans listed
    refine .request_bind (Option.isSome_iff_ne_none.mp allocated) ?_
    rintro ⟨⟩ _
    have freed :
        audit.monitor.next audited .free () =
          { kernel := { audited.kernel with allocated := none }
            failed := audited.failed } :=
      congrArg (Audited.mk _) (Bool.or_false audited.failed)
    refine freed.symm ▸ ?_
    exact @cleanupOpen_ensures held
      { audited with kernel := { audited.kernel with allocated := none } }
      result owns.fd owns.noFd owns.file rfl fun succeeded =>
        ⟨(complete succeeded).removed, (complete succeeded).history⟩
  next unlisted =>
    have freed : audited.kernel.allocated = none :=
      Option.not_isSome_iff_eq_none.mp fun allocated =>
        unlisted (owns.list.trans allocated)
    exact cleanupOpen_ensures owns.fd owns.noFd owns.file freed complete

end Cleanup

section Verdict

/-- What `main` is to establish. -/
abbrev Establishes : Exit → Audited Kernel → Prop :=
  Returned Exit.success True Settled

/-- Giving up after a failure. -/
theorem giveUp_ensures
    (owns : Owns held audited.kernel)
    (failing : audited.failed = true) :
    (cleanup held .failure).Ensures audit.monitor Establishes audited :=
  Cleaned.givenUp (cleanup_ensures owns nofun) nofun (.inl failing)

/-- The kernel with the file open. -/
def fileKernel
    (fd : Fd)
    (path : String)
    (present : Option Attribute)
    (allocated : Option Nat)
    (history : List Step) : Kernel where
  fd := some fd
  file := some path
  present := present
  allocated := allocated
  history := history

/-- What the program holds then. -/
theorem owns_file
    {present : Option Attribute}
    {allocated : Option Nat}
    {history : List Step}
    (valid : 0 ≤ fd) :
    Owns { fd := fd, file := some path, list := allocated.isSome }
      (fileKernel fd path present allocated history) where
  fd := fun _ => rfl
  noFd := fun invalid => (invalid valid).elim
  file := rfl
  list := rfl

/-- Memory that begins with some bytes shows them. -/
theorem slice_filled (bytes : List UInt8) (stale : Nat → UInt8) :
    slice (filled bytes stale) 0 bytes.length = bytes := by
  refine List.ext_getElem (length_slice _ _ _) fun index _ inside => ?_
  simp [slice, filled, inside]

/-- A list with the own attribute is not empty. -/
theorem Kernel.Lists.nonempty
    {bytes : List UInt8}
    {own : Attribute}
    (lists : kernel.Lists bytes)
    (isPresent : kernel.present = some own) :
    bytes ≠ [] := by
  obtain ⟨names, _, included, rfl⟩ := lists
  intro nothing
  have blank := List.flatMap_eq_nil_iff.mp nothing own.name
    (included own isPresent)
  exact List.append_ne_nil_of_right_ne_nil _ (List.cons_ne_nil 0 []) blank

/-- The own attribute is found among any others. -/
theorem listContains_own
    {bytes : List UInt8}
    {own : Attribute}
    (noNul : 0 ∉ own.name)
    (isPresent : kernel.present = some own)
    (lists : kernel.Lists bytes)
    (stale : Nat → UInt8) :
    (listContains (filled bytes stale) bytes.length own.name).1 = true := by
  obtain ⟨names, namesNoNul, included, rfl⟩ := lists
  refine (listContainsFrom_iff noNul).mpr ?_
  rw [Nat.sub_zero, slice_filled, isItem_flatMap namesNoNul]
  exact included own isPresent

/-- `main` once the attribute has been listed. -/
theorem remove_ensures
    {size : Nat}
    (valid : 0 ≤ fd) :
    (remove name value
      { fd := fd, file := some path, list := true }).Ensures audit.monitor
      Establishes
      { kernel :=
          fileKernel fd path (some ⟨name, value⟩) (some size)
            [.set, .read, .listed] } := by
  have owns (present : Option Attribute) {history : List Step} :
      Owns { fd := fd, file := some path, list := true }
        (fileKernel fd path present (some size) history) :=
    @owns_file fd path present (some size) history valid
  refine .request_bind ⟨rfl, value, rfl⟩ ?_
  rintro (error | ⟨⟩) _
  · exact giveUp_ensures (owns _) rfl
  refine .request_bind ⟨rfl, nofun⟩ ?_
  rintro (error | bytes) allowed
  · by_cases gone : error = .enodata
    · simp only [gone, ↓reduceIte]
      exact Cleaned.succeeded
        (cleanup_ensures (owns none) fun _ => ⟨rfl, rfl⟩) nofun rfl trivial
    · simp only [gone, ↓reduceIte]
      exact giveUp_ensures (owns none) (decide_eq_true gone)
  · exact (Option.some_ne_none _ allowed.1.symm).elim

/-- `main` once the attribute has been read. -/
theorem list_ensures
    (valid : 0 ≤ fd)
    (noNul : 0 ∉ name) :
    (list name value { fd := fd, file := some path }).Ensures audit.monitor
      Establishes
      { kernel :=
          fileKernel fd path (some ⟨name, value⟩) none [.set, .read] } := by
  have owns (allocated : Option Nat) {history : List Step} :
      Owns { fd := fd, file := some path, list := allocated.isSome }
        (fileKernel fd path (some ⟨name, value⟩) allocated history) :=
    owns_file valid
  refine .request_bind rfl ?_
  rintro (error | listSize) allowed
  · exact giveUp_ensures (owns none) rfl
  dsimp only
  by_cases empty : listSize = 0
  · obtain ⟨bytes, lists, rfl⟩ := allowed
    exact (lists.nonempty rfl (List.eq_nil_of_length_eq_zero empty)).elim
  simp only [empty, ↓reduceIte]
  refine .request_bind ⟨rfl, empty⟩ ?_
  rintro (_ | stale) _
  · exact giveUp_ensures (owns none) rfl
  refine .request_bind ⟨rfl, rfl⟩ ?_
  rintro (error | listed) lists
  · exact giveUp_ensures (owns (some listSize)) rfl
  by_cases changed : listed.length = listSize
  · obtain rfl := changed
    have found := listContains_own noNul rfl lists.1 stale
    have asExpected :
        ¬ (listed.length ≠ listed.length ∨
          (listContains (filled listed stale) listed.length name).1 =
            false) := by
      rw [found]
      simp
    have listing :
        audit.monitor.next
            { kernel :=
                fileKernel fd path (some ⟨name, value⟩)
                  (some listed.length) [.set, .read] }
            (.flistxattr fd listed.length) (.ok listed) =
          { kernel :=
              fileKernel fd path (some ⟨name, value⟩)
                (some listed.length) [.set, .read, .listed] } :=
      congrArg (Audited.mk _) (decide_eq_false (not_not_intro rfl))
    simp only [asExpected, ↓reduceIte]
    refine listing.symm ▸ ?_
    exact remove_ensures valid
  · have differs :
        listed.length ≠ listSize ∨
          (listContains (filled listed stale) listed.length name).1 = false :=
      .inl changed
    simp only [differs, ↓reduceIte]
    exact giveUp_ensures (owns (some listSize)) (decide_eq_true changed)

/-- `main` with its file open. -/
theorem describe_ensures
    (valid : 0 ≤ fd)
    (noNul : 0 ∉ name) :
    (describe name value { fd := fd, file := some path }).Ensures
      audit.monitor Establishes
      { kernel := fileKernel fd path none none [] } := by
  have owns (present : Option Attribute) {history : List Step} :
      Owns { fd := fd, file := some path }
        (fileKernel fd path present none history) :=
    @owns_file fd path present none history valid
  refine .request_bind ⟨rfl, rfl, rfl⟩ ?_
  rintro (error | ⟨⟩) _
  · exact giveUp_ensures (owns none) rfl
  refine .request_bind rfl ?_
  rintro (error | size) allowed
  · exact giveUp_ensures (owns _) rfl
  obtain ⟨other, same, rfl⟩ := allowed
  obtain rfl : value = other := by
    injection same with same
    injection same
  simp only [↓reduceIte]
  have fits : value.length ≤ value.length + 1 := Nat.le_succ _
  refine .request_bind ⟨rfl, ?_⟩ ?_
  · rintro _ ⟨⟩
    exact ⟨rfl, fits⟩
  rintro (error | read) allowed
  · have others : error ≠ .enodata := fun gone =>
      Option.some_ne_none _ (allowed gone)
    simp only [Except.toOption, reduceCtorEq, ↓reduceIte]
    exact giveUp_ensures (owns _) (decide_eq_true others)
  obtain rfl : value = read := by
    injection allowed.1 with same
    injection same
  simp only [Except.toOption, ↓reduceIte]
  exact list_ensures valid noNul

/-- What `main` establishes. -/
theorem main_ensures (noNul : 0 ∉ name) :
    (mainDescribing name value).Ensures audit.monitor Establishes
      { kernel := {} } := by
  refine .request_bind ⟨rfl, rfl⟩ ?_
  rintro (error | ⟨fd, path⟩) opened
  · exact giveUp_ensures ⟨nofun, fun _ => rfl, rfl, rfl⟩ rfl
  have valid : 0 ≤ fd := opened
  exact describe_ensures valid noNul

end Verdict

section Runs

variable {events : List (Event Answer)} {outcome : Option Exit}

/--
For any attribute and whatever others come and go: only the open file and the
own attribute are used, the list fits its memory, everything is given back
unless that fails, and the program succeeds exactly if no call fails and the
list keeps its length while it is fetched.
-/
theorem attribute_verdict
    (noNul : 0 ∉ name)
    (run : (mainDescribing name value).Run events outcome)
    (legal : audit.Legal {} events) :
    audit.Report {} .success True Settled events outcome :=
  .of_ensures (main_ensures noNul) run legal

/-- What the memory for the list holds at first. -/
def stale (_ : Nat) : UInt8 := 7

/-- The attribute and its value. -/
def own : Attribute := ⟨attributeName, attributeValue⟩

/-- Another attribute vanishes while the list is fetched. -/
def vanishing : List (Event Answer) :=
  [⟨.mkstemp, .ok (3, "lab")⟩,
    ⟨.fsetxattrCreate 3 own.name own.value, .ok ()⟩,
    ⟨.fgetxattrSize 3 own.name, .ok 19⟩,
    ⟨.fgetxattr 3 own.name 20, .ok own.value⟩, ⟨.flistxattrSize 3, .ok 20⟩,
    ⟨.malloc 20, some stale⟩, ⟨.flistxattr 3 20, .ok (own.name ++ [0])⟩,
    ⟨.free, ()⟩, ⟨.close 3, .ok ()⟩, ⟨.unlink "lab", .ok ()⟩]

/-- It is a run of `main`. -/
theorem vanishing_run :
    (mainDescribing own.name own.value).Run vanishing (some .failure) :=
  ⟨0, .call _ (.call _ (.call _ (.call _ (.call _ (.call _ (.call _ (.call _
    (.call _ (.call _ (.ret _))))))))))⟩

/-- The kernel may answer so. -/
theorem vanishing_legal : audit.Legal {} vanishing := by
  have listed :
      Kernel.Lists (fileKernel 3 "lab" (some own) (some 20) [])
        (own.name ++ [0]) := by
    refine ⟨[own.name], ?_, ?_, rfl⟩
    · rintro name member
      rw [List.mem_singleton.mp member]
      decide
    · rintro _ ⟨⟩
      exact List.mem_singleton_self _
  have longer :
      Kernel.Lists (fileKernel 3 "lab" (some own) none [])
        (own.name ++ [0, 97, 0]) := by
    refine ⟨[own.name, [97]], ?_, ?_, rfl⟩
    · decide
    · rintro _ ⟨⟩
      exact List.mem_cons_self
  exact ⟨(by decide : (0 : Fd) ≤ 3), trivial, ⟨_, rfl, rfl⟩,
    ⟨rfl, (by decide : own.value.length ≤ 20)⟩, ⟨_, longer, rfl⟩, trivial,
    ⟨listed, (by decide : (own.name ++ [0]).length ≤ 20)⟩, trivial, trivial,
    trivial, trivial⟩

/-- No call is refused, but the list has changed. -/
theorem attribute_verdict_vanishing :
    audit.Report {} .success True Settled vanishing (some .failure) := by
  have noNul : 0 ∉ own.name := by decide
  exact attribute_verdict noNul vanishing_run vanishing_legal

end Runs

end AdvanceUnix.AttributeRoundTrip
