import AdvanceUnix.Delimited
import AdvanceUnix.InotifyNames
import AdvanceUnix.ProcessControl

namespace AdvanceUnix.ProcessControl

open CallTree
open FilesystemEvents (strcmp strcmp_eq_zero)
open LittleEndian (slice)

/-!
# What the captured output is taken for

The bytes that the program has captured are the first ones of the output, as
many as the buffer holds, however they arrive.  The comparison stops at a NUL,
so it also accepts an output that goes on behind the expected text with one.
-/

/-- What the spawned program writes before it closes its output, and its end. -/
structure Output where
  bytes : List UInt8
  status : WaitStatus
  deriving DecidableEq, Repr

/--
What a read may answer once some bytes of the output have been delivered: more
of them, the end of the file behind the last one, or an error.
-/
def Output.Delivers
    (output : Output)
    (delivered size : Nat) : Result (List UInt8) → Prop
  | .ok [] => delivered = output.bytes.length
  | .ok chunk =>
      chunk.length ≤ size ∧ chunk <+: output.bytes.drop delivered
  | .error _ => True

/-- The pipe delivers the output, and the child ends as it does. -/
def delivering (output : Output) : Monitor Answer Nat where
  next := fun delivered request answer =>
    match request with
    | .read _ _ =>
        match (answer : Result (List UInt8)) with
        | .ok chunk => delivered + chunk.length
        | .error _ => delivered
    | _ => delivered
  allows := fun delivered request answer =>
    match request with
    | .read _ size => output.Delivers delivered size answer
    | .waitpid _ =>
        match (answer : Result WaitStatus) with
        | .ok status => status = output.status
        | .error _ => True
    | _ => True
  safe := fun _ _ => True

variable {output : Output} {stale : Nat → UInt8}

/-- The monitor of the output permits every call. -/
theorem delivering_indifferent : Indifferent (delivering output) :=
  fun _ _ _ => trivial

/-- What has been captured while the loop goes on. -/
structure Captured
    (output : Output)
    (captured : List UInt8)
    (delivered : Nat) : Prop where
  counted : delivered = captured.length
  bounded : captured.length ≤ captureLimit
  delivered_prefix : captured <+: output.bytes

/-- A chunk is captured behind what has been captured before. -/
theorem Captured.append
    {captured chunk : List UInt8}
    {delivered : Nat}
    (soFar : Captured output captured delivered)
    (nonempty : chunk ≠ [])
    (delivers :
      output.Delivers delivered (captureLimit - captured.length)
        (.ok chunk)) :
    Captured output (captured ++ chunk) (delivered + chunk.length) := by
  obtain ⟨rest, shape⟩ := soFar.delivered_prefix
  have bounded := soFar.bounded
  cases chunk with
  | nil => exact (nonempty rfl).elim
  | cons byte chunk =>
      obtain ⟨short, begins⟩ := delivers
      constructor
      · rw [soFar.counted, List.length_append]
      · rw [List.length_append]
        omega
      · rw [soFar.counted, ← shape, List.drop_left] at begins
        rw [← shape]
        exact (List.prefix_append_right_inj captured).mpr begins

/-- The loop captures the first bytes of the output. -/
theorem capture_delivering (fd : Fd) :
    (capture fd).Ensures (delivering output)
      (fun answer _ =>
        ∀ captured,
          answer = .ok captured →
          captured = output.bytes.take captureLimit) 0 := by
  have start : Captured output [] 0 :=
    ⟨rfl, Nat.zero_le captureLimit, List.nil_prefix⟩
  refine .iterate (Captured output) ?_ start
  intro captured delivered soFar
  have takes :
      captured = output.bytes.take captured.length :=
    List.prefix_iff_eq_take.mp soFar.delivered_prefix
  unfold captureStep
  by_cases room : captured.length < captureLimit
  · rw [if_pos room]
    refine .request_bind trivial ?_
    rintro (error | chunk) delivers
    · refine .pure ?_
      rw [captureAnswered]
      split
      · exact soFar
      · exact nofun
    · cases chunk with
      | nil =>
          refine .pure ?_
          rintro final ⟨⟩
          have ended : captured.length = output.bytes.length :=
            soFar.counted.symm.trans delivers
          rw [ended, List.take_length] at takes
          have short : output.bytes.length ≤ captureLimit :=
            ended ▸ soFar.bounded
          rw [List.take_of_length_le short, takes]
      | cons byte chunk =>
          exact .pure (soFar.append (List.cons_ne_nil byte chunk) delivers)
  · rw [if_neg room]
    refine .pure ?_
    rintro final ⟨⟩
    have full : captured.length = captureLimit :=
      Nat.le_antisymm soFar.bounded (not_lt.mp room)
    rw [← full]
    exact takes

/-- The array holds what was captured and the terminator. -/
theorem slice_terminated
    (captured : List UInt8)
    (stale : Nat → UInt8) :
    slice (terminated captured stale) 0 (captured.length + 1) =
      captured ++ [0] := by
  apply List.ext_getElem
  · simp only [LittleEndian.length_slice, List.length_append,
      List.length_singleton]
  · intro index inside _
    rw [LittleEndian.length_slice] at inside
    simp only [slice, List.getElem_map, List.getElem_range', Nat.zero_add,
      Nat.one_mul, terminated]
    by_cases last : index = captured.length
    · subst last
      rw [if_pos rfl, List.getElem_concat_length rfl]
    · have before : index < captured.length := by omega
      rw [if_neg last, List.getElem_append_left before,
        List.getD_eq_getElem?_getD, List.getElem?_eq_getElem before,
        Option.getD_some]

/-- The expected text contains no NUL. -/
theorem expected_noNul : 0 ∉ expected := by decide

/-- An output that the comparison does not tell from the expected one. -/
def Output.Accepted (output : Output) : Prop :=
  output.bytes = expected ∨ expected ++ [0] <+: output.bytes

/-- The comparison of the captured bytes accepts these outputs. -/
theorem strcmp_accepts :
    (strcmp (terminated (output.bytes.take captureLimit) stale) 0
        (expected ++ [0])).1 = 0 ↔
      output.Accepted := by
  have nul :
      0 ∈ slice (terminated (output.bytes.take captureLimit) stale) 0
        ((output.bytes.take captureLimit).length + 1) := by
    rw [slice_terminated]
    exact List.mem_append_right _ List.mem_cons_self
  rw [strcmp_eq_zero nul expected_noNul, slice_terminated]
  constructor
  · intro same
    by_cases cut : 0 ∈ output.bytes.take captureLimit
    · obtain ⟨text, rest, shape, noNul⟩ := List.eq_append_cons_of_mem cut
      rw [shape, List.append_assoc, List.cons_append,
        Delimited.takeWhile_ended noNul] at same
      have begins : expected ++ [0] <+: output.bytes.take captureLimit := by
        rw [shape, same]
        exact ⟨rest, by simp⟩
      exact .inr (begins.trans (List.take_prefix _ _))
    · rw [Delimited.takeWhile_ended cut] at same
      have short : output.bytes.length ≤ captureLimit := by
        have lengths := congrArg List.length same
        rw [List.length_take] at lengths
        have small : expected.length < captureLimit := by decide
        omega
      rw [List.take_of_length_le short] at same
      exact .inl same
  · rintro (same | ⟨rest, shape⟩)
    · rw [same]
      decide
    · have fits : (expected ++ [0]).length ≤ captureLimit := by decide
      rw [← shape, List.take_append, List.take_of_length_le fits,
        List.append_assoc, List.append_assoc, List.singleton_append,
        Delimited.takeWhile_ended expected_noNul]

/-- A successful verification has accepted the output of a child that exited. -/
theorem verify_delivering
    {delivered : Nat}
    (held : Held)
    (child : Pid) :
    (verify stale held child
        (output.bytes.take captureLimit)).Ensures (delivering output)
      (fun final _ =>
        final = .success →
        output.status = .exited 0 ∧ output.Accepted) delivered := by
  have waited :
      (ChildProcess.waitForChild child).Ensures (delivering output)
        (fun answer _ =>
          ∀ status, answer = .ok status → status = output.status)
        delivered := by
    refine retryEintr_ensures (fun _ => True) ?_ trivial
    intro current _
    refine .request trivial ?_
    rintro (error | status) reported
    · exact ⟨fun _ => trivial, fun _ => nofun⟩
    · rintro _ ⟨⟩
      exact reported
  refine .bind (waited.mono ?_)
  rintro (error | status) after reported
  · exact cleanup_indifferent delivering_indifferent _ nofun
  obtain rfl := reported status rfl
  dsimp only
  split
  next succeeded =>
    split
    · exact cleanup_indifferent delivering_indifferent _ nofun
    next same =>
      apply cleanup_indifferent delivering_indifferent
      intro _
      refine ⟨eq_of_beq succeeded, strcmp_accepts.mp (not_not.mp same)⟩
  · exact cleanup_indifferent delivering_indifferent _ nofun

/-- The file actions deliver nothing. -/
theorem addFileActions_delivering
    {delivered : Nat}
    (pipefd : Fd × Fd) :
    (addFileActions pipefd).Ensures (delivering output)
      (fun _ after => after = delivered) delivered := by
  refine .request_bind trivial ?_
  rintro (error | ⟨⟩) _
  · exact .pure rfl
  refine .request_bind trivial ?_
  rintro (error | ⟨⟩) _
  · exact .pure rfl
  dsimp only
  split
  · exact .request trivial fun _ _ => rfl
  · exact .pure rfl

/-- Every successful run has accepted the output. -/
theorem main_delivering :
    (main stale).Ensures (delivering output)
      (fun final _ =>
        final = .success →
        output.status = .exited 0 ∧ output.Accepted) 0 := by
  have failed :
      ∀ held delivered,
        (cleanup held .failure).Ensures (delivering output)
          (fun final _ =>
            final = .success →
            output.status = .exited 0 ∧ output.Accepted) delivered :=
    fun held _ => cleanup_indifferent delivering_indifferent held nofun
  refine .request_bind trivial ?_
  rintro (error | pipefd) _
  · exact failed _ _
  refine .request_bind trivial ?_
  rintro (error | ⟨⟩) _
  · exact failed _ _
  refine .bind ((addFileActions_delivering pipefd).mono ?_)
  rintro (error | ⟨⟩) _ rfl
  · exact failed _ _
  refine .request_bind trivial ?_
  rintro (error | child) _
  · exact failed _ _
  refine .request_bind trivial ?_
  rintro (error | ⟨⟩) _
  · exact failed _ _
  refine .request_bind trivial ?_
  rintro (error | ⟨⟩) _
  · exact failed _ _
  refine .bind ((capture_delivering _).mono ?_)
  rintro (error | captured) delivered captures
  · exact failed _ _
  · rw [captures captured rfl]
    exact verify_delivering _ child

/-- The calls of a run that captures everything or fills the buffer. -/
def captureEvents (fd : Fd) (output : Output) : Events :=
  ⟨.read fd captureLimit,
      (.ok (output.bytes.take captureLimit) : Result (List UInt8))⟩ ::
    if output.bytes.length < captureLimit then
      [⟨.read fd (captureLimit - output.bytes.length),
        (.ok [] : Result (List UInt8))⟩]
    else
      []

/-- Some bytes are appended to what was captured. -/
theorem captureAnswered_bytes
    (captured : List UInt8)
    {bytes : List UInt8}
    (nonempty : bytes ≠ []) :
    captureAnswered captured (.ok bytes) = .again (captured ++ bytes) := by
  cases bytes with
  | nil => exact (nonempty rfl).elim
  | cons byte rest => rfl

/-- The loop has such a run. -/
theorem capture_run
    (fd : Fd)
    (nonempty : output.bytes ≠ []) :
    (capture fd 2).Run (captureEvents fd output)
      (some (.ok (output.bytes.take captureLimit))) := by
  have someBytes : output.bytes.take captureLimit ≠ [] := by
    intro none
    rcases List.take_eq_nil_iff.mp none with noRoom | noBytes
    · exact absurd noRoom (by decide)
    · exact nonempty noBytes
  have first :
      (captureStep fd [] 2).Run
        [⟨.read fd captureLimit,
          (.ok (output.bytes.take captureLimit) : Result (List UInt8))⟩]
        (some (.again (output.bytes.take captureLimit))) := by
    have answered := captureAnswered_bytes [] someBytes
    rw [List.nil_append] at answered
    rw [← answered]
    exact .call _ (.ret _)
  have last :
      (captureStep fd (output.bytes.take captureLimit) 2).Run
        (if output.bytes.length < captureLimit then
          [⟨.read fd (captureLimit - output.bytes.length),
            (.ok [] : Result (List UInt8))⟩]
        else
          [])
        (some (.done (.ok (output.bytes.take captureLimit)))) := by
    unfold captureStep
    by_cases short : output.bytes.length < captureLimit
    · rw [if_pos short, List.take_of_length_le (Nat.le_of_lt short),
        if_pos short]
      exact .call _ (.ret _)
    · have full : (output.bytes.take captureLimit).length = captureLimit :=
        List.length_take_of_le (not_lt.mp short)
      rw [if_neg short, if_neg (by rw [full]; exact lt_irrefl captureLimit)]
      exact .ret _
  exact Tree.Run.again (fun current => captureStep fd current 2) first
    (.done _ last)

/-- A first chunk is delivered from the front of the output. -/
theorem delivers_first
    (nonempty : output.bytes ≠ []) :
    output.Delivers 0 captureLimit
      (.ok (output.bytes.take captureLimit)) := by
  have bounded := List.length_take_le captureLimit output.bytes
  have begins := List.take_prefix captureLimit output.bytes
  cases shape : output.bytes.take captureLimit with
  | nil =>
      rcases List.take_eq_nil_iff.mp shape with noRoom | noBytes
      · exact absurd noRoom (by decide)
      · exact (nonempty noBytes).elim
  | cons byte rest =>
      rw [shape] at bounded begins
      exact ⟨bounded, begins⟩

/-- Such a run is legal, and so is what follows without another read. -/
theorem capture_legal
    (fd : Fd)
    (nonempty : output.bytes ≠ []) :
    (delivering output).Legal 0 (captureEvents fd output) := by
  refine ⟨delivers_first nonempty, ?_⟩
  split
  next short =>
    have whole :
        0 + (output.bytes.take captureLimit).length =
          output.bytes.length := by
      rw [Nat.zero_add, List.take_of_length_le (Nat.le_of_lt short)]
    exact ⟨whole, trivial⟩
  · trivial

/-- The calls of a verification that ends with a closed reader. -/
def verifyEvents (child : Pid) (status : WaitStatus) : Events :=
  [⟨.waitpid child, (.ok status : Result WaitStatus)⟩,
    ⟨.close 3, (.ok () : Result Unit)⟩]

/-- The verification of an accepted output can succeed. -/
theorem verify_run
    (child : Pid)
    (accepted : output.Accepted)
    (exited : output.status = .exited 0) :
    (verify stale { pipefd := (3, -1), child := some child } child
        (output.bytes.take captureLimit) 2).Run
      (verifyEvents child output.status) (some .success) := by
  rw [exited]
  have same :
      ¬ (strcmp (terminated (output.bytes.take captureLimit) stale) 0
          (expected ++ [0])).1 ≠ 0 :=
    not_not.mpr (strcmp_accepts.mpr accepted)
  refine .call _ ?_
  change Tree.Run ((if _ then _ else _ : Sys Exit) 2) _ _
  rw [if_neg same]
  exact .call _ (.ret _)

/-- The calls that lead to a spawned child. -/
def spawnEvents (child : Pid) : Events :=
  [⟨.pipe2, (.ok (3, 4) : Result (Fd × Fd))⟩,
    ⟨.spawnActionsInit, (.ok () : Result Unit)⟩,
    ⟨.spawnActionsAdd (.close 3), (.ok () : Result Unit)⟩,
    ⟨.spawnActionsAdd (.dup2 4 stdoutFileno), (.ok () : Result Unit)⟩,
    ⟨.spawnActionsAdd (.close 4), (.ok () : Result Unit)⟩,
    ⟨.posixSpawnp, (.ok child : Result Pid)⟩,
    ⟨.spawnActionsDestroy, (.ok () : Result Unit)⟩,
    ⟨.close 4, (.ok () : Result Unit)⟩]

/-- An accepted output of a child that exits can be a success. -/
theorem main_run
    (stale : Nat → UInt8)
    (child : Pid)
    (accepted : output.Accepted)
    (exited : output.status = .exited 0) :
    ∃ events,
      (main stale).Run events (some .success) ∧
        (delivering output).Legal 0 events := by
  have nonempty : output.bytes ≠ [] := by
    rintro none
    rcases accepted with same | ⟨rest, same⟩
    · rw [none] at same
      exact absurd same (by decide)
    · rw [none] at same
      exact absurd same (by simp)
  refine ⟨spawnEvents child ++
    (captureEvents 3 output ++ verifyEvents child output.status),
    ⟨2, ?_⟩, ?_⟩
  · refine .call _ (.call _ (.call _ (.call _ (.call _ (.call _
      (.call _ (.call _ ?_)))))))
    change (Tree.bind (capture 3 2) _).Run
      (captureEvents 3 output ++ verifyEvents child output.status) _
    exact Tree.Run.bind (capture_run 3 nonempty)
      (verify_run child accepted exited)
  · rw [Monitor.legal_append, Monitor.legal_append]
    refine ⟨?_, capture_legal 3 nonempty, ?_⟩
    · exact ⟨trivial, trivial, trivial, trivial, trivial, trivial, trivial,
        trivial, trivial⟩
    · exact ⟨rfl, trivial, trivial⟩

/-- A success means that the child has written the expected text, and exited. -/
def Output.Verified (output : Output) : Prop :=
  ∀ (stale : Nat → UInt8) (events : Events),
    (main stale).Run events (some .success) →
    (delivering output).Legal 0 events →
    output.status = .exited 0 ∧ output.bytes = expected

/-- The expected text, but with a NUL behind it. -/
def terminatedOutput : Output where
  bytes := expected ++ [0]
  status := .exited 0

/-- A text with a NUL behind it is taken for the expected one. -/
theorem capture_verdict_terminatedOutput :
    ¬ terminatedOutput.Verified := by
  intro verified
  have accepted : terminatedOutput.Accepted :=
    .inr (List.prefix_refl (expected ++ [0]))
  obtain ⟨events, run, legal⟩ :=
    main_run (fun _ => 0) ⟨1, Nat.one_pos⟩ accepted rfl
  exact absurd (verified _ events run legal).2 (by decide)

/--
A success means this for exactly those outputs that do not go on with a NUL
behind the expected text, unless the child fails.
-/
theorem capture_verdict
    (output : Output) :
    output.Verified ↔
      ¬ (expected ++ [0] <+: output.bytes ∧ output.status = .exited 0) := by
  constructor
  · rintro verified ⟨begins, exited⟩
    obtain ⟨events, run, legal⟩ :=
      main_run (fun _ => 0) ⟨1, Nat.one_pos⟩ (.inr begins) exited
    have same := (verified _ events run legal).2
    have longer := begins.length_le
    rw [same, List.length_append, List.length_singleton] at longer
    exact absurd longer (Nat.not_succ_le_self _)
  · intro told stale events run legal
    obtain ⟨exited, accepted⟩ :=
      (main_delivering.sound run legal).2 _ rfl rfl
    rcases accepted with same | begins
    · exact ⟨exited, same⟩
    · exact (told ⟨begins, exited⟩).elim

end AdvanceUnix.ProcessControl
