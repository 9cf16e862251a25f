import AdvanceUnix.DescriptorTable
import AdvanceUnix.ProcessControl

namespace AdvanceUnix.ProcessControl

open CallTree
open DescriptorTable

/-!
# Where the output of the spawned program goes

The recorded actions are applied to the descriptors that the child inherits,
whatever numbers the pipe has got, and give it the write end of the pipe as
its standard output and nothing else of the pipe.
-/

variable {File : Type}

/-- One recorded action on the descriptors of the child. -/
def applyAction
    (table : Table Fd File) : FileAction → Option (Table Fd File)
  | .close fd => table.close fd
  | .dup2 source target => table.dup2 source target

/-- The recorded actions in their order, as long as they succeed. -/
def applyActions
    (table : Table Fd File) : List FileAction → Option (Table Fd File)
  | [] => some table
  | action :: rest =>
      (applyAction table action).bind fun next => applyActions next rest

/-- What an event records in the spawn actions. -/
def recordedAction : Event Answer → List FileAction
  | ⟨.spawnActionsAdd action, answer⟩ =>
      match (answer : Result Unit) with
      | .ok () => [action]
      | .error _ => []
  | _ => []

/-- The actions that some calls have recorded. -/
def recordedActions (events : Events) : List FileAction :=
  events.flatMap recordedAction

/-- The two ends of a new pipe in a table. -/
structure PipeEnds
    (table : Table Fd File)
    (pipefd : Fd × Fd)
    (readEnd writeEnd : File) : Prop where
  reader : table pipefd.1 = some ⟨readEnd, true⟩
  writer : table pipefd.2 = some ⟨writeEnd, true⟩
  distinct : readEnd ≠ writeEnd
  fresh :
    ∀ fd,
      fd ≠ pipefd.1 →
      fd ≠ pipefd.2 →
      ¬ table.Refers fd readEnd ∧ ¬ table.Refers fd writeEnd

/-- The descriptors of a child that writes into the pipe. -/
structure Redirected
    (table : Table Fd File)
    (pipefd : Fd × Fd)
    (readEnd writeEnd : File)
    (child : Table Fd File) : Prop where
  output : child stdoutFileno = some ⟨writeEnd, false⟩
  single :
    ∀ fd,
      fd ≠ stdoutFileno →
      ¬ child.Refers fd readEnd ∧ ¬ child.Refers fd writeEnd
  ends_closed :
    ∀ fd,
      fd ≠ stdoutFileno →
      fd = pipefd.1 ∨ fd = pipefd.2 →
      child fd = none
  inherited :
    ∀ fd,
      fd ≠ stdoutFileno →
      fd ≠ pipefd.1 →
      fd ≠ pipefd.2 →
      child fd = table.exec fd

/-- The actions that redirect the standard output into the pipe. -/
def redirection (pipefd : Fd × Fd) : List FileAction :=
  [.close pipefd.1, .dup2 pipefd.2 stdoutFileno] ++
    if pipefd.2 ≠ stdoutFileno then [.close pipefd.2] else []

section Redirection

variable {table : Table Fd File} {pipefd : Fd × Fd}
  {readEnd writeEnd : File}

/-- The ends of the pipe have different numbers. -/
theorem PipeEnds.numbers
    (ends : PipeEnds table pipefd readEnd writeEnd) :
    pipefd.1 ≠ pipefd.2 := by
  intro same
  have entries := ends.reader
  rw [same, ends.writer, Option.some.injEq, Entry.mk.injEq] at entries
  exact ends.distinct entries.1.symm

/-- The table before the writer is closed, if it is. -/
def duplicated
    (table : Table Fd File)
    (pipefd : Fd × Fd)
    (writeEnd : File) : Table Fd File :=
  Function.update (table.remove pipefd.1) stdoutFileno
    (some ⟨writeEnd, false⟩)

/-- The first two actions succeed and give the child its output. -/
theorem PipeEnds.duplicates
    (ends : PipeEnds table pipefd readEnd writeEnd)
    (rest : List FileAction) :
    applyActions table
        (.close pipefd.1 :: .dup2 pipefd.2 stdoutFileno :: rest) =
      applyActions (duplicated table pipefd writeEnd) rest := by
  have writerLeft :
      (table.remove pipefd.1) pipefd.2 = some ⟨writeEnd, true⟩ := by
    rw [Table.remove_other ends.numbers.symm, ends.writer]
  have closed : applyAction table (.close pipefd.1) =
      some (table.remove pipefd.1) :=
    Table.close_open ends.reader
  have copied :
      applyAction (table.remove pipefd.1)
          (.dup2 pipefd.2 stdoutFileno) =
        some (duplicated table pipefd writeEnd) :=
    Table.dup2_open writerLeft
  simp only [applyActions, closed, copied, Option.bind_some]

/-- Elsewhere than at the output, only the reader has been closed. -/
theorem duplicated_other
    {fd : Fd}
    (different : fd ≠ stdoutFileno) :
    duplicated table pipefd writeEnd fd = table.remove pipefd.1 fd :=
  Function.update_of_ne different ..

/-- The output refers to the write end and survives an execution. -/
theorem duplicated_output :
    duplicated table pipefd writeEnd stdoutFileno =
      some ⟨writeEnd, false⟩ :=
  Function.update_self ..

/-- All actions succeed, and what they make of each descriptor. -/
theorem PipeEnds.applies
    (ends : PipeEnds table pipefd readEnd writeEnd) :
    ∃ child,
      applyActions table (redirection pipefd) = some child ∧
        child stdoutFileno = some ⟨writeEnd, false⟩ ∧
        ∀ fd,
          fd ≠ stdoutFileno →
          child fd =
            if fd = pipefd.1 ∨ fd = pipefd.2 then none else table fd := by
  have elsewhere :
      ∀ fd,
        fd ≠ stdoutFileno →
        fd ≠ pipefd.2 →
        duplicated table pipefd writeEnd fd =
          if fd = pipefd.1 ∨ fd = pipefd.2 then none else table fd := by
    intro fd notOutput notWriter
    rw [duplicated_other notOutput]
    by_cases isReader : fd = pipefd.1
    · rw [if_pos (.inl isReader), isReader, Table.remove_self]
    · rw [if_neg (not_or.mpr ⟨isReader, notWriter⟩),
        Table.remove_other isReader]
  by_cases atOutput : pipefd.2 = stdoutFileno
  · refine ⟨duplicated table pipefd writeEnd, ?_, duplicated_output, ?_⟩
    · rw [redirection, if_neg (not_not.mpr atOutput), List.append_nil,
        ends.duplicates]
      rfl
    · intro fd notOutput
      exact elsewhere fd notOutput (atOutput ▸ notOutput)
  · refine ⟨(duplicated table pipefd writeEnd).remove pipefd.2, ?_, ?_, ?_⟩
    · have writerOpen :
          duplicated table pipefd writeEnd pipefd.2 =
            some ⟨writeEnd, true⟩ := by
        rw [duplicated_other atOutput,
          Table.remove_other ends.numbers.symm, ends.writer]
      have closed :
          applyAction (duplicated table pipefd writeEnd)
              (.close pipefd.2) =
            some ((duplicated table pipefd writeEnd).remove pipefd.2) :=
        Table.close_open writerOpen
      rw [redirection, if_pos atOutput, List.cons_append, List.cons_append,
        ends.duplicates]
      simp only [List.nil_append, applyActions, closed, Option.bind_some]
    · rw [Table.remove_other (Ne.symm atOutput), duplicated_output]
    · intro fd notOutput
      by_cases isWriter : fd = pipefd.2
      · rw [if_pos (.inr isWriter), isWriter, Table.remove_self]
      · rw [Table.remove_other isWriter, elsewhere fd notOutput isWriter]

/-- The child that the actions and the execution leave. -/
theorem PipeEnds.redirects
    (ends : PipeEnds table pipefd readEnd writeEnd) :
    ∃ child,
      applyActions table (redirection pipefd) = some child ∧
        Redirected table pipefd readEnd writeEnd child.exec := by
  obtain ⟨child, applied, output, other⟩ := ends.applies
  refine ⟨child, applied, ?_, ?_, ?_, ?_⟩
  · rw [Table.exec, output]
    rfl
  · intro fd notOutput
    have entry := other fd notOutput
    by_cases isEnd : fd = pipefd.1 ∨ fd = pipefd.2
    · rw [if_pos isEnd] at entry
      exact ⟨fun refers => Table.not_refers_of_none entry refers.of_exec,
        fun refers => Table.not_refers_of_none entry refers.of_exec⟩
    · rw [if_neg isEnd] at entry
      obtain ⟨notReader, notWriter⟩ := not_or.mp isEnd
      obtain ⟨noReader, noWriter⟩ := ends.fresh fd notReader notWriter
      have kept :
          ∀ file, child.exec.Refers fd file → table.Refers fd file := by
        intro file refers
        obtain ⟨found, isOpen, same⟩ := refers.of_exec
        exact ⟨found, entry.symm.trans isOpen, same⟩
      exact ⟨fun refers => noReader (kept readEnd refers),
        fun refers => noWriter (kept writeEnd refers)⟩
  · intro fd notOutput isEnd
    rw [Table.exec, other fd notOutput, if_pos isEnd]
    rfl
  · intro fd notOutput notReader notWriter
    rw [Table.exec, other fd notOutput,
      if_neg (not_or.mpr ⟨notReader, notWriter⟩)]
    rfl

/-- A parent that has closed its writer does not refer to the write end. -/
theorem PipeEnds.writer_closed
    (ends : PipeEnds table pipefd readEnd writeEnd) :
    ∃ parent,
      table.close pipefd.2 = some parent ∧
        ∀ fd, ¬ parent.Refers fd writeEnd := by
  refine ⟨table.remove pipefd.2, Table.close_open ends.writer, ?_⟩
  intro fd
  by_cases isWriter : fd = pipefd.2
  · rw [isWriter]
    exact Table.not_refers_of_none Table.remove_self
  · rintro ⟨entry, isOpen, same⟩
    rw [Table.remove_other isWriter] at isOpen
    by_cases isReader : fd = pipefd.1
    · rw [isReader, ends.reader, Option.some.injEq] at isOpen
      rw [← isOpen] at same
      exact ends.distinct same
    · exact (ends.fresh fd isReader isWriter).2 ⟨entry, isOpen, same⟩

end Redirection

/-- The pipe that a run has created and the actions that it has recorded. -/
structure Spawning where
  pipefd : Option (Fd × Fd) := none
  actions : List FileAction := []

/-- What one answered call adds to the account. -/
def Spawning.next
    (state : Spawning) : (call : Syscall) → Answer call → Spawning
  | .pipe2, answer =>
      match (answer : Result (Fd × Fd)) with
      | .ok pipefd => { state with pipefd := some pipefd }
      | .error _ => state
  | .spawnActionsAdd action, answer =>
      { state with
        actions :=
          state.actions ++ recordedAction ⟨.spawnActionsAdd action, answer⟩ }
  | _, _ => state

/-- A program is spawned with the redirection into the pipe, or not at all. -/
def Spawning.Redirects (state : Spawning) : Syscall → Prop
  | .posixSpawnp =>
      ∃ pipefd,
        state.pipefd = some pipefd ∧ state.actions = redirection pipefd
  | _ => True

/-- The monitor of the recorded actions. -/
def spawning : Monitor Answer Spawning where
  next := Spawning.next
  allows := fun _ _ _ => True
  safe := Spawning.Redirects

/-- Whatever the monitor's state. -/
abbrev Anyway {α : Type} (_ : α) (_ : Spawning) : Prop := True

section Runs

variable {state : Spawning} {stale : Nat → UInt8}

/-- The account is about spawning only. -/
theorem spawning_indifferent : Indifferent spawning := by
  intro current call notSpawn
  cases call with
  | posixSpawnp => exact (notSpawn rfl).elim
  | _ => trivial

/-- The cleanup spawns nothing. -/
theorem cleanup_spawning (held : Held) (result : Exit) :
    (cleanup held result).Ensures spawning Anyway state :=
  (cleanup_indifferent spawning_indifferent held
    fun _ => trivial).mono fun _ _ _ => trivial

/-- Capturing spawns nothing. -/
theorem capture_spawning (fd : Fd) :
    (capture fd).Ensures spawning Anyway state := by
  refine .iterate (fun _ _ => True) ?_ trivial
  intro captured current _
  unfold captureStep
  split
  · refine .request_bind trivial ?_
    intro answer _
    refine .pure ?_
    cases captureAnswered captured answer <;> trivial
  · exact .pure trivial

/-- Verifying spawns nothing. -/
theorem verify_spawning
    (held : Held)
    (child : Pid)
    (captured : List UInt8) :
    (verify stale held child captured).Ensures spawning Anyway state := by
  refine .bind
    ((waitForChild_indifferent spawning_indifferent child).mono ?_)
  intro answer after _
  cases answer with
  | error error => exact cleanup_spawning _ _
  | ok status =>
      dsimp only
      split
      · split
        · exact cleanup_spawning _ _
        · exact cleanup_spawning _ _
      · exact cleanup_spawning _ _

/-- Once the child runs nothing more is spawned. -/
theorem afterSpawn_spawning (held : Held) (child : Pid) :
    (afterSpawn stale held child).Ensures spawning Anyway state := by
  refine .request_bind trivial ?_
  rintro (error | ⟨⟩) _
  · exact cleanup_spawning _ _
  refine .request_bind trivial ?_
  rintro (error | ⟨⟩) _
  · exact cleanup_spawning _ _
  refine .bind ((capture_spawning _).mono ?_)
  rintro (error | captured) after _
  · exact cleanup_spawning _ _
  · exact verify_spawning _ _ _

/-- `add_file_actions` records the redirection if it succeeds. -/
theorem addFileActions_spawning
    {pipefd : Fd × Fd}
    (created : state = { pipefd := some pipefd }) :
    (addFileActions pipefd).Ensures spawning
      (fun answer after =>
        answer = .ok () →
        after = { pipefd := some pipefd, actions := redirection pipefd })
      state := by
  subst created
  refine .request_bind trivial ?_
  rintro (error | ⟨⟩) _
  · exact .pure nofun
  refine .request_bind trivial ?_
  rintro (error | ⟨⟩) _
  · exact .pure nofun
  dsimp only
  split
  next notOutput =>
    refine .request trivial ?_
    rintro (error | ⟨⟩) _
    · exact nofun
    · intro _
      rw [redirection, if_pos notOutput]
      rfl
  next output =>
    refine .pure ?_
    intro _
    rw [redirection, if_neg output]
    rfl

/-- A program is spawned only with the redirection into the created pipe. -/
theorem main_spawning :
    (main stale).Ensures spawning Anyway {} := by
  refine .request_bind trivial ?_
  rintro (error | pipefd) _
  · exact cleanup_spawning _ _
  refine .request_bind trivial ?_
  rintro (error | ⟨⟩) _
  · exact cleanup_spawning _ _
  refine .bind ((addFileActions_spawning rfl).mono ?_)
  rintro (error | ⟨⟩) after recorded
  · exact cleanup_spawning _ _
  obtain rfl := recorded rfl
  refine .request_bind ⟨pipefd, rfl, rfl⟩ ?_
  rintro (error | child) _
  · exact cleanup_spawning _ _
  · exact afterSpawn_spawning _ _

end Runs

/-- The monitor collects the recorded actions. -/
theorem spawning_actions
    (state : Spawning)
    (events : Events) :
    (spawning.after state events).actions =
      state.actions ++ recordedActions events := by
  apply spawning.collected Spawning.actions recordedAction
  intro current request answer
  cases request with
  | spawnActionsAdd action => rfl
  | pipe2 =>
      cases answer with
      | error error => exact (List.append_nil _).symm
      | ok pipefd => exact (List.append_nil _).symm
  | _ => exact (List.append_nil _).symm

/-- A pipe in the account has been created. -/
theorem spawning_pipefd
    {pipefd : Fd × Fd}
    {events : Events}
    (known : (spawning.after {} events).pipefd = some pipefd) :
    (⟨.pipe2, (.ok pipefd : Result (Fd × Fd))⟩ : Event Answer) ∈
      events := by
  have created :=
    spawning.raised (fun state => state.pipefd = some pipefd)
      (fun event =>
        event = ⟨.pipe2, (.ok pipefd : Result (Fd × Fd))⟩)
      ?_ known
  · rcases created with initially | ⟨event, member, rfl⟩
    · cases initially
    · exact member
  · intro current request answer after
    cases request with
    | pipe2 =>
        cases answer with
        | error error => exact .inl after
        | ok found =>
            obtain rfl : found = pipefd := Option.some.inj after
            exact .inr rfl
    | _ => exact .inl after

/--
Recorded actions connect the child to the pipe: none of them fails, and only
the output of the child refers to the write end once the parent has closed
its own.
-/
def Connects
    (table : Table Fd File)
    (pipefd : Fd × Fd)
    (readEnd writeEnd : File)
    (actions : List FileAction) : Prop :=
  (∃ child,
      applyActions table actions = some child ∧
        Redirected table pipefd readEnd writeEnd child.exec) ∧
    ∃ parent,
      table.close pipefd.2 = some parent ∧
        ∀ fd, ¬ parent.Refers fd writeEnd

/-- What the program that is spawned finds. -/
structure RedirectionContract (File : Type) : Prop where
  recorded :
    ∀ {table : Table Fd File} {pipefd : Fd × Fd} {readEnd writeEnd : File}
      {events : Events},
      PipeEnds table pipefd readEnd writeEnd →
      (addFileActions pipefd).Run events (some (.ok ())) →
      Connects table pipefd readEnd writeEnd (recordedActions events)
  spawned :
    ∀ {stale : Nat → UInt8} {before later : Events} {answer : Result Pid}
      {outcome : Option Exit},
      (main stale).Run (before ++ ⟨.posixSpawnp, answer⟩ :: later)
        outcome →
      ∃ pipefd,
        (⟨.pipe2, (.ok pipefd : Result (Fd × Fd))⟩ : Event Answer) ∈
            before ∧
          ∀ {table : Table Fd File} {readEnd writeEnd : File},
            PipeEnds table pipefd readEnd writeEnd →
            Connects table pipefd readEnd writeEnd (recordedActions before)

/-- The recorded actions connect the child to the pipe. -/
theorem spawn_redirection (File : Type) : RedirectionContract File where
  recorded := by
    intro table pipefd readEnd writeEnd events ends run
    have legal : spawning.Legal { pipefd := some pipefd } events :=
      spawning.legal_of_forall (fun _ _ => True)
        (fun _ _ _ _ => trivial) _ fun _ _ => trivial
    have after :=
      ((addFileActions_spawning rfl).sound run legal).2 _ rfl rfl
    have actions := spawning_actions { pipefd := some pipefd } events
    rw [after, List.nil_append] at actions
    rw [← actions]
    exact ⟨ends.redirects, ends.writer_closed⟩
  spawned := by
    intro stale before later answer outcome run
    have safe := (main_spawning.sound run
      (spawning.legal_of_forall (fun _ _ => True)
        (fun _ _ _ _ => trivial) _ fun _ _ => trivial)).1
    obtain ⟨pipefd, known, actions⟩ := spawning.safe_at safe
    rw [spawning_actions, List.nil_append] at actions
    refine ⟨pipefd, spawning_pipefd known, ?_⟩
    intro table readEnd writeEnd ends
    rw [actions]
    exact ⟨ends.redirects, ends.writer_closed⟩

/-- A parent whose standard output is the write end of the pipe itself. -/
def outputTable : Table Fd Nat :=
  fun fd =>
    if fd = 0 then some ⟨7, false⟩
    else if fd = stdoutFileno then some ⟨9, true⟩
    else if fd = 4 then some ⟨8, true⟩
    else none

/-- The redirection of a writer that is already the standard output. -/
theorem spawn_redirection_outputTable :
    Connects outputTable (4, stdoutFileno) 8 9
      (recordedActions
        [⟨.spawnActionsAdd (.close 4), (.ok () : Result Unit)⟩,
          ⟨.spawnActionsAdd (.dup2 stdoutFileno stdoutFileno),
            (.ok () : Result Unit)⟩]) := by
  apply (spawn_redirection Nat).recorded
  · refine ⟨rfl, rfl, by decide, ?_⟩
    intro fd notReader notWriter
    simp only [Table.Refers, outputTable, if_neg notReader,
      if_neg notWriter]
    split <;> simp
  · exact ⟨0, .call _ (.call _ (.ret _))⟩

end AdvanceUnix.ProcessControl
