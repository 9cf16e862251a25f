import AdvanceUnix.ProcessControl
import AdvanceUnix.Processes

namespace AdvanceUnix.ProcessControl

open CallTree
open Processes

/-!
# A wait beside a pipe that is not drained

The parent runs against a kernel with one pipe of bounded capacity, into which
the spawned child writes a text of its own and then exits.  The parent stops
reading when its buffer is full and then waits with the read end still open,
so it has seen the end of the file only if the text does not fill the buffer.
-/

/-- What the parent has done with the pipe so far. -/
structure Progress where
  pipefd : Option (Fd × Fd) := none
  readerOpen : Bool := false
  writerOpen : Bool := false
  child : Option Pid := none
  received : Nat := 0
  ended : Bool := false
  deriving DecidableEq

/-- What one answered call does; a close always frees its descriptor. -/
def Progress.next
    (progress : Progress) : (call : Syscall) → Answer call → Progress
  | .pipe2, answer =>
      match (answer : Result (Fd × Fd)) with
      | .ok pipefd =>
          { progress with
            pipefd := some pipefd
            readerOpen := true
            writerOpen := true }
      | .error _ => progress
  | .posixSpawnp, answer =>
      match (answer : Result Pid) with
      | .ok child => { progress with child := some child }
      | .error _ => progress
  | .close fd, _ =>
      match progress.pipefd with
      | some pipefd =>
          { progress with
            readerOpen := progress.readerOpen && fd ≠ pipefd.1
            writerOpen := progress.writerOpen && fd ≠ pipefd.2 }
      | none => progress
  | .read _ _, answer =>
      match (answer : Result (List UInt8)) with
      | .ok [] => { progress with ended := true }
      | .ok chunk =>
          { progress with received := progress.received + chunk.length }
      | .error _ => progress
  | _, _ => progress

/-- The parent's progress, the pipe, and what the child still has to write. -/
structure Pipeline where
  progress : Progress := {}
  pipe : List UInt8 := []
  unwritten : List UInt8
  exited : Bool := false

namespace Pipeline

/-- The child runs. -/
def Running (pipeline : Pipeline) : Prop :=
  pipeline.progress.child.isSome = true ∧ pipeline.exited = false

/-- What the kernel may answer the parent; every call may also fail. -/
def Permits
    (pipeline : Pipeline) : (call : Syscall) → Answer call → Prop
  | .pipe2, answer =>
      match (answer : Result (Fd × Fd)) with
      | .ok pipefd =>
          pipeline.progress.pipefd = none ∧
            0 ≤ pipefd.1 ∧ 0 ≤ pipefd.2 ∧ pipefd.1 ≠ pipefd.2
      | .error _ => True
  | .posixSpawnp, answer =>
      match (answer : Result Pid) with
      | .ok _ => pipeline.progress.child = none
      | .error _ => True
  | .read fd size, answer =>
      match (answer : Result (List UInt8)) with
      | .ok [] =>
          pipeline.progress.pipefd.map Prod.fst = some fd ∧
            pipeline.progress.readerOpen = true ∧
            pipeline.pipe = [] ∧
            pipeline.progress.writerOpen = false ∧
            ¬ pipeline.Running
      | .ok chunk =>
          pipeline.progress.pipefd.map Prod.fst = some fd ∧
            pipeline.progress.readerOpen = true ∧
            chunk.length ≤ size ∧
            chunk <+: pipeline.pipe
      | .error _ => True
  | .waitpid child, answer =>
      match (answer : Result WaitStatus) with
      | .ok _ =>
          pipeline.progress.child = some child ∧ pipeline.exited = true
      | .error _ => True
  | _, _ => True

/-- The kernel once it has answered. -/
def next
    (pipeline : Pipeline)
    (call : Syscall)
    (answer : Answer call) : Pipeline where
  progress := pipeline.progress.next call answer
  pipe :=
    match call with
    | .read _ _ =>
        match (answer : Result (List UInt8)) with
        | .ok chunk => pipeline.pipe.drop chunk.length
        | .error _ => pipeline.pipe
    | _ => pipeline.pipe
  unwritten := pipeline.unwritten
  exited := pipeline.exited

/-- What the child does: it writes some bytes, exits or is ended. -/
inductive Evolves (capacity : Nat) : Pipeline → Pipeline → Prop where
  | write
      {pipeline : Pipeline}
      {chunk rest : List UInt8}
      (running : pipeline.Running)
      (readerOpen : pipeline.progress.readerOpen = true)
      (nonempty : chunk ≠ [])
      (writes : pipeline.unwritten = chunk ++ rest)
      (fits : pipeline.pipe.length + chunk.length ≤ capacity) :
      Evolves capacity pipeline
        { pipeline with
          pipe := pipeline.pipe ++ chunk
          unwritten := rest }
  | exit
      {pipeline : Pipeline}
      (running : pipeline.Running)
      (written : pipeline.unwritten = []) :
      Evolves capacity pipeline { pipeline with exited := true }
  | sigpipe
      {pipeline : Pipeline}
      (running : pipeline.Running)
      (noReader : pipeline.progress.readerOpen = false) :
      Evolves capacity pipeline { pipeline with exited := true }

/--
The child may be blocked in a write: it has more to write, and the pipe is not
empty.  How much a pipe takes that is partly read depends on its pages, so a
kernel may block a write that the bytes alone would leave room for.
-/
structure MayBlock (pipeline : Pipeline) : Prop where
  running : pipeline.Running
  pending : pipeline.unwritten ≠ []
  nonempty : pipeline.pipe ≠ []

end Pipeline

/-- The rules of the pipe for the parent, the only process with calls. -/
def captureRules (capacity : Nat) : Rules Answer Unit Pipeline where
  answers := fun pipeline _ request answer after =>
    pipeline.Permits request answer ∧ after = pipeline.next request answer
  evolves := Pipeline.Evolves capacity

/-- The parent and its kernel. -/
abbrev Parent := Processes.State Answer Pipeline fun _ : Unit => Exit

/-- The parent is at a wait for its child. -/
def Waiting (state : Parent) : Prop :=
  ∃ (child : Pid) (next : Result WaitStatus → Tree Answer Exit),
    state.rest () = .call (.waitpid child) next

/-- Both wait: the parent with the read end open, the child in a write. -/
structure MutualWait (state : Parent) : Prop where
  waits : Waiting state
  readerOpen : state.kernel.progress.readerOpen = true
  blocked : state.kernel.MayBlock

/-- The parent has read to the end of the file or closed its read end. -/
def Drained (progress : Progress) : Prop :=
  progress.ended = true ∨ progress.readerOpen = false

/-- The start of an unrolling of `main` with a child that writes a text. -/
def captureStart
    (stale : Nat → UInt8)
    (text : List UInt8)
    (fuel : Nat) : Parent :=
  .start (fun _ => main stale fuel) { unwritten := text }

/--
In no reachable state do both wait, and whenever the parent waits it has
drained the pipe to the end of the file or closed its read end.
-/
def NeverWaitsMutually (capacity : Nat) (text : List UInt8) : Prop :=
  ∀ (stale : Nat → UInt8) (fuel : Nat) (state : Parent),
    Reaches (captureRules capacity) (captureStart stale text fuel) state →
    ¬ MutualWait state ∧ (Waiting state → Drained state.kernel.progress)

/-- What makes a wait harmless, and when the parent may read. -/
def Progress.Safe (progress : Progress) : Syscall → Prop
  | .waitpid _ =>
      progress.readerOpen = false ∨ progress.ended = true ∨
        captureLimit ≤ progress.received
  | .read _ _ => progress.child.isSome = true
  | _ => True

/-- The descriptors of a pipe are not negative. -/
def Progress.Allows : (call : Syscall) → Answer call → Prop
  | .pipe2, answer =>
      match (answer : Result (Fd × Fd)) with
      | .ok pipefd => 0 ≤ pipefd.1
      | .error _ => True
  | _, _ => True

/-- The monitor of the parent's progress. -/
def progressing : Monitor Answer Progress where
  next := Progress.next
  allows := fun _ => Progress.Allows
  safe := Progress.Safe

/-- Whatever the progress. -/
abbrev Whatever {α : Type} (_ : α) (_ : Progress) : Prop := True

section Parent

variable {pipefd : Fd × Fd} {progress : Progress} {stale : Nat → UInt8}

/-- Waiting is harmless if it is so at the start. -/
theorem waitForChild_progressing
    {child : Pid}
    (harmless : progress.Safe (.waitpid child)) :
    (ChildProcess.waitForChild child).Ensures progressing
      (fun _ after => after = progress) progress := by
  refine retryEintr_ensures (fun current => current = progress) ?_ rfl
  rintro current rfl
  refine .request harmless ?_
  rintro (error | status) _
  · exact ⟨fun _ => rfl, fun _ => rfl⟩
  · exact rfl

/-- The wait of the cleanup is harmless once the reader is closed. -/
theorem cleanupWait_progressing
    (held : Held)
    (result : Exit)
    (closed : held.child.isSome = true → progress.readerOpen = false) :
    (cleanupWait held result).Ensures progressing Whatever progress := by
  unfold cleanupWait
  cases started : held.child with
  | none => exact .pure trivial
  | some child =>
      rw [started] at closed
      cases held.childWaited with
      | true => exact .pure trivial
      | false =>
          refine .bind ((waitForChild_progressing (.inl (closed rfl))).mono ?_)
          exact fun _ _ _ => .pure trivial

/-- A closed reader stays closed when a descriptor is closed. -/
theorem close_keeps
    (fd : Fd)
    (answer : Result Unit)
    (closed : progress.readerOpen = false) :
    (progress.next (.close fd) answer).readerOpen = false := by
  unfold Progress.next
  cases progress.pipefd with
  | none => exact closed
  | some pipefd => simp only [closed, Bool.false_and]

/-- Closing the reader closes it. -/
theorem close_reader
    {fd : Fd}
    (answer : Result Unit)
    (created : progress.pipefd.map Prod.fst = some fd) :
    (progress.next (.close fd) answer).readerOpen = false := by
  cases known : progress.pipefd with
  | none =>
      rw [known] at created
      cases created
  | some pipefd =>
      rw [known, Option.map_some, Option.some.injEq] at created
      simp [Progress.next, known, created]

/-- The cleanup finds the read end of the created pipe. -/
structure Holds (held : Held) (progress : Progress) : Prop where
  nonneg : 0 ≤ held.pipefd.1
  created : progress.pipefd.map Prod.fst = some held.pipefd.1

/-- The reader of a started child is closed. -/
abbrev ReaderClosed (held : Held) (progress : Progress) : Prop :=
  held.child.isSome = true → progress.readerOpen = false

/-- Releasing the reader closes it. -/
theorem releaseReader_progressing
    {held : Held}
    (result : Exit)
    (holds : held.child.isSome = true → Holds held progress) :
    (release (held.pipefd.1 ≥ 0) (Syscall.invoke (.close held.pipefd.1))
        none result).Ensures progressing
      (fun _ after => ReaderClosed held after) progress := by
  apply release_ensures
  · intro notHeld started
    exact (of_decide_eq_false notHeld (holds started).nonneg).elim
  · intro _
    refine .request trivial ?_
    intro answer _
    have closes :
        ReaderClosed held (progress.next (.close held.pipefd.1) answer) :=
      fun started => close_reader answer (holds started).created
    exact ⟨closes, closes⟩

/-- Releasing the writer leaves the reader closed. -/
theorem releaseWriter_progressing
    {held : Held}
    (result : Exit)
    (closed : ReaderClosed held progress) :
    (release (held.pipefd.2 ≥ 0) (Syscall.invoke (.close held.pipefd.2))
        none result).Ensures progressing
      (fun _ after => ReaderClosed held after) progress := by
  apply release_ensures
  · exact fun _ => closed
  · intro _
    refine .request trivial ?_
    intro answer _
    have stays :
        ReaderClosed held (progress.next (.close held.pipefd.2) answer) :=
      fun started => close_keeps _ answer (closed started)
    exact ⟨stays, stays⟩

/-- The cleanup closes the reader before it waits. -/
theorem cleanup_progressing
    (held : Held)
    (result : Exit)
    (holds : held.child.isSome = true → Holds held progress) :
    (cleanup held result).Ensures progressing Whatever progress := by
  have pipe :
      (cleanupPipe held result).Ensures progressing Whatever progress := by
    refine .bind ((releaseReader_progressing result holds).mono ?_)
    intro reader afterReader closed
    refine .bind ((releaseWriter_progressing reader closed).mono ?_)
    exact fun writer afterWriter => cleanupWait_progressing held writer
  unfold cleanup
  cases held.actionsReady with
  | false => exact pipe
  | true => exact .request_bind trivial fun _ _ => pipe

/-- A cleanup before the child has been spawned does not wait. -/
theorem cleanup_unspawned
    (held : Held)
    (unspawned : held.child = none) :
    (cleanup held .failure).Ensures progressing Whatever progress := by
  apply cleanup_progressing
  intro started
  rw [unspawned] at started
  cases started

/-- What is known while and after the output is captured. -/
structure Capturing
    (held : Held)
    (captured : List UInt8)
    (progress : Progress) : Prop where
  holds : Holds held progress
  started : progress.child.isSome = true
  counted : progress.received = captured.length

/-- The capture ends with a full buffer or the end of the file. -/
theorem capture_progressing
    (held : Held)
    (start : Capturing held [] progress) :
    (capture held.pipefd.1).Ensures progressing
      (fun answer after =>
        Holds held after ∧
          ∀ captured,
            answer = .ok captured →
            after.ended = true ∨ captureLimit ≤ after.received)
      progress := by
  refine .iterate (Capturing held) ?_ start
  intro captured current soFar
  unfold captureStep
  split
  · refine .request_bind soFar.started ?_
    rintro (error | chunk) _
    · refine .pure ?_
      rw [captureAnswered]
      split
      · exact soFar
      · exact ⟨soFar.holds, nofun⟩
    · cases chunk with
      | nil => exact .pure ⟨⟨soFar.holds.nonneg, soFar.holds.created⟩,
          fun _ _ => .inl rfl⟩
      | cons byte chunk =>
          refine .pure ⟨⟨soFar.holds.nonneg, soFar.holds.created⟩,
            soFar.started, ?_⟩
          rw [List.length_append, ← soFar.counted]
          rfl
  next full =>
    refine .pure ⟨soFar.holds, fun _ _ => .inr ?_⟩
    rw [soFar.counted]
    exact Nat.not_lt.mp full

/-- The verification waits when it is harmless, and then no more. -/
theorem verify_progressing
    {held : Held}
    (child : Pid)
    (captured : List UInt8)
    (holds : Holds held progress)
    (harmless :
      progress.ended = true ∨ captureLimit ≤ progress.received) :
    (verify stale held child captured).Ensures progressing Whatever
      progress := by
  refine .bind ((waitForChild_progressing (.inr harmless)).mono ?_)
  rintro (error | status) _ rfl
  · exact cleanup_progressing _ _ fun _ => holds
  dsimp only
  split
  · split
    · exact cleanup_progressing _ _ fun _ => ⟨holds.nonneg, holds.created⟩
    · exact cleanup_progressing _ _ fun _ => ⟨holds.nonneg, holds.created⟩
  · exact cleanup_progressing _ _ fun _ => ⟨holds.nonneg, holds.created⟩

/-- The file actions change nothing. -/
theorem addFileActions_progressing :
    (addFileActions pipefd).Ensures progressing
      (fun _ after => after = progress) progress := by
  refine .request_bind trivial ?_
  rintro (error | ⟨⟩) _
  · exact .pure rfl
  refine .request_bind trivial ?_
  rintro (error | ⟨⟩) _
  · exact .pure rfl
  dsimp only
  split
  · exact .request trivial fun _ _ => rfl
  · exact .pure rfl

/-- Every wait of the parent is harmless as far as the parent can tell. -/
theorem main_progressing :
    (main stale).Ensures progressing Whatever {} := by
  refine .request_bind trivial ?_
  rintro (error | pipefd) allowed
  · exact cleanup_unspawned _ rfl
  refine .request_bind trivial ?_
  rintro (error | ⟨⟩) _
  · exact cleanup_unspawned _ rfl
  refine .bind (addFileActions_progressing.mono ?_)
  rintro (error | ⟨⟩) _ rfl
  · exact cleanup_unspawned _ rfl
  refine .request_bind trivial ?_
  rintro (error | child) _
  · exact cleanup_unspawned _ rfl
  refine .request_bind trivial ?_
  rintro (error | ⟨⟩) _
  · apply cleanup_progressing
    exact fun _ => ⟨allowed, rfl⟩
  refine .request_bind trivial ?_
  rintro (error | ⟨⟩) _
  · apply cleanup_progressing
    exact fun _ => ⟨allowed, rfl⟩
  refine .bind
    ((capture_progressing { pipefd := (pipefd.1, -1), child := some child }
      ⟨⟨allowed, rfl⟩, rfl, rfl⟩).mono ?_)
  rintro (error | captured) after ⟨holds, harmless⟩
  · exact cleanup_progressing _ _ fun _ => holds
  · exact verify_progressing child captured holds (harmless captured rfl)

end Parent

/-- The kernel and the parent agree, and no byte is lost. -/
structure Accounted
    (text : List UInt8)
    (pipeline : Pipeline)
    (watch : Unit → Progress) : Prop where
  same : pipeline.progress = watch ()
  conserved :
    pipeline.progress.received + pipeline.pipe.length +
        pipeline.unwritten.length =
      text.length
  ended : pipeline.progress.ended = true → pipeline.exited = true

section Account

variable {text : List UInt8} {pipeline : Pipeline} {capacity : Nat}

/-- What is counted of an answer is what it takes out of the pipe. -/
theorem Pipeline.next_conserved
    {request : Syscall}
    {answer : Answer request}
    (permitted : pipeline.Permits request answer) :
    (pipeline.next request answer).progress.received +
        (pipeline.next request answer).pipe.length =
      pipeline.progress.received + pipeline.pipe.length := by
  cases request with
  | read fd size =>
      rcases answer with error | chunk
      · rfl
      · cases chunk with
        | nil => rfl
        | cons byte chunk =>
            have inPipe := permitted.2.2.2.length_le
            simp only [Pipeline.next, Progress.next, List.length_drop]
            omega
  | pipe2 => rcases answer with error | pipefd <;> rfl
  | posixSpawnp => rcases answer with error | child <;> rfl
  | close fd =>
      simp only [Pipeline.next, Progress.next]
      cases pipeline.progress.pipefd <;> rfl
  | _ => rfl

/-- The parent sees the end of the file only after the child has exited. -/
theorem Pipeline.next_ended
    {request : Syscall}
    {answer : Answer request}
    (permitted : pipeline.Permits request answer)
    (safe : pipeline.progress.Safe request)
    (ended :
      (pipeline.next request answer).progress.ended = true) :
    pipeline.progress.ended = true ∨ pipeline.exited = true := by
  cases request with
  | read fd size =>
      rcases answer with error | chunk
      · exact .inl ended
      · cases chunk with
        | nil =>
            obtain ⟨_, _, _, _, notRunning⟩ := permitted
            refine .inr ?_
            by_contra running
            exact notRunning ⟨safe, (Bool.not_eq_true _).mp running⟩
        | cons byte chunk => exact .inl ended
  | pipe2 => rcases answer with error | pipefd <;> exact .inl ended
  | posixSpawnp => rcases answer with error | child <;> exact .inl ended
  | close fd =>
      simp only [Pipeline.next, Progress.next] at ended
      cases known : pipeline.progress.pipefd with
      | none =>
          rw [known] at ended
          exact .inl ended
      | some pipefd =>
          rw [known] at ended
          exact .inl ended
  | _ => exact .inl ended

/-- An answer keeps the account. -/
theorem Accounted.answered
    {watch : Unit → Progress}
    (accounted : Accounted text pipeline watch)
    {role : Unit}
    {request : Syscall}
    {answer : Answer request}
    {after : Pipeline}
    (safe : (watch role).Safe request)
    (given :
      (captureRules capacity).answers pipeline role request answer after) :
    Progress.Allows request answer ∧
      Accounted text after
        (Function.update watch role ((watch role).next request answer)) := by
  obtain ⟨permitted, rfl⟩ := given
  constructor
  · cases request with
    | pipe2 =>
        rcases answer with error | pipefd
        · trivial
        · exact permitted.2.1
    | _ => trivial
  · rw [← accounted.same] at safe
    constructor
    · rw [Function.update_self, ← accounted.same]
      rfl
    · rw [Pipeline.next_conserved permitted]
      exact accounted.conserved
    · intro ended
      rcases Pipeline.next_ended permitted safe ended with before | exited
      · exact accounted.ended before
      · exact exited

/-- The child keeps the account. -/
theorem Accounted.evolved
    {watch : Unit → Progress}
    (accounted : Accounted text pipeline watch)
    {after : Pipeline}
    (evolved : (captureRules capacity).evolves pipeline after) :
    Accounted text after watch := by
  have conserved := accounted.conserved
  cases evolved with
  | write running readerOpen nonempty writes fits =>
      refine ⟨accounted.same, ?_, accounted.ended⟩
      rw [writes, List.length_append] at conserved
      rw [List.length_append]
      dsimp only
      omega
  | exit running written =>
      exact ⟨accounted.same, conserved, fun _ => rfl⟩
  | sigpipe running noReader =>
      exact ⟨accounted.same, conserved, fun _ => rfl⟩

/-- Every reachable state keeps the account. -/
theorem accounted_reaches
    {stale : Nat → UInt8}
    {fuel : Nat}
    {state : Parent}
    (reaches :
      Reaches (captureRules capacity) (captureStart stale text fuel) state) :
    Composed (fun _ => progressing) (fun _ => {}) (Accounted text)
      (fun _ => Whatever) state := by
  have start :
      Composed (fun _ => progressing) (fun _ => {}) (Accounted text)
        (fun _ => Whatever) (captureStart stale text fuel) :=
    .start ⟨rfl, Nat.zero_add text.length, nofun⟩
      fun _ => main_progressing fuel
  refine Composed.reaches ?_ ?_ start reaches
  · intro kernel watch role request answer after accounted safe given
    exact accounted.answered safe given
  · intro kernel watch after accounted evolved
    exact accounted.evolved evolved

/-- A drained pipe keeps nobody waiting. -/
theorem Drained.harmless
    {watch : Unit → Progress}
    {state : Parent}
    (drained : Drained state.kernel.progress)
    (account : Accounted text state.kernel watch) :
    ¬ MutualWait state := by
  rintro ⟨_, readerOpen, blocked⟩
  rcases drained with ended | closed
  · have exited := account.ended ended
    rw [blocked.running.2] at exited
    cases exited
  · rw [closed] at readerOpen
    cases readerOpen

/-- A text that does not fill the buffer is drained before the wait. -/
theorem never_waits_mutually
    (short : text.length < captureLimit) :
    NeverWaitsMutually capacity text := by
  intro stale fuel state reaches
  have composed := accounted_reaches reaches
  have account := composed.holds
  have drained : Waiting state → Drained state.kernel.progress := by
    rintro ⟨child, next, position⟩
    have harmless := composed.safe position
    rw [← account.same] at harmless
    rcases harmless with closed | ended | received
    · exact .inr closed
    · exact .inl ended
    · have conserved := account.conserved
      omega
  refine ⟨fun both => ?_, drained⟩
  exact (drained both.waits).harmless account both

end Account

section Overflow

variable {capacity bound fuel : Nat} {fd : Fd} {first state : Parent}

/--
The parent can read from a running child whose pipe is empty, and has not seen
the end of the file.
-/
structure Ready (fd : Fd) (pipeline : Pipeline) : Prop where
  reader : pipeline.progress.pipefd.map Prod.fst = some fd
  readerOpen : pipeline.progress.readerOpen = true
  notEnded : pipeline.progress.ended = false
  running : pipeline.Running
  empty : pipeline.pipe = []

/-- The rest of the parent while it captures. -/
abbrev Captures
    (fd : Fd)
    (bound fuel : Nat)
    (captured : List UInt8)
    (continuation : Result (List UInt8) → Tree Answer Exit) :
    Tree Answer Exit :=
  (Tree.iterate (fun current => captureStep fd current bound) fuel
    captured).bind continuation

/-- The child writes one byte and the parent reads it. -/
theorem capture_byte
    {captured rest : List UInt8}
    {continuation : Result (List UInt8) → Tree Answer Exit}
    {byte : UInt8}
    (positive : 0 < capacity)
    (reached : Reaches (captureRules capacity) first state)
    (position :
      state.rest () = Captures fd bound (fuel + 1) captured continuation)
    (room : captured.length < captureLimit)
    (ready : Ready fd state.kernel)
    (pending : state.kernel.unwritten = byte :: rest) :
    ∃ later,
      Reaches (captureRules capacity) first later ∧
        later.rest () =
          Captures fd bound fuel (captured ++ [byte]) continuation ∧
        Ready fd later.kernel ∧
        later.kernel.unwritten = rest := by
  obtain ⟨next, reads, continues⟩ :
      ∃ next,
        state.rest () =
            .call (.read fd (captureLimit - captured.length)) next ∧
          next (.ok [byte]) =
            Captures fd bound fuel (captured ++ [byte]) continuation := by
    rw [position, Captures, Tree.iterate, captureStep, if_pos room]
    exact ⟨_, rfl, rfl⟩
  have written :=
    reached.evolve
      (.write ready.running ready.readerOpen (List.cons_ne_nil byte [])
        pending (by rw [ready.empty]; exact positive))
  have taken :=
    written.call () reads (.ok [byte] : Result (List UInt8))
      ⟨⟨ready.reader, ready.readerOpen, Nat.sub_pos_of_lt room,
        by rw [ready.empty]; exact List.prefix_refl [byte]⟩, rfl⟩
  refine ⟨_, taken, answered_rest_self.trans continues, ?_, rfl⟩
  refine ⟨ready.reader, ready.readerOpen, ready.notEnded, ready.running, ?_⟩
  show List.drop 1 (state.kernel.pipe ++ [byte]) = []
  rw [ready.empty]
  rfl

/-- Byte by byte the parent captures any number of them. -/
theorem capture_bytes
    {continuation : Result (List UInt8) → Tree Answer Exit}
    (positive : 0 < capacity)
    {chunk rest captured : List UInt8}
    (reached : Reaches (captureRules capacity) first state)
    (position :
      state.rest () =
        Captures fd bound (fuel + chunk.length) captured continuation)
    (room : captured.length + chunk.length ≤ captureLimit)
    (ready : Ready fd state.kernel)
    (pending : state.kernel.unwritten = chunk ++ rest) :
    ∃ later,
      Reaches (captureRules capacity) first later ∧
        later.rest () =
          Captures fd bound fuel (captured ++ chunk) continuation ∧
        Ready fd later.kernel ∧
        later.kernel.unwritten = rest := by
  induction chunk generalizing state captured with
  | nil =>
      rw [List.append_nil]
      exact ⟨state, reached, position, ready, pending⟩
  | cons byte chunk inductionHypothesis =>
      rw [List.length_cons] at room
      obtain ⟨next, reachedNext, nextPosition, nextReady, nextPending⟩ :=
        capture_byte positive reached position (by omega) ready pending
      obtain ⟨later, reachedLater, laterPosition, laterReady, laterPending⟩ :=
        inductionHypothesis reachedNext nextPosition
          (by rw [List.length_append, List.length_singleton]; omega)
          nextReady nextPending
      rw [List.append_assoc, List.singleton_append] at laterPosition
      exact ⟨later, reachedLater, laterPosition, laterReady, laterPending⟩

/-- With a full buffer the parent waits. -/
theorem full_waits
    {captured : List UInt8}
    {continuation : Result (List UInt8) → Tree Answer Exit}
    {child : Pid}
    (position :
      state.rest () = Captures fd bound (fuel + 1) captured continuation)
    (full : captured.length = captureLimit)
    (waits :
      ∃ next, continuation (.ok captured) = .call (.waitpid child) next) :
    Waiting state := by
  have waiting : state.rest () = continuation (.ok captured) := by
    rw [position, Captures, Tree.iterate, captureStep,
      if_neg (by rw [full]; exact Nat.lt_irrefl captureLimit)]
    rfl
  obtain ⟨next, atWait⟩ := waits
  exact ⟨child, next, waiting.trans atWait⟩

/-- While the parent waits, the child can fill the pipe. -/
theorem pipe_filled
    (positive : 0 < capacity)
    (reached : Reaches (captureRules capacity) first state)
    (waiting : Waiting state)
    (ready : Ready fd state.kernel)
    (tooLong : capacity < state.kernel.unwritten.length) :
    ∃ later,
      Reaches (captureRules capacity) first later ∧
        MutualWait later ∧
        later.kernel.pipe.length = capacity := by
  have taken := List.length_take_of_le (Nat.le_of_lt tooLong)
  have some : state.kernel.unwritten.take capacity ≠ [] :=
    List.ne_nil_of_length_pos (by rw [taken]; exact positive)
  have filled :=
    reached.evolve
      (.write ready.running ready.readerOpen some
        (List.take_append_drop capacity _).symm
        (by
          rw [ready.empty, taken]
          exact Nat.le_of_eq (Nat.zero_add capacity)))
  refine ⟨_, filled, ⟨waiting, ready.readerOpen, ready.running, ?_, ?_⟩, ?_⟩
  · refine List.ne_nil_of_length_pos ?_
    rw [List.length_drop]
    exact Nat.sub_pos_of_lt tooLong
  · exact List.append_ne_nil_of_right_ne_nil _ some
  · show (state.kernel.pipe ++ _).length = capacity
    rw [ready.empty, List.nil_append, taken]

/-- The parent reaches its capture with a running child and an empty pipe. -/
theorem capture_reached
    (capacity : Nat)
    (stale : Nat → UInt8)
    (text : List UInt8)
    (child : Pid) :
    ∃ state continuation,
      Reaches (captureRules capacity)
          (captureStart stale text (captureLimit + 1)) state ∧
        state.rest () =
          Captures 3 (captureLimit + 1) (captureLimit + 1) [] continuation ∧
        (∀ captured,
          ∃ next, continuation (.ok captured) = .call (.waitpid child) next) ∧
        Ready 3 state.kernel ∧
        state.kernel.unwritten = text := by
  have start :
      Reaches (captureRules capacity)
        (captureStart stale text (captureLimit + 1))
        (captureStart stale text (captureLimit + 1)) := .refl
  have piped :=
    start.call () rfl (.ok (3, 4) : Result (Fd × Fd))
      ⟨⟨rfl, by decide, by decide, by decide⟩, rfl⟩
  have ready :=
    piped.call () rfl (.ok () : Result Unit) ⟨trivial, rfl⟩
  have closesReader :=
    ready.call () rfl (.ok () : Result Unit) ⟨trivial, rfl⟩
  have duplicates :=
    closesReader.call () rfl (.ok () : Result Unit) ⟨trivial, rfl⟩
  have closesWriter :=
    duplicates.call () rfl (.ok () : Result Unit) ⟨trivial, rfl⟩
  have spawned :=
    closesWriter.call () rfl (.ok child : Result Pid) ⟨rfl, rfl⟩
  have destroyed :=
    spawned.call () rfl (.ok () : Result Unit) ⟨trivial, rfl⟩
  have closed :=
    destroyed.call () rfl (.ok () : Result Unit) ⟨trivial, rfl⟩
  refine ⟨_, _, closed, rfl, ?_, ?_, rfl⟩
  · exact fun captured => ⟨_, rfl⟩
  · exact ⟨rfl, rfl, rfl, ⟨rfl, rfl⟩, rfl⟩

/--
A text that fills the buffer can be waited for with the read end open and the
end of the file not seen; what the buffer does not hold is not yet written.
-/
theorem undrained_wait_reached
    {text : List UInt8}
    (positive : 0 < capacity)
    (long : captureLimit ≤ text.length) :
    ∃ stale fuel state,
      Reaches (captureRules capacity) (captureStart stale text fuel) state ∧
        Waiting state ∧
        Ready 3 state.kernel ∧
        state.kernel.unwritten = text.drop captureLimit := by
  obtain ⟨state, continuation, reached, position, waits, ready, pending⟩ :=
    capture_reached capacity (fun _ => 0) text ⟨1, Nat.one_pos⟩
  have filled : (text.take captureLimit).length = captureLimit :=
    List.length_take_of_le long
  have capturing :
      state.rest () =
        Captures 3 (captureLimit + 1) (1 + (text.take captureLimit).length)
          [] continuation := by
    rw [position, filled, Nat.add_comm]
  have room :
      ([] : List UInt8).length + (text.take captureLimit).length ≤
        captureLimit := by
    rw [filled, List.length_nil, Nat.zero_add]
  have whole :
      state.kernel.unwritten =
        text.take captureLimit ++ text.drop captureLimit := by
    rw [pending, List.take_append_drop]
  obtain ⟨later, reachedLater, laterPosition, laterReady, laterPending⟩ :=
    capture_bytes positive reached capturing room ready whole
  exact ⟨_, _, later, reachedLater,
    full_waits laterPosition filled (waits _), laterReady, laterPending⟩

/-- So the parent waits before it has drained the pipe. -/
theorem waits_undrained
    {text : List UInt8}
    (positive : 0 < capacity)
    (long : captureLimit ≤ text.length) :
    ¬ NeverWaitsMutually capacity text := by
  intro never
  obtain ⟨stale, fuel, state, reached, waiting, ready, _⟩ :=
    undrained_wait_reached positive long
  rcases (never stale fuel state reached).2 waiting with ended | closed
  · rw [ready.notEnded] at ended
    cases ended
  · rw [ready.readerOpen] at closed
    cases closed

/-- If more is left than the pipe holds, both wait, beside a full pipe. -/
theorem mutual_wait_reached
    {text : List UInt8}
    (positive : 0 < capacity)
    (tooLong : captureLimit + capacity < text.length) :
    ∃ stale fuel state,
      Reaches (captureRules capacity) (captureStart stale text fuel) state ∧
        MutualWait state ∧
        state.kernel.pipe.length = capacity := by
  obtain ⟨stale, fuel, state, reached, waiting, ready, pending⟩ :=
    undrained_wait_reached positive (by omega : captureLimit ≤ text.length)
  have leftOver : capacity < state.kernel.unwritten.length := by
    rw [pending, List.length_drop]
    omega
  exact ⟨stale, fuel, pipe_filled positive reached waiting ready leftOver⟩

end Overflow

/--
Whatever the schedule, the parent drains the pipe or closes it before it waits
and never waits mutually, exactly if the text does not fill its buffer.
-/
theorem capture_wait
    {capacity : Nat}
    (positive : 0 < capacity)
    (text : List UInt8) :
    NeverWaitsMutually capacity text ↔ text.length < captureLimit := by
  constructor
  · intro never
    by_contra long
    exact waits_undrained positive (Nat.le_of_not_lt long) never
  · exact never_waits_mutually

/-- The longest text that leaves room in the buffer, over one byte of pipe. -/
theorem capture_wait_oneByte :
    NeverWaitsMutually 1 (List.replicate 126 120) := by
  apply (capture_wait Nat.one_pos _).mpr
  rw [List.length_replicate]
  decide

/--
A text as long as the buffer is waited for before the pipe is drained, and one
byte more than buffer and pipe hold keeps both waiting beside a full pipe.
-/
theorem capture_wait_fullPipe :
    ¬ NeverWaitsMutually 65536 (List.replicate 127 120) ∧
      ∃ stale fuel state,
        Reaches (captureRules 65536)
            (captureStart stale (List.replicate 65664 120) fuel) state ∧
          MutualWait state ∧
          state.kernel.pipe.length = 65536 := by
  constructor
  · apply waits_undrained (Nat.succ_pos _)
    rw [List.length_replicate]
    exact Nat.le_refl captureLimit
  · apply mutual_wait_reached (Nat.succ_pos _)
    rw [List.length_replicate]
    decide

end AdvanceUnix.ProcessControl
