import AdvanceUnix.PipeTransfer
import AdvanceUnix.Processes

namespace AdvanceUnix.PipeTransfer

open CallTree Processes Transition

/-!
# The loops over a pipe are the step system

`write_all` and `read_all` as programs, run in any interleaving over a pipe.
Each state that they reach is one of the step system: an answered call is a
step of it, and a loop that has transferred everything leaves at once.
-/

/-- The two processes. -/
inductive Role where
  | writer
  | reader
  deriving DecidableEq, Repr

/-- What they return. -/
@[reducible] def Outcome : Role → Type
  | .writer => Result Unit
  | .reader => Result Unit × List UInt8

/-- `write_all`, after which the write end is closed. -/
def writer (fd : Fd) (bytes : List UInt8) : Sys (Result Unit) := do
  let result ← writeLoop .eio fd bytes
  let _ ← Syscall.invoke (.close fd)
  return result

/-- The pipe and its write end. -/
structure Kernel where
  pipe : Channel.Fifo UInt8
  writeEndOpen : Bool

/--
What the kernel may answer.  A transfer moves any positive number of bytes that
the pipe allows, or fails; a read finds the end once the write end is closed.
-/
inductive Answered (capacity : Nat) (kernel : Kernel) :
    Role → (request : Syscall) → Answer request → Kernel → Prop where
  | writeFailed
      {fd : Fd}
      {rest : List UInt8}
      (error : Errno) :
      Answered capacity kernel .writer (.write fd rest) (.error error) kernel
  | write
      {fd : Fd}
      {rest : List UInt8}
      {count : Nat}
      (positive : 0 < count)
      (some : count ≤ rest.length)
      (room : kernel.pipe.contents.length + count ≤ capacity) :
      Answered capacity kernel .writer (.write fd rest) (.ok count)
        { kernel with pipe := kernel.pipe.put (rest.take count) }
  | close
      {fd : Fd}
      (answer : Result Unit) :
      Answered capacity kernel .writer (.close fd) answer
        { kernel with writeEndOpen := false }
  | readFailed
      {fd : Fd}
      {size : Nat}
      (error : Errno) :
      Answered capacity kernel .reader (.read fd size) (.error error) kernel
  | read
      {fd : Fd}
      {size count : Nat}
      (positive : 0 < count)
      (some : count ≤ size)
      (available : count ≤ kernel.pipe.contents.length) :
      Answered capacity kernel .reader (.read fd size)
        (.ok (kernel.pipe.contents.take count))
        { kernel with pipe := kernel.pipe.get count }
  | endOfFile
      {fd : Fd}
      {size : Nat}
      (drained : kernel.pipe.contents = [])
      (closed : kernel.writeEndOpen = false) :
      Answered capacity kernel .reader (.read fd size) (.ok []) kernel

/-- The rules of the kernel. -/
def rules (capacity : Nat) : Rules Answer Role Kernel where
  answers := Answered capacity
  evolves := fun _ _ => False

/-- Both processes, each with its end of the pipe. -/
def programs
    (fds : Fd × Fd)
    (bytes : List UInt8)
    (fuel : Nat) : (role : Role) → Tree Answer (Outcome role)
  | .writer => writer fds.2 bytes fuel
  | .reader => readLoop .epipe fds.1 bytes.length fuel

/-- The states of both. -/
abbrev Loops := Processes.State Answer Kernel Outcome

/-- Both at their start, the pipe empty. -/
def start (fds : Fd × Fd) (bytes : List UInt8) (fuel : Nat) : Loops :=
  .start (programs fds bytes fuel) ⟨.empty, true⟩

section Positions

variable {fd : Fd} {bytes : List UInt8}

/-- One iteration of `write_all`. -/
def writing
    (fd : Fd)
    (bytes : List UInt8)
    (written : Nat) : Tree Answer (LoopStep Nat (Result Unit)) :=
  if written < bytes.length then
    .call (.write fd (bytes.drop written)) fun count =>
      .ret (writeAnswered .eio written count)
  else
    .ret (.done (.ok ()))

/-- One iteration of `read_all`. -/
def reading
    (fd : Fd)
    (size : Nat)
    (received : List UInt8) :
    Tree Answer (LoopStep (List UInt8) (Result Unit × List UInt8)) :=
  if received.length < size then
    .call (.read fd (size - received.length)) fun answer =>
      .ret (readAnswered .epipe received answer)
  else
    .ret (.done (.ok (), received))

/-- `write_all` is its iterations. -/
theorem writeLoop_tree (fuel : Nat) :
    writeLoop .eio fd bytes fuel =
      Tree.iterate (writing fd bytes) fuel 0 := by
  unfold writeLoop Program.iterate
  congr 1
  funext written
  by_cases unfinished : written < bytes.length
  · simp only [writing, unfinished, ↓reduceIte]
    rfl
  · simp only [writing, unfinished, ↓reduceIte]
    rfl

/-- `read_all` is its iterations. -/
theorem readLoop_tree (size fuel : Nat) :
    readLoop .epipe fd size fuel =
      Tree.iterate (reading fd size) fuel [] := by
  unfold readLoop Program.iterate
  congr 1
  funext received
  by_cases unfinished : received.length < size
  · simp only [reading, unfinished, ↓reduceIte]
    rfl
  · simp only [reading, unfinished, ↓reduceIte]
    rfl

/-- What is left of the writer once `write_all` has returned. -/
def closing (fd : Fd) (result : Result Unit) : Tree Answer (Result Unit) :=
  .call (.close fd) fun _ => .ret result

/-- What is left of the writer after an iteration. -/
def writerRest
    (fd : Fd)
    (bytes : List UInt8)
    (fuel : Nat) : LoopStep Nat (Result Unit) → Tree Answer (Result Unit)
  | .again written =>
      (Tree.iterate (writing fd bytes) fuel written).bind (closing fd)
  | .done result => closing fd result

/-- What is left of the reader after an iteration. -/
def readerRest
    (fd : Fd)
    (size fuel : Nat) :
    LoopStep (List UInt8) (Result Unit × List UInt8) →
      Tree Answer (Result Unit × List UInt8)
  | .again received => Tree.iterate (reading fd size) fuel received
  | .done result => .ret result

/-- A writer that is not done is about to write. -/
theorem writerRest_unfinished
    {written : Nat}
    (unfinished : written < bytes.length)
    (fuel : Nat) :
    writerRest fd bytes (fuel + 1) (.again written) =
      .call (.write fd (bytes.drop written)) fun count =>
        writerRest fd bytes fuel (writeAnswered .eio written count) := by
  simp only [writerRest, Tree.iterate, writing, unfinished, ↓reduceIte,
    Tree.bind]
  congr 1
  funext count
  cases writeAnswered .eio written count with
  | again next => rfl
  | done result => rfl

/-- One that is leaves its loop. -/
theorem writerRest_finished
    {written : Nat}
    (finished : ¬ written < bytes.length)
    (fuel : Nat) :
    writerRest fd bytes (fuel + 1) (.again written) =
      closing fd (.ok ()) := by
  simp only [writerRest, Tree.iterate, writing, finished, ↓reduceIte,
    Tree.bind]

/-- A reader that is not done is about to read. -/
theorem readerRest_unfinished
    {size : Nat}
    {received : List UInt8}
    (unfinished : received.length < size)
    (fuel : Nat) :
    readerRest fd size (fuel + 1) (.again received) =
      .call (.read fd (size - received.length)) fun answer =>
        readerRest fd size fuel (readAnswered .epipe received answer) := by
  simp only [readerRest, Tree.iterate, reading, unfinished, ↓reduceIte,
    Tree.bind]
  congr 1
  funext answer
  cases readAnswered .epipe received answer with
  | again next => rfl
  | done result => rfl

/-- One that is returns. -/
theorem readerRest_finished
    {size : Nat}
    {received : List UInt8}
    (finished : ¬ received.length < size)
    (fuel : Nat) :
    readerRest fd size (fuel + 1) (.again received) =
      .ret (.ok (), received) := by
  simp only [readerRest, Tree.iterate, reading, finished, ↓reduceIte,
    Tree.bind]

/-- Where the writer is, in its program and in the step system. -/
inductive WriterAt (fd : Fd) (bytes : List UInt8) :
    Tree Answer (Result Unit) →
      LoopStep Nat (Result Unit) → Bool → Prop where
  | writing
      {written : Nat}
      (unfinished : written < bytes.length)
      (fuel : Nat) :
      WriterAt fd bytes
        (.call (.write fd (bytes.drop written)) fun count =>
          writerRest fd bytes fuel (writeAnswered .eio written count))
        (.again written) true
  | closing (result : Result Unit) :
      WriterAt fd bytes (closing fd result) (.done result) true
  | returned (result : Result Unit) :
      WriterAt fd bytes (.ret result) (.done result) false
  | cut
      {position : LoopStep Nat (Result Unit)}
      {isOpen : Bool} :
      WriterAt fd bytes .cut position isOpen

/-- And where the reader is. -/
inductive ReaderAt (fd : Fd) (size : Nat) :
    Tree Answer (Result Unit × List UInt8) →
      LoopStep (List UInt8) (Result Unit × List UInt8) → Prop where
  | reading
      {received : List UInt8}
      (unfinished : received.length < size)
      (fuel : Nat) :
      ReaderAt fd size
        (.call (.read fd (size - received.length)) fun answer =>
          readerRest fd size fuel (readAnswered .epipe received answer))
        (.again received)
  | returned (result : Result Unit × List UInt8) :
      ReaderAt fd size (.ret result) (.done result)
  | cut {position : LoopStep (List UInt8) (Result Unit × List UInt8)} :
      ReaderAt fd size .cut position

end Positions

/-- A call that fails for good. -/
def Fails : Event Answer → Prop
  | ⟨.write _ _, answer⟩ =>
      ∃ error, error ≠ .eintr ∧ (answer : Result Nat) = .error error
  | ⟨.read _ _, answer⟩ =>
      ∃ error,
        error ≠ .eintr ∧ (answer : Result (List UInt8)) = .error error
  | _ => False

/-- A state of both processes, and a run of the step system that shows it. -/
structure Simulates
    (capacity : Nat)
    (fds : Fd × Fd)
    (bytes : List UInt8)
    (state : Loops)
    (labels : List Label)
    (image : State) : Prop where
  accepted : (system capacity bytes).run labels = some image
  pipe : state.kernel.pipe = image.pipe
  isOpen : state.kernel.writeEndOpen = image.writeEndOpen
  writer :
    WriterAt fds.2 bytes (state.rest .writer) image.writer
      image.writeEndOpen
  reader :
    ReaderAt fds.1 bytes.length (state.rest .reader) image.reader
  failures :
    (∀ role, ∀ event ∈ state.events role, ¬ Fails event) →
    ∀ label ∈ labels, ¬ label.Fails

section Settling

variable {capacity : Nat} {bytes : List UInt8} {labels : List Label}
  {image : State}

/-- A writer that has written everything leaves its loop at once. -/
theorem settle_writer
    (accepted : (system capacity bytes).run labels = some image)
    (fd : Fd)
    (fuel : Nat) :
    ∃ more position,
      (system capacity bytes).run (labels ++ more) =
          some { image with writer := position } ∧
        (∀ label ∈ more, ¬ label.Fails) ∧
          WriterAt fd bytes (writerRest fd bytes fuel image.writer)
            position true := by
  cases position : image.writer with
  | done result =>
      refine ⟨[], .done result, ?_, nofun, .closing result⟩
      rw [List.append_nil, accepted, ← position]
  | again written =>
      by_cases unfinished : written < bytes.length
      · refine ⟨[], .again written, ?_, nofun, ?_⟩
        · rw [List.append_nil, accepted, ← position]
        · cases fuel with
          | zero => exact .cut
          | succ fuel =>
              rw [writerRest_unfinished unfinished]
              exact .writing unfinished fuel
      · refine ⟨[.writerLeaves], .done (.ok ()),
          System.runFrom_snoc accepted ?_, ?_, ?_⟩
        · simp [system, step, position, unfinished]
        · rintro _ (_ | ⟨_, ⟨⟩⟩)
          exact id
        · cases fuel with
          | zero => exact .cut
          | succ fuel =>
              rw [writerRest_finished unfinished]
              exact .closing (.ok ())

/-- And so does a reader that has read everything. -/
theorem settle_reader
    (accepted : (system capacity bytes).run labels = some image)
    (fd : Fd)
    (fuel : Nat) :
    ∃ more position,
      (system capacity bytes).run (labels ++ more) =
          some { image with reader := position } ∧
        (∀ label ∈ more, ¬ label.Fails) ∧
          ReaderAt fd bytes.length
            (readerRest fd bytes.length fuel image.reader) position := by
  cases position : image.reader with
  | done result =>
      refine ⟨[], .done result, ?_, nofun, .returned result⟩
      rw [List.append_nil, accepted, ← position]
  | again received =>
      by_cases unfinished : received.length < bytes.length
      · refine ⟨[], .again received, ?_, nofun, ?_⟩
        · rw [List.append_nil, accepted, ← position]
        · cases fuel with
          | zero => exact .cut
          | succ fuel =>
              rw [readerRest_unfinished unfinished]
              exact .reading unfinished fuel
      · refine ⟨[.readerLeaves], .done (.ok (), received),
          System.runFrom_snoc accepted ?_, ?_, ?_⟩
        · simp [system, step, position, unfinished]
        · rintro _ (_ | ⟨_, ⟨⟩⟩)
          exact id
        · cases fuel with
          | zero => exact .cut
          | succ fuel =>
              rw [readerRest_finished unfinished]
              exact .returned (.ok (), received)

end Settling

/-- Both processes start at the head of their loops. -/
theorem simulates_start
    (capacity : Nat)
    (fds : Fd × Fd)
    (bytes : List UInt8)
    (fuel : Nat) :
    ∃ labels image,
      Simulates capacity fds bytes (start fds bytes fuel) labels image := by
  obtain ⟨left, position, accepted, quiet, atWriter⟩ :=
    @settle_writer capacity bytes [] State.start rfl fds.2 fuel
  obtain ⟨returned, filled, both, quietReader, atReader⟩ :=
    settle_reader accepted fds.1 fuel
  have programWriter :
      (start fds bytes fuel).rest .writer =
        writerRest fds.2 bytes fuel State.start.writer := by
    rw [State.start, writerRest, ← writeLoop_tree]
    rfl
  have programReader :
      (start fds bytes fuel).rest .reader =
        readerRest fds.1 bytes.length fuel State.start.reader :=
    readLoop_tree bytes.length fuel
  refine ⟨_, _, both, rfl, rfl, ?_, ?_,
    fun _ => List.forall_mem_append.mpr ⟨quiet, quietReader⟩⟩
  · rw [programWriter]
    exact atWriter
  · rw [programReader]
    exact atReader

namespace Simulates

variable {capacity fuel : Nat} {fds : Fd × Fd} {bytes : List UInt8}
  {state : Loops} {labels : List Label} {image next : State}
  {label : Label} {request : Syscall} {answer : Answer request}
  {after : Kernel}

/-- If no call of either process has failed, no step so far is a failure. -/
theorem failures_answered
    {role : Role}
    {continuation : Answer request → Tree Answer (Outcome role)}
    (simulates : Simulates capacity fds bytes state labels image)
    (fails : label.Fails → Fails ⟨request, answer⟩)
    (none :
      ∀ other,
        ∀ event ∈ (state.answered role continuation answer after).events
          other, ¬ Fails event) :
    ∀ other ∈ labels ++ [label], ¬ other.Fails := by
  refine List.forall_mem_append.mpr ⟨?_, ?_⟩
  · refine simulates.failures ?_
    intro other event recorded
    exact none other event (mem_answered recorded)
  · rintro other here failing
    obtain rfl := List.mem_singleton.mp here
    refine none role ⟨request, answer⟩ ?_ (fails failing)
    rw [answered_events_self]
    exact List.mem_append_right _ (.head _)

/-- An answer to `write_all` is a step of the writer. -/
theorem writerAnswered
    {continuation : Answer request → Tree Answer (Result Unit)}
    (simulates : Simulates capacity fds bytes state labels image)
    (stepped : PipeTransfer.step capacity bytes image label = some next)
    (sameReader : next.reader = image.reader)
    (stillOpen : next.writeEndOpen = true)
    (continues :
      continuation answer = writerRest fds.2 bytes fuel next.writer)
    (samePipe : after.pipe = next.pipe)
    (sameEnd : after.writeEndOpen = next.writeEndOpen)
    (fails : label.Fails → Fails ⟨request, answer⟩) :
    ∃ labels image,
      Simulates capacity fds bytes
        (@State.answered _ _ _ _ Outcome _ state .writer _ continuation
          answer after)
        labels image := by
  obtain ⟨more, position, accepted, quiet, atWriter⟩ :=
    settle_writer (System.runFrom_snoc simulates.accepted stepped)
      fds.2 fuel
  refine ⟨_, _, accepted, samePipe, sameEnd, ?_, ?_,
    fun none => List.forall_mem_append.mpr
      ⟨simulates.failures_answered fails none, quiet⟩⟩
  · rw [answered_rest_self, continues, stillOpen]
    exact atWriter
  · rw [answered_rest_other (by decide), sameReader]
    exact simulates.reader

/-- And an answer to `read_all` is one of the reader. -/
theorem readerAnswered
    {continuation :
      Answer request → Tree Answer (Result Unit × List UInt8)}
    (simulates : Simulates capacity fds bytes state labels image)
    (stepped : PipeTransfer.step capacity bytes image label = some next)
    (sameWriter : next.writer = image.writer)
    (samePosition : next.writeEndOpen = image.writeEndOpen)
    (continues :
      continuation answer =
        readerRest fds.1 bytes.length fuel next.reader)
    (samePipe : after.pipe = next.pipe)
    (sameEnd : after.writeEndOpen = next.writeEndOpen)
    (fails : label.Fails → Fails ⟨request, answer⟩) :
    ∃ labels image,
      Simulates capacity fds bytes
        (@State.answered _ _ _ _ Outcome _ state .reader _ continuation
          answer after)
        labels image := by
  obtain ⟨more, position, accepted, quiet, atReader⟩ :=
    settle_reader (System.runFrom_snoc simulates.accepted stepped)
      fds.1 fuel
  refine ⟨_, _, accepted, samePipe, sameEnd, ?_, ?_,
    fun none => List.forall_mem_append.mpr
      ⟨simulates.failures_answered fails none, quiet⟩⟩
  · rw [answered_rest_other (by decide), sameWriter, samePosition]
    exact simulates.writer
  · rw [answered_rest_self, continues]
    exact atReader

/-- The step lemma for the writer. -/
theorem writer_step
    {continuation : Answer request → Tree Answer (Result Unit)}
    (simulates : Simulates capacity fds bytes state labels image)
    (position : state.rest .writer = .call request continuation)
    (given :
      Answered capacity state.kernel .writer request answer after) :
    ∃ labels image,
      Simulates capacity fds bytes
        (@State.answered _ _ _ _ Outcome _ state .writer _ continuation
          answer after)
        labels image := by
  have atWriter := simulates.writer
  rw [position] at atWriter
  generalize place : image.writer = current,
    opened : image.writeEndOpen = isOpen at atWriter
  cases atWriter with
  | @writing written unfinished fuel =>
      cases given with
      | writeFailed error =>
          have stepped :
              PipeTransfer.step capacity bytes image (.writeError error) =
                some { image with
                  writer := writeAnswered .eio written (.error error) } := by
            simp [PipeTransfer.step, place, unfinished]
          exact simulates.writerAnswered stepped rfl opened rfl
            simulates.pipe simulates.isOpen
            fun fails => ⟨error, fails, rfl⟩
      | @write _ _ count positive some room =>
          rw [List.length_drop] at some
          rw [simulates.pipe] at room
          have stepped :
              PipeTransfer.step capacity bytes image (.accept count) =
                .some { image with
                  writer := writeAnswered .eio written (.ok count)
                  pipe := image.pipe.put (chunk bytes written count) } := by
            simp [PipeTransfer.step, place, unfinished, positive, some, room]
          have samePipe :
              state.kernel.pipe.put ((bytes.drop written).take count) =
                image.pipe.put (chunk bytes written count) := by
            rw [simulates.pipe, chunk]
          exact simulates.writerAnswered stepped rfl opened rfl samePipe
            simulates.isOpen False.elim
  | closing result =>
      cases given with
      | close answer =>
          have stepped :
              (system capacity bytes).step image .closeWriteEnd =
                some { image with writeEndOpen := false } := by
            simp [system, PipeTransfer.step, place, opened]
          refine ⟨_, _, System.runFrom_snoc simulates.accepted stepped,
            simulates.pipe, rfl, ?_, ?_,
            simulates.failures_answered False.elim⟩
          · rw [answered_rest_self, place]
            exact .returned result
          · rw [answered_rest_other (by decide)]
            exact simulates.reader

/-- The step lemma for the reader. -/
theorem reader_step
    {continuation :
      Answer request → Tree Answer (Result Unit × List UInt8)}
    (simulates : Simulates capacity fds bytes state labels image)
    (position : state.rest .reader = .call request continuation)
    (given :
      Answered capacity state.kernel .reader request answer after) :
    ∃ labels image,
      Simulates capacity fds bytes
        (@State.answered _ _ _ _ Outcome _ state .reader _ continuation
          answer after)
        labels image := by
  have atReader := simulates.reader
  rw [position] at atReader
  generalize place : image.reader = current at atReader
  cases atReader with
  | @reading received unfinished fuel =>
      cases given with
      | readFailed error =>
          have stepped :
              PipeTransfer.step capacity bytes image (.readError error) =
                some { image with
                  reader :=
                    readAnswered .epipe received (.error error) } := by
            simp [PipeTransfer.step, place, unfinished]
          exact simulates.readerAnswered stepped rfl rfl rfl simulates.pipe
            simulates.isOpen fun fails => ⟨error, fails, rfl⟩
      | @read _ _ count positive some available =>
          rw [simulates.pipe] at available
          have stepped :
              PipeTransfer.step capacity bytes image (.deliver count) =
                .some { image with
                  reader :=
                    readAnswered .epipe received
                      (.ok (image.pipe.contents.take count))
                  pipe := image.pipe.get count } := by
            simp [PipeTransfer.step, place, unfinished, positive, some,
              available]
          have continues :
              readerRest fds.1 bytes.length fuel
                  (readAnswered .epipe received
                    (.ok (state.kernel.pipe.contents.take count))) =
                readerRest fds.1 bytes.length fuel
                  (readAnswered .epipe received
                    (.ok (image.pipe.contents.take count))) := by
            rw [simulates.pipe]
          exact simulates.readerAnswered stepped rfl rfl continues
            (congrArg (·.get count) simulates.pipe) simulates.isOpen
            False.elim
      | endOfFile drained closed =>
          rw [simulates.pipe] at drained
          rw [simulates.isOpen] at closed
          have stepped :
              PipeTransfer.step capacity bytes image .endOfFile =
                some { image with
                  reader := readAnswered .epipe received (.ok []) } := by
            simp [PipeTransfer.step, place, unfinished, drained, closed]
          exact simulates.readerAnswered stepped rfl rfl rfl simulates.pipe
            simulates.isOpen False.elim

/-- The step lemma: an answered call is a step of the system. -/
theorem step
    {final : Loops}
    (simulates : Simulates capacity fds bytes state labels image)
    (step : Step (rules capacity) state final) :
    ∃ labels image,
      Simulates capacity fds bytes final labels image := by
  cases step with
  | evolve change => exact change.elim
  | call role position answer given =>
      cases role with
      | writer => exact simulates.writer_step position given
      | reader => exact simulates.reader_step position given

/-- The run lemma: every state that is reached is shown by some run. -/
theorem reaches
    (reaches :
      Reaches (rules capacity) (PipeTransfer.start fds bytes fuel) state) :
    ∃ labels image,
      Simulates capacity fds bytes state labels image := by
  induction reaches with
  | refl =>
      exact simulates_start capacity fds bytes fuel
  | tail _ step inductionHypothesis =>
      obtain ⟨labels, image, simulates⟩ := inductionHypothesis
      exact simulates.step step

/-- A writer that has returned is done. -/
theorem writer_returned
    {result : Result Unit}
    (simulates : Simulates capacity fds bytes state labels image)
    (returned : state.rest .writer = .ret result) :
    image.writer = .done result := by
  have atWriter := simulates.writer
  rw [returned] at atWriter
  generalize image.writer = current, image.writeEndOpen = isOpen at atWriter ⊢
  cases atWriter
  rfl

/-- A reader that has returned is done. -/
theorem reader_returned
    {result : Result Unit × List UInt8}
    (simulates : Simulates capacity fds bytes state labels image)
    (returned : state.rest .reader = .ret result) :
    image.reader = .done result := by
  have atReader := simulates.reader
  rw [returned] at atReader
  generalize image.reader = current at atReader ⊢
  cases atReader
  rfl

/-- A move of the writer in the step system is one of `write_all`. -/
theorem writer_moves
    (simulates : Simulates capacity fds bytes state labels image)
    (uncut : state.rest .writer ≠ .cut)
    {written : Nat}
    (position : image.writer = .again written)
    (space :
      bytes.length ≤ written ∨ image.pipe.contents.length < capacity) :
    ∃ next, Step (rules capacity) state next := by
  have atWriter := simulates.writer
  rw [position] at atWriter
  generalize rest : state.rest .writer = tree,
    image.writeEndOpen = isOpen at atWriter
  cases atWriter with
  | cut => exact (uncut rest).elim
  | writing unfinished fuel =>
      have room : state.kernel.pipe.contents.length + 1 ≤ capacity := by
        rw [simulates.pipe]
        omega
      have some : 1 ≤ (bytes.drop written).length := by
        rw [List.length_drop]
        omega
      have given :
          (rules capacity).answers state.kernel .writer
            (.write fds.2 (bytes.drop written)) (.ok 1) _ :=
        Answered.write Nat.one_pos some room
      exact ⟨_, .call .writer rest _ given⟩

/-- And a move of the reader is one of `read_all`. -/
theorem reader_moves
    (simulates : Simulates capacity fds bytes state labels image)
    (uncut : state.rest .reader ≠ .cut)
    {received : List UInt8}
    (position : image.reader = .again received)
    (available :
      image.pipe.contents ≠ [] ∨ image.writeEndOpen = false) :
    ∃ next, Step (rules capacity) state next := by
  rw [← simulates.pipe, ← simulates.isOpen] at available
  have atReader := simulates.reader
  rw [position] at atReader
  generalize rest : state.rest .reader = tree at atReader
  cases atReader with
  | cut => exact (uncut rest).elim
  | reading unfinished fuel =>
      by_cases drained : state.kernel.pipe.contents = []
      · have closed := available.resolve_left (not_not_intro drained)
        have given :
            (rules capacity).answers state.kernel .reader
              (.read fds.1 (bytes.length - received.length)) (.ok []) _ :=
          Answered.endOfFile drained closed
        exact ⟨_, .call .reader rest _ given⟩
      · have stored : 1 ≤ state.kernel.pipe.contents.length :=
          List.length_pos_iff.mpr drained
        have given :
            (rules capacity).answers state.kernel .reader
              (.read fds.1 (bytes.length - received.length)) (.ok _) _ :=
          Answered.read Nat.one_pos (Nat.sub_pos_of_lt unfinished) stored
        exact ⟨_, .call .reader rest _ given⟩

/-- A reader that is done has returned. -/
theorem reader_done
    {result : Result Unit × List UInt8}
    (simulates : Simulates capacity fds bytes state labels image)
    (uncut : state.rest .reader ≠ .cut)
    (position : image.reader = .done result) :
    state.rest .reader = .ret result := by
  have atReader := simulates.reader
  rw [position] at atReader
  generalize state.rest .reader = tree at atReader uncut ⊢
  cases atReader with
  | cut => exact (uncut rfl).elim
  | returned => rfl

/-- A writer that is done has returned, or is about to close its end. -/
theorem writer_done
    {result : Result Unit}
    (simulates : Simulates capacity fds bytes state labels image)
    (uncut : state.rest .writer ≠ .cut)
    (position : image.writer = .done result) :
    (state.rest .writer = .ret result ∧ image.writeEndOpen = false) ∨
      ∃ next, Step (rules capacity) state next := by
  have atWriter := simulates.writer
  rw [position] at atWriter
  generalize rest : state.rest .writer = tree,
    image.writeEndOpen = isOpen at atWriter ⊢
  cases atWriter with
  | cut => exact (uncut rest).elim
  | returned => exact .inl ⟨rfl, rfl⟩
  | closing =>
      have given :
          (rules capacity).answers state.kernel .writer (.close fds.2)
            (.ok ()) _ :=
        Answered.close (.ok ())
      exact .inr ⟨_, .call .writer rest _ given⟩

end Simulates

variable {capacity fuel : Nat} {fds : Fd × Fd} {bytes : List UInt8}
  {state : Loops}

/--
What the step system says of its runs holds of the loops: nothing is lost or
reordered, and each of them returns 0 only after the whole buffer.
-/
theorem loops_transfer
    (reaches : Reaches (rules capacity) (start fds bytes fuel) state) :
    state.kernel.pipe.accepted <+: bytes ∧
      (state.rest .writer = .ret (.ok ()) →
        state.kernel.pipe.accepted = bytes) ∧
      (∀ result received,
        state.rest .reader = .ret (result, received) →
          received = state.kernel.pipe.delivered) ∧
      ∀ received,
        state.rest .reader = .ret (.ok (), received) →
          received = bytes := by
  obtain ⟨labels, image, simulates⟩ := Simulates.reaches reaches
  have invariant := Invariant.run simulates.accepted
  rw [simulates.pipe]
  refine ⟨invariant.isPrefix, fun returned => ?_,
    fun result received returned => ?_, fun received returned => ?_⟩
  · exact invariant.wrote (simulates.writer_returned returned)
  · rw [← invariant.received, State.received,
      simulates.reader_returned returned]
  · exact invariant.received_eq (simulates.reader_returned returned)

/--
And without failing calls nothing is stuck until both loops have returned 0,
unless the unrolling of one of them has ended.
-/
theorem loops_progress
    (positive : 0 < capacity)
    (reaches : Reaches (rules capacity) (start fds bytes fuel) state)
    (none : ∀ role, ∀ event ∈ state.events role, ¬ Fails event)
    (uncut : ∀ role, state.rest role ≠ .cut) :
    (state.rest .writer = .ret (.ok ()) ∧
        state.rest .reader = .ret (.ok (), bytes)) ∨
      ∃ next, Step (rules capacity) state next := by
  obtain ⟨labels, image, simulates⟩ := Simulates.reaches reaches
  have invariant := Invariant.run simulates.accepted
  have clean := invariant.noFailure (simulates.failures none)
  cases writing : image.writer with
  | again written =>
      refine .inr ?_
      cases reading : image.reader with
      | again received =>
          by_cases drained : image.pipe.contents = []
          · refine simulates.writer_moves (uncut .writer) writing (.inr ?_)
            simpa [drained] using positive
          · exact simulates.reader_moves (uncut .reader) reading
              (.inl drained)
      | done ended =>
          obtain ⟨result, received⟩ := ended
          obtain rfl := clean.2 result received reading
          exact simulates.writer_moves (uncut .writer) writing
            (.inl (invariant.finished_of_received writing reading))
  | done result =>
      obtain rfl := clean.1 result writing
      rcases simulates.writer_done (uncut .writer) writing with
        ⟨wrote, closed⟩ | closes
      · cases reading : image.reader with
        | again received =>
            exact .inr (simulates.reader_moves (uncut .reader) reading
              (.inr closed))
        | done ended =>
            obtain ⟨result, received⟩ := ended
            obtain rfl := clean.2 result received reading
            rw [invariant.received_eq reading] at reading
            exact .inl ⟨wrote,
              simulates.reader_done (uncut .reader) reading⟩
      · exact .inr closes

end AdvanceUnix.PipeTransfer
