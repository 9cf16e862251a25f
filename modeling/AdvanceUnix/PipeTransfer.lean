import AdvanceUnix.Channel
import AdvanceUnix.Transition
import AdvanceUnix.TransferLoop

namespace AdvanceUnix.PipeTransfer

open CallTree Transition

/-!
# A whole buffer through a pipe

One process runs `write_all` and then closes the write end, another runs
`read_all` for the same size.  Each call moves any positive number of bytes
that the pipe allows, is interrupted, or fails; what the loops do with the
answers is `writeAnswered` and `readAnswered`.
-/

/-- Both loops, the pipe between them and the write end. -/
structure State where
  writer : LoopStep Nat (Result Unit)
  reader : LoopStep (List UInt8) (Result Unit × List UInt8)
  pipe : Channel.Fifo UInt8
  writeEndOpen : Bool

/-- Both processes at the head of their loops, the pipe empty. -/
def State.start : State where
  writer := .again 0
  reader := .again []
  pipe := .empty
  writeEndOpen := true

/-- The filled part of the reader's buffer. -/
def State.received (state : State) : List UInt8 :=
  match state.reader with
  | .again received => received
  | .done (_, received) => received

/-- The answers of the calls, the loop exits, and the writer's `close`. -/
inductive Label where
  | accept (count : Nat)
  | writeError (error : Errno)
  | writerLeaves
  | closeWriteEnd
  | deliver (count : Nat)
  | endOfFile
  | readError (error : Errno)
  | readerLeaves
  deriving DecidableEq, Repr

/-- A call that fails for good. -/
def Label.Fails : Label → Prop
  | .writeError error => error ≠ .eintr
  | .readError error => error ≠ .eintr
  | _ => False

/-- A step that is neither a failure nor an interruption. -/
def Label.Moves : Label → Prop
  | .writeError _ => False
  | .readError _ => False
  | _ => True

/-- The bytes that `write` moves from the buffer. -/
def chunk (bytes : List UInt8) (written count : Nat) : List UInt8 :=
  (bytes.drop written).take count

/-- One step of either process. -/
def step
    (capacity : Nat)
    (bytes : List UInt8)
    (state : State) : Label → Option State
  | .accept count =>
      match state.writer with
      | .again written =>
          if written < bytes.length ∧ 0 < count ∧
              count ≤ bytes.length - written ∧
              state.pipe.contents.length + count ≤ capacity then
            some { state with
              writer := writeAnswered .eio written (.ok count)
              pipe := state.pipe.put (chunk bytes written count) }
          else
            none
      | .done _ => none
  | .writeError error =>
      match state.writer with
      | .again written =>
          if written < bytes.length then
            some { state with
              writer := writeAnswered .eio written (.error error) }
          else
            none
      | .done _ => none
  | .writerLeaves =>
      match state.writer with
      | .again written =>
          if written < bytes.length then
            none
          else
            some { state with writer := .done (.ok ()) }
      | .done _ => none
  | .closeWriteEnd =>
      match state.writer with
      | .again _ => none
      | .done _ =>
          if state.writeEndOpen then
            some { state with writeEndOpen := false }
          else
            none
  | .deliver count =>
      match state.reader with
      | .again received =>
          if received.length < bytes.length ∧ 0 < count ∧
              count ≤ bytes.length - received.length ∧
              count ≤ state.pipe.contents.length then
            some { state with
              reader :=
                readAnswered .epipe received
                  (.ok (state.pipe.contents.take count))
              pipe := state.pipe.get count }
          else
            none
      | .done _ => none
  | .endOfFile =>
      match state.reader with
      | .again received =>
          if received.length < bytes.length ∧
              state.pipe.contents = [] ∧
              state.writeEndOpen = false then
            some { state with
              reader := readAnswered .epipe received (.ok []) }
          else
            none
      | .done _ => none
  | .readError error =>
      match state.reader with
      | .again received =>
          if received.length < bytes.length then
            some { state with
              reader := readAnswered .epipe received (.error error) }
          else
            none
      | .done _ => none
  | .readerLeaves =>
      match state.reader with
      | .again received =>
          if received.length < bytes.length then
            none
          else
            some { state with reader := .done (.ok (), received) }
      | .done _ => none

/-- Writer and reader of one buffer over a pipe of some capacity. -/
def system
    (capacity : Nat)
    (bytes : List UInt8) : System State Label where
  initial := State.start
  step := step capacity bytes

/-- Everything a step can do to the writer, the reader and the pipe. -/
inductive Stepped
    (capacity : Nat)
    (bytes : List UInt8)
    (state : State) : Label → State → Prop where
  | accept
      {written count : Nat}
      (writing : state.writer = .again written)
      (positive : 0 < count)
      (fits : written + count ≤ bytes.length) :
      Stepped capacity bytes state (.accept count)
        { state with
          writer := .again (written + count)
          pipe := state.pipe.put (chunk bytes written count) }
  | writeInterrupted
      {written : Nat}
      (writing : state.writer = .again written) :
      Stepped capacity bytes state (.writeError .eintr) state
  | writeFailed
      {error : Errno}
      (fails : error ≠ .eintr) :
      Stepped capacity bytes state (.writeError error)
        { state with writer := .done (.error error) }
  | writerLeaves
      {written : Nat}
      (writing : state.writer = .again written)
      (complete : bytes.length ≤ written) :
      Stepped capacity bytes state .writerLeaves
        { state with writer := .done (.ok ()) }
  | closeWriteEnd
      {result : Result Unit}
      (returned : state.writer = .done result) :
      Stepped capacity bytes state .closeWriteEnd
        { state with writeEndOpen := false }
  | deliver
      {received : List UInt8}
      {count : Nat}
      (reading : state.reader = .again received) :
      Stepped capacity bytes state (.deliver count)
        { state with
          reader := .again (received ++ state.pipe.contents.take count)
          pipe := state.pipe.get count }
  | endOfFile
      {received : List UInt8}
      (reading : state.reader = .again received)
      (incomplete : received.length < bytes.length)
      (drained : state.pipe.contents = [])
      (closed : state.writeEndOpen = false) :
      Stepped capacity bytes state .endOfFile
        { state with reader := .done (.error .epipe, received) }
  | readInterrupted
      {received : List UInt8}
      (reading : state.reader = .again received) :
      Stepped capacity bytes state (.readError .eintr) state
  | readFailed
      {received : List UInt8}
      {error : Errno}
      (reading : state.reader = .again received)
      (fails : error ≠ .eintr) :
      Stepped capacity bytes state (.readError error)
        { state with reader := .done (.error error, received) }
  | readerLeaves
      {received : List UInt8}
      (reading : state.reader = .again received)
      (complete : bytes.length ≤ received.length) :
      Stepped capacity bytes state .readerLeaves
        { state with reader := .done (.ok (), received) }

/-- Inversion of one accepted step. -/
theorem step_cases
    {capacity : Nat}
    {bytes : List UInt8}
    {state next : State}
    {label : Label}
    (accepted : step capacity bytes state label = some next) :
    Stepped capacity bytes state label next := by
  obtain ⟨writer, reader, pipe, writeEndOpen⟩ := state
  cases label with
  | accept count =>
      cases writer with
      | done result => cases accepted
      | again written =>
          simp only [step, Option.ite_none_right_eq_some,
            Option.some.injEq] at accepted
          obtain ⟨⟨_, positive, fits, _⟩, rfl⟩ := accepted
          rw [writeAnswered_count _ _ positive]
          exact .accept rfl positive (by omega)
  | writeError error =>
      cases writer with
      | done result => cases accepted
      | again written =>
          simp only [step, Option.ite_none_right_eq_some,
            Option.some.injEq] at accepted
          obtain ⟨_, rfl⟩ := accepted
          by_cases interrupted : error = .eintr
          · subst interrupted
            exact .writeInterrupted rfl
          · simp only [writeAnswered, interrupted, ↓reduceIte]
            exact .writeFailed interrupted
  | writerLeaves =>
      cases writer with
      | done result => cases accepted
      | again written =>
          simp only [step, Option.ite_none_left_eq_some,
            Option.some.injEq] at accepted
          obtain ⟨complete, rfl⟩ := accepted
          exact .writerLeaves rfl (by omega)
  | closeWriteEnd =>
      cases writer with
      | again written => cases accepted
      | done result =>
          simp only [step, Option.ite_none_right_eq_some,
            Option.some.injEq] at accepted
          obtain ⟨_, rfl⟩ := accepted
          exact .closeWriteEnd rfl
  | deliver count =>
      cases reader with
      | done result => cases accepted
      | again received =>
          simp only [step, Option.ite_none_right_eq_some,
            Option.some.injEq] at accepted
          obtain ⟨⟨_, positive, _, available⟩, rfl⟩ := accepted
          have nonempty : pipe.contents.take count ≠ [] := by
            intro empty
            have short := congrArg List.length empty
            rw [List.length_take, List.length_nil] at short
            omega
          rw [readAnswered_bytes _ _ nonempty]
          exact .deliver rfl
  | endOfFile =>
      cases reader with
      | done result => cases accepted
      | again received =>
          simp only [step, Option.ite_none_right_eq_some,
            Option.some.injEq] at accepted
          obtain ⟨⟨incomplete, drained, closed⟩, rfl⟩ := accepted
          exact .endOfFile rfl incomplete drained closed
  | readError error =>
      cases reader with
      | done result => cases accepted
      | again received =>
          simp only [step, Option.ite_none_right_eq_some,
            Option.some.injEq] at accepted
          obtain ⟨_, rfl⟩ := accepted
          by_cases interrupted : error = .eintr
          · subst interrupted
            exact .readInterrupted rfl
          · simp only [readAnswered, interrupted, ↓reduceIte]
            exact .readFailed rfl interrupted
  | readerLeaves =>
      cases reader with
      | done result => cases accepted
      | again received =>
          simp only [step, Option.ite_none_left_eq_some,
            Option.some.injEq] at accepted
          obtain ⟨complete, rfl⟩ := accepted
          exact .readerLeaves rfl (by omega)

/-- What the two loops and the pipe say about each other. -/
structure Invariant
    (bytes : List UInt8)
    (labels : List Label)
    (state : State) : Prop where
  isPrefix : state.pipe.accepted <+: bytes
  writing :
    ∀ written,
      state.writer = .again written →
        written ≤ bytes.length ∧
          state.pipe.accepted = bytes.take written
  wrote :
    state.writer = .done (.ok ()) → state.pipe.accepted = bytes
  received : state.received = state.pipe.delivered
  readAll :
    ∀ received,
      state.reader = .done (.ok (), received) →
        bytes.length ≤ received.length
  closed :
    state.writeEndOpen = false →
      ∃ result, state.writer = .done result
  noFailure :
    (∀ label ∈ labels, ¬ label.Fails) →
      (∀ result, state.writer = .done result → result = .ok ()) ∧
        ∀ result received,
          state.reader = .done (result, received) → result = .ok ()

/-- The chunk at the current offset extends the accepted prefix. -/
theorem take_append_chunk
    (bytes : List UInt8)
    (written count : Nat) :
    bytes.take written ++ chunk bytes written count =
      bytes.take (written + count) :=
  (List.take_add ..).symm

namespace Invariant

variable {capacity : Nat} {bytes : List UInt8}

/-- The invariant holds before either loop runs. -/
theorem start : Invariant bytes [] State.start where
  isPrefix := List.nil_prefix
  writing := by
    rintro written ⟨⟩
    exact ⟨Nat.zero_le _, rfl⟩
  wrote := by
    intro returned
    cases returned
  received := rfl
  readAll := by
    intro received returned
    cases returned
  closed := by
    intro closed
    cases closed
  noFailure := by
    intro _
    constructor
    · intro result returned
      cases returned
    · intro result received returned
      cases returned

/-- An end of file is seen only when the writer gave up before the end. -/
theorem incomplete_of_endOfFile
    {labels : List Label}
    {state : State}
    (invariant : Invariant bytes labels state)
    {received : List UInt8}
    (reading : state.reader = .again received)
    (incomplete : received.length < bytes.length)
    (drained : state.pipe.contents = []) :
    state.pipe.accepted.length < bytes.length := by
  have delivered := Channel.Fifo.delivered_of_contents_nil drained
  have sameBytes : received = state.pipe.accepted := by
    rw [← delivered, ← invariant.received, State.received, reading]
  rwa [← sameBytes]

/-- The step lemma: every accepted step keeps the invariant. -/
theorem step
    {labels : List Label}
    {state next : State}
    {label : Label}
    (invariant : Invariant bytes labels state)
    (accepted :
      PipeTransfer.step capacity bytes state label = some next) :
    Invariant bytes (labels ++ [label]) next := by
  have earlier :
      (∀ any ∈ labels ++ [label], ¬ any.Fails) →
        (∀ any ∈ labels, ¬ any.Fails) ∧ ¬ label.Fails := by
    intro none
    exact ⟨fun any member => none any (by simp [member]),
      none label (by simp)⟩
  have inverted := step_cases accepted
  obtain ⟨writer, reader, pipe, writeEndOpen⟩ := state
  obtain ⟨isPrefix, writing, wrote, received, readAll, closed,
    noFailure⟩ := invariant
  cases inverted with
  | @accept written count writingNow positive fits =>
      cases writingNow
      obtain ⟨_, acceptedSoFar⟩ := writing written rfl
      simp only at acceptedSoFar
      have acceptedNow :
          pipe.accepted ++ chunk bytes written count =
            bytes.take (written + count) := by
        rw [acceptedSoFar, take_append_chunk]
      refine ⟨?_, ?_, nofun, received, readAll, ?_, ?_⟩
      · simp only [Channel.Fifo.put_accepted, acceptedNow]
        exact List.take_prefix _ _
      · rintro _ ⟨⟩
        exact ⟨fits, acceptedNow⟩
      · intro nowClosed
        obtain ⟨_, returned⟩ := closed nowClosed
        cases returned
      · intro none
        exact ⟨nofun, (noFailure (earlier none).1).2⟩
  | writeInterrupted writingNow =>
      exact ⟨isPrefix, writing, wrote, received, readAll, closed,
        fun none => noFailure (earlier none).1⟩
  | writeFailed fails =>
      refine ⟨isPrefix, nofun, nofun, received, readAll,
        fun _ => ⟨_, rfl⟩, ?_⟩
      intro none
      exact ((earlier none).2 fails).elim
  | @writerLeaves written writingNow complete =>
      cases writingNow
      obtain ⟨_, acceptedSoFar⟩ := writing written rfl
      refine ⟨isPrefix, nofun, ?_, received, readAll,
        fun _ => ⟨_, rfl⟩, ?_⟩
      · intro _
        simpa [List.take_of_length_le complete] using acceptedSoFar
      · intro none
        exact ⟨by rintro _ ⟨⟩; rfl, (noFailure (earlier none).1).2⟩
  | @closeWriteEnd result returned =>
      exact ⟨isPrefix, writing, wrote, received, readAll,
        fun _ => ⟨result, returned⟩,
        fun none => noFailure (earlier none).1⟩
  | @deliver filled count reading =>
      cases reading
      refine ⟨isPrefix, writing, wrote, ?_, nofun, closed, ?_⟩
      · simpa [State.received] using received
      · intro none
        exact ⟨(noFailure (earlier none).1).1, nofun⟩
  | @endOfFile filled reading incomplete drained nowClosed =>
      cases reading
      refine ⟨isPrefix, writing, wrote, received, nofun, closed, ?_⟩
      intro none
      have clean := noFailure (earlier none).1
      obtain ⟨result, returned⟩ := closed nowClosed
      have succeeded := clean.1 result returned
      subst succeeded
      have everything := wrote returned
      have delivered := Channel.Fifo.delivered_of_contents_nil drained
      have whole : filled = bytes := by
        rw [← everything, ← delivered, ← received]
        rfl
      rw [whole] at incomplete
      exact (Nat.lt_irrefl _ incomplete).elim
  | readInterrupted reading =>
      exact ⟨isPrefix, writing, wrote, received, readAll, closed,
        fun none => noFailure (earlier none).1⟩
  | readFailed reading fails =>
      cases reading
      refine ⟨isPrefix, writing, wrote, received, nofun, closed, ?_⟩
      intro none
      exact ((earlier none).2 fails).elim
  | @readerLeaves filled reading complete =>
      cases reading
      refine ⟨isPrefix, writing, wrote, received, ?_, closed, ?_⟩
      · rintro _ ⟨⟩
        exact complete
      · intro none
        exact ⟨(noFailure (earlier none).1).1, by rintro _ _ ⟨⟩; rfl⟩

/-- The run lemma: every run satisfies the invariant. -/
theorem run
    {labels : List Label}
    {state : State}
    (accepted : (system capacity bytes).run labels = some state) :
    Invariant bytes labels state :=
  System.run_invariant (Invariant bytes)
    start
    (fun invariant accepted => invariant.step accepted)
    accepted

/-- A reader that returned 0 holds exactly the writer's bytes. -/
theorem received_eq
    {labels : List Label}
    {state : State}
    (invariant : Invariant bytes labels state)
    {received : List UInt8}
    (returned : state.reader = .done (.ok (), received)) :
    received = bytes := by
  have long := invariant.readAll received returned
  have filled : state.received = received := by
    rw [State.received, returned]
  have isPrefix : received <+: bytes := by
    rw [← filled, invariant.received]
    exact state.pipe.delivered_isPrefix.trans invariant.isPrefix
  exact isPrefix.eq_of_length
    (Nat.le_antisymm isPrefix.length_le long)

/-- A reader that still wants bytes can move unless the pipe is empty. -/
theorem reader_moves
    {state : State}
    {received : List UInt8}
    (reading : state.reader = .again received)
    (available :
      state.pipe.contents ≠ [] ∨ state.writeEndOpen = false) :
    ∃ label,
      label.Moves ∧ (system capacity bytes).Enabled state label := by
  by_cases complete : bytes.length ≤ received.length
  · refine ⟨.readerLeaves, trivial,
      { state with reader := .done (.ok (), received) }, ?_⟩
    simp [system, PipeTransfer.step, reading, Nat.not_lt.mpr complete]
  · by_cases drained : state.pipe.contents = []
    · have closed := available.resolve_left (not_not_intro drained)
      refine ⟨.endOfFile, trivial,
        { state with
          reader := readAnswered .epipe received (.ok []) }, ?_⟩
      simp [system, PipeTransfer.step, reading,
        Nat.not_le.mp complete, drained, closed]
    · refine ⟨.deliver 1, trivial,
        { state with
          reader :=
            readAnswered .epipe received
              (.ok (state.pipe.contents.take 1))
          pipe := state.pipe.get 1 }, ?_⟩
      have wanted : 1 ≤ bytes.length - received.length := by
        omega
      simp [system, PipeTransfer.step, reading,
        Nat.not_le.mp complete, wanted, drained]

/-- A writer with bytes left can move unless the pipe is full. -/
theorem writer_moves
    {state : State}
    {written : Nat}
    (writing : state.writer = .again written)
    (space :
      bytes.length ≤ written ∨
        state.pipe.contents.length < capacity) :
    ∃ label,
      label.Moves ∧ (system capacity bytes).Enabled state label := by
  by_cases complete : bytes.length ≤ written
  · refine ⟨.writerLeaves, trivial,
      { state with writer := .done (.ok ()) }, ?_⟩
    simp [system, PipeTransfer.step, writing, Nat.not_lt.mpr complete]
  · have room := space.resolve_left complete
    refine ⟨.accept 1, trivial,
      { state with
        writer := writeAnswered .eio written (.ok 1)
        pipe := state.pipe.put (chunk bytes written 1) }, ?_⟩
    have left : 1 ≤ bytes.length - written := by
      omega
    simp [system, PipeTransfer.step, writing,
      Nat.not_le.mp complete, left, Nat.succ_le_of_lt room]

/-- Once the reader has everything, the writer has nothing left. -/
theorem finished_of_received
    {labels : List Label}
    {state : State}
    (invariant : Invariant bytes labels state)
    {written : Nat}
    {received : List UInt8}
    (writing : state.writer = .again written)
    (reading : state.reader = .done (.ok (), received)) :
    bytes.length ≤ written := by
  have whole := invariant.received_eq reading
  have filled : state.received = received := by
    rw [State.received, reading]
  obtain ⟨_, acceptedSoFar⟩ := invariant.writing written writing
  have bound := state.pipe.delivered_isPrefix.length_le
  rw [← invariant.received, filled, whole, acceptedSoFar,
    List.length_take] at bound
  omega

/-- Without failures, nothing is stuck until both loops have returned 0. -/
theorem progress
    {labels : List Label}
    {state : State}
    (invariant : Invariant bytes labels state)
    (positive : 0 < capacity)
    (none : ∀ label ∈ labels, ¬ label.Fails) :
    (state.writer = .done (.ok ()) ∧
        state.reader = .done (.ok (), bytes)) ∨
      ∃ label,
        label.Moves ∧ (system capacity bytes).Enabled state label := by
  have clean := invariant.noFailure none
  cases writing : state.writer with
  | again written =>
      cases reading : state.reader with
      | again received =>
          by_cases drained : state.pipe.contents = []
          · exact .inr (writer_moves writing
              (.inr (by simpa [drained] using positive)))
          · exact .inr (reader_moves reading (.inl drained))
      | done ended =>
          obtain ⟨result, received⟩ := ended
          have succeeded := clean.2 result received reading
          subst succeeded
          exact .inr (writer_moves writing
            (.inl (invariant.finished_of_received writing reading)))
  | done result =>
      have wroteAll := clean.1 result writing
      subst wroteAll
      cases reading : state.reader with
      | again received =>
          cases closed : state.writeEndOpen with
          | false => exact .inr (reader_moves reading (.inr closed))
          | true =>
              refine .inr ⟨.closeWriteEnd, trivial,
                { state with writeEndOpen := false }, ?_⟩
              simp [system, PipeTransfer.step, writing, closed]
      | done ended =>
          obtain ⟨result, received⟩ := ended
          have succeeded := clean.2 result received reading
          subst succeeded
          rw [invariant.received_eq reading]
          exact .inl ⟨rfl, rfl⟩

end Invariant

/--
`write_all` against `read_all` over a pipe, in every reachable state: nothing
is lost or reordered on the way, each loop returns 0 only after the whole
buffer, an end of file is seen (and reported as `EPIPE`) only when the writer
closed early, and without failing calls nothing is ever stuck.
-/
theorem pipe_transfer
    {capacity : Nat}
    {bytes : List UInt8}
    (positive : 0 < capacity)
    {labels : List Label}
    {state : State}
    (accepted : (system capacity bytes).run labels = some state) :
    state.received ++ state.pipe.contents = state.pipe.accepted ∧
      state.pipe.accepted <+: bytes ∧
      (∀ received,
        state.reader = .done (.ok (), received) → received = bytes) ∧
      (state.writer = .done (.ok ()) → state.pipe.accepted = bytes) ∧
      (∀ next,
        step capacity bytes state .endOfFile = some next →
          state.writeEndOpen = false ∧
            state.pipe.accepted.length < bytes.length ∧
            next.reader = .done (.error .epipe, state.received)) ∧
      ((∀ label ∈ labels, ¬ label.Fails) →
        (state.writer = .done (.ok ()) ∧
            state.reader = .done (.ok (), bytes)) ∨
          ∃ label,
            label.Moves ∧
              (system capacity bytes).Enabled state label) := by
  have invariant := Invariant.run accepted
  refine ⟨?_, invariant.isPrefix,
    fun _ returned => invariant.received_eq returned,
    invariant.wrote, ?_, invariant.progress positive⟩
  · rw [invariant.received]
    exact state.pipe.conserved
  · intro next ended
    cases step_cases ended with
    | @endOfFile received reading incomplete drained closed =>
        refine ⟨closed,
          invariant.incomplete_of_endOfFile reading incomplete drained,
          ?_⟩
        simp [State.received, reading]

/-- Two bytes through a one-byte pipe: the second one is still in it. -/
def secondInPipe : State where
  writer := .again 2
  reader := .again [7]
  pipe := ⟨[7, 8], [7], [8], rfl⟩
  writeEndOpen := true

/-- The transfer theorem after an interruption and three moved bytes. -/
theorem pipe_transfer_secondInPipe :
    secondInPipe.received ++ secondInPipe.pipe.contents =
      secondInPipe.pipe.accepted :=
  (@pipe_transfer 1 [7, 8] (by decide)
    [.writeError .eintr, .accept 1, .deliver 1, .accept 1] _ rfl).1

end AdvanceUnix.PipeTransfer
