import AdvanceUnix.SystemCalls

namespace AdvanceUnix

open CallTree

/-!
# Loops that transfer a whole buffer

`write_all` and `read_all` recur in several experiments as the same loop with
another error for a count of zero.  What an iteration does with the answer of
its call is a function of its own, so that the concurrent models of pipes use
the code of these loops and not a second description of it.
-/

/-- The rest of a `write_all` iteration once `write` has answered. -/
def writeAnswered
    (zeroError : Errno)
    (written : Nat) : Result Nat → LoopStep Nat (Result Unit)
  | .ok 0 => .done (.error zeroError)
  | .ok count => .again (written + count)
  | .error error =>
      if error = .eintr then .again written else .done (.error error)

/--
The rest of a `read_all` iteration once `read` has answered.  The state is the
part of the buffer that is filled, which outlives the loop.
-/
def readAnswered
    (zeroError : Errno)
    (received : List UInt8) :
    Result (List UInt8) →
      LoopStep (List UInt8) (Result Unit × List UInt8)
  | .ok [] => .done (.error zeroError, received)
  | .ok bytes => .again (received ++ bytes)
  | .error error =>
      if error = .eintr then
        .again received
      else
        .done (.error error, received)

abbrev write (fd : Fd) (bytes : List UInt8) : Sys (Result Nat) :=
  Syscall.invoke (.write fd bytes)

abbrev read (fd : Fd) (size : Nat) : Sys (Result (List UInt8)) :=
  Syscall.invoke (.read fd size)

/-- The loop of `write_all`: write what is left until nothing is. -/
def writeLoop
    (zeroError : Errno)
    (fd : Fd)
    (bytes : List UInt8) : Sys (Result Unit) :=
  Program.iterate (fun written => do
    if written < bytes.length then
      let count ← write fd (bytes.drop written)
      return writeAnswered zeroError written count
    else
      return .done (.ok ())) 0

/-- The loop of `read_all`: read what is missing until nothing is. -/
def readLoop
    (zeroError : Errno)
    (fd : Fd)
    (size : Nat) : Sys (Result Unit × List UInt8) :=
  Program.iterate (fun received => do
    if received.length < size then
      let bytes ← read fd (size - received.length)
      return readAnswered zeroError received bytes
    else
      return .done (.ok (), received)) []

namespace FdPassing

/-- `write_all` of `09_fd_passing`. -/
def writeAll (fd : Fd) (bytes : List UInt8) : Sys (Result Unit) :=
  writeLoop .eio fd bytes

/-- `read_all` of `09_fd_passing`. -/
def readAll (fd : Fd) (size : Nat) : Sys (Result Unit × List UInt8) :=
  readLoop .epipe fd size

end FdPassing

namespace ProcessGroups

/-- `write_all` of `22_process_groups`. -/
def writeAll (fd : Fd) (bytes : List UInt8) : Sys (Result Unit) :=
  writeLoop .eio fd bytes

/-- `read_all` of `22_process_groups`. -/
def readAll (fd : Fd) (size : Nat) : Sys (Result Unit × List UInt8) :=
  readLoop .epipe fd size

end ProcessGroups

/-- A positive count advances the writer by it. -/
theorem writeAnswered_count
    (zeroError : Errno)
    (written : Nat)
    {count : Nat}
    (positive : 0 < count) :
    writeAnswered zeroError written (.ok count) =
      .again (written + count) := by
  cases count with
  | zero => exact (Nat.lt_irrefl 0 positive).elim
  | succ count => rfl

/-- Some bytes are appended to the reader's buffer. -/
theorem readAnswered_bytes
    (zeroError : Errno)
    (received : List UInt8)
    {bytes : List UInt8}
    (nonempty : bytes ≠ []) :
    readAnswered zeroError received (.ok bytes) =
      .again (received ++ bytes) := by
  cases bytes with
  | nil => exact (nonempty rfl).elim
  | cons byte rest => rfl

/-- A monitor that does not notice writes does not notice the loop. -/
theorem writeLoop_unchanged
    {State : Type}
    {monitor : Monitor Answer State}
    {state : State}
    {zeroError : Errno}
    {fd : Fd}
    {bytes : List UInt8}
    (unchanged :
      ∀ rest,
        (write fd rest).Ensures monitor (fun _ after => after = state)
          state) :
    (writeLoop zeroError fd bytes).Ensures monitor
      (fun _ after => after = state) state := by
  refine .iterate (fun _ current => current = state) ?_ rfl
  rintro written current rfl
  by_cases unfinished : written < bytes.length
  · simp only [unfinished, ↓reduceIte]
    refine .bind ((unchanged _).mono ?_)
    rintro answer after rfl
    refine .pure ?_
    cases writeAnswered zeroError written answer with
    | again next => rfl
    | done result => rfl
  · simp only [unfinished, ↓reduceIte]
    exact .pure rfl

/-- A monitor that does not notice reads does not notice the loop. -/
theorem readLoop_unchanged
    {State : Type}
    {monitor : Monitor Answer State}
    {state : State}
    {zeroError : Errno}
    {fd : Fd}
    {size : Nat}
    (unchanged :
      ∀ rest,
        (read fd rest).Ensures monitor (fun _ after => after = state)
          state) :
    (readLoop zeroError fd size).Ensures monitor
      (fun _ after => after = state) state := by
  refine .iterate (fun _ current => current = state) ?_ rfl
  rintro received current rfl
  by_cases unfinished : received.length < size
  · simp only [unfinished, ↓reduceIte]
    refine .bind ((unchanged _).mono ?_)
    rintro answer after rfl
    refine .pure ?_
    cases readAnswered zeroError received answer with
    | again next => rfl
    | done result => rfl
  · simp only [unfinished, ↓reduceIte]
    exact .pure rfl

/-- `write_all` returns, unless a write of it is interrupted for ever. -/
theorem writeLoop_returns
    {script : Script Answer}
    (ceasing : script.Ceasing Interrupted)
    (zeroError : Errno)
    (fd : Fd)
    (bytes : List UInt8)
    (index : Nat) :
    (writeLoop zeroError fd bytes).Returns script (fun _ _ => True)
      index := by
  refine .iterate_ceasing ceasing
    (fun written => .write fd (bytes.drop written))
    (fun written => bytes.length - written) ?_ 0
  intro written index
  by_cases unfinished : written < bytes.length
  · simp only [unfinished, ↓reduceIte]
    refine .bind ((Syscall.invoke_returns (.write fd _) index).mono ?_)
    rintro answer after ⟨given, rfl⟩
    refine .pure ?_
    cases answer with
    | error error =>
        by_cases interrupted : error = .eintr
        · subst interrupted
          exact .inr ⟨⟨rfl, rfl, rfl⟩, Nat, heq_of_eq given.symm⟩
        · simp only [writeAnswered, interrupted, ↓reduceIte]
          trivial
    | ok count =>
        cases count with
        | zero => trivial
        | succ count =>
            have lower :
                bytes.length - (written + (count + 1)) <
                  bytes.length - written := by
              omega
            exact .inl lower
  · simp only [unfinished, ↓reduceIte]
    exact .pure trivial

/-- `read_all` returns, unless a read of it is interrupted for ever. -/
theorem readLoop_returns
    {script : Script Answer}
    (ceasing : script.Ceasing Interrupted)
    (zeroError : Errno)
    (fd : Fd)
    (size index : Nat) :
    (readLoop zeroError fd size).Returns script (fun _ _ => True)
      index := by
  refine .iterate_ceasing ceasing
    (fun received => .read fd (size - received.length))
    (fun received => size - received.length) ?_ []
  intro received index
  by_cases unfinished : received.length < size
  · simp only [unfinished, ↓reduceIte]
    refine .bind ((Syscall.invoke_returns (.read fd _) index).mono ?_)
    rintro answer after ⟨given, rfl⟩
    refine .pure ?_
    cases answer with
    | error error =>
        by_cases interrupted : error = .eintr
        · subst interrupted
          exact .inr ⟨⟨rfl, rfl, rfl⟩, List UInt8, heq_of_eq given.symm⟩
        · simp only [readAnswered, interrupted, ↓reduceIte]
          trivial
    | ok bytes =>
        cases bytes with
        | nil => trivial
        | cons byte rest =>
            have lower :
                size - (received ++ byte :: rest).length <
                  size - received.length := by
              rw [List.length_append, List.length_cons]
              omega
            exact .inl lower
  · simp only [unfinished, ↓reduceIte]
    exact .pure trivial

end AdvanceUnix
