import AdvanceUnix.SystemCalls

namespace AdvanceUnix.FileIo

open CallTree

/-!
# Scatter/gather transfer

`transfer_iovecs` of `01_file_io`.  The array from `vectors + current` on is
the list of the remaining vectors, so advancing `current` is dropping the
head; the vectors before `current` are never looked at again.  The exit of
the outer loop is named, so that the branch after the vectors ran out can be
told from a call that moved nothing.
-/

end FileIo

namespace IoVec

/-- The addresses of a vector's bytes. -/
def span (vector : IoVec) : List Nat :=
  List.range' vector.base vector.len

/-- Move the base and shorten the length by a number of bytes. -/
def advance (vector : IoVec) (count : Nat) : IoVec where
  base := vector.base + count
  len := vector.len - count

end IoVec

namespace FileIo

open CallTree

/-- The addresses of the concatenated vectors, in order. -/
def spans (vectors : List IoVec) : List Nat :=
  vectors.flatMap IoVec.span

/-- The loop that skips vectors of length zero. -/
def skipEmpty : List IoVec → List IoVec
  | [] => []
  | vector :: rest =>
      if vector.len = 0 then skipEmpty rest else vector :: rest

/--
The loop that accounts for transferred bytes: the remaining vectors and what
is left of the count when the vectors run out.
-/
def consume : List IoVec → Nat → List IoVec × Nat
  | [], transferred => ([], transferred)
  | vector :: rest, transferred =>
      if transferred = 0 then
        (vector :: rest, 0)
      else if vector.len ≤ transferred then
        consume rest (transferred - vector.len)
      else
        (vector.advance transferred :: rest, 0)

/-- `(int)(vector_count - current)`. -/
def remaining (vectors : List IoVec) : Int :=
  (BitVec.ofNat 32 vectors.length).toInt

/-- The vectors that a call is offered; none for a negative count. -/
def offered (vectors : List IoVec) : List IoVec :=
  vectors.take (remaining vectors).toNat

/-- How the loop of `transfer_iovecs` is left. -/
inductive TransferExit where
  | complete
  | failed (error : Errno)
  | noProgress
  | ranOut
  deriving DecidableEq, Repr

/-- The return value, and `errno` where it is -1. -/
def TransferExit.returned : TransferExit → Result Unit
  | .complete => .ok ()
  | .failed error => .error error
  | .noProgress => .error .eio
  | .ranOut => .error .eio

abbrev readv (fd : Fd) (vectors : List IoVec) : Sys (Result Nat) :=
  Syscall.invoke (.readv fd vectors)

abbrev writev (fd : Fd) (vectors : List IoVec) : Sys (Result Nat) :=
  Syscall.invoke (.writev fd vectors)

/-- The one call of an attempt, by direction. -/
def transferCall
    (fd : Fd)
    (writing : Bool)
    (vectors : List IoVec) : Sys (Result Nat) :=
  if writing then writev fd vectors else readv fd vectors

/-- What an iteration does with the count that its call returned. -/
def transferred
    (pending : List IoVec) :
    Result Nat → LoopStep (List IoVec) TransferExit
  | .error error => .done (.failed error)
  | .ok 0 => .done .noProgress
  | .ok count =>
      match consume pending count with
      | (rest, 0) => .again rest
      | (_, _ + 1) => .done .ranOut

/-- `transfer_iovecs` with its exits named. -/
def transferExit
    (fd : Fd)
    (vectors : List IoVec)
    (writing : Bool) : Sys TransferExit :=
  Program.iterate (fun current => do
    match skipEmpty current with
    | [] => return .done .complete
    | vector :: rest =>
        let pending := vector :: rest
        let count ←
          retryEintr (transferCall fd writing (offered pending))
        return transferred pending count) vectors

/-- `transfer_iovecs`: 0, or -1 with an error. -/
def transferIovecs
    (fd : Fd)
    (vectors : List IoVec)
    (writing : Bool) : Sys (Result Unit) := do
  let exit ← transferExit fd vectors writing
  return exit.returned

end AdvanceUnix.FileIo
