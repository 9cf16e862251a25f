import Mathlib.Data.List.Basic

/-!
# A queue in stages

Elements that are accepted are kept in a buffer, passed on, and taken at the
far end.  However they are passed on, they are taken in the order in which they
were accepted: passing on does not change what is seen of the queue.
-/

/-- Elements that were taken, that are on their way, and that are buffered. -/
@[ext] structure StagedQueue (α : Type) where
  taken : List α := []
  passing : List α := []
  kept : List α := []
  deriving DecidableEq, Repr

namespace StagedQueue

variable {α : Type} (queue : StagedQueue α)

/-- Everything that was accepted and is not lost. -/
def all : List α :=
  queue.taken ++ queue.passing ++ queue.kept

/-- Accept elements into the buffer. -/
def accept (elements : List α) : StagedQueue α :=
  { queue with kept := queue.kept ++ elements }

/-- Pass on the first elements of the buffer. -/
def pass (count : Nat) : StagedQueue α :=
  { queue with
    passing := queue.passing ++ queue.kept.take count
    kept := queue.kept.drop count }

/-- Take the first elements that are on their way. -/
def take (count : Nat) : StagedQueue α :=
  { queue with
    taken := queue.taken ++ queue.passing.take count
    passing := queue.passing.drop count }

/-- Lose what is buffered. -/
def lose : StagedQueue α :=
  { queue with kept := [] }

/-- What is accepted comes last. -/
theorem all_accept (elements : List α) :
    (queue.accept elements).all = queue.all ++ elements :=
  (List.append_assoc _ _ _).symm

/-- Passing on is not seen. -/
theorem all_pass (count : Nat) : (queue.pass count).all = queue.all := by
  simp [all, pass]

/-- Nor is taking. -/
theorem all_take (count : Nat) : (queue.take count).all = queue.all := by
  simp [all, take]

/-- What is lost comes last. -/
theorem all_lose : queue.lose.all <+: queue.all := by
  simp [all, lose]

/-- What is passed on leaves the buffer. -/
theorem rest_pass (count : Nat) :
    (queue.pass count).passing ++ (queue.pass count).kept =
      queue.passing ++ queue.kept := by
  simp [pass]

/-- Taking what comes first. -/
theorem take_front (taken front rest kept : List α) :
    (StagedQueue.mk taken (front ++ rest) kept).take front.length =
      ⟨taken ++ front, rest, kept⟩ := by
  simp [take]

/-- Passing on everything. -/
theorem pass_all :
    queue.pass queue.kept.length =
      ⟨queue.taken, queue.passing ++ queue.kept, []⟩ := by
  simp [pass]

end StagedQueue
