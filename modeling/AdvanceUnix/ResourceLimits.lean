import AdvanceUnix.SystemCalls

namespace AdvanceUnix.ResourceLimits

open CallTree

/-!
# A resource limit, lowered and restored

`main` of `14_resource_limits`: `RLIMIT_NOFILE` is queried, lowered and
restored.
-/

/-- `RLIM_INFINITY`, the largest value. -/
def rlimInfinity : BitVec 64 := -1

/-- `same_limit`. -/
def sameLimit (left right : Rlimit) : Bool :=
  left.cur = right.cur && left.max = right.max

/-- `temporary`. -/
def temporary (original : Rlimit) : Rlimit :=
  if original.cur = rlimInfinity || original.cur > 64 then
    { original with cur := 64 }
  else
    original

abbrev getrlimit : Sys (Result Rlimit) :=
  Syscall.invoke .getrlimit

abbrev prlimit (new : Rlimit) : Sys (Result Rlimit) :=
  Syscall.invoke (.prlimit new)

/-- The cleanup section of `main`, reached with a result. -/
def cleanup (changed : Bool) (original : Rlimit) (result : Exit) :
    Sys Exit :=
  if changed then do
    match ← prlimit original with
    | .error _ => return .failure
    | .ok _ => return result
  else
    return result

/-- `getrusage` answers microseconds of a second. -/
def validTimes (times : Int × Int) : Bool :=
  0 ≤ times.1 && times.1 < 1000000 && 0 ≤ times.2 && times.2 < 1000000

/-- `main` once the temporary limit is set. -/
def afterSet (original replaced : Rlimit) : Sys Exit := do
  if !sameLimit original replaced then
    cleanup true original .failure
  else
    let .ok observed ← getrlimit
      | cleanup true original .failure
    if !sameLimit (temporary original) observed then
      cleanup true original .failure
    else
      let .ok _ ← prlimit original
        | cleanup true original .failure
      let .ok times ← Syscall.invoke .getrusage
        | cleanup false original .failure
      cleanup false original
        (if validTimes times then .success else .failure)

/-- `main`. -/
def main : Sys Exit := do
  let .ok original ← getrlimit
    | cleanup false ⟨0, 0⟩ .failure
  let .ok queried ← Syscall.invoke .prlimitQuery
    | cleanup false original .failure
  if !sameLimit original queried then
    cleanup false original .failure
  else
    let .ok replaced ← prlimit (temporary original)
      | cleanup false original .failure
    afterSet original replaced

/-- The temporary limit is at most 64 and at most the original one. -/
theorem temporary_cur (original : Rlimit) :
    (temporary original).cur.toNat = min original.cur.toNat 64 := by
  unfold temporary
  split
  next high =>
    have least : 64 ≤ original.cur.toNat := by
      rcases (Bool.or_eq_true _ _).mp high with infinite | greater
      · rw [of_decide_eq_true infinite]
        decide
      · exact Nat.le_of_lt (of_decide_eq_true greater)
    exact (Nat.min_eq_right least).symm
  next low =>
    have notGreater : ¬ original.cur > 64 := by
      intro greater
      exact low ((Bool.or_eq_true _ _).mpr (.inr (decide_eq_true greater)))
    exact (Nat.min_eq_left (Nat.not_lt.mp notGreater)).symm

/-- The hard limit stays. -/
theorem temporary_max (original : Rlimit) :
    (temporary original).max = original.max := by
  unfold temporary
  split
  · rfl
  · rfl

end AdvanceUnix.ResourceLimits
