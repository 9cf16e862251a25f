import AdvanceUnix.SystemCalls

namespace AdvanceUnix.ChildProcess

open CallTree

/-!
# Waiting for a child and ending it

What several experiments do alike with the child that they forked.
-/

/-- A parent and the child that it has forked. -/
inductive Role where
  | parent
  | child
  deriving DecidableEq, Repr

/-- What each returns: the child ends with `_exit`. -/
@[reducible] def Outcome : Role → Type
  | .parent => Exit
  | .child => Unit

abbrev waitpid (child : Pid) : Sys (Result WaitStatus) :=
  Syscall.invoke (.waitpid child)

abbrev kill (child : Pid) (signal : Signal) : Sys (Result Unit) :=
  Syscall.invoke (.kill child signal)

/-- The loop of `wait_for_child`. -/
def waitForChild (child : Pid) : Sys (Result WaitStatus) :=
  retryEintr (waitpid child)

/-- A wait returns, unless it is interrupted for ever. -/
theorem waitForChild_returns
    {script : Script Answer}
    (ceasing : script.Ceasing Interrupted)
    (child : Pid)
    (index : Nat) :
    (waitForChild child).Returns script (fun _ _ => True) index :=
  retryEintr_returns (.waitpid child)
    (fun current => script current (.waitpid child))
    (Syscall.invoke_returns (.waitpid child))
    (fun _ given => ⟨WaitStatus, heq_of_eq given⟩) ceasing
    fun _ _ _ _ => trivial

/-- The body of `if (child > 0 && !child_reaped)` in a cleanup section. -/
def endChild (child : Pid) (result : Exit) : Sys Exit := do
  let result ← release true (kill child .sigterm) (some .esrch) result
  match ← waitForChild child with
  | .error error =>
      return if error = .echild then result else .failure
  | .ok _ => return result

/-- The cleanup of the child: only one that was forked and not reaped. -/
def cleanupChild
    (child : Option Pid)
    (childReaped : Bool)
    (result : Exit) : Sys Exit :=
  match child with
  | some child =>
      if childReaped then return result else endChild child result
  | none => return result

/-- That cleanup returns, unless its wait is interrupted for ever. -/
theorem cleanupChild_returns
    {script : Script Answer}
    {index : Nat}
    (ceasing : script.Ceasing Interrupted)
    (child : Option Pid)
    (childReaped : Bool)
    (result : Exit) :
    (cleanupChild child childReaped result).Returns script
      (fun _ _ => True) index := by
  unfold cleanupChild
  cases child with
  | none => exact .pure trivial
  | some child =>
      cases childReaped with
      | true => exact .pure trivial
      | false =>
          refine .bind (release_returns
            (Syscall.invoke_ends (.kill child .sigterm)) ?_)
          intro signalled after
          refine .bind (.mono (waitForChild_returns ceasing child _) ?_)
          rintro (error | status) waited _
          · exact .pure trivial
          · exact .pure trivial

/-- The end of a child that an answered call reports. -/
def reportedBy : Event Answer → Option WaitStatus
  | ⟨.waitpid _, answer⟩ => (answer : Result WaitStatus).toOption
  | _ => none

end AdvanceUnix.ChildProcess
