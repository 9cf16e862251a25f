import Mathlib.Logic.Function.Basic

namespace DescriptorTable

/-!
# Tables of descriptors

A process names open files by descriptors, and marks some of them to be closed
when it executes another program.  The operations fail on a descriptor that is
not open.
-/

variable {Fd File : Type}

/-- What a descriptor refers to, and whether it survives an execution. -/
structure Entry (File : Type) where
  file : File
  closeOnExec : Bool
  deriving DecidableEq, Repr

/-- The open descriptors of a process. -/
abbrev Table (Fd File : Type) := Fd → Option (Entry File)

namespace Table

/-- What is left of a table when another program is executed. -/
def exec (table : Table Fd File) : Table Fd File :=
  fun fd => (table fd).filter fun entry => !entry.closeOnExec

/-- A descriptor refers to a file. -/
def Refers (table : Table Fd File) (fd : Fd) (file : File) : Prop :=
  ∃ entry, table fd = some entry ∧ entry.file = file

variable {table : Table Fd File} {fd other source target : Fd}
  {entry : Entry File} {file : File}

/-- A closed descriptor refers to nothing. -/
theorem not_refers_of_none (closed : table fd = none) :
    ¬ table.Refers fd file := by
  rintro ⟨entry, isOpen, _⟩
  rw [closed] at isOpen
  cases isOpen

/-- What survives an execution was there before. -/
theorem Refers.of_exec (refers : table.exec.Refers fd file) :
    table.Refers fd file := by
  obtain ⟨entry, survives, same⟩ := refers
  exact ⟨entry, (Option.filter_eq_some_iff.mp survives).1, same⟩

variable [DecidableEq Fd]

/-- The table without a descriptor. -/
def remove (table : Table Fd File) (fd : Fd) : Table Fd File :=
  Function.update table fd none

/-- Close an open descriptor. -/
def close (table : Table Fd File) (fd : Fd) : Option (Table Fd File) :=
  (table fd).map fun _ => table.remove fd

/--
Make the target refer to what an open source refers to; the target survives an
execution, also when it is the source.
-/
def dup2
    (table : Table Fd File)
    (source target : Fd) : Option (Table Fd File) :=
  (table source).map fun entry =>
    Function.update table target
      (some { entry with closeOnExec := false })

@[simp]
theorem remove_self : table.remove fd fd = none :=
  Function.update_self ..

@[simp]
theorem remove_other (different : other ≠ fd) :
    table.remove fd other = table other :=
  Function.update_of_ne different ..

/-- An open descriptor can be closed. -/
theorem close_open (isOpen : table fd = some entry) :
    table.close fd = some (table.remove fd) := by
  rw [close, isOpen, Option.map_some]

/-- An open descriptor can be duplicated. -/
theorem dup2_open (isOpen : table source = some entry) :
    table.dup2 source target =
      some (Function.update table target
        (some { entry with closeOnExec := false })) := by
  rw [dup2, isOpen, Option.map_some]

end Table

end DescriptorTable
