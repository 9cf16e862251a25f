import Mathlib.Data.Set.Basic

/-!
# Record locks

Owners hold shared or exclusive locks on positions.  A lock is granted if it
conflicts with no lock of another owner, and then no two owners ever hold
conflicting locks.  Who the owners are is left open.
-/

namespace RecordLocks

/-- The kinds of locks. -/
inductive Kind where
  | shared
  | exclusive
  deriving DecidableEq, Repr

/-- Locks of two owners on one position, at least one of them exclusive. -/
def Kind.Conflicts (kind other : Kind) : Prop :=
  kind = .exclusive ∨ other = .exclusive

/-- What each owner holds at each position. -/
abbrev Table (Owner Position : Type) :=
  Owner → Position → Option Kind

namespace Table

variable {Owner Position : Type} {table : Table Owner Position}
  {owner other : Owner} {kind : Kind} {region : Set Position}

/-- Nobody holds anything. -/
def free : Table Owner Position :=
  fun _ _ => none

/-- Another owner holds a conflicting lock within the region. -/
def Refuses
    (table : Table Owner Position)
    (owner : Owner)
    (kind : Kind)
    (region : Set Position) : Prop :=
  ∃ other position held,
    other ≠ owner ∧
      position ∈ region ∧
        table other position = some held ∧ kind.Conflicts held

/-- No two owners hold conflicting locks. -/
def Compatible (table : Table Owner Position) : Prop :=
  ∀ owner other position kind held,
    owner ≠ other →
    table owner position = some kind →
    table other position = some held →
    ¬ kind.Conflicts held

/-- An owner is not refused by what it holds itself. -/
theorem not_refuses_own
    (alone : ∀ other, other ≠ owner → table other = fun _ => none) :
    ¬ table.Refuses owner kind region := by
  rintro ⟨other, position, held, different, _, holds, _⟩
  rw [alone other different] at holds
  cases holds

section Updates

variable [DecidableEq Owner] [DecidablePred (· ∈ region)]

/-- What one owner holds on a region becomes the value. -/
def put
    (table : Table Owner Position)
    (owner : Owner)
    (region : Set Position)
    [DecidablePred (· ∈ region)]
    (value : Option Kind) : Table Owner Position :=
  fun holder position =>
    if holder = owner ∧ position ∈ region then
      value
    else
      table holder position

/-- An owner gives up everything. -/
def drop
    (table : Table Owner Position)
    (owner : Owner) : Table Owner Position :=
  fun holder position =>
    if holder = owner then none else table holder position

/-- A lock that is not refused is compatible with the others. -/
theorem Compatible.put
    (compatible : table.Compatible)
    (granted : ¬ table.Refuses owner kind region) :
    (table.put owner region (some kind)).Compatible := by
  intro first second position one two different here there conflicts
  unfold Table.put at here there
  split at here
  · rename_i mine
    rw [if_neg fun theirs => different (mine.1.trans theirs.1.symm)] at there
    obtain rfl := Option.some.inj here
    refine granted ⟨second, position, two, ?_, mine.2, there, conflicts⟩
    exact fun same => different (mine.1.trans same.symm)
  · split at there
    · rename_i mine
      obtain rfl := Option.some.inj there
      refine granted ⟨first, position, one, ?_, mine.2, here, conflicts.symm⟩
      exact fun same => different (same.trans mine.1.symm)
    · exact compatible _ _ _ _ _ different here there conflicts

/-- Giving up a region keeps the rest compatible. -/
theorem Compatible.release
    (compatible : table.Compatible) :
    (table.put owner region none).Compatible := by
  intro first second position one two different here there
  unfold Table.put at here there
  split at here
  · cases here
  · split at there
    · cases there
    · exact compatible _ _ _ _ _ different here there

/-- So does giving up everything. -/
theorem Compatible.drop
    (compatible : table.Compatible) :
    (table.drop owner).Compatible := by
  intro first second position one two different here there
  unfold Table.drop at here there
  split at here
  · cases here
  · split at there
    · cases there
    · exact compatible _ _ _ _ _ different here there

/-- An exclusive lock that overlaps a region refuses it to everyone else. -/
theorem refuses_put
    (different : owner ≠ other)
    {asked : Set Position}
    (overlaps : ∃ position, position ∈ region ∧ position ∈ asked) :
    (table.put owner region (some .exclusive)).Refuses other kind asked := by
  obtain ⟨position, inRegion, inAsked⟩ := overlaps
  exact ⟨owner, position, .exclusive, different, inAsked,
    if_pos ⟨rfl, inRegion⟩, .inr rfl⟩

end Updates

end Table

end RecordLocks
