import Mathlib.Data.List.Nodup
import Mathlib.Logic.Function.Basic

namespace ScatteredStore

/-!
# Storing a sequence at a list of addresses

A memory is a function of its addresses.  Storing writes the values one after
another, so storing in pieces is storing at once, and distinct addresses read
back what was stored.
-/

variable {Address Value : Type} [DecidableEq Address]

/-- Store values at addresses, in order, until either list ends. -/
def store
    (memory : Address → Value) :
    List Address → List Value → Address → Value
  | address :: addresses, value :: values =>
      store (Function.update memory address value) addresses values
  | _, _ => memory

/-- Nothing is stored when there are no values. -/
@[simp]
theorem store_nil
    (memory : Address → Value)
    (addresses : List Address) :
    store memory addresses [] = memory := by
  cases addresses with
  | nil => rfl
  | cons address rest => rfl

/-- Storing in two pieces is storing at once. -/
theorem store_append
    (memory : Address → Value)
    (first second : List Address)
    (values : List Value) :
    store memory (first ++ second) values =
      store (store memory first values) second
        (values.drop first.length) := by
  induction first generalizing memory values with
  | nil =>
      rfl
  | cons address rest inductionHypothesis =>
      cases values with
      | nil => simp
      | cons value later => exact inductionHypothesis _ later

/-- Storing elsewhere keeps an address. -/
theorem store_of_not_mem
    {address : Address}
    {addresses : List Address}
    (elsewhere : address ∉ addresses)
    (memory : Address → Value)
    (values : List Value) :
    store memory addresses values address = memory address := by
  induction addresses generalizing memory values with
  | nil =>
      rfl
  | cons head rest inductionHypothesis =>
      have different := List.ne_of_not_mem_cons elsewhere
      have restElsewhere := List.not_mem_of_not_mem_cons elsewhere
      cases values with
      | nil => rfl
      | cons value later =>
          rw [store, inductionHypothesis restElsewhere,
            Function.update_of_ne different]

/-- Distinct addresses read back what was stored at them. -/
theorem map_store
    {addresses : List Address}
    (distinct : addresses.Nodup)
    (memory : Address → Value)
    {values : List Value}
    (sameLength : addresses.length = values.length) :
    addresses.map (store memory addresses values) = values := by
  induction addresses generalizing memory values with
  | nil =>
      exact (List.length_eq_zero_iff.mp sameLength.symm).symm
  | cons address rest inductionHypothesis =>
      obtain ⟨headElsewhere, restDistinct⟩ := List.nodup_cons.mp distinct
      cases values with
      | nil => cases sameLength
      | cons value later =>
          have headStored :
              store (Function.update memory address value) rest later
                address = value := by
            rw [store_of_not_mem headElsewhere, Function.update_self]
          have restStored :=
            inductionHypothesis restDistinct
              (Function.update memory address value)
              (Nat.succ.inj sameLength)
          rw [List.map_cons, store, headStored, restStored]

end ScatteredStore
