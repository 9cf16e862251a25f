import Mathlib.Algebra.Ring.Nat

namespace LittleEndian

/-!
# Little-endian numbers in a byte memory

Fixed-width numbers as bytes and back, and the slices of a memory that is a
function of its addresses.
-/

/-- The first `size` bytes of a number, the least significant one first. -/
def leBytes : Nat → Nat → List UInt8
  | 0, _ => []
  | size + 1, value => UInt8.ofNat value :: leBytes size (value / 256)

/-- The number that bytes spell. -/
def leNat : List UInt8 → Nat
  | [] => 0
  | byte :: rest => byte.toNat + 256 * leNat rest

@[simp]
theorem length_leBytes
    (size value : Nat) :
    (leBytes size value).length = size := by
  induction size generalizing value with
  | zero =>
      rfl
  | succ size inductionHypothesis =>
      simp [leBytes, inductionHypothesis]

/-- Bytes spell a number that fits into as many bytes. -/
theorem leNat_lt (bytes : List UInt8) :
    leNat bytes < 256 ^ bytes.length := by
  induction bytes with
  | nil =>
      decide
  | cons byte rest inductionHypothesis =>
      have byteBound := byte.toNat_lt
      rw [List.length_cons, Nat.pow_succ, leNat]
      omega

/-- Reading undoes writing for numbers that fit. -/
theorem leNat_leBytes
    {size value : Nat}
    (fits : value < 256 ^ size) :
    leNat (leBytes size value) = value := by
  induction size generalizing value with
  | zero =>
      simp only [Nat.pow_zero] at fits
      simp only [leBytes, leNat]
      omega
  | succ size inductionHypothesis =>
      have restFits : value / 256 < 256 ^ size := by
        rw [Nat.pow_succ] at fits
        omega
      rw [leBytes, leNat, inductionHypothesis restFits,
        UInt8.toNat_ofNat']
      omega

/-- Writing undoes reading. -/
theorem leBytes_leNat (bytes : List UInt8) :
    leBytes bytes.length (leNat bytes) = bytes := by
  induction bytes with
  | nil =>
      rfl
  | cons byte rest inductionHypothesis =>
      have byteBound := byte.toNat_lt
      have quotient : (byte.toNat + 256 * leNat rest) / 256 = leNat rest := by
        omega
      have headByte :
          UInt8.ofNat (byte.toNat + 256 * leNat rest) = byte := by
        apply UInt8.toNat_inj.mp
        rw [UInt8.toNat_ofNat']
        omega
      rw [List.length_cons, leBytes, leNat, quotient, headByte,
        inductionHypothesis]

/-- The bytes of a memory from an address on. -/
def slice
    (memory : Nat → UInt8)
    (address size : Nat) : List UInt8 :=
  (List.range' address size).map memory

@[simp]
theorem length_slice
    (memory : Nat → UInt8)
    (address size : Nat) :
    (slice memory address size).length = size := by
  simp [slice]

/-- A slice in two adjacent pieces. -/
theorem slice_add
    (memory : Nat → UInt8)
    (address first second : Nat) :
    slice memory address (first + second) =
      slice memory address first ++
        slice memory (address + first) second := by
  rw [slice, slice, slice, ← List.map_append, List.range'_append_1]

/-- A slice that begins with some bytes, and what follows them. -/
theorem slice_split
    {memory : Nat → UInt8}
    {address size : Nat}
    {first rest : List UInt8}
    (spelled : slice memory address size = first ++ rest) :
    slice memory address first.length = first ∧
      slice memory (address + first.length) (size - first.length) =
        rest := by
  have total : size = first.length + (size - first.length) := by
    have lengths := congrArg List.length spelled
    rw [length_slice, List.length_append] at lengths
    omega
  rw [total, slice_add] at spelled
  exact List.append_inj spelled (length_slice _ _ _)

end LittleEndian
