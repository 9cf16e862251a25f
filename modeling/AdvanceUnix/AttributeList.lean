import AdvanceUnix.Delimited
import AdvanceUnix.InotifyNames

namespace AdvanceUnix.ExtendedAttributes

open Delimited FilesystemEvents LittleEndian

/-!
# Names in an attribute list

`list_contains` of `28_extended_attributes`.  Every function also answers how
far it has read: up to which address, or how many bytes from where it started.
-/

/-- `strnlen`: the bytes before the first NUL, at most as many as given. -/
def strnlen (memory : Nat → UInt8) (left : Nat) : Nat → Nat × Nat
  | 0 => (0, 0)
  | remaining + 1 =>
      if memory left = 0 then
        (0, 1)
      else
        let later := strnlen memory (left + 1) remaining
        (later.1 + 1, later.2 + 1)

/-- The loop of `list_contains` from an offset on. -/
def listContainsFrom
    (memory : Nat → UInt8)
    (listSize : Nat)
    (expected : List UInt8)
    (offset : Nat) : Bool × Nat :=
  if offset < listSize then
    let remaining := listSize - offset
    let nameSize := strnlen memory offset remaining
    if nameSize.1 = remaining then
      (false, offset + nameSize.2)
    else
      let order := strcmp memory offset (expected ++ [0])
      if order.1 = 0 then
        (true, offset + max nameSize.2 order.2)
      else
        let later :=
          listContainsFrom memory listSize expected
            (offset + nameSize.1 + 1)
        (later.1, max (offset + max nameSize.2 order.2) later.2)
  else
    (false, 0)
termination_by listSize - offset

/-- `list_contains`, and where its reads end. -/
def listContains
    (memory : Nat → UInt8)
    (listSize : Nat)
    (expected : List UInt8) : Bool × Nat :=
  listContainsFrom memory listSize expected 0

section Strnlen

variable {memory : Nat → UInt8} {left size : Nat}

/-- `strnlen` reads what it was given at most. -/
theorem strnlen_reads : (strnlen memory left size).2 ≤ size := by
  induction size generalizing left with
  | zero =>
      exact Nat.le_refl 0
  | succ size inductionHypothesis =>
      rw [strnlen]
      split
      · exact Nat.succ_le_succ (Nat.zero_le size)
      · exact Nat.succ_le_succ inductionHypothesis

/-- `strnlen` measures what precedes the first NUL of the slice. -/
theorem strnlen_eq :
    (strnlen memory left size).1 =
      ((slice memory left size).takeWhile (· ≠ 0)).length := by
  induction size generalizing left with
  | zero =>
      rfl
  | succ size inductionHypothesis =>
      rw [strnlen, slice_succ, List.takeWhile_cons]
      by_cases here : memory left = 0
      · simp [here]
      · simp [here, inductionHypothesis]

/-- Without a NUL in its slice `strnlen` goes to the end. -/
theorem strnlen_of_noNul
    (noNul : 0 ∉ slice memory left size) :
    (strnlen memory left size).1 = size := by
  rw [strnlen_eq, takeWhile_unended noNul, length_slice]

/-- A NUL splits the slice into the name before it and the rest. -/
theorem slice_of_nul
    (nul : 0 ∈ slice memory left size) :
    ∃ name,
      0 ∉ name ∧
        (strnlen memory left size).1 = name.length ∧
        name.length < size ∧
        slice memory left size =
          name ++ 0 ::
            slice memory (left + name.length + 1)
              (size - (name.length + 1)) := by
  obtain ⟨name, rest, shape, noNul⟩ := List.eq_append_cons_of_mem nul
  have lengths := congrArg List.length shape
  rw [length_slice, List.length_append, List.length_cons] at lengths
  have ended :
      size - name.length = (size - (name.length + 1)) + 1 := by
    omega
  obtain ⟨-, atNul⟩ := slice_split shape
  rw [ended, slice_succ] at atNul
  refine ⟨name, noNul, ?_, by omega, ?_⟩
  · rw [strnlen_eq, shape, takeWhile_ended noNul]
  · rw [shape, ← (List.cons.inj atNul).2]

end Strnlen

/-- The comparison with a name that its NUL ends. -/
theorem strcmp_name
    {memory : Nat → UInt8}
    {left size : Nat}
    {name rest expected : List UInt8}
    (noNul : 0 ∉ name)
    (expectedNoNul : 0 ∉ expected)
    (shape : slice memory left size = name ++ 0 :: rest) :
    (strcmp memory left (expected ++ [0])).1 = 0 ↔ expected = name := by
  have terminated : 0 ∈ slice memory left size := by
    rw [shape]
    exact List.mem_append_right name List.mem_cons_self
  rw [strcmp_eq_zero terminated expectedNoNul, shape,
    takeWhile_ended noNul]
  exact eq_comm

/-- A name that ends before the list does is followed by its NUL. -/
theorem nul_of_ended
    {memory : Nat → UInt8}
    {left size : Nat}
    (ended : (strnlen memory left size).1 ≠ size) :
    0 ∈ slice memory left size := by
  by_contra noNul
  exact ended (strnlen_of_noNul noNul)

/-- The loop decides membership in what is left of the list. -/
theorem listContainsFrom_iff
    {memory : Nat → UInt8}
    {listSize offset : Nat}
    {expected : List UInt8}
    (expectedNoNul : 0 ∉ expected) :
    (listContainsFrom memory listSize expected offset).1 = true ↔
      IsItem 0 (slice memory offset (listSize - offset)) expected := by
  induction offset using
    listContainsFrom.induct memory listSize expected with
  | case1 offset inside remaining nameSize unended =>
      have noNul : 0 ∉ slice memory offset remaining := by
        intro nul
        obtain ⟨name, -, measured, shorter, -⟩ := slice_of_nul nul
        exact absurd (measured.symm.trans unended) (Nat.ne_of_lt shorter)
      rw [listContainsFrom, if_pos inside]
      dsimp only
      rw [if_pos unended]
      exact iff_of_false Bool.false_ne_true (not_isItem noNul)
  | case2 offset inside remaining nameSize ended order equal =>
      obtain ⟨name, noNul, -, -, shape⟩ := slice_of_nul (nul_of_ended ended)
      have same := (strcmp_name noNul expectedNoNul shape).mp equal
      rw [listContainsFrom, if_pos inside]
      dsimp only
      rw [if_neg ended, if_pos equal, shape, isItem_cons noNul]
      exact iff_of_true rfl (.inl same)
  | case3 offset inside remaining nameSize ended order unequal
      inductionHypothesis =>
      obtain ⟨name, noNul, measured, -, shape⟩ :=
        slice_of_nul (nul_of_ended ended)
      have different :=
        mt (strcmp_name noNul expectedNoNul shape).mpr unequal
      have next :
          listSize - (offset + name.length + 1) =
            remaining - (name.length + 1) := by
        omega
      rw [measured, next] at inductionHypothesis
      rw [listContainsFrom, if_pos inside]
      dsimp only
      rw [if_neg ended, if_neg unequal, measured, inductionHypothesis,
        shape, isItem_cons noNul]
      exact (or_iff_right different).symm
  | case4 offset outside =>
      rw [listContainsFrom, if_neg outside,
        Nat.sub_eq_zero_of_le (Nat.le_of_not_lt outside)]
      exact iff_of_false Bool.false_ne_true (not_isItem List.not_mem_nil)

/-- No read of the loop goes to the list's end or past it. -/
theorem listContainsFrom_reads
    {memory : Nat → UInt8}
    {listSize offset : Nat}
    {expected : List UInt8} :
    (listContainsFrom memory listSize expected offset).2 ≤ listSize := by
  have fits :
      ∀ {offset reads : Nat},
        offset < listSize →
        reads ≤ listSize - offset →
        offset + reads ≤ listSize := by
    intro offset reads inside few
    omega
  induction offset using
    listContainsFrom.induct memory listSize expected with
  | case1 offset inside remaining nameSize unended =>
      rw [listContainsFrom, if_pos inside]
      dsimp only
      rw [if_pos unended]
      exact fits inside strnlen_reads
  | case2 offset inside remaining nameSize ended order equal =>
      rw [listContainsFrom, if_pos inside]
      dsimp only
      rw [if_neg ended, if_pos equal]
      exact fits inside (Nat.max_le.mpr
        ⟨strnlen_reads, strcmp_reads (nul_of_ended ended) _⟩)
  | case3 offset inside remaining nameSize ended order unequal
      inductionHypothesis =>
      rw [listContainsFrom, if_pos inside]
      dsimp only
      rw [if_neg ended, if_neg unequal]
      exact Nat.max_le.mpr
        ⟨fits inside (Nat.max_le.mpr
          ⟨strnlen_reads, strcmp_reads (nul_of_ended ended) _⟩),
          inductionHypothesis⟩
  | case4 offset outside =>
      rw [listContainsFrom, if_neg outside]
      exact Nat.zero_le listSize

/--
`list_contains` finds exactly the complete names of the list and reads nothing
beyond it; of ended names it finds exactly these.
-/
theorem list_contains
    (memory : Nat → UInt8)
    (listSize : Nat)
    {expected : List UInt8}
    (expectedNoNul : 0 ∉ expected) :
    ((listContains memory listSize expected).1 = true ↔
        IsItem 0 (slice memory 0 listSize) expected) ∧
      (listContains memory listSize expected).2 ≤ listSize ∧
      ∀ names : List (List UInt8),
        (∀ name ∈ names, 0 ∉ name) →
        slice memory 0 listSize =
          (names.flatMap fun name => name ++ [0]) →
        ((listContains memory listSize expected).1 = true ↔
          expected ∈ names) := by
  have decides :
      (listContains memory listSize expected).1 = true ↔
        IsItem 0 (slice memory 0 listSize) expected :=
    listContainsFrom_iff expectedNoNul
  refine ⟨decides, listContainsFrom_reads, ?_⟩
  intro names noNul spelled
  rw [decides, spelled]
  exact isItem_flatMap noNul

/-- The names `ab`, the empty name and `b`, with one more byte behind them. -/
def threeNames (address : Nat) : UInt8 :=
  [97, 98, 0, 0, 98, 0, 99].getD address 0

/-- The name `b` is found in the list, not only as the end of `ab`. -/
theorem list_contains_threeNames :
    (listContains threeNames 6 [98]).1 = true :=
  ((list_contains threeNames 6 (by decide)).2.2 [[97, 98], [], [98]]
    (by decide) (by decide)).mpr (by decide)

end AdvanceUnix.ExtendedAttributes
