import AdvanceUnix.InotifyGrammar

namespace AdvanceUnix.FilesystemEvents

open LittleEndian

/-!
# Names and observed bits

What a record contributes to `observed`, and that the loop body computes it
without leaving the name field of the record.
-/

/-- The text of `file_name`: `sample.txt`. -/
def fileText : List UInt8 :=
  [115, 97, 109, 112, 108, 101, 46, 116, 120, 116]

namespace Record

/-- A name that is there has its NUL. -/
def Terminated (record : Record) : Prop :=
  record.name ≠ [] → 0 ∈ record.name

instance (record : Record) : Decidable record.Terminated :=
  inferInstanceAs (Decidable (record.name ≠ [] → 0 ∈ record.name))

/-- The name up to its first NUL. -/
def text (record : Record) : List UInt8 :=
  record.name.takeWhile (· ≠ 0)

/-- The required bits that a record contributes. -/
def bits (watch : BitVec 32) (record : Record) : BitVec 32 :=
  if record.wd = watch ∧ record.name ≠ [] ∧ record.text = fileText then
    record.mask &&& requiredEvents
  else
    0

end Record

/-- The bits of all records together. -/
def observedBits (watch : BitVec 32) (records : List Record) : BitVec 32 :=
  records.foldl (fun bits record => bits ||| record.bits watch) 0

section Strings

variable {memory : Nat → UInt8} {left size : Nat}

/-- The first byte of a slice. -/
theorem slice_succ :
    slice memory left (size + 1) =
      memory left :: slice memory (left + 1) size :=
  rfl

/-- `strcmp` stops at a NUL at the latest. -/
theorem strcmp_reads
    (terminated : 0 ∈ slice memory left size)
    (literal : List UInt8) :
    (strcmp memory left literal).2 ≤ size := by
  induction literal generalizing left size with
  | nil =>
      exact Nat.zero_le size
  | cons byte rest inductionHypothesis =>
      cases size with
      | zero => cases terminated
      | succ size =>
          rw [slice_succ] at terminated
          rw [strcmp]
          by_cases different : memory left ≠ byte
          · rw [if_pos different]
            exact Nat.succ_pos size
          by_cases atEnd : byte = 0
          · rw [if_neg different, if_pos atEnd]
            exact Nat.succ_pos size
          rw [if_neg different, if_neg atEnd]
          have notHere : (0 : UInt8) ≠ memory left := by
            rw [Decidable.not_not.mp different]
            exact Ne.symm atEnd
          have later : 0 ∈ slice memory (left + 1) size :=
            (List.mem_cons.mp terminated).resolve_left notHere
          exact Nat.succ_le_succ (inductionHypothesis later)

/-- Different bytes have a difference other than zero. -/
theorem difference_ne_zero
    {first second : UInt8}
    (different : first ≠ second) :
    (first.toNat : Int) - second.toNat ≠ 0 := by
  have := mt UInt8.toNat_inj.mp different
  omega

/-- `strcmp` finds a terminated string equal to the literal it spells. -/
theorem strcmp_eq_zero
    (terminated : 0 ∈ slice memory left size)
    {text : List UInt8}
    (noNul : 0 ∉ text) :
    (strcmp memory left (text ++ [0])).1 = 0 ↔
      (slice memory left size).takeWhile (· ≠ 0) = text := by
  induction text generalizing left size with
  | nil =>
      cases size with
      | zero => cases terminated
      | succ size =>
          rw [slice_succ, List.nil_append, strcmp]
          by_cases here : memory left = 0
          · simp [here]
          · have := difference_ne_zero here
            simpa [here] using this
  | cons byte rest inductionHypothesis =>
      have byteNotNul : byte ≠ 0 := by
        rintro rfl
        exact noNul List.mem_cons_self
      cases size with
      | zero => cases terminated
      | succ size =>
          rw [slice_succ] at terminated ⊢
          rw [List.cons_append, strcmp]
          by_cases different : memory left ≠ byte
          · rw [if_pos different]
            refine iff_of_false (difference_ne_zero different) ?_
            rw [List.takeWhile_cons]
            split
            · intro same
              exact different (List.cons.inj same).1
            · nofun
          rw [if_neg different, if_neg byteNotNul]
          have same : memory left = byte := Decidable.not_not.mp different
          have later : 0 ∈ slice memory (left + 1) size := by
            refine (List.mem_cons.mp terminated).resolve_left ?_
            rw [same]
            exact Ne.symm byteNotNul
          have restNoNul : 0 ∉ rest := fun member =>
            noNul (List.mem_cons_of_mem byte member)
          rw [inductionHypothesis later restNoNul, same,
            List.takeWhile_cons_of_pos (by simpa using byteNotNul),
            List.cons_inj_right]

end Strings

/-- A named event of a terminated record has its NUL in its name field. -/
theorem nul_in_name
    {memory : Nat → UInt8}
    {event : InotifyEvent}
    (terminated : (event.record memory).Terminated)
    (named : event.len > 0) :
    0 ∈ slice memory event.name event.len.toNat := by
  apply terminated
  have positive : 0 < event.len.toNat := named
  intro empty
  have lengths := congrArg List.length empty
  simp only [InotifyEvent.record, length_slice, List.length_nil] at lengths
  omega

/-- A length that is not zero is a name that is there. -/
theorem named_iff
    {memory : Nat → UInt8}
    {event : InotifyEvent} :
    event.len > 0 ↔ (event.record memory).name ≠ [] := by
  rw [← List.length_pos_iff]
  simp [InotifyEvent.record, BitVec.lt_def]

/-- The loop body asks of an event what the record has to be. -/
theorem taken_iff
    {watch : BitVec 32}
    {memory : Nat → UInt8}
    {event : InotifyEvent}
    (terminated : (event.record memory).Terminated) :
    (event.wd = watch ∧ event.len > 0 ∧
        (strcmp memory event.name fileName).1 = 0) ↔
      ((event.record memory).wd = watch ∧
        (event.record memory).name ≠ [] ∧
        (event.record memory).text = fileText) := by
  rw [← named_iff]
  refine and_congr_right fun _ => and_congr_right fun named => ?_
  have spelled : fileName = fileText ++ [0] := by
    decide
  rw [spelled]
  exact strcmp_eq_zero (nul_in_name terminated named) (by decide)

/-- The loop body adds the bits of the record. -/
theorem observe_eq
    {watch : BitVec 32}
    {memory : Nat → UInt8}
    {observed : BitVec 32}
    {event : InotifyEvent}
    (terminated : (event.record memory).Terminated) :
    observe watch memory observed event =
      observed ||| (event.record memory).bits watch := by
  have same := @taken_iff watch _ _ terminated
  unfold observe Record.bits
  split
  · rename_i taken
    rw [if_pos (same.mp taken)]
    rfl
  · rename_i notTaken
    rw [if_neg (mt same.mpr notTaken)]
    exact BitVec.or_zero.symm

/-- The loop body over all events adds the bits of all records. -/
theorem foldl_observe
    {watch : BitVec 32}
    {memory : Nat → UInt8}
    {events : List InotifyEvent}
    (terminated :
      ∀ event ∈ events, (event.record memory).Terminated)
    (observed : BitVec 32) :
    events.foldl (observe watch memory) observed =
      (events.map fun event => event.record memory).foldl
        (fun bits record => bits ||| record.bits watch) observed := by
  induction events generalizing observed with
  | nil =>
      rfl
  | cons event rest inductionHypothesis =>
      rw [List.foldl_cons, List.map_cons, List.foldl_cons,
        observe_eq (terminated event List.mem_cons_self)]
      exact inductionHypothesis
        (fun later member =>
          terminated later (List.mem_cons_of_mem event member)) _

end AdvanceUnix.FilesystemEvents
