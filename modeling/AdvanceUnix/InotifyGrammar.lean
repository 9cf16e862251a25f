import AdvanceUnix.InotifyParser

namespace AdvanceUnix.FilesystemEvents

open LittleEndian

/-!
# The grammar of the record stream

What a buffer of records is, independently of the loop that takes it apart,
and that the loop accepts exactly these buffers.
-/

/-- One record: the header fields and as many name bytes as `len` says. -/
structure Record where
  wd : BitVec 32
  mask : BitVec 32
  cookie : BitVec 32
  name : List UInt8
  name_fits : name.length < 2 ^ 32
  deriving DecidableEq, Repr

namespace Record

/-- The bytes of a record. -/
def encode (record : Record) : List UInt8 :=
  leBytes 4 record.wd.toNat ++
    (leBytes 4 record.mask.toNat ++
      (leBytes 4 record.cookie.toNat ++
        (leBytes 4 record.name.length ++ record.name)))

/-- A header and the name. -/
@[simp]
theorem length_encode (record : Record) :
    record.encode.length = eventHeaderSize + record.name.length := by
  simp only [encode, List.length_append, length_leBytes, eventHeaderSize]
  omega

/-- The record says that the queue overflowed. -/
def Overflowed (record : Record) : Prop :=
  record.mask &&& inQOverflow ≠ 0

instance (record : Record) : Decidable record.Overflowed :=
  inferInstanceAs (Decidable (record.mask &&& inQOverflow ≠ 0))

end Record

/-- A concatenation of records, none of which reports an overflow. -/
structure EncodedBy
    (bytes : List UInt8)
    (records : List Record) : Prop where
  spelled : bytes = records.flatMap Record.encode
  noOverflow : ∀ record ∈ records, ¬ record.Overflowed

/-- The record that an event of the buffer is. -/
def InotifyEvent.record
    (event : InotifyEvent)
    (memory : Nat → UInt8) : Record where
  wd := event.wd
  mask := event.mask
  cookie := event.cookie
  name := slice memory event.name event.len.toNat
  name_fits := by
    rw [length_slice]
    exact event.len.isLt

/-- The word that four bytes of the memory spell. -/
theorem wordAt_of_slice
    {memory : Nat → UInt8}
    {address : Nat}
    {word : BitVec 32}
    (spelled : slice memory address 4 = leBytes 4 word.toNat) :
    wordAt memory address = word := by
  rw [wordAt, spelled, leNat_leBytes (show word.toNat < 256 ^ 4 from word.isLt)]
  simp

/-- The bytes of a word of the memory. -/
theorem slice_of_wordAt
    (memory : Nat → UInt8)
    (address : Nat) :
    slice memory address 4 = leBytes 4 (wordAt memory address).toNat := by
  have fits : leNat (slice memory address 4) < 2 ^ 32 := by
    simpa using leNat_lt (slice memory address 4)
  have same := leBytes_leNat (slice memory address 4)
  rw [length_slice] at same
  rw [wordAt, BitVec.toNat_ofNat, Nat.mod_eq_of_lt fits, same]

/-- The bytes of an event are those of its record. -/
theorem slice_eventAt
    (memory : Nat → UInt8)
    (offset : Nat) :
    slice memory offset
        (eventHeaderSize + (eventAt memory offset).len.toNat) =
      ((eventAt memory offset).record memory).encode := by
  have words :
      eventHeaderSize + (eventAt memory offset).len.toNat =
        4 + (4 + (4 + (4 + (eventAt memory offset).len.toNat))) := by
    simp only [eventHeaderSize]
    omega
  rw [words, slice_add, slice_add, slice_add, slice_add]
  simp only [Nat.add_assoc, Nat.reduceAdd, slice_of_wordAt, Record.encode,
    InotifyEvent.record, length_slice, eventAt, eventHeaderSize]

/-- Where the buffer goes on with a record, its event is that record. -/
theorem eventAt_of_slice
    {memory : Nat → UInt8}
    {offset size : Nat}
    {record : Record}
    {rest : List UInt8}
    (spelled : slice memory offset size = record.encode ++ rest) :
    (eventAt memory offset).record memory = record ∧
      (eventAt memory offset).len.toNat = record.name.length := by
  simp only [Record.encode, List.append_assoc] at spelled
  obtain ⟨wdBytes, afterWd⟩ := slice_split spelled
  obtain ⟨maskBytes, afterMask⟩ := slice_split afterWd
  obtain ⟨cookieBytes, afterCookie⟩ := slice_split afterMask
  obtain ⟨lenBytes, afterLen⟩ := slice_split afterCookie
  obtain ⟨nameBytes, -⟩ := slice_split afterLen
  simp only [length_leBytes, Nat.add_assoc, Nat.reduceAdd] at *
  have lenWord :
      (BitVec.ofNat 32 record.name.length).toNat =
        record.name.length := by
    rw [BitVec.toNat_ofNat, Nat.mod_eq_of_lt record.name_fits]
  have lenRead :
      wordAt memory (offset + 12) =
        BitVec.ofNat 32 record.name.length :=
    wordAt_of_slice (by rw [lenWord]; exact lenBytes)
  have lenSame :
      (eventAt memory offset).len.toNat = record.name.length := by
    rw [eventAt, lenRead, lenWord]
  refine ⟨?_, lenSame⟩
  have nameSame :
      slice memory (eventAt memory offset).name
          (eventAt memory offset).len.toNat = record.name := by
    rw [lenSame]
    exact nameBytes
  obtain ⟨wd, mask, cookie, name, fits⟩ := record
  simp only [InotifyEvent.record, Record.mk.injEq]
  exact ⟨wordAt_of_slice wdBytes, wordAt_of_slice maskBytes,
    wordAt_of_slice cookieBytes, nameSame⟩

section Loop

variable {memory : Nat → UInt8} {length offset : Nat}

/-- Where a record can be taken, the buffer begins with that record. -/
theorem slice_record_append
    (fits :
      eventHeaderSize + (eventAt memory offset).len.toNat ≤
        length - offset) :
    slice memory offset (length - offset) =
      ((eventAt memory offset).record memory).encode ++
        slice memory
          (offset +
            (eventHeaderSize + (eventAt memory offset).len.toNat))
          (length -
            (offset +
              (eventHeaderSize + (eventAt memory offset).len.toNat))) := by
  rw [← slice_eventAt, ← Nat.sub_sub, ← slice_add,
    Nat.add_sub_of_le fits]

/-- A buffer that goes on begins with a record that fits. -/
theorem EncodedBy.cons_of_header
    {records : List Record}
    (header : offset + eventHeaderSize ≤ length)
    (encoded :
      EncodedBy (slice memory offset (length - offset)) records) :
    ∃ rest,
      records = (eventAt memory offset).record memory :: rest ∧
        eventHeaderSize + (eventAt memory offset).len.toNat ≤
          length - offset := by
  have spelled := encoded.spelled
  cases records with
  | nil =>
      have lengths := congrArg List.length spelled
      simp only [length_slice, List.flatMap_nil, List.length_nil,
        eventHeaderSize] at lengths header
      omega
  | cons record rest =>
      rw [List.flatMap_cons] at spelled
      obtain ⟨same, lenSame⟩ := eventAt_of_slice spelled
      have lengths := congrArg List.length spelled
      rw [length_slice, List.length_append, Record.length_encode]
        at lengths
      exact ⟨rest, by rw [same], by omega⟩

/-- Taking a record that fits and reports no overflow. -/
theorem encodedBy_iff_of_fits
    (fits :
      eventHeaderSize + (eventAt memory offset).len.toNat ≤
        length - offset)
    (noOverflow :
      ¬ ((eventAt memory offset).record memory).Overflowed)
    {rest : List Record} :
    EncodedBy (slice memory offset (length - offset))
        ((eventAt memory offset).record memory :: rest) ↔
      EncodedBy
        (slice memory
          (offset +
            (eventHeaderSize + (eventAt memory offset).len.toNat))
          (length -
            (offset +
              (eventHeaderSize + (eventAt memory offset).len.toNat))))
        rest := by
  rw [slice_record_append fits]
  constructor
  · intro encoded
    have spelled := encoded.spelled
    rw [List.flatMap_cons] at spelled
    exact ⟨List.append_cancel_left spelled, fun record member =>
      encoded.noOverflow record (List.mem_cons_of_mem _ member)⟩
  · intro encoded
    refine ⟨by rw [List.flatMap_cons, ← encoded.spelled], ?_⟩
    intro record member
    rcases List.mem_cons.mp member with rfl | member
    · exact noOverflow
    · exact encoded.noOverflow record member

/--
What the parsing loop has done from an offset: the events it took lie within
the length, and it accepts encoded buffers only, taking their records.
-/
structure Walked
    (memory : Nat → UInt8)
    (length offset : Nat)
    (exit : ParseExit)
    (events : List InotifyEvent) : Prop where
  within : ∀ event ∈ events, event.name + event.len.toNat ≤ length
  accepts :
    exit = .accepted ↔
      ∃ records,
        EncodedBy (slice memory offset (length - offset)) records
  taken :
    ∀ records,
      EncodedBy (slice memory offset (length - offset)) records →
      events.map (fun event => event.record memory) = records

namespace Walked

/-- A buffer that is refused at once. -/
theorem refused
    {exit : ParseExit}
    (notAccepted : exit ≠ .accepted)
    (notEncoded :
      ∀ records,
        ¬ EncodedBy (slice memory offset (length - offset)) records) :
    Walked memory length offset exit [] where
  within := nofun
  accepts :=
    iff_of_false notAccepted fun ⟨records, encoded⟩ =>
      notEncoded records encoded
  taken := fun records encoded => (notEncoded records encoded).elim

/-- The record at the end reaches past it. -/
theorem truncated
    (header : offset + eventHeaderSize ≤ length)
    (reachesPast :
      eventHeaderSize + (eventAt memory offset).len.toNat >
        length - offset) :
    Walked memory length offset .truncated [] := by
  refine refused nofun ?_
  intro records encoded
  obtain ⟨rest, -, fits⟩ := encoded.cons_of_header header
  omega

/-- The record reports an overflow. -/
theorem overflowed
    (header : offset + eventHeaderSize ≤ length)
    (reported : (eventAt memory offset).mask &&& inQOverflow ≠ 0) :
    Walked memory length offset .overflowed [] := by
  refine refused nofun ?_
  intro records encoded
  obtain ⟨rest, rfl, -⟩ := encoded.cons_of_header header
  exact encoded.noOverflow _ List.mem_cons_self reported

/-- Fewer bytes than a header are left, but some. -/
theorem trailing
    (noHeader : ¬ offset + eventHeaderSize ≤ length)
    (bytesLeft : offset < length) :
    Walked memory length offset .trailing [] := by
  refine refused nofun ?_
  intro records encoded
  have lengths := congrArg List.length encoded.spelled
  rw [length_slice] at lengths
  cases records with
  | nil =>
      simp only [List.flatMap_nil, List.length_nil] at lengths
      omega
  | cons record rest =>
      rw [List.flatMap_cons, List.length_append,
        Record.length_encode] at lengths
      omega

/-- Nothing is left. -/
theorem ended :
    Walked memory length length .accepted [] := by
  have nothingLeft : slice memory length (length - length) = [] := by
    rw [Nat.sub_self]
    rfl
  refine ⟨nofun, ?_, ?_⟩
  · exact iff_of_true rfl ⟨[], nothingLeft, nofun⟩
  · intro records encoded
    have spelled := encoded.spelled
    rw [nothingLeft] at spelled
    cases records with
    | nil => rfl
    | cons record rest =>
        have lengths := congrArg List.length spelled
        rw [List.flatMap_cons, List.length_append,
          Record.length_encode] at lengths
        simp only [List.length_nil, eventHeaderSize] at lengths
        omega

/-- A record is taken, and the walk goes on behind it. -/
theorem take
    {exit : ParseExit}
    {events : List InotifyEvent}
    (header : offset + eventHeaderSize ≤ length)
    (fits :
      eventHeaderSize + (eventAt memory offset).len.toNat ≤
        length - offset)
    (noOverflow :
      ¬ ((eventAt memory offset).record memory).Overflowed)
    (later :
      Walked memory length
        (offset +
          (eventHeaderSize + (eventAt memory offset).len.toNat))
        exit events) :
    Walked memory length offset exit
      (eventAt memory offset :: events) := by
  refine ⟨?_, ?_, ?_⟩
  · intro event member
    rcases List.mem_cons.mp member with rfl | member
    · simp only [eventAt] at fits ⊢
      omega
    · exact later.within event member
  · rw [later.accepts]
    constructor
    · rintro ⟨rest, encoded⟩
      exact ⟨_, (encodedBy_iff_of_fits fits noOverflow).mpr encoded⟩
    · rintro ⟨records, encoded⟩
      obtain ⟨rest, rfl, -⟩ := encoded.cons_of_header header
      exact ⟨rest, (encodedBy_iff_of_fits fits noOverflow).mp encoded⟩
  · intro records encoded
    obtain ⟨rest, rfl, -⟩ := encoded.cons_of_header header
    rw [List.map_cons, later.taken rest
      ((encodedBy_iff_of_fits fits noOverflow).mp encoded)]

end Walked

/--
The parsing loop ends, whatever use is made of the events, with an exit and
events that do not depend on that use.
-/
theorem parseEvents_walked
    (reached : offset ≤ length) :
    ∃ exit events,
      Walked memory length offset exit events ∧
        ∀ {σ : Type} (visit : σ → InotifyEvent → σ) (state : σ),
          parseEvents visit memory length offset state =
            (exit, events.foldl visit state) := by
  induction remaining : length - offset using Nat.strongRecOn
    generalizing offset with
  | ind size inductionHypothesis =>
      by_cases header : offset + eventHeaderSize ≤ length
      · by_cases reachesPast :
            eventHeaderSize + (eventAt memory offset).len.toNat >
              length - offset
        · refine ⟨.truncated, [], .truncated header reachesPast, ?_⟩
          intro σ visit state
          rw [parseEvents]
          simp only [header, reachesPast, ↓reduceIte, List.foldl_nil]
        by_cases reported :
            (eventAt memory offset).mask &&& inQOverflow ≠ 0
        · refine ⟨.overflowed, [], .overflowed header reported, ?_⟩
          intro σ visit state
          rw [parseEvents]
          simp only [header, reachesPast, ↓reduceIte]
          exact if_pos reported
        have fits := Nat.not_lt.mp reachesPast
        have advances : 0 < eventHeaderSize := by decide
        obtain ⟨exit, events, walked, ends⟩ :=
          @inductionHypothesis _ (by omega)
            (offset +
              (eventHeaderSize + (eventAt memory offset).len.toNat))
            (by omega) rfl
        refine ⟨exit, eventAt memory offset :: events,
          walked.take header fits reported, ?_⟩
        intro σ visit state
        rw [parseEvents]
        simp only [header, reachesPast, reported, ↓reduceIte, ends,
          List.foldl_cons]
      by_cases bytesLeft : offset ≠ length
      · refine ⟨.trailing, [], .trailing header (by omega), ?_⟩
        intro σ visit state
        rw [parseEvents]
        simp only [header, ↓reduceIte]
        exact if_pos bytesLeft
      · obtain rfl : offset = length := by
          omega
        refine ⟨.accepted, [], .ended, ?_⟩
        intro σ visit state
        rw [parseEvents]
        simp only [header, bytesLeft, ↓reduceIte, List.foldl_nil]

end Loop

end AdvanceUnix.FilesystemEvents
