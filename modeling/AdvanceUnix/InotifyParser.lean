import AdvanceUnix.LittleEndian

namespace AdvanceUnix.FilesystemEvents

open LittleEndian

/-!
# Parsing inotify records

The inner loop of `12_filesystem_events` over the buffer that a `read` left,
on a little-endian machine.  The buffer is a memory: the loop itself looks at
no byte from `length` on, but `strcmp` stops at a NUL and nowhere else.
-/

/-- `sizeof(struct inotify_event)`. -/
def eventHeaderSize : Nat := 16

/-- `IN_Q_OVERFLOW`. -/
def inQOverflow : BitVec 32 := 0x4000

/-- `IN_CREATE | IN_CLOSE_WRITE | IN_DELETE`. -/
def requiredEvents : BitVec 32 := 0x100 ||| 0x8 ||| 0x200

/-- `IN_MODIFY`. -/
def inModify : BitVec 32 := 0x2

/-- `file_name`, with its terminator. -/
def fileName : List UInt8 :=
  [115, 97, 109, 112, 108, 101, 46, 116, 120, 116, 0]

/-- `struct inotify_event`, with the address of its name. -/
structure InotifyEvent where
  wd : BitVec 32
  mask : BitVec 32
  cookie : BitVec 32
  len : BitVec 32
  name : Nat
  deriving DecidableEq, Repr

/-- The 32-bit word at an address. -/
def wordAt
    (memory : Nat → UInt8)
    (address : Nat) : BitVec 32 :=
  BitVec.ofNat 32 (leNat (slice memory address 4))

/-- `(const struct inotify_event *)(buffer + offset)`. -/
def eventAt
    (memory : Nat → UInt8)
    (offset : Nat) : InotifyEvent where
  wd := wordAt memory offset
  mask := wordAt memory (offset + 4)
  cookie := wordAt memory (offset + 8)
  len := wordAt memory (offset + 12)
  name := offset + eventHeaderSize

/--
`strcmp` of the string at an address with a terminated literal: the sign of
the result is that of the difference, and the second component counts the
bytes read at the address.
-/
def strcmp
    (memory : Nat → UInt8)
    (left : Nat) : List UInt8 → Int × Nat
  | [] => (0, 0)
  | byte :: rest =>
      if memory left ≠ byte then
        ((memory left).toNat - byte.toNat, 1)
      else if byte = 0 then
        (0, 1)
      else
        let later := strcmp memory (left + 1) rest
        (later.1, later.2 + 1)

/-- What the loop body does with the bits of an event that it took. -/
def observe
    (watch : BitVec 32)
    (memory : Nat → UInt8)
    (observed : BitVec 32)
    (event : InotifyEvent) : BitVec 32 :=
  if event.wd = watch ∧ event.len > 0 ∧
      (strcmp memory event.name fileName).1 = 0 then
    observed ||| (event.mask &&& requiredEvents)
  else
    observed

/-- How the parsing loop is left. -/
inductive ParseExit where
  | accepted
  | truncated
  | overflowed
  | trailing
  deriving DecidableEq, Repr

/--
The parsing loop with the use that its body makes of an event as a parameter:
how it is left, and the state then.
-/
def parseEvents
    (visit : σ → InotifyEvent → σ)
    (memory : Nat → UInt8)
    (length : Nat)
    (offset : Nat)
    (state : σ) : ParseExit × σ :=
  if offset + eventHeaderSize ≤ length then
    let event := eventAt memory offset
    let eventSize := eventHeaderSize + event.len.toNat
    if eventSize > length - offset then
      (.truncated, state)
    else if event.mask &&& inQOverflow ≠ 0 then
      (.overflowed, state)
    else
      parseEvents visit memory length (offset + eventSize)
        (visit state event)
  else if offset ≠ length then
    (.trailing, state)
  else
    (.accepted, state)
termination_by length - offset
decreasing_by
  simp only [eventHeaderSize] at *
  omega

/-- The events that the loop takes, in order. -/
def visited
    (memory : Nat → UInt8)
    (length : Nat) : List InotifyEvent :=
  (parseEvents (fun seen event => seen ++ [event]) memory length 0 []).2

end AdvanceUnix.FilesystemEvents
