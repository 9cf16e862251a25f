import AdvanceUnix.Audit
import AdvanceUnix.PositionedIo
import AdvanceUnix.Terminal

namespace AdvanceUnix.Terminal

open CallTree PositionedIo

/-!
# The line discipline under the pseudoterminal

What becomes of the bytes that `16_terminal` sends through its terminal: the
attributes of the terminal decide whether they are changed, kept back or
echoed.
-/

/-- A flag of a word of flags is set. -/
def Has (flags flag : BitVec 32) : Prop :=
  flags &&& flag ≠ 0

instance (flags flag : BitVec 32) : Decidable (Has flags flag) :=
  inferInstanceAs (Decidable (flags &&& flag ≠ 0))

/-- `PARMRK`, `ISTRIP`, `INLCR`, `IGNCR`, `ICRNL` and `IXON`. -/
def parmrk : BitVec 32 := 0x008
def istrip : BitVec 32 := 0x020
def inlcr : BitVec 32 := 0x040
def igncr : BitVec 32 := 0x080
def icrnl : BitVec 32 := 0x100
def ixon : BitVec 32 := 0x400

/-- `ISIG`, `ICANON`, `ECHO`, `ECHONL` and `IEXTEN`. -/
def isig : BitVec 32 := 0x0001
def icanon : BitVec 32 := 0x0002
def echo : BitVec 32 := 0x0008
def echonl : BitVec 32 := 0x0040
def iexten : BitVec 32 := 0x8000

/-- Carriage return and newline. -/
def cr : UInt8 := 13
def nl : UInt8 := 10

/-- A byte is the special character at a place; zero disables it. -/
def IsSpecial (attributes : Termios) (place : Nat) (byte : UInt8) : Prop :=
  byte ≠ 0 ∧ attributes.cc[place]? = some byte

instance (attributes : Termios) (place : Nat) (byte : UInt8) :
    Decidable (IsSpecial attributes place byte) :=
  inferInstanceAs (Decidable (byte ≠ 0 ∧ attributes.cc[place]? = some byte))

/-- `VINTR`, `VQUIT` and `VSUSP`. -/
def signalPlaces : List Nat := [0, 1, 10]

/-- `VSTART` and `VSTOP`. -/
def flowPlaces : List Nat := [8, 9]

/-- What the terminal takes away: a byte that stops the output or signals. -/
def Consumes (attributes : Termios) (byte : UInt8) : Prop :=
  (Has attributes.iflag ixon ∧
      ∃ place ∈ flowPlaces, IsSpecial attributes place byte) ∨
    (Has attributes.lflag isig ∧
      ∃ place ∈ signalPlaces, IsSpecial attributes place byte)

instance (attributes : Termios) (byte : UInt8) :
    Decidable (Consumes attributes byte) :=
  inferInstanceAs (Decidable (_ ∨ _))

/-- What the slave gets of a byte that is not taken away. -/
def mapInput (attributes : Termios) (byte : UInt8) : List UInt8 :=
  if byte = cr then
    if Has attributes.iflag igncr then
      []
    else if Has attributes.iflag icrnl then
      [nl]
    else
      [byte]
  else if byte = nl ∧ Has attributes.iflag inlcr then
    [cr]
  else if byte = 0xff ∧ Has attributes.iflag parmrk ∧
      ¬ Has attributes.iflag istrip then
    [byte, byte]
  else
    [byte]

/--
The system that the program runs on: the attributes of a new terminal, how much
it holds without a writer having to wait, and what it does with lines that are
edited, with output that is processed, and when it echoes.
-/
structure World where
  initial : Termios
  capacity : Nat
  edits : Termios → List UInt8 → List UInt8
  processes : Termios → UInt8 → List UInt8
  echoes : Termios → UInt8 → List UInt8
  controls : initial.cc.length = 32

namespace World

variable (world : World) (attributes : Termios)

/-- What the slave can read of the bytes that the master has written. -/
def input (bytes : List UInt8) : List UInt8 :=
  if Has attributes.lflag icanon ∨ Has attributes.lflag iexten then
    world.edits attributes bytes
  else
    bytes.flatMap fun byte =>
      let byte :=
        if Has attributes.iflag istrip then byte &&& 0x7f else byte
      if Consumes attributes byte then [] else mapInput attributes byte

/-- What the master can read of the bytes that the slave has written. -/
def output (bytes : List UInt8) : List UInt8 :=
  if Has attributes.oflag rawOflag then
    bytes.flatMap (world.processes attributes)
  else
    bytes

/-- What the master can read of the bytes that it has written itself. -/
def echoed (bytes : List UInt8) : List UInt8 :=
  if Has attributes.lflag echo ∨ Has attributes.lflag echonl then
    bytes.flatMap (world.echoes attributes)
  else
    []

end World

/--
The kernel: both ends, what can be read at each, and whether the attributes
could once not be set.
-/
structure Kernel where
  master : Option Fd := none
  unlocked : Bool := false
  name : Option String := none
  slave : Option Fd := none
  attributes : Termios
  settingFailed : Bool := false
  toSlave : List UInt8 := []
  toMaster : List UInt8 := []

namespace Kernel

variable (world : World) (kernel : Kernel)

/-- The effect of an answered call. -/
def next : (request : Syscall) → Answer request → Kernel
  | .posixOpenpt, .ok fd => { kernel with master := some fd }
  | .unlockpt _, .ok _ => { kernel with unlocked := true }
  | .ptsname _, .ok name => { kernel with name := some name }
  | .openSlave _, .ok fd => { kernel with slave := some fd }
  | .tcsetattr _ attributes, .ok _ =>
      { kernel with attributes := attributes }
  | .tcsetattr _ _, .error _ => { kernel with settingFailed := true }
  | .write fd bytes, .ok count =>
      if kernel.master = some fd then
        { kernel with
          toSlave :=
            kernel.toSlave ++
              world.input kernel.attributes (bytes.take count)
          toMaster :=
            kernel.toMaster ++
              world.echoed kernel.attributes (bytes.take count) }
      else
        { kernel with
          toMaster :=
            kernel.toMaster ++
              world.output kernel.attributes (bytes.take count) }
  | .read fd _, .ok bytes =>
      if kernel.master = some fd then
        { kernel with toMaster := kernel.toMaster.drop bytes.length }
      else
        { kernel with toSlave := kernel.toSlave.drop bytes.length }
  | .close fd, _ =>
      if kernel.master = some fd then
        { kernel with master := none }
      else
        { kernel with slave := none }
  | _, _ => kernel

/-- What can be read from a descriptor. -/
def arriving (fd : Fd) : List UInt8 :=
  if kernel.master = some fd then kernel.toMaster else kernel.toSlave

/-- What the kernel may answer.  Any call may fail. -/
def Allows : (request : Syscall) → Answer request → Prop
  | .posixOpenpt, answer => MayOpen answer
  | .openSlave _, answer =>
      (answer : Result Fd).Meets (fun _ => True) fun fd =>
        0 ≤ fd ∧ kernel.master ≠ some fd
  | .tcgetattr _, answer =>
      (answer : Result Termios).Meets (fun _ => True) (· = kernel.attributes)
  | .write _ bytes, answer =>
      (answer : Result Nat).Meets (fun _ => True) (· ≤ bytes.length)
  | .read fd size, answer =>
      (answer : Result (List UInt8)).Meets (fun _ => True)
        (Reads (kernel.arriving fd) size)
  | _, _ => True

/-- A read from the slave returns as soon as there is one byte. -/
def AtOnce (attributes : Termios) : Prop :=
  ¬ Has attributes.lflag icanon ∧ attributes.cc[vmin]? = some 1 ∧
    attributes.cc[vtime]? = some 0

/--
Only the terminal is used, once it is unlocked; it only gets the attributes
that it had or those of raw mode, and no call has to wait.
-/
def Safe : Syscall → Prop
  | .posixOpenpt => kernel.master = none
  | .grantpt fd => kernel.master = some fd
  | .unlockpt fd => kernel.master = some fd
  | .ptsname fd => kernel.master = some fd
  | .openSlave name => kernel.unlocked = true ∧ kernel.name = some name
  | .tcgetattr fd => kernel.slave = some fd
  | .tcsetattr fd attributes =>
      kernel.slave = some fd ∧
        (attributes = makeRaw world.initial ∨ attributes = world.initial)
  | .write fd bytes =>
      kernel.master = some fd ∧
          kernel.toSlave.length + bytes.length ≤ world.capacity ∨
        kernel.slave = some fd ∧
          kernel.toMaster.length + bytes.length ≤ world.capacity
  | .read fd _ =>
      kernel.master = some fd ∧ kernel.toMaster ≠ [] ∨
        kernel.slave = some fd ∧ AtOnce kernel.attributes ∧
          kernel.toSlave ≠ []
  | .close fd => kernel.master = some fd ∨ kernel.slave = some fd
  | _ => False

end Kernel

/-- A call that has failed: not one that was interrupted. -/
def Fails : (request : Syscall) → Answer request → Bool
  | .posixOpenpt, answer => (answer : Result Fd).toOption.isNone
  | .grantpt _, answer => (answer : Result Unit).toOption.isNone
  | .unlockpt _, answer => (answer : Result Unit).toOption.isNone
  | .ptsname _, answer => (answer : Result String).toOption.isNone
  | .openSlave _, answer => (answer : Result Fd).toOption.isNone
  | .tcgetattr _, answer => (answer : Result Termios).toOption.isNone
  | .tcsetattr _ _, answer => (answer : Result Unit).toOption.isNone
  | .write _ _, answer =>
      FailsFor (fun count : Nat => count ≠ 0) (answer : Result Nat)
  | .read _ _, answer =>
      FailsFor (fun _ => true) (answer : Result (List UInt8))
  | .close _, answer => (answer : Result Unit).toOption.isNone
  | _, _ => false

/-- The audit of the program. -/
def audit (world : World) : Audit Answer Kernel where
  next := Kernel.next world
  allows := Kernel.Allows
  safe := Kernel.Safe world
  fails := Fails

/-- The kernel, and whether a call has failed. -/
abbrev Watched := Audited Kernel

/-- The monitor of the program. -/
def monitor (world : World) : Monitor Answer Watched :=
  (audit world).monitor

end AdvanceUnix.Terminal
