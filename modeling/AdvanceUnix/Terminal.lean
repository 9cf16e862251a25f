import AdvanceUnix.TransferLoop

namespace AdvanceUnix.Terminal

open CallTree

/-!
# A pseudoterminal in raw mode

`main` of `16_terminal`: the slave is put into raw mode, bytes are sent both
ways, and its attributes are restored.  The texts that are sent are a
parameter, for which `main` has two literals.
-/

/-- `transfer_all` when it is writing. -/
def transferOut (fd : Fd) (data : List UInt8) : Sys (Result Unit) :=
  writeLoop .eio fd data

/-- `transfer_all` when it is reading. -/
def transferIn (fd : Fd) (size : Nat) :
    Sys (Result Unit × List UInt8) :=
  readLoop .eio fd size

/-- `IGNBRK | BRKINT | PARMRK | ISTRIP | INLCR | IGNCR | ICRNL | IXON`. -/
def rawIflag : BitVec 32 :=
  0x001 ||| 0x002 ||| 0x008 ||| 0x020 ||| 0x040 ||| 0x080 ||| 0x100 ||| 0x400

/-- `OPOST`. -/
def rawOflag : BitVec 32 := 0x001

/-- `ECHO | ECHONL | ICANON | ISIG | IEXTEN`. -/
def rawLflag : BitVec 32 :=
  0x0008 ||| 0x0040 ||| 0x0002 ||| 0x0001 ||| 0x8000

/-- `CSIZE | PARENB`. -/
def rawCflag : BitVec 32 := 0x030 ||| 0x100

/-- `CS8`. -/
def cs8 : BitVec 32 := 0x030

/-- `VMIN`. -/
def vmin : Nat := 6

/-- `VTIME`. -/
def vtime : Nat := 5

/-- `make_raw`. -/
def makeRaw (attributes : Termios) : Termios where
  iflag := attributes.iflag &&& ~~~rawIflag
  oflag := attributes.oflag &&& ~~~rawOflag
  lflag := attributes.lflag &&& ~~~rawLflag
  cflag := attributes.cflag &&& ~~~rawCflag ||| cs8
  cc := (attributes.cc.set vmin 1).set vtime 0

/-- What the cleanup section finds acquired. -/
structure Held where
  masterFd : Fd := -1
  slaveFd : Fd := -1
  saved : Option Termios := none
  deriving DecidableEq, Repr

abbrev tcsetattr (fd : Fd) (attributes : Termios) : Sys (Result Unit) :=
  Syscall.invoke (.tcsetattr fd attributes)

abbrev close (fd : Fd) : Sys (Result Unit) :=
  Syscall.invoke (.close fd)

/-- The restoration of the attributes. -/
def restoreTermios (held : Held) (result : Exit) : Sys Exit :=
  match held.saved with
  | some saved => release true (tcsetattr held.slaveFd saved) none result
  | none => return result

/-- The cleanup section of `main`, reached with a result. -/
def cleanup (held : Held) (result : Exit) : Sys Exit := do
  let result ← restoreTermios held result
  let result ←
    release (held.slaveFd ≥ 0) (close held.slaveFd) none result
  release (held.masterFd ≥ 0) (close held.masterFd) none result

/-- `main` once the slave is in raw mode, for any two texts. -/
def transferring
    (toSlave toMaster : List UInt8)
    (held : Held) : Sys Exit := do
  let .ok () ← transferOut held.masterFd toSlave
    | cleanup held .failure
  let (.ok (), slaveBuffer) ← transferIn held.slaveFd toSlave.length
    | cleanup held .failure
  let .ok () ← transferOut held.slaveFd toMaster
    | cleanup held .failure
  let (.ok (), masterBuffer) ← transferIn held.masterFd toMaster.length
    | cleanup held .failure
  if slaveBuffer ≠ toSlave || masterBuffer ≠ toMaster then
    cleanup held .failure
  else
    cleanup held .success

/-- `main`, for any two texts. -/
def mainTransferring (toSlave toMaster : List UInt8) : Sys Exit := do
  let .ok masterFd ← Syscall.invoke .posixOpenpt
    | cleanup {} .failure
  let held : Held := { masterFd := masterFd }
  let .ok () ← Syscall.invoke (.grantpt masterFd)
    | cleanup held .failure
  let .ok () ← Syscall.invoke (.unlockpt masterFd)
    | cleanup held .failure
  let .ok slaveName ← Syscall.invoke (.ptsname masterFd)
    | cleanup held .failure
  let .ok slaveFd ← Syscall.invoke (.openSlave slaveName)
    | cleanup held .failure
  let held := { held with slaveFd := slaveFd }
  let .ok saved ← Syscall.invoke (.tcgetattr slaveFd)
    | cleanup held .failure
  let .ok () ← tcsetattr slaveFd (makeRaw saved)
    | cleanup held .failure
  transferring toSlave toMaster { held with saved := some saved }

/-- `to_slave`, without its terminator: `master-to-slave` and a newline. -/
def toSlave : List UInt8 :=
  [109, 97, 115, 116, 101, 114, 45, 116, 111, 45, 115, 108, 97, 118, 101, 10]

/-- `to_master`, without its terminator: `slave-to-master` and a newline. -/
def toMaster : List UInt8 :=
  [115, 108, 97, 118, 101, 45, 116, 111, 45, 109, 97, 115, 116, 101, 114, 10]

/-- `main`, with the two texts that it has. -/
def main : Sys Exit :=
  mainTransferring toSlave toMaster

end AdvanceUnix.Terminal
