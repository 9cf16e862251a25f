import AdvanceUnix.SystemCalls

namespace AdvanceUnix.FdPassing

open CallTree

/-!
# Receiving a descriptor

`receive_descriptor` of `09_fd_passing`.  The walk over the control messages
keeps the first descriptor and closes every further one at once; afterwards
the kept one is either returned or closed.  A ledger records what the kernel
delivered and which descriptors were closed, and the invariant of the walk is
that kept and closed descriptors together are the installed ones seen so far.
-/

def solSocket : Int := 1

def scmRights : Int := 1

def msgCtrunc : BitVec 32 := 0x8#32

def msgTrunc : BitVec 32 := 0x20#32

def fdCloexec : BitVec 32 := 1#32

/-- `sizeof(int)`. -/
def intSize : Nat := 4

/-- The payload character `'F'`. -/
def payloadByte : UInt8 := 70

/-- `memcpy` into an `int` from little-endian bytes. -/
def decodeInt (bytes : List UInt8) : Int :=
  (BitVec.ofNat 32
    (bytes.foldr (fun byte rest => byte.toNat + 256 * rest) 0)).toInt

end FdPassing

namespace ControlMessage

open FdPassing

/-- `header->cmsg_level == SOL_SOCKET && header->cmsg_type == SCM_RIGHTS`. -/
def isRights (header : ControlMessage) : Bool :=
  header.level == solSocket && header.type == scmRights

/-- `header->cmsg_len - CMSG_LEN(0)`. -/
def dataSize (header : ControlMessage) : Nat :=
  header.len - cmsgHeaderSize

/-- The `int` that the walk copies from an offset of the data. -/
def intAt (header : ControlMessage) (offset : Nat) : Int :=
  decodeInt ((header.data.drop offset).take intSize)

/-- The offsets `0, sizeof(int), ...` below the data size. -/
def offsets (header : ControlMessage) : List Nat :=
  List.range' 0 (header.dataSize / intSize) intSize

/-- The data is a positive whole number of `int`s. -/
def carriesInts (header : ControlMessage) : Prop :=
  0 < header.dataSize ∧ header.dataSize % intSize = 0

instance (header : ControlMessage) : Decidable header.carriesInts :=
  inferInstanceAs (Decidable (_ ∧ _))

/-- The descriptors that the kernel installed for one control message. -/
def installed (header : ControlMessage) : List Fd :=
  if header.isRights ∧ header.carriesInts then
    header.offsets.map header.intAt
  else
    []

end ControlMessage

/-- The descriptors that the kernel installed for a received message. -/
def Received.installed (message : Received) : List Fd :=
  message.control.flatMap ControlMessage.installed

namespace FdPassing

open CallTree

/-- The local variables of the walk over the control messages. -/
structure Walk where
  descriptor : Fd
  descriptorCount : Nat
  malformed : Bool
  deriving DecidableEq, Repr

/-- The values before the first control message. -/
def Walk.start : Walk where
  descriptor := -1
  descriptorCount := 0
  malformed := false

abbrev recvmsg (socketFd : Fd) : Sys (Result Received) :=
  Syscall.invoke (.recvmsg socketFd)

abbrev close (fd : Fd) : Sys (Result Unit) :=
  Syscall.invoke (.close fd)

abbrev fcntlGetfd (fd : Fd) : Sys (Result (BitVec 32)) :=
  Syscall.invoke (.fcntlGetfd fd)

abbrev fcntlSetfd (fd : Fd) (flags : BitVec 32) : Sys (Result Unit) :=
  Syscall.invoke (.fcntlSetfd fd flags)

/-- The inner loop over the descriptors of one control message. -/
def takeCandidates
    (header : ControlMessage)
    (walk : Walk) : List Nat → Sys Walk
  | [] => return walk
  | offset :: rest => do
      let candidate := header.intAt offset
      let counted :=
        { walk with descriptorCount := walk.descriptorCount + 1 }
      if walk.descriptor < 0 then
        takeCandidates header
          { counted with descriptor := candidate } rest
      else
        let _ ← close candidate
        takeCandidates header counted rest

/-- The loop over the control messages. -/
def walkControl (walk : Walk) : List ControlMessage → Sys Walk
  | [] => return walk
  | header :: rest => do
      if !header.isRights then
        walkControl walk rest
      else if header.len < cmsgHeaderSize then
        walkControl { walk with malformed := true } rest
      else if header.dataSize = 0 ∨ header.dataSize % intSize ≠ 0 then
        walkControl { walk with malformed := true } rest
      else
        let next ← takeCandidates header walk header.offsets
        walkControl next rest

/-- The condition under which the message is refused after the walk. -/
def refuses (message : Received) (walk : Walk) : Bool :=
  message.count != 1 || message.payload != payloadByte ||
    walk.malformed || walk.descriptorCount != 1 ||
    (message.flags &&& (msgCtrunc ||| msgTrunc)) != 0

/--
The part of `receive_descriptor` after the walk: refuse the message and close
what the walk kept, or set close-on-exec on it and return it.
-/
def concludeReceive (message : Received) (walk : Walk) : Sys (Result Fd) := do
  if refuses message walk then
    if 0 ≤ walk.descriptor then
      let _ ← close walk.descriptor
      return .error .ebadmsg
    else
      return .error .ebadmsg
  else
    match ← fcntlGetfd walk.descriptor with
    | .error error =>
        let _ ← close walk.descriptor
        return .error error
    | .ok descriptorFlags =>
        match ← fcntlSetfd walk.descriptor
            (descriptorFlags ||| fdCloexec) with
        | .error error =>
            let _ ← close walk.descriptor
            return .error error
        | .ok () => return .ok walk.descriptor

/-- `receive_descriptor`: -1 with an error, or the received descriptor. -/
def receiveDescriptor (socketFd : Fd) : Sys (Result Fd) := do
  match ← retryEintr (recvmsg socketFd) with
  | .error error => return .error error
  | .ok message =>
      let walk ← walkControl .start message.control
      concludeReceive message walk

end AdvanceUnix.FdPassing
