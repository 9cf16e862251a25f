import AdvanceUnix.Audit
import AdvanceUnix.PositionedIo
import AdvanceUnix.SystemCalls

namespace AdvanceUnix.TcpSockets

open CallTree PositionedIo

/-!
# A connection to oneself

The program of `10_tcp_sockets` and the kernel under it: a listener, a client
that connects without waiting, and the peer that is accepted, all in one
thread.  A call that waits for one of the others would wait forever.  What is
exchanged is a parameter here.
-/

/-- `ECONNRESET`. -/
def econnreset : Errno := ⟨104, Nat.succ_pos 103⟩

/-- `EINPROGRESS`. -/
def einprogress : Errno := ⟨115, Nat.succ_pos 114⟩

/-- `EALREADY`. -/
def ealready : Errno := ⟨114, Nat.succ_pos 113⟩

/-- The bit of `O_NONBLOCK`, and of `SOCK_NONBLOCK`. -/
def nonblockIndex : Nat := 11

/-- `O_NONBLOCK`. -/
def oNonblock : BitVec 32 := 0x800#32

/-- The bit of `SOCK_CLOEXEC`. -/
def cloexecIndex : Nat := 19

/-- `SOCK_CLOEXEC`. -/
def sockCloexec : BitVec 32 := 0x80000#32

/-- `SOCK_STREAM`. -/
def sockStream : BitVec 32 := 1#32

/-- `AF_INET`. -/
def afInet : Nat := 2

/-- A host in dotted notation, and a port. -/
structure Address where
  host : String
  port : Nat
  deriving DecidableEq, Repr

/-- The first entry of a list of addresses; the list is to be freed. -/
structure Addrinfo where
  list : Nat
  family : Nat
  socktype : BitVec 32
  protocol : Nat
  address : Address
  deriving DecidableEq, Repr

/-- What `getsockname` stores: the port is in network byte order. -/
structure SockaddrIn where
  size : Nat
  family : Nat
  port : BitVec 16
  deriving DecidableEq, Repr

/-- What is ready for a descriptor, or that nothing is in time. -/
abbrev Polled := Option (BitVec 16)

/-- `revents & POLLNVAL`. -/
def IsInvalid (revents : BitVec 16) : Prop :=
  revents &&& 0x20#16 ≠ 0#16

instance : DecidablePred IsInvalid :=
  fun revents => inferInstanceAs (Decidable (revents &&& 0x20#16 ≠ 0#16))

/-- The calls of the program. -/
inductive Call where
  | getaddrinfo (host service : String)
  | freeaddrinfo (list : Nat)
  | socket (family : Nat) (kind : BitVec 32) (protocol : Nat)
  | setsockopt (fd : Fd)
  | bind (fd : Fd) (address : Address)
  | listen (fd : Fd) (backlog : Nat)
  | getsockname (fd : Fd)
  | fcntlGetfl (fd : Fd)
  | fcntlSetfl (fd : Fd) (flags : BitVec 32)
  | connect (fd : Fd) (address : Address)
  | poll (fd : Fd) (timeout : Nat)
  | getsockopt (fd : Fd)
  | accept4 (fd : Fd)
  | send (fd : Fd) (bytes : List UInt8)
  | recv (fd : Fd) (size : Nat)
  | close (fd : Fd)
  deriving DecidableEq, Repr

/-- Their answers: `getsockopt` answers the pending error, if there is one. -/
@[reducible] def Answer : Call → Type
  | .getaddrinfo _ _ => Except Int Addrinfo
  | .freeaddrinfo _ => Unit
  | .socket _ _ _ => Result Fd
  | .setsockopt _ => Result Unit
  | .bind _ _ => Result Unit
  | .listen _ _ => Result Unit
  | .getsockname _ => Result SockaddrIn
  | .fcntlGetfl _ => Result (BitVec 32)
  | .fcntlSetfl _ _ => Result Unit
  | .connect _ _ => Result Unit
  | .poll _ _ => Result Polled
  | .getsockopt _ => Result (Option Errno)
  | .accept4 _ => Result Fd
  | .send _ _ => Result Nat
  | .recv _ _ => Result (List UInt8)
  | .close _ => Result Unit

/-- A program over these calls. -/
abbrev Networking (α : Type) := Program Answer α

/-- Make one call. -/
def invoke (call : Call) : Networking (Answer call) :=
  Program.request call

/-- `set_nonblocking`. -/
def setNonblocking (fd : Fd) (enabled : Bool) :
    Networking (Result Unit) := do
  match ← Program.retry (· = Errno.eintr) (invoke (.fcntlGetfl fd)) with
  | .error error => return .error error
  | .ok flags =>
      Program.retry (· = Errno.eintr)
        (invoke
          (.fcntlSetfl fd
            (if enabled then flags ||| oNonblock else flags &&& ~~~oNonblock)))

/-- `finish_nonblocking_connect`. -/
def finishNonblockingConnect (fd : Fd) : Networking (Result Unit) := do
  match ← Program.retry (· = Errno.eintr) (invoke (.poll fd 2000)) with
  | .error error => return .error error
  | .ok none => return .error .etimedout
  | .ok (some revents) =>
      if IsInvalid revents then
        return .error .ebadf
      else
        match ←
          Program.retry (· = Errno.eintr) (invoke (.getsockopt fd))
        with
        | .error error => return .error error
        | .ok none => return .ok ()
        | .ok (some error) => return .error error

/-- `send_all`. -/
def sendAll (fd : Fd) (bytes : List UInt8) : Networking (Result Unit) :=
  Program.writing (· = Errno.eintr) .eio
    (fun _ rest => invoke (.send fd rest)) bytes

/-- `receive_all`. -/
def receiveAll (fd : Fd) (size : Nat) :
    Networking (Result (List UInt8)) :=
  Program.reading (· = Errno.eintr) (fun _ => .error econnreset)
    (fun _ missing => invoke (.recv fd missing)) size

/-- What the cleanup section finds. -/
structure Held where
  serverAddresses : Option Nat := none
  clientAddresses : Option Nat := none
  listener : Fd := -1
  client : Fd := -1
  peer : Fd := -1
  deriving DecidableEq, Repr

/-- Free a list of addresses, if there is one. -/
def freeing : Option Nat → Networking Unit
  | none => return ()
  | some list => invoke (.freeaddrinfo list)

/-- Close a descriptor, if there is one; it is closed in any case. -/
def closing (fd : Fd) : Networking Unit := do
  if fd ≠ -1 then
    let _ ← invoke (.close fd)
    return ()
  else
    return ()

/-- The cleanup section. -/
def cleanup (held : Held) (result : Exit) : Networking Exit := do
  freeing held.serverAddresses
  freeing held.clientAddresses
  closing held.peer
  closing held.client
  closing held.listener
  return result

/-- `main` with both ends of the connection. -/
def exchange
    (request response : List UInt8)
    (held : Held) : Networking Exit := do
  let .ok _ ← sendAll held.client request
    | cleanup held .failure
  let .ok receivedRequest ← receiveAll held.peer request.length
    | cleanup held .failure
  let .ok _ ← sendAll held.peer response
    | cleanup held .failure
  let .ok receivedResponse ← receiveAll held.client response.length
    | cleanup held .failure
  if receivedRequest = request ∧ receivedResponse = response then
    cleanup held .success
  else
    cleanup held .failure

/-- `main` once the client is connected. -/
def accepted
    (request response : List UInt8)
    (held : Held)
    (list : Nat) : Networking Exit := do
  let .ok _ ← setNonblocking held.client false
    | cleanup held .failure
  invoke (.freeaddrinfo list)
  let held := { held with clientAddresses := none }
  let .ok peer ←
      Program.retry (· = Errno.eintr) (invoke (.accept4 held.listener))
    | cleanup held .failure
  exchange request response { held with peer := peer }

/-- What a call leaves of a connection that is not there yet. -/
def InProgress (error : Errno) : Prop :=
  error = einprogress ∨ error = ealready ∨ error = .eintr

instance : DecidablePred InProgress := fun error =>
  inferInstanceAs
    (Decidable (error = einprogress ∨ error = ealready ∨ error = .eintr))

/-- `main` from the connection on. -/
def connecting
    (request response : List UInt8)
    (held : Held)
    (addresses : Addrinfo) : Networking Exit := do
  match ← invoke (.connect held.client addresses.address) with
  | .ok _ => accepted request response held addresses.list
  | .error error =>
      if InProgress error then
        let .ok _ ← finishNonblockingConnect held.client
          | cleanup held .failure
        accepted request response held addresses.list
      else
        cleanup held .failure

/-- `main` once the listener has a port. -/
def openClient
    (request response : List UInt8)
    (held : Held)
    (service : String) : Networking Exit := do
  let .ok addresses ← invoke (.getaddrinfo "127.0.0.1" service)
    | cleanup held .failure
  let held := { held with clientAddresses := some addresses.list }
  let .ok client ←
      invoke
        (.socket addresses.family (addresses.socktype ||| sockCloexec)
          addresses.protocol)
    | cleanup held .failure
  let held := { held with client := client }
  let .ok _ ← setNonblocking client true
    | cleanup held .failure
  connecting request response held addresses

/-- `ntohs`: the two bytes are swapped. -/
def ntohs (port : BitVec 16) : BitVec 16 :=
  port.extractLsb' 0 8 ++ port.extractLsb' 8 8

/-- `main` once the listener listens. -/
def listening
    (request response : List UInt8)
    (held : Held) : Networking Exit := do
  let .ok bound ← invoke (.getsockname held.listener)
    | cleanup held .failure
  if bound.size = 16 ∧ bound.family = afInet then
    let service := Nat.repr (ntohs bound.port).toNat
    if service.length < 6 then
      openClient request response held service
    else
      cleanup held .failure
  else
    cleanup held .failure

/-- `main`, for any request and response. -/
def mainExchanging (request response : List UInt8) : Networking Exit := do
  let .ok addresses ← invoke (.getaddrinfo "127.0.0.1" "0")
    | cleanup {} .failure
  let held : Held := { serverAddresses := some addresses.list }
  let .ok listener ←
      invoke
        (.socket addresses.family (addresses.socktype ||| sockCloexec)
          addresses.protocol)
    | cleanup held .failure
  let held := { held with listener := listener }
  let .ok _ ← invoke (.setsockopt listener)
    | cleanup held .failure
  let .ok _ ← invoke (.bind listener addresses.address)
    | cleanup held .failure
  let .ok _ ← invoke (.listen listener 4)
    | cleanup held .failure
  invoke (.freeaddrinfo addresses.list)
  listening request response { held with serverAddresses := none }

/-- `ping`. -/
def ping : List UInt8 := [112, 105, 110, 103]

/-- `pong`. -/
def pong : List UInt8 := [112, 111, 110, 103]

/-- `main`. -/
def main : Networking Exit :=
  mainExchanging ping pong

/--
The system that the program runs on: the port that it finds for the listener,
the flags of a new socket, those that `F_SETFL` can change, and what a
connection holds without a sender having to wait.
-/
structure World where
  port : BitVec 16
  flags : BitVec 32
  settable : BitVec 32
  capacity : Nat
  waits : flags.getLsbD nonblockIndex = false
  changeable : settable.getLsbD nonblockIndex = true

/-- How far the client has come. -/
inductive Connection where
  | idle
  | pending
  | settled
  | established
  deriving DecidableEq, Repr

/--
The kernel: the lists of addresses, the descriptors, the flags of the client,
and the bytes on their way in both directions.
-/
structure Kernel where
  lists : List Nat := []
  listener : Option Fd := none
  client : Option Fd := none
  peer : Option Fd := none
  listens : Bool := false
  flags : BitVec 32 := 0
  connection : Connection := .idle
  toPeer : List UInt8 := []
  toClient : List UInt8 := []
  deriving DecidableEq, Repr

namespace Kernel

variable (world : World) (kernel : Kernel)

/-- A descriptor is open. -/
def IsOpen (fd : Fd) : Prop :=
  kernel.listener = some fd ∨ kernel.client = some fd ∨
    kernel.peer = some fd

/-- A descriptor that is closed is none of the three any more. -/
def without (fd : Fd) : Kernel :=
  { kernel with
    listener := if kernel.listener = some fd then none else kernel.listener
    client := if kernel.client = some fd then none else kernel.client
    peer := if kernel.peer = some fd then none else kernel.peer }

/-- The effect of an answered call.  The first socket is the listener. -/
def next : (request : Call) → Answer request → Kernel
  | .getaddrinfo _ _, .ok addresses =>
      { kernel with lists := addresses.list :: kernel.lists }
  | .freeaddrinfo list, _ =>
      { kernel with lists := kernel.lists.erase list }
  | .socket _ kind _, .ok fd =>
      if kernel.listener = none then
        { kernel with listener := some fd }
      else
        { kernel with
          client := some fd
          flags := world.flags ||| (kind &&& oNonblock) }
  | .listen _ _, .ok _ => { kernel with listens := true }
  | .fcntlSetfl _ flags, .ok _ =>
      { kernel with
        flags :=
          (kernel.flags &&& ~~~world.settable) |||
            (flags &&& world.settable) }
  | .connect _ _, .ok _ => { kernel with connection := .established }
  | .connect _ _, .error error =>
      if InProgress error then
        { kernel with connection := .pending }
      else
        kernel
  | .poll _ _, .ok (some _) => { kernel with connection := .settled }
  | .getsockopt _, .ok none => { kernel with connection := .established }
  | .accept4 _, .ok fd => { kernel with peer := some fd }
  | .send fd bytes, .ok count =>
      if kernel.client = some fd then
        { kernel with toPeer := kernel.toPeer ++ bytes.take count }
      else
        { kernel with toClient := kernel.toClient ++ bytes.take count }
  | .recv fd _, .ok bytes =>
      if kernel.client = some fd then
        { kernel with toClient := kernel.toClient.drop bytes.length }
      else
        { kernel with toPeer := kernel.toPeer.drop bytes.length }
  | .close fd, _ => kernel.without fd
  | _, _ => kernel

/-- A new descriptor is none that is open. -/
def MayCreate (answer : Result Fd) : Prop :=
  answer.Meets (fun _ => True) fun fd => 0 ≤ fd ∧ ¬ kernel.IsOpen fd

/-- What arrives at a descriptor. -/
def arriving (fd : Fd) : List UInt8 :=
  if kernel.client = some fd then kernel.toClient else kernel.toPeer

/-- What the kernel may answer.  Any call that can fail may do so. -/
def Allows : (request : Call) → Answer request → Prop
  | .getaddrinfo host service, answer =>
      ∀ addresses : Addrinfo,
        (answer : Except Int Addrinfo) = .ok addresses →
        addresses.socktype = sockStream ∧
          addresses.address =
            ⟨host, Nat.ofDigitChars 10 service.toList 0⟩
  | .socket _ _ _, answer => kernel.MayCreate answer
  | .getsockname _, answer =>
      (answer : Result SockaddrIn).Meets (fun _ => True)
        (· = ⟨16, afInet, ntohs world.port⟩)
  | .fcntlGetfl _, answer =>
      (answer : Result (BitVec 32)).Meets (fun _ => True) (· = kernel.flags)
  | .poll _ _, answer =>
      (answer : Result Polled).Meets (fun _ => True)
        fun polled => ∀ revents ∈ polled, ¬ IsInvalid revents
  | .accept4 _, answer => kernel.MayCreate answer
  | .send _ bytes, answer =>
      (answer : Result Nat).Meets (fun _ => True) (· ≤ bytes.length)
  | .recv fd size, answer =>
      (answer : Result (List UInt8)).Meets (fun _ => True)
        (Reads (kernel.arriving fd) size)
  | _, _ => True

/-- The client has the flags that its socket was created with. -/
def Waits (fd : Fd) : Prop :=
  kernel.client = some fd ∧ kernel.flags = world.flags

/--
Only what is held is used, and no call waits for what does not come: the
client connects without waiting, a connection is accepted when there is one,
and what is received has been sent.
-/
def Safe : Call → Prop
  | .getaddrinfo _ _ => kernel.lists = []
  | .freeaddrinfo list => list ∈ kernel.lists
  | .socket _ kind _ => kind.getLsbD cloexecIndex = true
  | .setsockopt fd => kernel.listener = some fd
  | .bind fd _ => kernel.listener = some fd
  | .listen fd _ => kernel.listener = some fd
  | .getsockname fd => kernel.listener = some fd ∧ kernel.listens = true
  | .fcntlGetfl fd => kernel.client = some fd
  | .fcntlSetfl fd _ => kernel.client = some fd
  | .connect fd address =>
      kernel.client = some fd ∧
        kernel.flags.getLsbD nonblockIndex = true ∧
        kernel.listens = true ∧ kernel.connection = .idle ∧
        address = ⟨"127.0.0.1", world.port.toNat⟩
  | .poll fd _ => kernel.client = some fd ∧ kernel.connection = .pending
  | .getsockopt fd =>
      kernel.client = some fd ∧ kernel.connection = .settled
  | .accept4 fd =>
      kernel.listener = some fd ∧ kernel.connection = .established ∧
        kernel.peer = none
  | .send fd bytes =>
      kernel.Waits world fd ∧
          kernel.toPeer.length + bytes.length ≤ world.capacity ∨
        kernel.peer = some fd ∧
          kernel.toClient.length + bytes.length ≤ world.capacity
  | .recv fd _ =>
      kernel.Waits world fd ∧ kernel.toClient ≠ [] ∨
        kernel.peer = some fd ∧ kernel.toPeer ≠ []
  | .close fd => kernel.IsOpen fd

end Kernel

/-- A call that has failed; whether a descriptor is closed does not matter. -/
def Fails : (request : Call) → Answer request → Bool
  | .getaddrinfo _ _, answer =>
      (answer : Except Int Addrinfo).toOption.isNone
  | .socket _ _ _, answer => (answer : Result Fd).toOption.isNone
  | .setsockopt _, answer => (answer : Result Unit).toOption.isNone
  | .bind _ _, answer => (answer : Result Unit).toOption.isNone
  | .listen _ _, answer => (answer : Result Unit).toOption.isNone
  | .getsockname _, answer => (answer : Result SockaddrIn).toOption.isNone
  | .fcntlGetfl _, answer =>
      FailsFor (fun _ => true) (answer : Result (BitVec 32))
  | .fcntlSetfl _ _, answer =>
      FailsFor (fun _ => true) (answer : Result Unit)
  | .connect _ _, answer =>
      decide ((answer : Result Unit).Meets (¬ InProgress ·) fun _ => False)
  | .poll _ _, answer => FailsFor Option.isSome (answer : Result Polled)
  | .getsockopt _, answer =>
      FailsFor Option.isNone (answer : Result (Option Errno))
  | .accept4 _, answer => FailsFor (fun _ => true) (answer : Result Fd)
  | .send _ _, answer =>
      FailsFor (fun count : Nat => count ≠ 0) (answer : Result Nat)
  | .recv _ _, answer =>
      FailsFor (fun _ => true) (answer : Result (List UInt8))
  | _, _ => false

/-- The audit of the program. -/
def audit (world : World) : Audit Answer Kernel where
  next := Kernel.next world
  allows := Kernel.Allows world
  safe := Kernel.Safe world
  fails := Fails

/-- The kernel, and whether a call has failed. -/
abbrev Watched := Audited Kernel

/-- The monitor of the program. -/
def monitor (world : World) : Monitor Answer Watched :=
  (audit world).monitor

end AdvanceUnix.TcpSockets
