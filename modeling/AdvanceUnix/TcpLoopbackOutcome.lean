import AdvanceUnix.TcpConnection

namespace AdvanceUnix.TcpSockets

open CallTree PositionedIo

/-!
# A thread that connects to itself never waits for itself

However the connection comes about and however its bytes are cut up, no call
waits for one that is still to be made, and the program succeeds exactly if
nothing fails.
-/

variable {world : World} {kernel : Kernel}

section Verdict

variable {listener client peer : Fd} {request response : List UInt8}
  {server clients : Option Nat}

/-- The kernel with a listener that listens. -/
def listeningKernel (listener : Fd) (lists : List Nat) : Kernel where
  lists := lists
  listener := some listener
  listens := true

/-- The kernel with a client as well. -/
def clientKernel
    (listener client : Fd)
    (lists : List Nat)
    (flags : BitVec 32)
    (connection : Connection) : Kernel where
  lists := lists
  listener := some listener
  client := some client
  listens := true
  flags := flags
  connection := connection

/-- The kernel with both ends of the connection. -/
def pairKernel
    (world : World)
    (listener client peer : Fd)
    (toPeer toClient : List UInt8) : Kernel where
  listener := some listener
  client := some client
  peer := some peer
  listens := true
  flags := world.flags
  connection := .established
  toPeer := toPeer
  toClient := toClient

/-- The program holds a listener. -/
theorem owns_listener
    (valid : 0 ≤ listener)
    (lists : kernel.lists = server.toList ++ clients.toList)
    (isListener : kernel.listener = some listener)
    (noClient : kernel.client = none)
    (noPeer : kernel.peer = none) :
    Owns
      { serverAddresses := server
        clientAddresses := clients
        listener := listener }
      kernel := by
  refine ⟨lists, isListener.trans (descriptor_valid valid).symm, noClient,
    noPeer, ?_, ?_⟩
  · intro _ _
    rw [noClient, noPeer]
    exact ⟨nofun, nofun⟩
  · intro _ _
    rw [noPeer]
    exact nofun

/-- It holds a client as well. -/
theorem owns_client
    {lists : List Nat}
    {flags : BitVec 32}
    {connection : Connection}
    (validListener : 0 ≤ listener)
    (validClient : 0 ≤ client)
    (fresh : client ≠ listener)
    (listed : lists = clients.toList) :
    Owns
      { clientAddresses := clients, listener := listener, client := client }
      (clientKernel listener client lists flags connection) := by
  refine ⟨listed, (descriptor_valid validListener).symm,
    (descriptor_valid validClient).symm, rfl, ?_, fun _ _ => nofun⟩
  rintro _ ⟨⟩
  exact ⟨fun same => fresh (Option.some.inj same), nofun⟩

/-- And it holds the peer. -/
theorem owns_peer
    {toPeer toClient : List UInt8}
    (validListener : 0 ≤ listener)
    (validClient : 0 ≤ client)
    (validPeer : 0 ≤ peer)
    (freshClient : client ≠ listener)
    (freshPeer : peer ≠ listener ∧ peer ≠ client) :
    Owns { listener := listener, client := client, peer := peer }
      (pairKernel world listener client peer toPeer toClient) := by
  refine ⟨rfl, (descriptor_valid validListener).symm,
    (descriptor_valid validClient).symm, (descriptor_valid validPeer).symm,
    ?_, ?_⟩
  · rintro _ ⟨⟩
    exact ⟨fun same => freshClient (Option.some.inj same),
      fun same => freshPeer.1 (Option.some.inj same)⟩
  · rintro _ ⟨⟩
    exact fun same => freshPeer.2 (Option.some.inj same)

/-- The client fills the stream to the peer. -/
theorem client_fills :
    Fills world client
      (pairKernel world listener client peer · []) where
  safe := fun _ _ fits => .inl ⟨⟨rfl, rfl⟩, fits⟩
  moves := fun _ _ _ => if_pos rfl

/-- The peer empties it. -/
theorem peer_empties (fresh : peer ≠ client) :
    Empties world peer
      (pairKernel world listener client peer · []) where
  safe := fun _ _ nonempty => .inr ⟨rfl, nonempty⟩
  arrives := fun _ => if_neg fun same => fresh (Option.some.inj same).symm
  moves := fun _ _ _ =>
    if_neg fun same => fresh (Option.some.inj same).symm

/-- The peer fills the stream to the client. -/
theorem peer_fills (fresh : peer ≠ client) :
    Fills world peer
      (pairKernel world listener client peer []) where
  safe := fun _ _ fits => .inr ⟨rfl, fits⟩
  moves := fun _ _ _ =>
    if_neg fun same => fresh (Option.some.inj same).symm

/-- The client empties it. -/
theorem client_empties :
    Empties world client
      (pairKernel world listener client peer []) where
  safe := fun _ _ nonempty => .inl ⟨⟨rfl, rfl⟩, nonempty⟩
  arrives := fun _ => if_pos rfl
  moves := fun _ _ _ => if_pos rfl

/-- `main` with both ends of the connection. -/
theorem exchange_ensures
    (validListener : 0 ≤ listener)
    (validClient : 0 ≤ client)
    (validPeer : 0 ≤ peer)
    (freshClient : client ≠ listener)
    (freshPeer : peer ≠ listener ∧ peer ≠ client)
    (requestFits : request.length ≤ world.capacity)
    (responseFits : response.length ≤ world.capacity) :
    (exchange request response
      { listener := listener, client := client, peer := peer }).Ensures
      (monitor world) Returned
      { kernel := pairKernel world listener client peer [] [] } := by
  have owns (toPeer toClient : List UInt8) :=
    @owns_peer world listener client peer toPeer toClient validListener
      validClient validPeer freshClient freshPeer
  have requesting :=
    sendAll_ensures (@client_fills world listener client peer) requestFits
  refine .bind (requesting.mono ?_)
  intro sent after outcome
  cases sent with
  | error error =>
      obtain ⟨content, rfl⟩ := outcome
      exact giveUp_ensures (owns _ _) rfl
  | ok done =>
  obtain rfl := outcome
  rw [List.take_length]
  have reading :=
    @receiveAll_ensures world peer _ request
      (@peer_empties world listener client peer freshPeer.2)
  refine .bind (reading.mono ?_)
  intro received after met
  cases received with
  | error error =>
      obtain ⟨content, rfl⟩ := met
      exact giveUp_ensures (owns _ _) rfl
  | ok receivedRequest =>
  obtain ⟨rfl, rfl⟩ := met
  have responding :=
    sendAll_ensures (@peer_fills world listener client peer freshPeer.2)
      responseFits
  refine .bind (responding.mono ?_)
  intro answered after outcome
  cases answered with
  | error error =>
      obtain ⟨content, rfl⟩ := outcome
      exact giveUp_ensures (owns _ _) rfl
  | ok done =>
  obtain rfl := outcome
  rw [List.take_length]
  have finishing :=
    @receiveAll_ensures world client _ response
      (@client_empties world listener client peer)
  refine .bind (finishing.mono ?_)
  intro returned after met
  cases returned with
  | error error =>
      obtain ⟨content, rfl⟩ := met
      exact giveUp_ensures (owns _ _) rfl
  | ok receivedResponse =>
  obtain ⟨rfl, rfl⟩ := met
  simp only [and_self, ↓reduceIte]
  refine (cleanup_ensures (owns [] [])).mono ?_
  rintro _ _ ⟨rfl, rfl⟩
  exact ⟨rfl, iff_of_true rfl rfl, fun _ => ⟨rfl, rfl⟩⟩

/-- `main` once the client is connected. -/
theorem accepted_ensures
    {list : Nat}
    (validListener : 0 ≤ listener)
    (validClient : 0 ≤ client)
    (freshClient : client ≠ listener)
    (requestFits : request.length ≤ world.capacity)
    (responseFits : response.length ≤ world.capacity) :
    (accepted request response
      { clientAddresses := some list
        listener := listener
        client := client } list).Ensures
      (monitor world) Returned
      { kernel :=
          clientKernel listener client [list]
            (world.changed world.flags true) .established } := by
  refine .bind (.mono (setNonblocking_ensures rfl) ?_)
  intro changed after met
  cases changed with
  | error error =>
      obtain rfl := met
      exact giveUp_ensures
        (owns_client validListener validClient freshClient rfl) rfl
  | ok done =>
  obtain rfl := met
  refine .request_bind List.mem_cons_self ?_
  intro freed _
  have settled :
      (monitor world).next
          { kernel :=
              { clientKernel listener client [list]
                  (world.changed world.flags true) .established with
                flags :=
                  world.changed (world.changed world.flags true) false } }
          (.freeaddrinfo list) freed =
        { kernel :=
            clientKernel listener client [] world.flags .established } := by
    rw [changed_changed]
    exact congrArg
      (fun lists : List Nat =>
        ({ kernel :=
            clientKernel listener client lists world.flags
              .established } : Watched))
      (List.erase_cons_head list [])
  refine settled.symm ▸ ?_
  have accepting :
      (Program.retry (· = Errno.eintr)
        (invoke (.accept4 listener))).Ensures (monitor world)
        (fun result after =>
          (result : Result Fd).Meets
            (fun _ =>
              after =
                { kernel :=
                    clientKernel listener client [] world.flags .established
                  failed := true })
            (fun peer =>
              (0 ≤ peer ∧ peer ≠ listener ∧ peer ≠ client) ∧
                after =
                  { kernel := pairKernel world listener client peer [] [] }))
        { kernel :=
            clientKernel listener client [] world.flags .established } := by
    refine .retry
      (· =
        { kernel :=
            clientKernel listener client [] world.flags .established })
      ?_ rfl
    rintro _ rfl
    refine .request ⟨rfl, rfl, rfl⟩ ?_
    intro answer allowed
    cases answer with
    | error error =>
        refine ⟨?_, ?_⟩
        · rintro rfl
          rfl
        · exact fun permanent =>
            congrArg (Audited.mk _) (decide_eq_true permanent)
    | ok peer =>
        obtain ⟨valid, fresh⟩ := allowed
        refine ⟨⟨valid, ?_, ?_⟩, rfl⟩
        · exact fun same => fresh (.inl (congrArg some same.symm))
        · exact fun same => fresh (.inr (.inl (congrArg some same.symm)))
  refine .bind (accepting.mono ?_)
  intro result after met
  cases result with
  | error error =>
      obtain rfl := met
      exact giveUp_ensures
        (owns_client validListener validClient freshClient rfl) rfl
  | ok peer =>
      obtain ⟨⟨valid, fresh⟩, rfl⟩ := met
      exact exchange_ensures validListener validClient valid freshClient
        fresh requestFits responseFits

/-- `main` from the connection on. -/
theorem connecting_ensures
    {addresses : Addrinfo}
    (validListener : 0 ≤ listener)
    (validClient : 0 ≤ client)
    (freshClient : client ≠ listener)
    (requestFits : request.length ≤ world.capacity)
    (responseFits : response.length ≤ world.capacity)
    (found : addresses.address = ⟨"127.0.0.1", world.port.toNat⟩) :
    (connecting request response
      { clientAddresses := some addresses.list
        listener := listener
        client := client } addresses).Ensures
      (monitor world) Returned
      { kernel :=
          clientKernel listener client [addresses.list]
            (world.changed world.flags true) .idle } := by
  refine .request_bind
    ⟨rfl, changed_nonblocking world.flags, rfl, rfl, found⟩ ?_
  intro answer _
  cases answer with
  | ok done =>
      exact accepted_ensures validListener validClient freshClient
        requestFits responseFits
  | error error =>
  by_cases inProgress : InProgress error
  · have pending :
        (monitor world).next
            { kernel :=
                clientKernel listener client [addresses.list]
                  (world.changed world.flags true) .idle }
            (.connect client addresses.address) (.error error) =
          { kernel :=
              clientKernel listener client [addresses.list]
                (world.changed world.flags true) .pending } := by
      have passes : decide (¬ InProgress error) = false :=
        decide_eq_false fun fails => fails inProgress
      exact congr (congrArg Audited.mk (if_pos inProgress)) passes
    refine pending.symm ▸ ?_
    simp only [inProgress, ↓reduceIte]
    refine .bind (.mono (finishNonblockingConnect_ensures rfl rfl) ?_)
    intro finished after met
    cases finished with
    | error error =>
        obtain ⟨connection, rfl⟩ := met
        exact giveUp_ensures
          (owns_client validListener validClient freshClient rfl) rfl
    | ok done =>
        obtain rfl := met
        exact accepted_ensures validListener validClient freshClient
          requestFits responseFits
  · have refused :
        (monitor world).next
            { kernel :=
                clientKernel listener client [addresses.list]
                  (world.changed world.flags true) .idle }
            (.connect client addresses.address) (.error error) =
          { kernel :=
              clientKernel listener client [addresses.list]
                (world.changed world.flags true) .idle
            failed := true } :=
      congr (congrArg Audited.mk (if_neg inProgress))
        (decide_eq_true inProgress)
    refine refused.symm ▸ ?_
    simp only [inProgress, ↓reduceIte]
    exact giveUp_ensures
      (owns_client validListener validClient freshClient rfl) rfl

/-- `main` once the listener has a port. -/
theorem openClient_ensures
    (validListener : 0 ≤ listener)
    (requestFits : request.length ≤ world.capacity)
    (responseFits : response.length ≤ world.capacity) :
    (openClient request response { listener := listener }
      (Nat.repr world.port.toNat)).Ensures (monitor world) Returned
      { kernel := listeningKernel listener [] } := by
  refine .request_bind rfl ?_
  intro finding allowed
  cases finding with
  | error error =>
      exact giveUp_ensures
        (owns_listener validListener rfl rfl rfl rfl) rfl
  | ok addresses =>
  obtain ⟨isStream, found⟩ := allowed addresses rfl
  rw [service_port] at found
  have closeOnExec :
      (addresses.socktype ||| sockCloexec).getLsbD cloexecIndex = true := by
    rw [isStream]
    rfl
  refine .request_bind closeOnExec ?_
  intro creating fresh
  cases creating with
  | error error =>
      exact giveUp_ensures
        (owns_listener validListener rfl rfl rfl rfl) rfl
  | ok client =>
  obtain ⟨validClient, isNew⟩ := fresh
  have freshClient : client ≠ listener :=
    fun same => isNew (.inl (congrArg some same.symm))
  have created :
      (monitor world).next
          { kernel := listeningKernel listener [addresses.list] }
          (.socket addresses.family (addresses.socktype ||| sockCloexec)
            addresses.protocol) (.ok client) =
        { kernel :=
            clientKernel listener client [addresses.list] world.flags
              .idle } := by
    rw [isStream]
    exact congrArg
      (fun flags =>
        ({ kernel :=
            clientKernel listener client [addresses.list] flags
              .idle } : Watched))
      stream_waits
  refine created.symm ▸ ?_
  refine .bind (.mono (setNonblocking_ensures rfl) ?_)
  intro changed after met
  cases changed with
  | error error =>
      obtain rfl := met
      exact giveUp_ensures
        (owns_client validListener validClient freshClient rfl) rfl
  | ok done =>
      obtain rfl := met
      exact connecting_ensures validListener validClient freshClient
        requestFits responseFits found

/-- `main` once the listener listens. -/
theorem listening_ensures
    (validListener : 0 ≤ listener)
    (requestFits : request.length ≤ world.capacity)
    (responseFits : response.length ≤ world.capacity) :
    (listening request response { listener := listener }).Ensures
      (monitor world) Returned
      { kernel := listeningKernel listener [] } := by
  refine .request_bind ⟨rfl, rfl⟩ ?_
  intro naming allowed
  cases naming with
  | error error =>
      exact giveUp_ensures
        (owns_listener validListener rfl rfl rfl rfl) rfl
  | ok bound =>
      obtain rfl : bound = ⟨16, afInet, ntohs world.port⟩ := allowed
      simp only [ntohs_ntohs, service_fits, and_self, ↓reduceIte]
      exact openClient_ensures validListener requestFits responseFits

/-- What `main` establishes. -/
theorem main_ensures
    (requestFits : request.length ≤ world.capacity)
    (responseFits : response.length ≤ world.capacity) :
    (mainExchanging request response).Ensures (monitor world) Returned
      { kernel := {} } := by
  refine .request_bind rfl ?_
  intro finding allowed
  cases finding with
  | error error =>
      exact giveUp_ensures
        ⟨rfl, rfl, rfl, rfl, ⟨fun _ => nofun, fun _ => nofun⟩⟩ rfl
  | ok addresses =>
  obtain ⟨isStream, _⟩ := allowed addresses rfl
  have closeOnExec :
      (addresses.socktype ||| sockCloexec).getLsbD cloexecIndex = true := by
    rw [isStream]
    rfl
  refine .request_bind closeOnExec ?_
  intro creating fresh
  cases creating with
  | error error =>
      exact giveUp_ensures
        ⟨rfl, rfl, rfl, rfl, ⟨fun _ => nofun, fun _ => nofun⟩⟩ rfl
  | ok listener =>
  have valid : 0 ≤ listener := fresh.1
  refine .request_bind rfl ?_
  intro reusing _
  cases reusing with
  | error error =>
      exact giveUp_ensures (owns_listener valid rfl rfl rfl rfl) rfl
  | ok done =>
  refine .request_bind rfl ?_
  intro binding _
  cases binding with
  | error error =>
      exact giveUp_ensures (owns_listener valid rfl rfl rfl rfl) rfl
  | ok done =>
  refine .request_bind rfl ?_
  intro started _
  cases started with
  | error error =>
      exact giveUp_ensures (owns_listener valid rfl rfl rfl rfl) rfl
  | ok done =>
  refine .request_bind List.mem_cons_self ?_
  intro freed _
  have settled :
      (monitor world).next
          { kernel := listeningKernel listener [addresses.list] }
          (.freeaddrinfo addresses.list) freed =
        { kernel := listeningKernel listener [] } :=
    congrArg
      (fun lists : List Nat =>
        ({ kernel := listeningKernel listener lists } : Watched))
      (List.erase_cons_head addresses.list [])
  refine settled.symm ▸ ?_
  exact listening_ensures valid requestFits responseFits

end Verdict

section Runs

variable {events : List (Event Answer)} {outcome : Option Exit}
  {request response : List UInt8}

/-- What a run of the program shows. -/
structure LoopbackVerdict
    (world : World)
    (events : List (Event Answer))
    (outcome : Option Exit) : Prop where
  owned :
    ∀ before event later,
      events = before ++ event :: later →
      ((audit world).kernelAfter {} before).Safe world event.call
  released :
    outcome ≠ none →
    (audit world).kernelAfter {} events =
      ((audit world).kernelAfter {} events).released
  verdict :
    outcome ≠ none →
    (outcome = some .success ↔ (audit world).failed events = false)
  delivered :
    outcome = some .success →
    ((audit world).kernelAfter {} events).toPeer = [] ∧
      ((audit world).kernelAfter {} events).toClient = []

/--
Whatever the answers: no call waits for another one, everything is released,
and the program succeeds exactly if nothing fails.
-/
theorem loopback_verdict
    (requestFits : request.length ≤ world.capacity)
    (responseFits : response.length ≤ world.capacity)
    (run : (mainExchanging request response).Run events outcome)
    (legal : (audit world).Legal {} events) :
    LoopbackVerdict world events outcome := by
  obtain ⟨dutiful, ended⟩ :=
    Audit.sound (main_ensures requestFits responseFits) run legal
  constructor
  case owned => exact dutiful
  case released =>
    intro some
    obtain ⟨result, rfl⟩ := Option.ne_none_iff_exists'.mp some
    exact (ended result rfl).released
  case verdict =>
    intro some
    obtain ⟨result, rfl⟩ := Option.ne_none_iff_exists'.mp some
    rw [Option.some_inj]
    exact (ended result rfl).verdict
  case delivered =>
    rintro rfl
    exact (ended .success rfl).success rfl

/-- A system that gives the listener port 40321. -/
def ephemeral : World where
  port := 40321#16
  flags := 2#32
  settable := 0xc00#32
  capacity := 65536
  waits := rfl
  changeable := rfl

/-- The connection takes its time, and the request is cut in two. -/
def inPieces : Script Answer
  | _, .getaddrinfo host service =>
      .ok
        { list := 1
          family := afInet
          socktype := sockStream
          protocol := 6
          address := ⟨host, Nat.ofDigitChars 10 service.toList 0⟩ }
  | _, .freeaddrinfo _ => ()
  | index, .socket _ _ _ => .ok (if index = 1 then 3 else 4)
  | _, .setsockopt _ => .ok ()
  | _, .bind _ _ => .ok ()
  | _, .listen _ _ => .ok ()
  | _, .getsockname _ => .ok ⟨16, afInet, ntohs 40321#16⟩
  | index, .fcntlGetfl _ => .ok (if index = 9 then 2#32 else 0x802#32)
  | _, .fcntlSetfl _ _ => .ok ()
  | _, .connect _ _ => .error einprogress
  | index, .poll _ _ => if index = 12 then .error .eintr else .ok (some 4#16)
  | _, .getsockopt _ => .ok none
  | _, .accept4 _ => .ok 5
  | index, .send _ bytes => .ok (if index = 19 then 3 else bytes.length)
  | index, .recv _ _ => .ok (if index = 21 then ping else pong)
  | _, .close _ => .ok ()

/-- The kernel may answer so. -/
theorem inPieces_legal :
    (audit ephemeral).Legal {} (main.exec inPieces 5).1 := by
  have found (host service : String) (addresses : Addrinfo) :
      Except.ok
          { list := 1
            family := afInet
            socktype := sockStream
            protocol := 6
            address := ⟨host, Nat.ofDigitChars 10 service.toList 0⟩ } =
        (.ok addresses : Except Int Addrinfo) →
      addresses.socktype = sockStream ∧
        addresses.address =
          ⟨host, Nat.ofDigitChars 10 service.toList 0⟩ := by
    rintro ⟨⟩
    exact ⟨rfl, rfl⟩
  have whole (bytes : List UInt8) : Reads bytes bytes.length bytes :=
    ⟨List.prefix_refl _, Nat.le_refl _, fun nothing => .inr nothing⟩
  have listener : Kernel.MayCreate {} (.ok 3) :=
    ⟨by decide, by rintro (⟨⟨⟩⟩ | ⟨⟨⟩⟩ | ⟨⟨⟩⟩)⟩
  have client : (listeningKernel 3 []).MayCreate (.ok 4) :=
    ⟨by decide, by rintro (⟨⟨⟩⟩ | ⟨⟨⟩⟩ | ⟨⟨⟩⟩)⟩
  have peer :
      (clientKernel 3 4 [] 2#32 .established).MayCreate (.ok 5) :=
    ⟨by decide, by rintro (⟨⟨⟩⟩ | ⟨⟨⟩⟩ | ⟨⟨⟩⟩)⟩
  have ready : ¬ IsInvalid 4#16 := by decide
  exact ⟨found _ _, listener, trivial, trivial, trivial, trivial, rfl,
    found _ _, client, rfl, trivial, trivial, trivial,
    fun _ same => Option.some.inj same ▸ ready, trivial, rfl, trivial,
    trivial, peer, Nat.le_succ 3, Nat.le_refl 1, whole ping, Nat.le_refl 4,
    whole pong, trivial, trivial, trivial, trivial⟩

/-- A connection that takes its time carries both messages. -/
theorem loopback_verdict_inPieces :
    (main.exec inPieces 5).2 = some .success ∧
      LoopbackVerdict ephemeral (main.exec inPieces 5).1 (some .success) := by
  have requestFits : ping.length ≤ ephemeral.capacity := by decide
  have responseFits : pong.length ≤ ephemeral.capacity := by decide
  exact ⟨by decide, loopback_verdict requestFits responseFits
    (main.exec_run inPieces 5) inPieces_legal⟩

end Runs

end AdvanceUnix.TcpSockets
