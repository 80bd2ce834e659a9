import ActixRaknet.Server.Conn
import ActixRaknet.Server.Worker

/-!
`RakServer` of `server.rs` and the connections it creates, as one state.

* `RakServer`: the fields of the actor, the connections it has created, and the messages of theirs
  that wait for it;
* its handlers, under the names of the source;
* `RakServer.step`: a datagram or a new message of the day comes in, the first `ConnectionEnd` is
  handled, or a connection does something.  The order is left open.

A connection's address as an actor is its place in the list of connections.  A `ConnectionEnd` is
tagged with the connection it comes from.  The tag is written and never read by the handlers.
-/

namespace ActixRaknet

open Fallible

/-- `RakServer`. -/
structure RakServer where
  udp : List UdpPacket
  conns : HashMap SocketAddr ℕ
  connectedId : List UInt64
  motd : String
  guid : UInt64
  sessionWorker : SessionWorker
  /-- The connections created so far. -/
  connections : List ServerConn
  mailbox : List (ℕ × ConnectionEnd)

/-- What a handler of the server reads from outside: the order in which the workers are visited,
and the two readings of the clock in `Session::new`. -/
structure RakServer.Env where
  order : WorkerOrder
  lastPing : Instant
  lastReceive : Instant
  deriving Inhabited

namespace RakServer

/-- `RakServer::new`. -/
def new (guid : UInt64) (motd : String) (thread : ℕ) : RakServer where
  udp := []
  conns := ∅
  connectedId := []
  motd := motd
  guid := guid
  sessionWorker := .new thread
  connections := []
  mailbox := []

/-- `udp.do_send(SendUdp(..))`. -/
def sendUdp (s : RakServer) (bytes : Bytes) (addr : SocketAddr) : RakServer :=
  { s with udp := s.udp ++ [⟨bytes, addr⟩] }

/-- A packet is sent to an address. -/
def reply (s : RakServer) {P : Type} [Packet P] (packet : P) (addr : SocketAddr) :
    Except Panic RakServer := do
  let bytes ← encode packet
  return s.sendUdp bytes addr

lemma reply_eq_ok {s s' : RakServer} {P : Type} [Packet P] {packet : P} {addr : SocketAddr}
    (hs : s.reply packet addr = .ok s') : ∃ bytes, s' = s.sendUdp bytes addr := by
  obtain ⟨bytes, -, hs⟩ := bind_eq_ok.mp hs
  exact ⟨bytes, (Except.ok.inj hs).symm⟩

/-- `conn.do_send(msg)`. -/
def sendConn (s : RakServer) (conn : ℕ) (msg : UdpPacket) : RakServer :=
  { s with connections := s.connections.modify conn fun c => c.post (.receivedUdp msg) }

/-- A connection is created and registered. -/
def register (s : RakServer) (env : Env) (request2 : OpenConnectionRequest2) (addr : SocketAddr) :
    Except Panic RakServer := do
  let sessionWorker ← s.sessionWorker.add env.order addr
  return { s with
    sessionWorker := sessionWorker
    conns := s.conns.insert addr s.connections.length
    connections := s.connections
      ++ [.new request2.mtu request2.guid addr env.lastPing env.lastReceive]
    connectedId := s.connectedId ++ [request2.guid] }

/-- The branch of `Handler<ReceivedUdp>` for `OpenConnectionRequest1`. -/
def handleRequest1 (s : RakServer) (addr : SocketAddr) (request1 : OpenConnectionRequest1) :
    Except Panic RakServer :=
  if request1.protocolVersion ≠ RAKNET_PROTOCOL_VERSION then
    s.reply (IncompatibleProtocolVersion.new RAKNET_PROTOCOL_VERSION s.guid) addr
  else
    s.reply (OpenConnectionReply1.new s.guid false request1.mtuSize) addr

/-- The branch of `Handler<ReceivedUdp>` for `OpenConnectionRequest2`. -/
def handleRequest2 (s : RakServer) (env : Env) (addr : SocketAddr)
    (request2 : OpenConnectionRequest2) : Except Panic RakServer :=
  if request2.guid ∈ s.connectedId then
    s.reply (AlreadyConnected.new request2.guid) addr
  else do
    let s ← s.reply (OpenConnectionReply2.new s.guid addr request2.mtu false) addr
    s.register env request2 addr

/-- `Handler<ReceivedUdp> for RakServer`. -/
def handleReceivedUdp (s : RakServer) (env : Env) (msg : UdpPacket) : Except Panic RakServer :=
  match s.conns.lookup msg.addr with
  | some conn => .ok (s.sendConn conn msg)
  | none => do
    let id ← index msg.bytes 0
    if id = Packet.ID UnconnectedPing then
      unwrapOrReturn UnconnectedPing msg.bytes s fun ping =>
        s.reply (UnconnectedPong.new ping.time s.guid s.motd) msg.addr
    else if id = Packet.ID OpenConnectionRequest1 then
      unwrapOrReturn OpenConnectionRequest1 msg.bytes s (s.handleRequest1 msg.addr)
    else if id = Packet.ID OpenConnectionRequest2 then
      unwrapOrReturn OpenConnectionRequest2 msg.bytes s (s.handleRequest2 env msg.addr)
    else
      .ok s

/-- The guid is taken out of `connected_id`, if it is there. -/
def forget (connectedId : List UInt64) (guid : UInt64) : Except Panic (List UInt64) :=
  if guid ∈ connectedId then do
    let index ← unwrap (connectedId.idxOf? guid)
    return connectedId.eraseIdx index
  else
    .ok connectedId

/-- `Handler<ConnectionEnd> for RakServer`. -/
def handleConnectionEnd (s : RakServer) (msg : ConnectionEnd) : Except Panic RakServer := do
  let sessionWorker ← s.sessionWorker.delete msg.addr
  let connectedId ← forget s.connectedId msg.guid
  return { s with
    conns := s.conns.erase msg.addr
    sessionWorker := sessionWorker
    connectedId := connectedId }

/-- `Handler<SetMotd> for RakServer`. -/
def handleSetMotd (s : RakServer) (motd : String) : RakServer := { s with motd := motd }

/-! ### Steps -/

/-- A connection does something, and what it tells the server waits for it.  One that panics is
gone. -/
def connStep (s : RakServer) (conn : ℕ) (action : ServerConn.Action) : RakServer :=
  match s.connections[conn]? with
  | none => s
  | some c =>
    match c.step action with
    | .error _ => { s with connections := s.connections.set conn { c with life := .terminated } }
    | .ok c => { s with
        connections := s.connections.set conn { c with server := [] }
        mailbox := s.mailbox ++ c.server.map fun msg => (conn, msg) }

/-- What can happen next. -/
inductive Action
  /-- A datagram comes in. -/
  | receivedUdp (env : Env) (msg : UdpPacket)
  | setMotd (motd : String)
  /-- The first `ConnectionEnd` is handled. -/
  | deliver
  /-- A connection does something. -/
  | conn (conn : ℕ) (action : ServerConn.Action)

/-- A step of the server.  What cannot happen now changes nothing. -/
def step (s : RakServer) : Action → Except Panic RakServer
  | .receivedUdp env msg => s.handleReceivedUdp env msg
  | .setMotd motd => .ok (s.handleSetMotd motd)
  | .deliver =>
    match s.mailbox with
    | [] => .ok s
    | (_, msg) :: rest => handleConnectionEnd { s with mailbox := rest } msg
  | .conn conn action => .ok (s.connStep conn action)

end RakServer

end ActixRaknet
