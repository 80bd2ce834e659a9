import ActixRaknet.Packets.Ack
import ActixRaknet.Packets.Control
import ActixRaknet.Queue.AckQueue
import ActixRaknet.Queue.PacketQueue
import ActixRaknet.Queue.ReceivedQueue

/-!
`session.rs`: one end of a connection.

The two actors a session sends to are logs: `udp` collects the datagrams sent, `parent` the
messages to the actor that owns the session.

* `Session.Env`: what a call reads from outside, the clock and the order of map iterations;
* `Session` and its functions, under the names of the source;
* `Session.Op`, `Session.step`: the public calls, as steps of a run; `Session.turn`: a call made by
  the actor that owns the session.
-/

namespace ActixRaknet

open Fallible

def DATAGRAM_FLAG : UInt8 := 0x80

def ACK_FLAG : UInt8 := 0x40

def NACK_FLAG : UInt8 := 0x20

/-- `UdpPacket`. -/
structure UdpPacket where
  bytes : Bytes
  addr : SocketAddr
  deriving DecidableEq, Repr

/-- The messages of a session to its parent: `ReceivedDatagram` and `SessionEnd`. -/
inductive ParentMsg
  | receivedDatagram (frame : Frame)
  | sessionEnd
  deriving DecidableEq, Repr

/-- `Session`. -/
structure Session where
  ackQueue : ACKQueue
  packetQueue : PacketQueue
  received : ReceivedQueue
  udp : List UdpPacket
  parent : List ParentMsg
  addr : SocketAddr
  mtu : UInt16
  messageIndex : ℕ
  orderIndex : ℕ
  splitId : ℕ
  lastPing : Instant
  lastReceive : Instant
  disconnected : Bool

/-- What one call of a session reads from outside: the clock, and the order in which a map is
iterated.  A reading that is taken several times in a call, with only the last one kept, is one
value. -/
structure Session.Env where
  /-- The readings of the packet queue, outside `disconnect`. -/
  queue : PacketQueue.Clock
  order : IterOrder ℕ
  /-- The readings of the packet queue in `disconnect`. -/
  closing : PacketQueue.Clock
  closingOrder : IterOrder ℕ
  /-- The reading that `update` compares with `last_receive`. -/
  silence : Instant
  /-- The reading that `update` compares with `last_ping`. -/
  ping : Instant
  /-- The reading that `update` keeps as `last_ping`. -/
  pinged : Instant
  /-- The reading that `handle_packet` keeps as `last_receive`. -/
  receive : Instant
  /-- The value of `time()`, by the number of frames and sets the queue has taken in: it is read
  once for each frame that carries it. -/
  time : ℕ → Int64

instance : Inhabited Session.Env :=
  ⟨⟨⟨fun _ => 0, 0⟩, default, ⟨fun _ => 0, 0⟩, default, 0, 0, 0, 0, fun _ => 0⟩⟩

namespace Session

/-- `Session::new`, with the two readings of the clock it makes. -/
def new (addr : SocketAddr) (mtu : UInt16) (lastPing lastReceive : Instant) : Session where
  ackQueue := .new
  packetQueue := .new mtu
  received := .new
  udp := []
  parent := []
  addr := addr
  mtu := mtu
  messageIndex := 0
  orderIndex := 0
  splitId := 0
  lastPing := lastPing
  lastReceive := lastReceive
  disconnected := false

/-- `udp.do_send(SendUdp(..))`.  It fails only when the UDP actor has stopped, and then nothing is
sent. -/
def sendUdp (s : Session) (bytes : Bytes) : Session :=
  { s with udp := s.udp ++ [⟨bytes, s.addr⟩] }

/-- `parent.do_send(..)`. -/
def post (s : Session) (msg : ParentMsg) : Session := { s with parent := s.parent ++ [msg] }

/-- `Session::send`. -/
def send (s : Session) (clock : PacketQueue.Clock) (packet : Frame) : Except Panic Session := do
  let packetQueue ← s.packetQueue.addFrame clock packet
  return { s with packetQueue := packetQueue }

/-- The time a frame carries that is made now. -/
def time (s : Session) (env : Env) : Int64 :=
  env.time (s.packetQueue.max + s.packetQueue.setQueue.length)

/-- `Session::end`. -/
def «end» (s : Session) : Session := { s.post .sessionEnd with disconnected := true }

/-! ### Sending -/

/-- One round of the loop of `Session::flush_queue`. -/
def sendSet (s : Session) (sendAble : FrameSet) : Except Panic Session := do
  let bytes ← sendAble.encode
  return s.sendUdp bytes

/-- `Session::flush_queue`. -/
def flushQueue (s : Session) (clock : PacketQueue.Clock) (order : IterOrder ℕ) :
    Except Panic Session := do
  let (sets, packetQueue) ← s.packetQueue.getPacket clock order
  sets.foldlM sendSet { s with packetQueue := packetQueue }

/-- `Session::send_ack`. -/
def sendAck (s : Session) (packet : ℕ × ℕ) : Except Panic Session := do
  let bytes ← encode (Ack.new packet)
  return s.sendUdp bytes

/-- `Session::send_nack`. -/
def sendNack (s : Session) (miss : ℕ) : Except Panic Session := do
  let bytes ← encode (Nack.new (miss, miss))
  return s.sendUdp bytes

/-- `Session::flush_ack`. -/
def flushAck (s : Session) : Except Panic Session := do
  let ((acks, nacks), ackQueue) := s.ackQueue.clear
  let s ← acks.foldlM sendAck { s with ackQueue := ackQueue }
  nacks.foldlM sendNack s

/-- `Session::send_ping`. -/
def sendPing (s : Session) (env : Env) : Except Panic Session := do
  let bytes ← encode (ConnectedPing.new (s.time env))
  s.send env.queue (Frame.new .unreliable bytes)

/-- `Session::disconnect`. -/
def disconnect (s : Session) (env : Env) : Except Panic Session := do
  let buff ← encode Disconnected.mk
  let frame := { Frame.new .reliableOrdered buff with
    messageIndex := s.messageIndex
    orderIndex := s.orderIndex }
  let messageIndex ← u32Add s.messageIndex 1
  let orderIndex ← u32Add s.orderIndex 1
  let s ← send { s with messageIndex := messageIndex, orderIndex := orderIndex } env.closing frame
  let s ← s.flushQueue env.closing env.closingOrder
  return s.end

/-- The silence of the peer in `Session::update`. -/
def checkSilence (s : Session) (env : Env) : Except Panic Session :=
  if 10 < env.silence.secsSince s.lastReceive then s.disconnect env else .ok s

/-- The regular ping in `Session::update`. -/
def checkPing (s : Session) (env : Env) : Except Panic Session :=
  if 3000 < env.ping.millisSince s.lastPing then
    sendPing { s with lastPing := env.pinged } env
  else
    .ok s

/-- `Session::update`. -/
def update (s : Session) (env : Env) : Except Panic Session :=
  if s.disconnected then .ok s
  else do
    let s ← s.flushQueue env.queue env.order
    let s ← s.flushAck
    let s ← s.checkSilence env
    s.checkPing env

/-- `Session::force_flush`. -/
def forceFlush (s : Session) (env : Env) : Except Panic Session := s.flushQueue env.queue env.order

/-- An index that the frame of a system packet takes, if its reliability carries one. -/
def takeIndex (carried : Bool) (index : ℕ) : Except Panic (ℕ × ℕ) :=
  if carried then do
    let next ← u32Add index 1
    return (index, next)
  else
    .ok (0, index)

/-- `Session::send_system_packet`. -/
def sendSystemPacket (s : Session) (env : Env) {P : Type} [Packet P] (packet : P)
    (reliability : Reliability) : Except Panic Session := do
  let buff ← encode packet
  let (messageIndex, nextMessageIndex) ← takeIndex reliability.isReliable s.messageIndex
  let (orderIndex, nextOrderIndex) ← takeIndex reliability.sequencedOrOrdered s.orderIndex
  send { s with messageIndex := nextMessageIndex, orderIndex := nextOrderIndex } env.queue
    { Frame.new reliability buff with messageIndex := messageIndex, orderIndex := orderIndex }

/-- `BytesMut::split_to`. -/
def splitTo (buff : Bytes) (pos : ℕ) : Except Panic (Bytes × Bytes) :=
  if pos ≤ buff.length then .ok (buff.splitAt pos) else .error .outOfBounds

/-- One round of the loop of `Session::send_to`: the next fragment of the buffer is sent. -/
def sendFragment (env : Env) (len max splitLen : ℕ) (acc : Session × Bytes) (i : ℕ) :
    Except Panic (Session × Bytes) := do
  let last ← u16Sub splitLen 1
  let pos := if i = last then len % max else max
  let (data, buff) ← splitTo acc.2 pos
  let s ← acc.1.send env.queue { Frame.new .reliableOrdered data with
    split := true
    messageIndex := acc.1.messageIndex
    orderIndex := acc.1.orderIndex
    splitCount := UInt32.ofNat splitLen
    splitId := UInt16.ofNat acc.1.splitId
    splitIndex := UInt32.ofNat i }
  let messageIndex ← u32Add s.messageIndex 1
  return ({ s with messageIndex := messageIndex }, buff)

/-- The number of fragments: a last one that is not full counts. -/
def splitCount (len max : ℕ) : Except Panic ℕ := do
  let splitLen ← u16Div len max
  let rest ← u16Rem len max
  if rest ≠ 0 then u16Add splitLen 1 else .ok splitLen

/-- The branch of `Session::send_to` for a buffer that does not fit one datagram. -/
def sendSplit (s : Session) (env : Env) (buff : Bytes) : Except Panic Session := do
  let len := buff.length % 2 ^ 16
  let max ← u16Sub s.mtu.toNat 24
  let max ← u16Sub max 32
  let max ← u16Sub max 5
  let splitLen ← splitCount len max
  let (s, _) ← (List.range splitLen).foldlM (sendFragment env len max splitLen) (s, buff)
  let splitId ← u16Add s.splitId 1
  let orderIndex ← u32Add s.orderIndex 1
  return { s with splitId := splitId, orderIndex := orderIndex }

/-- The branch of `Session::send_to` for a buffer that fits one datagram. -/
def sendWhole (s : Session) (env : Env) (buff : Bytes) : Except Panic Session := do
  let frame := { Frame.new .reliableOrdered buff with
    messageIndex := s.messageIndex
    orderIndex := s.orderIndex }
  let messageIndex ← u32Add s.messageIndex 1
  let orderIndex ← u32Add s.orderIndex 1
  send { s with messageIndex := messageIndex, orderIndex := orderIndex } env.queue frame

/-- `Session::send_to`. -/
def sendTo (s : Session) (env : Env) (buff : Bytes) : Except Panic Session := do
  let room ← u16Sub s.mtu.toNat 14
  let room ← u16Sub room 32
  if buff.length < room then s.sendWhole env buff else s.sendSplit env buff

/-! ### Receiving -/

/-- `Session::handle_ack`. -/
def handleAck (s : Session) (buff : Bytes) : Except Panic Session :=
  unwrapOrReturn Ack buff s fun ack => do
    let sequences ← ack.getAll
    return { s with packetQueue := sequences.foldl PacketQueue.received s.packetQueue }

/-- `Session::handle_nack`. -/
def handleNack (s : Session) (env : Env) (buff : Bytes) : Except Panic Session :=
  unwrapOrReturn Nack buff s fun nack => do
    let sequences ← nack.getAll
    let packetQueue ← sequences.foldlM (fun q sequence => q.resend env.queue sequence) s.packetQueue
    return { s with packetQueue := packetQueue }

/-- `Session::handle_connected_ping`. -/
def handleConnectedPing (s : Session) (env : Env) (ping : ConnectedPing) :
    Except Panic Session := do
  let buff ← encode (ConnectedPong.new ping.clientTimestamp (s.time env))
  s.send env.queue (Frame.new .unreliable buff)

/-- `Session::handle_packet`, after `last_receive` is set. -/
def dispatch (env : Env) (s : Session) (frame : Frame) : Except Panic Session := do
  let id ← index frame.data 0
  if id = Packet.ID ConnectedPing then
    unwrapOrReturn ConnectedPing frame.data s (s.handleConnectedPing env)
  else if id = Packet.ID ConnectedPong then
    unwrapOrReturn ConnectedPong frame.data s fun _ => .ok s
  else if id = Packet.ID Disconnected then
    unwrapOrReturn Disconnected frame.data s fun _ => .ok s.end
  else
    .ok (s.post (.receivedDatagram frame))

/-- `Session::handle_packet`. -/
def handlePacket (env : Env) (s : Session) (frame : Frame) : Except Panic Session :=
  dispatch env { s with lastReceive := env.receive } frame

/-- `Session::receive_packet`. -/
def receivePacket (env : Env) (s : Session) (frame : Frame) : Except Panic Session :=
  if !frame.reliability.sequencedOrOrdered then
    handlePacket env s frame
  else do
    let received ← s.received.add frame
    let (packets, received) := received.getAll
    packets.foldlM (handlePacket env) { s with received := received }

/-- `Session::handle_datagram`. -/
def handleDatagram (s : Session) (env : Env) (buff : Bytes) : Except Panic Session :=
  match FrameSet.decode buff with
  | .error _ => .ok s
  | .ok frameSet => do
    let ackQueue ← s.ackQueue.add frameSet.sequenceNumber
    frameSet.datas.foldlM (receivePacket env) { s with ackQueue := ackQueue }

/-- `Session::handle`. -/
def handle (s : Session) (env : Env) (msg : UdpPacket) : Except Panic Session := do
  let header ← index msg.bytes 0
  if header &&& ACK_FLAG ≠ 0 then s.handleAck msg.bytes
  else if header &&& NACK_FLAG ≠ 0 then s.handleNack env msg.bytes
  else if header &&& DATAGRAM_FLAG ≠ 0 then s.handleDatagram env msg.bytes
  else .ok s

/-! ### Runs -/

/-- A call of a session. -/
inductive Op : Type 1
  | update (env : Env)
  | forceFlush (env : Env)
  | handle (env : Env) (msg : UdpPacket)
  | disconnect (env : Env)
  | sendSystemPacket (env : Env) (P : Type) [Packet P] (packet : P) (reliability : Reliability)
  | sendTo (env : Env) (buff : Bytes)

/-- A call, as a step of the session's state. -/
def step (s : Session) : Op → Except Panic Session
  | .update env => s.update env
  | .forceFlush env => s.forceFlush env
  | .handle env msg => s.handle env msg
  | .disconnect env => s.disconnect env
  | @Op.sendSystemPacket env _ _ packet reliability =>
    s.sendSystemPacket env packet reliability
  | .sendTo env buff => s.sendTo env buff

/-- A call made by the actor that owns the session, and which takes what the session posts. -/
def turn (s : Session) (op : Op) : Except Panic Session := do
  let s ← s.step op
  return { s with parent := [] }

end Session

end ActixRaknet
