import ActixRaknet.Library.Context
import ActixRaknet.Session.Basic

/-!
`ClientMediator` of `client.rs`: the actor that carries out the open handshake with a server.

The actors it sends to are logs: `udp` collects the datagrams sent, `parent` the events for the
client.  Both fail only once the client has stopped, and then nothing happens any more.

* `ClientMediator` and its functions, under the names of the source;
* `ClientMediator.onReply`: the four replies of the server are handled alike, up to what follows;
* `ClientMediator.step`: the actor starts, takes a message, or one of its timers fires.
-/

namespace ActixRaknet

open Fallible

/-- `MediatorEvent`. -/
inductive MediatorEvent
  | timeout
  | differentVersion
  | alreadyConnected
  | success (mtu : UInt16)
  deriving DecidableEq, Repr

/-- The messages of a mediator: `ReceivedUdp` and `TerminateMediator`. -/
inductive MediatorMsg
  | receivedUdp (msg : UdpPacket)
  | terminateMediator
  deriving DecidableEq, Repr

/-- The timers of a mediator. -/
inductive MediatorTimer
  | timeout
  | request1
  deriving DecidableEq, Repr

/-- `ClientMediator`, with its context. -/
structure ClientMediator where
  guid : UInt64
  address : SocketAddr
  disconnectTimer : Option ℕ
  request1Count : ℕ
  nextRequest1Handle : Option ℕ
  udp : List UdpPacket
  parent : List MediatorEvent
  ctx : Context MediatorMsg MediatorTimer
  life : Life

namespace ClientMediator

/-- `ClientMediator::new`. -/
def new (guid : UInt64) (address : SocketAddr) : ClientMediator where
  guid := guid
  address := address
  disconnectTimer := none
  request1Count := 0
  nextRequest1Handle := none
  udp := []
  parent := []
  ctx := .empty
  life := .created

/-- `udp.do_send(SendUdp(..))`. -/
def sendUdp (m : ClientMediator) (bytes : Bytes) : ClientMediator :=
  { m with udp := m.udp ++ [⟨bytes, m.address⟩] }

/-- `ClientMediator::event`. -/
def event (m : ClientMediator) (event : MediatorEvent) : ClientMediator :=
  { m with parent := m.parent ++ [event] }

/-- `ClientMediator::timeout`. -/
def timeout (m : ClientMediator) : ClientMediator := m.event .timeout

/-- `ClientMediator::already_connected`. -/
def alreadyConnected (m : ClientMediator) : ClientMediator := m.event .alreadyConnected

/-- `ClientMediator::different_version`. -/
def differentVersion (m : ClientMediator) : ClientMediator := m.event .differentVersion

/-- The next request is due in 510 ms. -/
def scheduleRequest1 (m : ClientMediator) : ClientMediator :=
  { m with
    ctx := m.ctx.spawn .request1 false
    nextRequest1Handle := some m.ctx.spawned }

/-- The size of the next request, by the number of requests sent. -/
def mtuSize (request1Count : ℕ) : Option UInt16 :=
  if request1Count < 4 then some 1496
  else if 4 ≤ request1Count ∧ request1Count < 8 then some 1204
  else if 8 ≤ request1Count ∧ request1Count < 13 then some 584
  else none

/-- `ClientMediator::request1`. -/
def request1 (m : ClientMediator) : Except Panic ClientMediator :=
  match mtuSize m.request1Count with
  | none => .ok m.timeout
  | some mtuSize => do
    let request1Count ← u32Add m.request1Count 1
    let bytes ← encode (OpenConnectionRequest1.new RAKNET_PROTOCOL_VERSION mtuSize)
    return (sendUdp { m with request1Count := request1Count } bytes).scheduleRequest1

/-- `ClientMediator::request2`. -/
def request2 (m : ClientMediator) (mtu : UInt16) : Except Panic ClientMediator := do
  let bytes ← encode (OpenConnectionRequest2.new m.address mtu m.guid)
  return (m.sendUdp bytes).scheduleRequest1

/-- `ClientMediator::success`. -/
def success (m : ClientMediator) (mtu : UInt16) : ClientMediator :=
  match m.disconnectTimer with
  | none => m
  | some handle =>
    event { m with ctx := m.ctx.cancelFuture handle, disconnectTimer := none } (.success mtu)

/-- `ClientMediator::started`. -/
def started (m : ClientMediator) : Except Panic ClientMediator :=
  request1 { m with
    life := .started
    ctx := m.ctx.spawn .timeout false
    disconnectTimer := some m.ctx.spawned }

/-- A reply of the server: while a request is pending, a reply that decodes cancels it. -/
def onReply (m : ClientMediator) (P : Type) [Packet P] (bytes : Bytes)
    (next : ClientMediator → P → Except Panic ClientMediator) : Except Panic ClientMediator :=
  match m.nextRequest1Handle with
  | none => .ok m
  | some handle => unwrapOrReturn P bytes m
      (next { m with ctx := m.ctx.cancelFuture handle, nextRequest1Handle := none })

/-- `Handler<ReceivedUdp> for ClientMediator`. -/
def handleReceivedUdp (m : ClientMediator) (msg : UdpPacket) : Except Panic ClientMediator := do
  let id ← index msg.bytes 0
  if id = Packet.ID OpenConnectionReply1 then
    m.onReply OpenConnectionReply1 msg.bytes fun m reply1 => m.request2 reply1.mtuSize
  else if id = Packet.ID OpenConnectionReply2 then
    m.onReply OpenConnectionReply2 msg.bytes fun m reply2 => do
      let mtu ← u16Add reply2.mtu.toNat 96
      return m.success (UInt16.ofNat mtu)
  else if id = Packet.ID AlreadyConnected then
    m.onReply AlreadyConnected msg.bytes fun m _ => .ok m.alreadyConnected
  else if id = Packet.ID IncompatibleProtocolVersion then
    m.onReply IncompatibleProtocolVersion msg.bytes fun m _ => .ok m.differentVersion
  else
    .ok m

/-- A message is handled: `Handler<ReceivedUdp>` and `Handler<TerminateMediator>`. -/
def handle (m : ClientMediator) : MediatorMsg → Except Panic ClientMediator
  | .receivedUdp msg => m.handleReceivedUdp msg
  | .terminateMediator => .ok { m with life := .terminated }

/-- A timer calls back. -/
def callback (m : ClientMediator) : MediatorTimer → Except Panic ClientMediator
  | .timeout => .ok m.timeout
  | .request1 => m.request1

/-- What a mediator can do next. -/
inductive Action
  | start
  | deliver
  | fire (handle : ℕ)
  deriving DecidableEq, Repr

/-- A step of a mediator.  What it cannot do now changes nothing. -/
def step (m : ClientMediator) : Action → Except Panic ClientMediator
  | .start => if m.life = .created then m.started else .ok m
  | .deliver =>
    match m.life, m.ctx.mailbox with
    | .started, msg :: rest => handle { m with ctx := m.ctx.withMailbox rest } msg
    | _, _ => .ok m
  | .fire handle =>
    match m.life, m.ctx.future? handle with
    | .started, some f => callback { m with ctx := m.ctx.fired f } f.callback
    | _, _ => .ok m

/-- The reply is not taken, or it is handled with the timer cancelled. -/
lemma onReply_eq_ok {m m' : ClientMediator} {P : Type} [Packet P] {bytes : Bytes}
    {next : ClientMediator → P → Except Panic ClientMediator}
    (hm : m.onReply P bytes next = .ok m') : m' = m ∨ ∃ handle packet,
      m.nextRequest1Handle = some handle ∧ decode P bytes = .ok (.ok packet)
        ∧ next { m with ctx := m.ctx.cancelFuture handle, nextRequest1Handle := none } packet
          = .ok m' := by
  rw [onReply] at hm
  cases hhandle : m.nextRequest1Handle with
  | none =>
      rw [hhandle] at hm
      exact Or.inl (Except.ok.inj hm).symm
  | some handle =>
      rw [hhandle] at hm
      rcases unwrapOrReturn_eq_ok hm with rfl | ⟨packet, hdecode, hm⟩
      · exact Or.inl rfl
      · exact Or.inr ⟨handle, packet, rfl, hdecode, hm⟩

end ClientMediator

end ActixRaknet
