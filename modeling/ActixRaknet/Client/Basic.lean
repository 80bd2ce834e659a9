import ActixRaknet.Client.Mediator

/-!
`RakClient` of `client.rs` and the actors it creates, as one state.

* `RakClient`: the fields of the actor and its context, the mediators it has created, and the log
  `handler` of the events it has sent to its user;
* its handlers, under the names of the source;
* `RakClient.step`: a call of the user or a datagram comes in, the first message of the mailbox is
  handled, a timer fires, or a mediator does something.  The order is left open.

The mailbox holds the messages of the client's own actors, in order.  Calls and datagrams, which
may come at any moment, are handled as they come: each order of the one queue that the client
really has is a run.

Every `Connect` creates one mediator, so a mediator's address, its place in the list, is the number
of its attempt to connect.  Sessions, timers and messages are tagged with the attempt they come
from.  The tags are written and never read by the handlers.
-/

namespace ActixRaknet

open Fallible

/-- `ConnectionFailedReason`. -/
inductive ConnectionFailedReason
  | alreadyConnected
  | differentVersion
  | timeout
  deriving DecidableEq, Repr

/-- `RakClientEvent`. -/
inductive RakClientEvent
  | connectionFailed (reason : ConnectionFailedReason)
  | connected
  | packet (bytes : Bytes)
  | disconnected
  deriving DecidableEq, Repr

/-- `RakClientMsg`. -/
inductive RakClientMsg
  | connect (addr : SocketAddr)
  | packet (bytes : Bytes)
  | disconnect
  deriving DecidableEq, Repr

/-- The messages that the actors of the client send to it: those of a mediator, and those of a
session. -/
inductive RakClientMail
  | mediator (attempt : ℕ) (event : MediatorEvent)
  | session (attempt : ℕ) (msg : ParentMsg)
  deriving DecidableEq, Repr

/-- What a timer of the client does. -/
inductive RakClientTimer
  | connectionTimeout
  | update
  deriving DecidableEq, Repr

/-- Where a panic happens: in a handler of the client, or in a function of its session. -/
inductive Fault
  | client (panic : Panic)
  | session (panic : Panic)
  deriving DecidableEq, Repr

/-- `RakClient`, with its context. -/
structure RakClient where
  guid : UInt64
  mediator : Option ℕ
  handler : List RakClientEvent
  session : Option Session
  tickHandle : Option ℕ
  remote : Option SocketAddr
  disconnectHandle : Option ℕ
  ctx : Context RakClientMail (ℕ × RakClientTimer)
  /-- The mediators created so far, by attempt. -/
  mediators : List ClientMediator
  /-- The attempt of the session. -/
  attempt : ℕ

/-- What a handler reads from outside: what the session's functions read, the two readings of the
clock in `Session::new`, and the time for the connection request. -/
structure RakClient.Env where
  session : Session.Env
  lastPing : Instant
  lastReceive : Instant
  requestTime : Int64
  deriving Inhabited

namespace RakClient

/-- `RakClient::init`. -/
def init (guid : UInt64) : RakClient where
  guid := guid
  mediator := none
  handler := []
  session := none
  tickHandle := none
  remote := none
  disconnectHandle := none
  ctx := .empty
  mediators := []
  attempt := 0

/-- `handler.do_send(..)`. -/
def emit (c : RakClient) (event : RakClientEvent) : RakClient :=
  { c with handler := c.handler ++ [event] }

/-- `mediator.do_send(..)`. -/
def sendMediator (c : RakClient) (mediator : ℕ) (msg : MediatorMsg) : RakClient :=
  { c with mediators := c.mediators.modify mediator fun m => { m with ctx := m.ctx.post [msg] } }

/-- The session is put into its slot, and what it has posted into the mailbox. -/
def putSession (c : RakClient) (session : Session) : RakClient :=
  { c with
    session := some { session with parent := [] }
    ctx := c.ctx.post (session.parent.map (.session c.attempt)) }

/-- `self.session.as_mut().unwrap().f()`. -/
def withSession (c : RakClient) (f : Session → Except Panic Session) : Except Fault RakClient := do
  let session ← (unwrap c.session).mapError .client
  let session ← (f session).mapError .session
  return c.putSession session

/-- `RakClient::connection_timeout`. -/
def connectionTimeout (c : RakClient) : RakClient := c.emit (.connectionFailed .timeout)

/-- `RakClient::update`. -/
def update (c : RakClient) (env : Env) : Except Fault RakClient :=
  if c.session.isSome then
    c.withSession (·.update env.session)
  else do
    let handle ← (unwrap c.tickHandle).mapError .client
    return { c with ctx := c.ctx.cancelFuture handle }

/-- `Handler<ReceivedUdp> for RakClient`. -/
def handleReceivedUdp (c : RakClient) (env : Env) (msg : UdpPacket) : Except Fault RakClient :=
  match c.remote with
  | none => .ok c
  | some remote =>
    if remote ≠ msg.addr then .ok c
    else
      match c.mediator with
      | some mediator => .ok (c.sendMediator mediator (.receivedUdp msg))
      | none => if c.session.isSome then c.withSession (·.handle env.session msg) else .ok c

/-- `Handler<RakClientMsg> for RakClient`. -/
def handleMsg (c : RakClient) (env : Env) : RakClientMsg → Except Fault RakClient
  | .connect addr => .ok { c with
      remote := some addr
      mediator := some c.mediators.length
      mediators := c.mediators ++ [.new c.guid addr] }
  | .packet bytes =>
    if c.session.isSome then c.withSession (·.sendTo env.session bytes) else .ok c
  | .disconnect =>
    if c.session.isSome then c.withSession (·.disconnect env.session) else .ok c

/-- The two timers of a new session: one that ends the attempt, and the regular tick. -/
def startTimers (c : RakClient) : RakClient :=
  let disconnecting := c.ctx.spawn (c.attempt, .connectionTimeout) false
  { c with
    disconnectHandle := some c.ctx.spawned
    tickHandle := some disconnecting.spawned
    ctx := disconnecting.spawn (c.attempt, .update) true }

/-- The branch of `Handler<MediatorEvent>` for `Success`. -/
def handleSuccess (c : RakClient) (env : Env) (attempt : ℕ) (mtu : UInt16) :
    Except Fault RakClient := do
  let remote ← (unwrap c.remote).mapError .client
  let session := Session.new remote mtu env.lastPing env.lastReceive
  let request := ConnectionRequest.new c.guid env.requestTime false
  let session ← (session.sendSystemPacket env.session request .reliable).mapError .session
  return (putSession { c with attempt := attempt } session).startTimers

/-- The event, before the mediator is terminated. -/
def handleEvent (c : RakClient) (env : Env) (attempt : ℕ) : MediatorEvent → Except Fault RakClient
  | .alreadyConnected => .ok (c.emit (.connectionFailed .alreadyConnected))
  | .differentVersion => .ok (c.emit (.connectionFailed .differentVersion))
  | .success mtu => c.handleSuccess env attempt mtu
  | .timeout => .ok (c.emit (.connectionFailed .timeout))

/-- `Handler<MediatorEvent> for RakClient`. -/
def handleMediatorEvent (c : RakClient) (env : Env) (attempt : ℕ) (event : MediatorEvent) :
    Except Fault RakClient :=
  match c.mediator with
  | none => .ok c
  | some mediator => do
    let c ← c.handleEvent env attempt event
    return { c.sendMediator mediator .terminateMediator with mediator := none }

/-- A `ConnectionRequestAccepted` that has been awaited. -/
def accepted (c : RakClient) (env : Env) (handle : ℕ) (accept : ConnectionRequestAccepted) :
    Except Fault RakClient := do
  let c := { c with ctx := c.ctx.cancelFuture handle, disconnectHandle := none }
  let serverAddress ← (unwrap c.remote).mapError .client
  let connected : NewIncomingConnection :=
    ⟨serverAddress, accept.requestTimestamp, accept.requestTimestamp⟩
  let c ← c.withSession (·.sendSystemPacket env.session connected .reliableOrdered)
  let c ← c.withSession (·.forceFlush env.session)
  return c.emit .connected

/-- `Handler<ReceivedDatagram> for RakClient`. -/
def handleReceivedDatagram (c : RakClient) (env : Env) (frame : Frame) :
    Except Fault RakClient := do
  let id ← (index frame.data 0).mapError .client
  if id = Packet.ID ConnectionRequestAccepted then
    match c.disconnectHandle with
    | none => return c
    | some handle =>
      -- `unwrap_or_return!` around `decode`
      match ← (decode ConnectionRequestAccepted frame.data).mapError .client with
      | .error _ => return c
      | .ok accept => c.accepted env handle accept
  else
    return c.emit (.packet frame.data)

/-- `Handler<SessionEnd> for RakClient`. -/
def handleSessionEnd (c : RakClient) : RakClient :=
  emit { c with remote := none, session := none } .disconnected

/-- A message of the mailbox is handled. -/
def handleMail (c : RakClient) (env : Env) : RakClientMail → Except Fault RakClient
  | .mediator attempt event => c.handleMediatorEvent env attempt event
  | .session _ (.receivedDatagram frame) => c.handleReceivedDatagram env frame
  | .session _ .sessionEnd => .ok c.handleSessionEnd

/-- A timer calls back. -/
def callback (c : RakClient) (env : Env) : RakClientTimer → Except Fault RakClient
  | .connectionTimeout => .ok c.connectionTimeout
  | .update => c.update env

/-! ### Steps -/

/-- A mediator does something, and what it has to say goes into the mailbox.  One that panics
is gone. -/
def mediatorStep (c : RakClient) (attempt : ℕ) (action : ClientMediator.Action) : RakClient :=
  match c.mediators[attempt]? with
  | none => c
  | some m =>
    match m.step action with
    | .error _ => { c with mediators := c.mediators.set attempt { m with life := .terminated } }
    | .ok m => { c with
        mediators := c.mediators.set attempt { m with parent := [] }
        ctx := c.ctx.post (m.parent.map (.mediator attempt)) }

/-- What can happen next. -/
inductive Action
  /-- A call of the user comes in. -/
  | call (env : Env) (msg : RakClientMsg)
  /-- A datagram comes in. -/
  | receivedUdp (env : Env) (msg : UdpPacket)
  /-- The first message of the mailbox is handled. -/
  | deliver (env : Env)
  /-- A timer fires. -/
  | fire (env : Env) (handle : ℕ)
  /-- The mediator of an attempt does something. -/
  | mediator (attempt : ℕ) (action : ClientMediator.Action)

/-- A step of the client.  What cannot happen now changes nothing. -/
def step (c : RakClient) : Action → Except Fault RakClient
  | .call env msg => c.handleMsg env msg
  | .receivedUdp env msg => c.handleReceivedUdp env msg
  | .deliver env =>
    match c.ctx.mailbox with
    | [] => .ok c
    | mail :: rest => handleMail { c with ctx := c.ctx.withMailbox rest } env mail
  | .fire env handle =>
    match c.ctx.future? handle with
    | none => .ok c
    | some f => callback { c with ctx := c.ctx.fired f } env f.callback.2
  | .mediator attempt action => .ok (c.mediatorStep attempt action)

/-- A connect that the server answers at once, up to the handling of the success. -/
def handshake (attempt : ℕ) (addr : SocketAddr) : List Action :=
  let reply2 : UdpPacket :=
    ⟨[0x08] ++ MAGIC ++ List.replicate 8 0 ++ [4, 0x80, 0xff, 0xff, 0xfe, 0x4a, 0xbc, 5, 0x18, 0],
      addr⟩
  [.call default (.connect addr), .mediator attempt .start, .receivedUdp default reply2,
    .mediator attempt .deliver, .deliver default]

/-- The body of an accept. -/
def acceptBody : Bytes :=
  [0x10, 4, 0x80, 0xff, 0xff, 0xfe, 0x4a, 0xbc, 0, 0] ++ List.replicate 16 0

end RakClient

end ActixRaknet
