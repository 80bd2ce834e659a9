import ActixRaknet.Library.Context
import ActixRaknet.Session.Basic

/-!
`ServerConn` of `server.rs`: the actor of one connection of the server.

What the connection tells its user and the server is one log, `sent`, since both orders matter;
`server` holds the messages to the server until it is given them.  `passed` is the log of what the
session has passed on.

* `ServerConn` and its functions, under the names of the source;
* `ServerConn.step`: the actor starts, takes a message, one of its timers fires, or its user calls;
* `step_spec`: a connection keeps its address and its guid, and it sends at most one
  `ConnectionEnd`, with these, and terminates with it.
-/

namespace ActixRaknet

open Fallible

/-- `ConnectionHandle`, without the address of the actor. -/
structure ConnectionHandle where
  address : SocketAddr
  guid : UInt64
  deriving DecidableEq, Repr

/-- `RakServerEvent`. -/
inductive RakServerEvent
  | connected (handle : ConnectionHandle)
  | packet (handle : ConnectionHandle) (bytes : Bytes)
  | disconnected (addr : SocketAddr) (guid : UInt64)
  deriving DecidableEq, Repr

/-- `ConnectionEnd`. -/
structure ConnectionEnd where
  addr : SocketAddr
  guid : UInt64
  deriving DecidableEq, Repr

/-- What a connection sends: an event for the user, or its end to the server. -/
inductive ServerConnOut
  | event (event : RakServerEvent)
  | connectionEnd (msg : ConnectionEnd)
  deriving DecidableEq, Repr

/-- The messages of a connection. -/
inductive ServerConnMsg
  | receivedUdp (msg : UdpPacket)
  | session (msg : ParentMsg)
  | sendPacket (bytes : Bytes)
  | disconnectConn
  deriving DecidableEq, Repr

/-- The timers of a connection. -/
inductive ServerConnTimer
  | disconnect
  | update
  deriving DecidableEq, Repr

/-- `ServerConn`, with its context. -/
structure ServerConn where
  session : Session
  sent : List ServerConnOut
  server : List ConnectionEnd
  passed : List ParentMsg
  guid : UInt64
  addr : SocketAddr
  disconnectHandle : Option ℕ
  ctx : Context ServerConnMsg ServerConnTimer
  life : Life

/-- What a handler of a connection reads from outside: what the session's functions read, the time
for an accept, and whether the actor of the user or the server has stopped. -/
structure ServerConn.Env where
  session : Session.Env
  acceptTime : Int64
  handlerClosed : Bool
  serverClosed : Bool
  deriving Inhabited

namespace ServerConn

/-- `ServerConn::new`, with the two readings of the clock it makes. -/
def new (mtu : UInt16) (guid : UInt64) (addr : SocketAddr) (lastPing lastReceive : Instant) :
    ServerConn where
  session := .new addr mtu lastPing lastReceive
  sent := []
  server := []
  passed := []
  guid := guid
  addr := addr
  disconnectHandle := some 0
  ctx := Context.empty.spawn .disconnect false
  life := .created

/-- What the session has posted goes into the mailbox. -/
def putSession (c : ServerConn) (session : Session) : ServerConn :=
  { c with
    session := { session with parent := [] }
    passed := c.passed ++ session.parent
    ctx := c.ctx.post (session.parent.map .session) }

/-- `self.session.f()`. -/
def withSession (c : ServerConn) (f : Session → Except Panic Session) :
    Except Panic ServerConn := do
  let session ← f c.session
  return c.putSession session

/-- `ServerConn::disconnect`. -/
def disconnect (c : ServerConn) (env : Env) : Except Panic ServerConn :=
  c.withSession (·.disconnect env.session)

/-- `ServerConn::event`. -/
def event (c : ServerConn) (env : Env) (event : RakServerEvent) : ServerConn :=
  if env.handlerClosed then { c with life := .terminated }
  else { c with sent := c.sent ++ [.event event] }

/-- `ServerConn::started`. -/
def started (c : ServerConn) : ServerConn :=
  { c with life := .started, ctx := c.ctx.spawn .update true }

/-- The handle given to the user. -/
def myHandle (c : ServerConn) : ConnectionHandle := ⟨c.addr, c.guid⟩

/-- A `ReceivedDatagram` before the connection is established. -/
def handleHandshake (c : ServerConn) (env : Env) (handle : ℕ) (frame : Frame) :
    Except Panic ServerConn := do
  let id ← index frame.data 0
  if id = Packet.ID ConnectionRequest then
    unwrapOrReturn ConnectionRequest frame.data c fun request =>
      c.withSession (·.sendSystemPacket env.session
        (ConnectionRequestAccepted.new c.addr request.time env.acceptTime) .reliableOrdered)
  else if id = Packet.ID NewIncomingConnection then
    unwrapOrReturn NewIncomingConnection frame.data c fun _ =>
      let c := c.event env (.connected c.myHandle)
      .ok { c with ctx := c.ctx.cancelFuture handle, disconnectHandle := none }
  else
    .ok c

/-- `Handler<ReceivedDatagram> for ServerConn`. -/
def handleReceivedDatagram (c : ServerConn) (env : Env) (frame : Frame) : Except Panic ServerConn :=
  match c.disconnectHandle with
  | some handle => c.handleHandshake env handle frame
  | none => .ok (c.event env (.packet c.myHandle frame.data))

/-- `self.server.do_send(ConnectionEnd(..))`. -/
def sendServer (c : ServerConn) : ServerConn :=
  { c with
    sent := c.sent ++ [.connectionEnd ⟨c.addr, c.guid⟩]
    server := c.server ++ [⟨c.addr, c.guid⟩] }

/-- `Handler<SessionEnd> for ServerConn`. -/
def handleSessionEnd (c : ServerConn) (env : Env) : ServerConn :=
  if env.serverClosed then c
  else { c.sendServer.event env (.disconnected c.addr c.guid) with life := .terminated }

/-- A message is handled. -/
def handle (c : ServerConn) (env : Env) : ServerConnMsg → Except Panic ServerConn
  | .receivedUdp msg => c.withSession (·.handle env.session msg)
  | .session (.receivedDatagram frame) => c.handleReceivedDatagram env frame
  | .session .sessionEnd => .ok (c.handleSessionEnd env)
  | .sendPacket bytes => c.withSession (·.sendTo env.session bytes)
  | .disconnectConn => c.disconnect env

/-- A timer calls back. -/
def callback (c : ServerConn) (env : Env) : ServerConnTimer → Except Panic ServerConn
  | .disconnect => c.disconnect env
  | .update => c.withSession (·.update env.session)

/-- A message arrives. -/
def post (c : ServerConn) (msg : ServerConnMsg) : ServerConn := { c with ctx := c.ctx.post [msg] }

/-- What can happen next at a connection. -/
inductive Action
  | start
  | deliver (env : Env)
  | fire (env : Env) (handle : ℕ)
  /-- `ConnectionHandle::send` and `ConnectionHandle::disconnect`. -/
  | send (bytes : Bytes)
  | disconnect

/-- A step of a connection.  What it cannot do now changes nothing. -/
def step (c : ServerConn) : Action → Except Panic ServerConn
  | .start => .ok (if c.life = .created then c.started else c)
  | .deliver env =>
    match c.life, c.ctx.mailbox with
    | .started, msg :: rest => handle { c with ctx := c.ctx.withMailbox rest } env msg
    | _, _ => .ok c
  | .fire env handle =>
    match c.life, c.ctx.future? handle with
    | .started, some f => callback { c with ctx := c.ctx.fired f } env f.callback
    | _, _ => .ok c
  | .send bytes => .ok (c.post (.sendPacket bytes))
  | .disconnect => .ok (c.post .disconnectConn)

/-! ### What a connection tells the server -/

/-- The connection is the same, with the same messages to the server. -/
structure Same (c c' : ServerConn) : Prop where
  addr : c'.addr = c.addr
  guid : c'.guid = c.guid
  server : c'.server = c.server
  terminated : c.life = .terminated → c'.life = .terminated

/-- The connection has sent its `ConnectionEnd` and has terminated. -/
structure Ended (c c' : ServerConn) : Prop where
  addr : c'.addr = c.addr
  guid : c'.guid = c.guid
  server : c'.server = c.server ++ [⟨c.addr, c.guid⟩]
  alive : c.life ≠ .terminated
  terminated : c'.life = .terminated

lemma Same.refl (c : ServerConn) : Same c c := ⟨rfl, rfl, rfl, id⟩

lemma same_withSession {c c' : ServerConn} {f : Session → Except Panic Session}
    (h : c.withSession f = .ok c') : Same c c' := by
  obtain ⟨session, -, hc⟩ := bind_eq_ok.mp h
  obtain rfl := Except.ok.inj hc
  exact ⟨rfl, rfl, rfl, id⟩

lemma same_event (c : ServerConn) (env : Env) (event : RakServerEvent) :
    Same c (c.event env event) := by
  rw [ServerConn.event]
  split_ifs
  · exact ⟨rfl, rfl, rfl, fun _ => rfl⟩
  · exact ⟨rfl, rfl, rfl, id⟩

lemma same_handleHandshake {c c' : ServerConn} {env : Env} {handle : ℕ} {frame : Frame}
    (h : c.handleHandshake env handle frame = .ok c') : Same c c' := by
  obtain ⟨id, -, h⟩ := bind_eq_ok.mp h
  split_ifs at h
  · rcases unwrapOrReturn_eq_ok h with rfl | ⟨request, -, h⟩
    · exact Same.refl c'
    · exact same_withSession h
  · rcases unwrapOrReturn_eq_ok h with rfl | ⟨-, -, h⟩
    · exact Same.refl c'
    · obtain rfl := Except.ok.inj h
      obtain ⟨haddr, hguid, hserver, hlife⟩ := same_event c env (.connected c.myHandle)
      exact ⟨haddr, hguid, hserver, hlife⟩
  · exact Except.ok.inj h ▸ Same.refl c

lemma handle_spec {c c' : ServerConn} {env : Env} {msg : ServerConnMsg}
    (hlife : c.life ≠ .terminated) (h : c.handle env msg = .ok c') : Same c c' ∨ Ended c c' := by
  rcases msg with msg | ⟨frame | _⟩ | bytes | _
  · exact Or.inl (same_withSession (f := (·.handle env.session msg)) h)
  · rw [handle, handleReceivedDatagram] at h
    split at h
    · exact Or.inl (same_handleHandshake h)
    · exact Or.inl (Except.ok.inj h ▸ same_event c env _)
  · obtain rfl := Except.ok.inj h
    rw [handleSessionEnd]
    split_ifs
    · exact Or.inl (Same.refl c)
    · obtain ⟨haddr, hguid, hserver, -⟩ :=
        same_event c.sendServer env (.disconnected c.addr c.guid)
      exact Or.inr ⟨haddr, hguid, hserver, hlife, rfl⟩
  · exact Or.inl (same_withSession (f := (·.sendTo env.session bytes)) h)
  · exact Or.inl (same_withSession (f := (·.disconnect env.session)) h)

lemma callback_spec {c c' : ServerConn} {env : Env} {timer : ServerConnTimer}
    (h : c.callback env timer = .ok c') : Same c c' := by
  cases timer with
  | disconnect => exact same_withSession (f := (·.disconnect env.session)) h
  | update => exact same_withSession (f := (·.update env.session)) h

/-- **What a step of a connection tells the server**: nothing, or once that it has ended. -/
lemma step_spec {c c' : ServerConn} {a : Action} (h : c.step a = .ok c') :
    Same c c' ∨ Ended c c' := by
  cases a with
  | start =>
      obtain rfl := Except.ok.inj h
      split_ifs with hlife
      · exact Or.inl ⟨rfl, rfl, rfl, fun hterm => by rw [hlife] at hterm; cases hterm⟩
      · exact Or.inl (Same.refl c)
  | deliver env =>
      rw [step] at h
      split at h
      · rename_i hlife hmail
        rcases handle_spec (by rw [hlife]; exact fun hterm => nomatch hterm) h with hsame | hended
        · exact Or.inl ⟨hsame.addr, hsame.guid, hsame.server, hsame.terminated⟩
        · exact Or.inr ⟨hended.addr, hended.guid, hended.server, hended.alive, hended.terminated⟩
      · exact Or.inl (Except.ok.inj h ▸ Same.refl c)
  | fire env handle =>
      rw [step] at h
      split at h
      · rename_i f hlife hf
        have hsame := callback_spec h
        exact Or.inl ⟨hsame.addr, hsame.guid, hsame.server, hsame.terminated⟩
      · exact Or.inl (Except.ok.inj h ▸ Same.refl c)
  | send bytes => exact Or.inl (Except.ok.inj h ▸ ⟨rfl, rfl, rfl, id⟩)
  | disconnect => exact Or.inl (Except.ok.inj h ▸ ⟨rfl, rfl, rfl, id⟩)

end ServerConn

end ActixRaknet
