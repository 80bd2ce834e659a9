import ActixRaknet.Handshake.PathMtu

/-!
A client and the connection that a server has for it, from the moment the client gets its session.

* `Lane`: one direction, with the messages given order indices, the datagrams sent and the frames
  that have come in;
* `Pair.step`: a step of the client, or of the connection; `Pair.session`: the client's session of
  this connection, which it may lose to another;
* `Pair.Admissible`: the network loses, repeats, reorders and delays, but makes no frame sets up;
* `Converses`: a session speaks the messages of one lane and listens to those of the other;
* `Pair.Agrees`: what ties the two sides together in every state of a run, `agrees_of_along`.
-/

namespace ActixRaknet

open Fallible ReceivedQueue

/-- One direction of a connection. -/
structure Lane where
  /-- The mtu of the sender's session. -/
  mtu : UInt16
  /-- The messages that the sender's session has given order indices to. -/
  said : List Message
  /-- The datagrams that it has sent. -/
  wire : List Bytes
  /-- The ordered frames of the datagrams that the receiver's session has handled. -/
  arrived : List Frame

namespace Lane

/-- A lane on which nothing has been sent. -/
def empty (mtu : UInt16) : Lane := ⟨mtu, [], [], []⟩

/-- The calls of the sender's session, which lead from `s` to `s'`. -/
def speak (l : Lane) (s : Session) (ops : List Session.Op) (s' : Session) : Lane :=
  { l with said := l.said ++ s.spoken ops, wire := s'.udp.map (·.bytes) }

/-- The calls of the receiver's session. -/
def hear (l : Lane) (ops : List Session.Op) : Lane :=
  { l with arrived := l.arrived ++ ordered (ops.flatMap Session.Op.incoming) }

/-- Every frame on the wire tells one of the messages, or none. -/
structure Honest (l : Lane) : Prop where
  faithful : ∀ m ∈ l.said, m.Faithful l.mtu
  wire : ∀ bytes ∈ l.wire, ∀ f ∈ Session.arrives bytes, f.Tells l.said

lemma honest_empty (mtu : UInt16) : (empty mtu).Honest :=
  ⟨fun _ h => absurd h List.not_mem_nil, fun _ h => absurd h List.not_mem_nil⟩

end Lane

/-- A frame set that the session handles is on the wire. -/
def Session.Genuine (wire : List Bytes) : Session.Op → Prop
  | .handle _ msg => Routed msg.bytes → msg.bytes ∈ wire
  | _ => True

instance (wire : List Bytes) : DecidablePred (Session.Genuine wire)
  | .handle _ _ => inferInstanceAs (Decidable (_ → _))
  | .update _ => inferInstanceAs (Decidable True)
  | .forceFlush _ => inferInstanceAs (Decidable True)
  | .disconnect _ => inferInstanceAs (Decidable True)
  | @Session.Op.sendSystemPacket _ _ _ _ _ => inferInstanceAs (Decidable True)
  | .sendTo _ _ => inferInstanceAs (Decidable True)

/-- The frames that come in with a genuine call are in a datagram on the wire. -/
lemma Session.Genuine.exists_bytes {wire : List Bytes} {op : Session.Op}
    (h : Session.Genuine wire op) :
    ∀ f ∈ op.incoming, ∃ bytes ∈ wire, f ∈ Session.arrives bytes := by
  intro f hf
  cases op with
  | handle env msg =>
      have hrouted : Session.Routed msg.bytes := by
        by_contra hnot
        rw [Session.Op.incoming, Session.arrives, if_neg hnot] at hf
        cases hf
      exact ⟨msg.bytes, h hrouted, hf⟩
  | _ => cases hf

/-! ### A session between the lanes -/

/-- The session speaks the messages of one lane, and listens to those of the other. -/
structure Converses (out inn : Lane) (s : Session) (log : List Frame) : Prop where
  speaks : s.Speaks out.mtu out.said
  listens : s.Listens inn.said inn.arrived log

section Converses

variable {out inn : Lane} {s s' : Session} {log : List Frame} {ops : List Session.Op}

/-- The frames that come in with a genuine call are frames of the messages. -/
lemma Lane.Honest.tells (h : inn.Honest) {op : Session.Op} (hop : Session.Genuine inn.wire op) :
    ∀ f ∈ op.incoming, f.Tells inn.said := by
  intro f hf
  obtain ⟨bytes, hbytes, hf⟩ := hop.exists_bytes f hf
  exact h.wire bytes hbytes f hf

/-- **The calls that an actor makes** keep the session between the lanes. -/
lemma Converses.exec (h : Converses out inn s log) (hinn : inn.Honest)
    (hshort : ∀ op ∈ ops, Session.Short op) (hgenuine : ∀ op ∈ ops, Session.Genuine inn.wire op)
    (hs : Run.exec Session.turn s ops = .ok s') :
    Converses (out.speak s ops s') (inn.hear ops) s'
        (log ++ (s.reports ops).filterMap ParentMsg.frame?)
      ∧ (out.speak s ops s').Honest := by
  have hspeaks := h.speaks.exec h.listens.ready ops hshort hs
  refine ⟨⟨hspeaks, h.listens.exec (fun op hop => hinn.tells (hgenuine op hop)) hs⟩,
    hspeaks.faithful, fun bytes hbytes => ?_⟩
  obtain ⟨p, hp, rfl⟩ := List.mem_map.mp hbytes
  exact hspeaks.bears.sent p hp

/-- The other side goes on speaking. -/
lemma Converses.extend (h : Converses out inn s log) {t : Session} (t' : Session)
    (hapart : Apart (inn.said ++ t.spoken ops)) : Converses out (inn.speak t ops t') s log :=
  ⟨h.speaks, h.listens.extend hapart⟩

end Converses

/-! ### The pair -/

/-- A client, the connection that a server has for it, and the two directions. -/
structure Pair where
  client : RakClient
  /-- The client has not opened another session since. -/
  current : Bool
  conn : ServerConn
  up : Lane
  down : Lane

namespace Pair

/-- What can happen next. -/
inductive Action
  | client (action : RakClient.Action)
  | conn (op : ServerConn.Op)

/-- The client's session of this connection. -/
def session (p : Pair) : Option Session := if p.current then p.client.session else none

/-- The client once it has done something, which may be to open another session. -/
def withClient (p : Pair) (a : RakClient.Action) (client : RakClient) : Pair :=
  { p with client := client, current := p.current && (p.client.success? a).isNone }

/-- The client has made the calls of its session. -/
def clientMoves (p : Pair) (a : RakClient.Action) (client : RakClient) : Pair :=
  match p.session, (p.withClient a client).session with
  | some s, some s' => { p.withClient a client with
      up := p.up.speak s (p.client.sessionOps a) s'
      down := p.down.hear (p.client.sessionOps a) }
  | _, _ => p.withClient a client

/-- The connection has made the calls of its session. -/
def connMoves (p : Pair) (ops : List Session.Op) (conn : ServerConn) : Pair :=
  { p with
    conn := conn
    down := p.down.speak p.conn.session ops conn.session
    up := p.up.hear ops }

/-- A step of one of the two. -/
def step (p : Pair) : Action → Except (Fault ⊕ Panic) Pair
  | .client a => do
    let client ← (p.client.step a).mapError .inl
    return p.clientMoves a client
  | .conn op => do
    let conn ← (p.conn.turn op).mapError .inr
    return p.connMoves (p.conn.sessionOps op) conn

/-- A frame set that is handled was sent by the other side. -/
def Admissible (p : Pair) : Action → Prop
  | .client a => p.session.isSome → ∀ op ∈ p.client.sessionOps a, Session.Genuine p.down.wire op
  | .conn op => ∀ sop ∈ p.conn.sessionOps op, Session.Genuine p.up.wire sop

instance (p : Pair) : DecidablePred p.Admissible
  | .client _ => inferInstanceAs (Decidable (_ → ∀ _ ∈ _, _))
  | .conn _ => inferInstanceAs (Decidable (∀ _ ∈ _, _))

/-- The client and a connection that is new, which has nothing of the client. -/
def new (client : RakClient) (mtu : UInt16) (conn : ServerConn) : Pair :=
  ⟨client, true, conn, .empty mtu, .empty conn.session.mtu⟩

/-- **The client has just got its session.**  Both sides have the size of a probe, and the
connection of the server may have been there for any time. -/
def Opened (p : Pair) : Prop :=
  ∃ (before : Pair) (a : RakClient.Action) (mtuSize mtuSize' : UInt16) (guid : UInt64)
    (addr : SocketAddr) (lastPing lastReceive : Instant) (ops : List ServerConn.Op),
    Probed mtuSize ∧ Probed mtuSize' ∧ before.client.success? a = some (mtuSize - 1 + 96)
      ∧ before.client.step a = .ok p.client
      ∧ Run.exec step (new before.client (mtuSize - 1 + 96)
          (.new (mtuSize' - 1) guid addr lastPing lastReceive)) (ops.map .conn) = .ok before
      ∧ Run.Along step Admissible (new before.client (mtuSize - 1 + 96)
          (.new (mtuSize' - 1) guid addr lastPing lastReceive)) (ops.map .conn)
      ∧ p = { before with client := p.client }

/-! ### What ties the two sides together -/

end Pair

/-- Both sides make sessions of a few kilobytes at most. -/
lemma Probed.mtu_le {mtuSize : UInt16} (h : Probed mtuSize) :
    (mtuSize - 1).toNat ≤ 8191 ∧ (mtuSize - 1 + 96).toNat ≤ 8191 := by
  rcases h.cases with rfl | rfl | rfl <;> decide

/-- The message announces the connection to the server. -/
def Message.Announces (m : Message) : Prop :=
  ∃ body q, m = .system (Packet.ID NewIncomingConnection :: body)
    ∧ decode NewIncomingConnection (Packet.ID NewIncomingConnection :: body) = .ok (.ok q)

namespace Pair

/-- The connection of the server is between the lanes, and it has told what it should. -/
structure Served (handle : ConnectionHandle) (p : Pair) : Prop where
  up : p.up.Honest
  down : p.down.Honest
  conn : Converses p.down p.up p.conn.session p.conn.view.frames
  telling : ServerConn.Telling handle p.conn

/-- **The two sides agree**: so is the client, and what its user has been given, or will be, since
the session was opened comes from that session; and it awaits an accept until it has announced the
connection. -/
structure Agrees (earlier : List Bytes) (handle : ConnectionHandle) (p : Pair) : Prop
    extends Served handle p where
  client : ∀ s, p.session = some s → ∃ log, Converses p.up p.down s log
    ∧ p.client.told = earlier ++ RakClient.given log
  announced : p.session.isSome → p.client.disconnectHandle = none → ∃ m ∈ p.up.said, m.Announces

variable {handle : ConnectionHandle} {earlier : List Bytes} {p p' : Pair}

lemma served_new (c : RakClient) (mtu : UInt16) {mtu' : UInt16} (hmtu : mtu'.toNat ≤ 8191)
    (guid : UInt64) (addr : SocketAddr) (lastPing lastReceive : Instant) :
    Served ⟨addr, guid⟩ (new c mtu (.new mtu' guid addr lastPing lastReceive)) where
  up := Lane.honest_empty _
  down := Lane.honest_empty _
  conn := ⟨Session.speaks_new addr lastPing lastReceive hmtu,
    Session.listens_new .nil addr mtu' lastPing lastReceive⟩
  telling := ⟨rfl, ServerConn.told_new mtu' guid addr lastPing lastReceive⟩

/-- A turn of the connection. -/
lemma Served.conn_step (h : p.Served handle) {op : ServerConn.Op}
    (hop : p.Admissible (.conn op)) (hs : p.step (.conn op) = .ok p') :
    p'.Served handle ∧ p'.client = p.client ∧ p'.current = p.current
      ∧ (∃ t ops t', p'.down = p.down.speak t ops t' ∧ Apart (p.down.said ++ t.spoken ops))
      ∧ ∃ ops, p'.up = p.up.hear ops := by
  obtain ⟨conn, hconn, hp⟩ := bind_eq_ok.mp hs
  obtain rfl := Except.ok.inj hp
  rw [RakClient.mapError_eq_ok] at hconn
  obtain ⟨⟨hcalls, -⟩, hpassed⟩ := ServerConn.turn_conducts hconn
  obtain ⟨hconverses, hhonest⟩ := h.conn.exec h.up (p.conn.short_sessionOps op) hop hcalls
  have hframes : conn.view.frames = p.conn.view.frames
      ++ (p.conn.session.reports (p.conn.sessionOps op)).filterMap ParentMsg.frame? := by
    change conn.passed.filterMap _ = p.conn.passed.filterMap _ ++ _
    rw [hpassed, List.filterMap_append]
  rw [← hframes] at hconverses
  exact ⟨⟨⟨h.up.faithful, h.up.wire⟩, hhonest, hconverses, h.telling.turn hconn⟩, rfl, rfl,
    ⟨_, _, _, rfl, hconverses.speaks.apart⟩, _, rfl⟩

lemma Agrees.conn_step (h : p.Agrees earlier handle) {op : ServerConn.Op}
    (hop : p.Admissible (.conn op)) (hs : p.step (.conn op) = .ok p') :
    p'.Agrees earlier handle := by
  obtain ⟨hserved, hclient, hcurrent, ⟨t, ops, t', hdown, hapart⟩, _, hup⟩ :=
    h.toServed.conn_step hop hs
  have hsession : p'.session = p.session := by rw [session, session, hclient, hcurrent]
  refine ⟨hserved, ?_, ?_⟩
  · rw [hsession, hclient, hdown, hup]
    intro s hsession
    obtain ⟨log, hconverses, htold⟩ := h.client s hsession
    obtain ⟨hspeaks, hlistens⟩ := hconverses.extend t' hapart
    exact ⟨log, ⟨hspeaks, hlistens⟩, htold⟩
  · rw [hsession, hclient, hup]
    exact h.announced

/-- The new incoming connection is the first message of the calls. -/
lemma announces_spoken (s : Session) (env : Session.Env) (connected : NewIncomingConnection)
    (ops : List Session.Op) : ∃ m ∈ s.spoken (Session.Op.sendSystemPacket env NewIncomingConnection
      connected .reliableOrdered :: ops), m.Announces := by
  obtain ⟨body, q, hencode, hdecode⟩ := decode_incoming connected
  refine ⟨.system (Packet.ID NewIncomingConnection :: body), ?_, body, q, rfl, hdecode⟩
  rw [Session.spoken, Session.messages, hencode]
  exact List.mem_append_left _ (List.mem_singleton.mpr rfl)

lemma session_eq_some {s : Session} :
    p.session = some s ↔ p.current = true ∧ p.client.session = some s := by
  rw [session]
  split_ifs with hcurrent <;> simp [hcurrent]

lemma isSome_session (h : p.session.isSome) : p.client.session.isSome := by
  obtain ⟨s, hs⟩ := Option.isSome_iff_exists.mp h
  exact Option.isSome_of_mem (session_eq_some.mp hs).2

lemma session_withClient {a : RakClient.Action} {client : RakClient} {s : Session} :
    (p.withClient a client).session = some s
      ↔ (p.current = true ∧ p.client.success? a = none) ∧ client.session = some s := by
  rw [session_eq_some]
  simp only [withClient, Bool.and_eq_true, Option.isNone_iff_eq_none]

/-- **A step of the client** is calls of the session of this connection, or the client has that
session no more. -/
lemma clientMoves_cases {a : RakClient.Action} {client : RakClient}
    (hclient : p.client.step a = .ok client) :
    (∃ s s', p.session = some s ∧ (p.withClient a client).session = some s'
        ∧ p.client.session = some s ∧ p.client.success? a = none
        ∧ Run.exec Session.turn s (p.client.sessionOps a) = .ok s'
        ∧ p.clientMoves a client = { p.withClient a client with
          up := p.up.speak s (p.client.sessionOps a) s'
          down := p.down.hear (p.client.sessionOps a) })
      ∨ ((p.withClient a client).session = none
        ∧ p.clientMoves a client = p.withClient a client) := by
  rw [clientMoves]
  cases hsession' : (p.withClient a client).session with
  | none => exact Or.inr ⟨rfl, by cases p.session <;> rfl⟩
  | some s' =>
      obtain ⟨⟨hcurrent, hnone⟩, hs'⟩ := session_withClient.mp hsession'
      rcases (RakClient.step_conducts hnone hclient).calls with ⟨s, t', hs, hops, ht'⟩ | hlost
      · obtain rfl := Option.some.inj (hs'.symm.trans ht')
        have hsession := session_eq_some.mpr ⟨hcurrent, hs⟩
        rw [hsession]
        exact Or.inl ⟨s, s', rfl, rfl, hs, hnone, hops, rfl⟩
      · cases hlost.symm.trans hs'

/-- A step of the client. -/
lemma Agrees.client_step (h : p.Agrees earlier handle) {a : RakClient.Action}
    (ha : p.Admissible (.client a)) (hs : p.step (.client a) = .ok p') :
    p'.Agrees earlier handle := by
  obtain ⟨client, hclient, hp⟩ := bind_eq_ok.mp hs
  obtain rfl := Except.ok.inj hp
  rw [RakClient.mapError_eq_ok] at hclient
  rcases clientMoves_cases hclient with
    ⟨s, s', hsession, hsession', hs, hnone, hops, hmoves⟩ | ⟨hnone, hmoves⟩
  · rw [hmoves]
    obtain ⟨-, htold⟩ := RakClient.step_conducts hnone hclient
    obtain ⟨log, hconverses, htold'⟩ := h.client s hsession
    obtain ⟨hconverses', hhonest⟩ := hconverses.exec h.down (p.client.short_sessionOps a)
      (ha (Option.isSome_of_mem hsession)) hops
    refine ⟨⟨hhonest, ⟨h.down.faithful, h.down.wire⟩, ?_, h.telling⟩, ?_, ?_⟩
    · obtain ⟨hspeaks, hlistens⟩ := h.conn.extend s' hconverses'.speaks.apart
      exact ⟨hspeaks, hlistens⟩
    · intro t ht
      obtain rfl := Option.some.inj (hsession'.symm.trans ht)
      refine ⟨_, hconverses', ?_⟩
      change client.told = _
      rw [htold, htold', RakClient.heard, hs, RakClient.given_append, List.append_assoc]
    · intro _ haccepted
      by_cases hawaited : p.client.disconnectHandle = none
      · obtain ⟨m, hm, hannounces⟩ := h.announced (Option.isSome_of_mem hsession) hawaited
        exact ⟨m, List.mem_append_left _ hm, hannounces⟩
      · obtain ⟨env, connected, ops, hsession⟩ :=
          RakClient.step_accepted hclient hawaited haccepted
        obtain ⟨m, hm, hannounces⟩ := announces_spoken s env connected ops
        exact ⟨m, List.mem_append_right _ (hsession ▸ hm), hannounces⟩
  · rw [hmoves]
    refine ⟨⟨h.up, h.down, h.conn, h.telling⟩, ?_, ?_⟩
    · intro t ht
      cases hnone.symm.trans ht
    · intro hsome _
      rw [hnone] at hsome
      cases hsome

/-- **Step lemma**: an admissible step keeps the two sides together. -/
lemma Agrees.step (h : p.Agrees earlier handle) {a : Action} (ha : p.Admissible a)
    (hs : p.step a = .ok p') : p'.Agrees earlier handle := by
  cases a with
  | client a => exact h.client_step ha hs
  | conn op => exact h.conn_step ha hs

/-- The connection on its own. -/
lemma Served.conn_steps (h : p.Served handle) {ops : List ServerConn.Op}
    (hs : Run.exec Pair.step p (ops.map .conn) = .ok p')
    (hops : Run.Along Pair.step Admissible p (ops.map .conn)) :
    p'.Served handle ∧ p'.up.mtu = p.up.mtu ∧ p'.up.said = p.up.said
      ∧ p'.down.arrived = p.down.arrived := by
  induction ops generalizing p with
  | nil =>
      obtain rfl := Except.ok.inj hs
      exact ⟨h, rfl, rfl, rfl⟩
  | cons op ops ih =>
      obtain ⟨q, hq, hrest⟩ := Run.exec_cons.mp hs
      obtain ⟨hop, halong⟩ := hops q hq
      obtain ⟨hserved, -, -, ⟨t, _, t', hdown, -⟩, _, hup⟩ := h.conn_step hop hq
      obtain ⟨hserved', hmtu, hsaid, harrived⟩ := ih hserved hrest halong
      rw [hup] at hmtu hsaid
      rw [hdown] at harrived
      exact ⟨hserved', hmtu, hsaid, harrived⟩

/-- A session that has just been opened has said nothing and heard nothing. -/
lemma converses_opened {c c' : RakClient} {mtu : UInt16} (hc : c.Opens c' mtu)
    (hmtu : mtu.toNat ≤ 8191) {out inn : Lane} (hout : out.mtu = mtu) (hsaid : out.said = [])
    (hinn : Apart inn.said) (harrived : inn.arrived = []) :
    ∀ s, c'.session = some s → Converses out inn s [] := by
  obtain ⟨env, remote, s, -, hturn, hs⟩ := hc
  intro t ht
  obtain rfl := Option.some.inj (hs.symm.trans ht)
  have hlistens : (Session.new remote mtu env.lastPing env.lastReceive).Listens inn.said [] [] :=
    Session.listens_new hinn remote mtu env.lastPing env.lastReceive
  have hspeaks := (Session.speaks_new remote env.lastPing env.lastReceive hmtu).exec
    hlistens.ready [.sendSystemPacket env.session ConnectionRequest
      (.new c.guid env.requestTime false) .reliable]
    (fun op hop => List.mem_singleton.mp hop ▸ fun body hbody =>
      (length_connectionRequest _ hbody).trans_le (by decide))
    (Run.exec_singleton.mpr hturn)
  obtain ⟨u, hstep, hu⟩ := bind_eq_ok.mp hturn
  obtain rfl := Except.ok.inj hu
  obtain ⟨hreceived, -, hopen⟩ := Session.step_of_not_routed hstep (by rintro _ _ ⟨⟩)
  refine ⟨?_, ?_⟩
  · rw [hout, hsaid]
    rwa [Session.spoken, Session.messages, hturn] at hspeaks
  · rw [harrived]
    exact hlistens.quiet (hlistens.ready.step hstep) hreceived hopen []

/-- When the client has got its session, the two sides agree. -/
lemma Opened.agrees (h : p.Opened) : ∃ handle, p.Agrees p.client.told handle ∧ p.up.said = [] := by
  obtain ⟨before, a, mtuSize, mtuSize', guid, addr, lastPing, lastReceive, ops, hprobed, hprobed',
    hsuccess, hclient, hops, halong, hp⟩ := h
  have hnew := served_new before.client (mtuSize - 1 + 96) hprobed'.mtu_le.1 guid addr lastPing
    lastReceive
  obtain ⟨hserved, hmtu, hsaid, harrived⟩ := hnew.conn_steps hops halong
  have hopens := RakClient.step_success hsuccess hclient
  have hconverses := converses_opened hopens hprobed.mtu_le.2 hmtu
    hsaid hserved.conn.speaks.apart harrived
  rw [hp]
  refine ⟨_, ⟨⟨hserved.up, hserved.down, hserved.conn, hserved.telling⟩, fun s hs => ?_,
    fun _ h => ?_⟩,
    hsaid⟩
  · exact ⟨[], hconverses s (session_eq_some.mp hs).2, (List.append_nil _).symm⟩
  · exact absurd h (RakClient.step_success_awaits hsuccess hclient)

/-- **The two sides agree throughout** an admissible run. -/
lemma Opened.always (h : p.Opened) {actions : List Action}
    (hactions : Run.Along Pair.step Admissible p actions) :
    ∃ handle, Run.Always Pair.step (Agrees p.client.told handle) p actions := by
  obtain ⟨handle, hagrees, -⟩ := h.agrees
  exact ⟨handle, Run.always_of_along (fun _ _ _ h ha hs => h.step ha hs) hagrees hactions⟩

/-! ### A handshake -/

/-- The client that asks, of the handshake in `Handshake.opening`. -/
def clientAddr : SocketAddr := .v4 ⟨127, 0, 0, 1⟩ 50000

/-- The pair in that handshake, when its client is `client`. -/
def joined (client : RakClient) : Pair :=
  new client 1591 (.new 1495 9 clientAddr 0 0)

/-- The first datagram of the client: the connection request. -/
def requestBytes : Bytes :=
  [132, 0, 0, 0, 64, 0, 144, 0, 0, 0, 9, 0, 0, 0, 0, 0, 0, 0, 7] ++ List.replicate 9 0

/-- The first datagram of the connection: the accept. -/
def acceptBytes : Bytes :=
  [132, 0, 0, 0, 96, 1, 32, 0, 0, 0, 0, 0, 0, 0, 16, 4, 128, 255, 255, 254, 195, 80, 0, 0]
    ++ List.replicate 10 6 ++ List.replicate 16 0

/-- The new incoming connection, in datagram `n` of the client and under the order index `order`. -/
def incomingBytes (n order : UInt8) : Bytes :=
  [132, n, 0, 0, 96, 1, 16, n, 0, 0, order, 0, 0, 0, 19, 4, 128, 255, 255, 254, 74, 188]
    ++ List.replicate 10 6 ++ List.replicate 16 0

/-- A packet of two bytes, in datagram `n` of the sender and under the order index `order`. -/
def packetBytes (n order : UInt8) (body : Bytes) : Bytes :=
  [132, n, 0, 0, 96, 0, 16, n, 0, 0, order, 0, 0, 0] ++ body

/-- A datagram reaches the connection, which handles it and the next message. -/
def toConn (bytes : Bytes) : List Action :=
  [.conn (.receive ⟨bytes, clientAddr⟩), .conn (.act (.deliver default)),
    .conn (.act (.deliver default))]

/-- A datagram reaches the client, which handles the next message. -/
def toClient (bytes : Bytes) : List Action :=
  [.client (.receivedUdp default ⟨bytes, .v4 ⟨127, 0, 0, 1⟩ 19132⟩), .client (.deliver default)]

/-- The request reaches the connection, which sends an accept. -/
def accepting : List Action :=
  [.conn (.act .start), .client (.fire default 1)] ++ toConn requestBytes
    ++ [.conn (.act (.fire default 1))]

lemma opened_joined :
    ∃ c, Run.exec RakClient.step (.init 7) (Handshake.opening ++ [.deliver default])
    = .ok c ∧ (joined c).Opened := by
  obtain ⟨c, c', hc, hopen, hstep⟩ := Handshake.exec_opening
  exact ⟨c', Run.exec_append.mpr ⟨c, hc, Run.exec_singleton.mpr hstep⟩,
    joined c, .deliver default, 1496, 1496, 9, clientAddr, 0, 0, [], ⟨0, rfl⟩, ⟨0, rfl⟩, hopen,
    hstep,
    rfl, trivial, rfl⟩

end Pair

end ActixRaknet
