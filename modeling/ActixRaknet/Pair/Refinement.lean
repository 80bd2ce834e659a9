import ActixRaknet.EndToEnd.Exchange
import ActixRaknet.Library.Simulation
import ActixRaknet.Pair.Basic

/-!
A client and its connection are an exchange of their two sessions.

* `Exchange.exec_turns`: the calls that one actor makes, as a run of the exchange;
* `Pair.Closed`: what a session handles is on the wire, feedback too, and no buffer is cut into no
  pieces;
* `Pair.Shows`: the sessions of a pair, and what they have said and posted, are those of an
  exchange; `simulates`: a step of the pair is some calls of it;
* `Pair.Begun`: the client has just got its session, as in `Pair.Opened`;
* `refines`: from then on the pair shows an exchange that began with two new sessions, whose
  messages are conveyed.
-/

namespace ActixRaknet

open Fallible ReceivedQueue
open PacketQueue (Books)

namespace Exchange

variable {e : Exchange} {b : Side → Books}

/-- **The calls that an actor makes** of its session are calls of the exchange. -/
lemma exec_turns (hagrees : e.Agrees b) {side : Side} {ops : List Session.Op} {s' : Session}
    (hs : Run.exec Session.turn (e side).session ops = .ok s')
    (hshort : ∀ op ∈ ops, Session.Short op)
    (hpieced : ∀ op ∈ ops, Session.Pieced (e side).session.mtu op)
    (hsent : ∀ op ∈ ops, Sent (e side.peer).session.udp op) :
    ∃ e', Run.exec Exchange.step e (ops.map fun op => (side, op)) = .ok e'
      ∧ Run.Along Exchange.step Admissible e (ops.map fun op => (side, op))
      ∧ (e' side).session = s' ∧ (e' side).said = (e side).said ++ (e side).session.spoken ops
      ∧ (e' side).told = (e side).told ++ (e side).session.reports ops
      ∧ e' side.peer = e side.peer := by
  induction ops generalizing e b with
  | nil =>
      exact ⟨e, rfl, trivial, Except.ok.inj hs, (List.append_nil _).symm, (List.append_nil _).symm,
        rfl⟩
  | cons op ops ih =>
      obtain ⟨t, hturn, hrest⟩ := Run.exec_cons.mp hs
      obtain ⟨u, hstep, ht⟩ := bind_eq_ok.mp hturn
      obtain rfl := Except.ok.inj ht
      obtain ⟨hop, hops⟩ := List.forall_mem_cons.mp hshort
      obtain ⟨hop', hops'⟩ := List.forall_mem_cons.mp hpieced
      obtain ⟨hop'', hops''⟩ := List.forall_mem_cons.mp hsent
      let p : Party := {
        session := { u with parent := [] }
        said := (e side).said ++ (e side).session.messages op
        arrived := (e side).arrived ++ op.incoming
        told := (e side).told ++ u.parent }
      have hcall : Exchange.step e (side, op) = .ok (Function.update e side p) := by
        rw [Exchange.step, Party.step, hstep]
        rfl
      have hadmissible : e.Admissible (side, op) := ⟨hop, hop', hop''⟩
      obtain ⟨b', hagrees', -⟩ := hagrees.step hadmissible hcall
      have hspeaks := (hagrees side).speaks.step (hagrees.ready side) hop hstep
      have hmtu : u.mtu = (e side).session.mtu := hspeaks.mtu_eq
      have hself : Function.update e side p side = p := Function.update_self ..
      have hother : Function.update e side p side.peer = e side.peer :=
        Function.update_of_ne (Side.peer_ne side) ..
      obtain ⟨e', hexec, halong, hsession, hsaid, htold, hpeer⟩ := ih hagrees'
        (by rw [hself]; exact hrest) hops (by rw [hself]; exact hmtu ▸ hops')
        (by rw [hother]; exact hops'')
      rw [hself] at hsaid htold
      rw [hother] at hpeer
      refine ⟨e', Run.exec_cons.mpr ⟨_, hcall, hexec⟩, fun t ht => ?_, hsession, ?_, ?_, hpeer⟩
      · obtain rfl := Except.ok.inj (hcall.symm.trans ht)
        exact ⟨hadmissible, halong⟩
      · rw [hsaid, Session.spoken, Session.turn, hstep, List.append_assoc]
        rfl
      · rw [htold, Session.reports, hstep, List.append_assoc]

end Exchange

/-- A datagram that the session handles is on the wire. -/
def Session.OnWire (wire : List Bytes) : Session.Op → Prop
  | .handle _ msg => msg.bytes ∈ wire
  | _ => True

instance (wire : List Bytes) : DecidablePred (Session.OnWire wire)
  | .handle _ _ => inferInstanceAs (Decidable (_ ∈ _))
  | .update _ => inferInstanceAs (Decidable True)
  | .forceFlush _ => inferInstanceAs (Decidable True)
  | .disconnect _ => inferInstanceAs (Decidable True)
  | @Session.Op.sendSystemPacket _ _ _ _ _ => inferInstanceAs (Decidable True)
  | .sendTo _ _ => inferInstanceAs (Decidable True)

lemma Session.OnWire.sent {wire : List UdpPacket} {op : Session.Op}
    (h : Session.OnWire (wire.map (·.bytes)) op) : Exchange.Sent wire op := by
  cases op with
  | handle env msg => exact List.mem_map.mp h
  | _ => trivial

namespace Pair

/-- The datagrams that the sessions handle are on the wire, and no buffer is cut into no pieces. -/
def Closed (p : Pair) : Action → Prop
  | .client a => ∀ s, p.session = some s →
    ∀ op ∈ p.client.sessionOps a, Session.OnWire p.down.wire op ∧ Session.Pieced s.mtu op
  | .conn op => ∀ sop ∈ p.conn.sessionOps op,
    Session.OnWire p.up.wire sop ∧ Session.Pieced p.conn.session.mtu sop

instance (p : Pair) : DecidablePred p.Closed
  | .client a => decidable_of_iff (∀ s ∈ p.session, ∀ op ∈ p.client.sessionOps a,
      Session.OnWire p.down.wire op ∧ Session.Pieced s.mtu op) Iff.rfl
  | .conn _ => inferInstanceAs (Decidable (∀ _ ∈ _, _))

/-- The connection of the pair is one side of the exchange, and the lanes are what it has said and
sent. -/
structure Mirrors (p : Pair) (e : Exchange) : Prop where
  conn : (e .right).session = p.conn.session
  passed : (e .right).told = p.conn.passed
  up : (e .left).said = p.up.said
  down : (e .right).said = p.down.said
  upWire : (e .left).session.udp.map (·.bytes) = p.up.wire
  downWire : (e .right).session.udp.map (·.bytes) = p.down.wire

/-- **The pair shows an exchange**: its sessions, what they have said, sent and posted. -/
structure Shows (earlier : List Bytes) (p : Pair) (e : Exchange) : Prop extends Mirrors p e where
  client : ∀ s, p.session = some s → (e .left).session = s
    ∧ p.client.told = earlier ++ RakClient.given (e .left).frames

variable {earlier : List Bytes} {p p' : Pair} {e : Exchange} {b : Side → Books}

/-- A turn of the connection. -/
lemma Mirrors.conn_step (h : p.Mirrors e) (hagrees : e.Agrees b) {op : ServerConn.Op}
    (hop : p.Closed (.conn op)) (hs : p.step (.conn op) = .ok p') :
    p'.client = p.client ∧ p'.current = p.current ∧ ∃ e',
      Run.Reaches Exchange.step Exchange.Admissible e e' ∧ e' .left = e .left ∧ p'.Mirrors e' := by
  obtain ⟨conn, hconn, hp⟩ := bind_eq_ok.mp hs
  obtain rfl := Except.ok.inj hp
  rw [RakClient.mapError_eq_ok] at hconn
  obtain ⟨⟨hcalls, -⟩, hpassed⟩ := ServerConn.turn_conducts hconn
  rw [← h.conn] at hcalls hpassed
  obtain ⟨e', hexec, halong, hsession, hsaid, htold, hpeer⟩ := Exchange.exec_turns hagrees
    hcalls (p.conn.short_sessionOps op) (fun sop hsop => h.conn ▸ (hop sop hsop).2)
    fun sop hsop => (h.upWire ▸ (hop sop hsop).1 : Session.OnWire _ sop).sent
  have hleft : e' .left = e .left := hpeer
  refine ⟨rfl, rfl, e', ⟨_, hexec, halong⟩, hleft, ?_⟩
  exact
    { conn := hsession
      passed := by rw [htold, h.passed]; exact hpassed.symm
      up := hleft ▸ h.up
      down := by rw [hsaid, h.down, h.conn]; rfl
      upWire := hleft ▸ h.upWire
      downWire := by rw [hsession]; rfl }

/-- A step of the client. -/
lemma Shows.client_step (h : p.Shows earlier e) (hagrees : e.Agrees b) {a : RakClient.Action}
    (ha : p.Closed (.client a)) (hs : p.step (.client a) = .ok p') :
    ∃ e', Run.Reaches Exchange.step Exchange.Admissible e e' ∧ p'.Shows earlier e' := by
  obtain ⟨client, hclient, hp⟩ := bind_eq_ok.mp hs
  obtain rfl := Except.ok.inj hp
  rw [RakClient.mapError_eq_ok] at hclient
  rcases clientMoves_cases hclient with
    ⟨s, s', hsession, hsession', hs, hnone, hops, hmoves⟩ | ⟨hnone, hmoves⟩
  · obtain ⟨hleft, htold⟩ := h.client s hsession
    obtain ⟨-, hheard⟩ := RakClient.step_conducts hnone hclient
    rw [RakClient.heard, hs] at hheard
    have hcalls := ha s hsession
    subst hleft
    obtain ⟨e', hexec, halong, hsession₁, hsaid, hposted, hpeer⟩ := Exchange.exec_turns hagrees
      hops (p.client.short_sessionOps a) (fun op hop => (hcalls op hop).2)
      fun op hop => (h.downWire ▸ (hcalls op hop).1 : Session.OnWire _ op).sent
    have hright : e' .right = e .right := hpeer
    rw [hmoves]
    refine ⟨e', ⟨_, hexec, halong⟩, ?_⟩
    exact
      { client := fun t ht => by
          obtain rfl := Option.some.inj (hsession'.symm.trans ht)
          refine ⟨hsession₁, ?_⟩
          show client.told = _
          rw [hheard, htold, Party.frames, Party.frames, hposted, List.filterMap_append,
            RakClient.given_append, List.append_assoc]
        conn := hright ▸ h.conn
        passed := hright ▸ h.passed
        up := by rw [hsaid, h.up]; rfl
        down := hright ▸ h.down
        upWire := by rw [hsession₁]; rfl
        downWire := hright ▸ h.downWire }
  · rw [hmoves]
    exact ⟨e, .refl _ e,
      { client := fun t ht => by cases hnone.symm.trans ht
        conn := h.conn
        passed := h.passed
        up := h.up
        down := h.down
        upWire := h.upWire
        downWire := h.downWire }⟩

/-- **Step lemma**: a step of the pair is some calls of the exchange. -/
lemma simulates (earlier : List Bytes) :
    Run.Simulates Pair.step Closed Exchange.step Exchange.Admissible
      fun p e => p.Shows earlier e ∧ ∃ b, e.Agrees b := by
  rintro p a p' e ⟨h, b, hagrees⟩ ha hs
  have hstep : ∃ e', Run.Reaches Exchange.step Exchange.Admissible e e' ∧ p'.Shows earlier e' := by
    cases a with
    | client a => exact h.client_step hagrees ha hs
    | conn op =>
        obtain ⟨hclient, hcurrent, e', hreaches, hleft, hmirrors⟩ :=
          h.toMirrors.conn_step hagrees ha hs
        refine ⟨e', hreaches, hmirrors, fun s hs => ?_⟩
        rw [hleft, hclient]
        exact h.client s (by rwa [session, hclient, hcurrent] at hs)
  obtain ⟨e', ⟨calls, hcalls, halong⟩, hshows⟩ := hstep
  obtain ⟨b', hagrees', -⟩ := hagrees.exec halong hcalls
  exact ⟨e', ⟨calls, hcalls, halong⟩, hshows, b', hagrees'⟩

/-! ### From the start -/

/-- The connection of the server on its own. -/
lemma Mirrors.conn_steps (h : p.Mirrors e) (hagrees : e.Agrees b) {ops : List ServerConn.Op}
    (hs : Run.exec Pair.step p (ops.map .conn) = .ok p')
    (hops : Run.Along Pair.step Closed p (ops.map .conn)) :
    ∃ e', Run.Reaches Exchange.step Exchange.Admissible e e' ∧ e' .left = e .left
      ∧ p'.Mirrors e' := by
  induction ops generalizing p e b with
  | nil =>
      obtain rfl := Except.ok.inj hs
      exact ⟨e, .refl _ e, rfl, h⟩
  | cons op ops ih =>
      obtain ⟨q, hq, hrest⟩ := Run.exec_cons.mp hs
      obtain ⟨hop, halong⟩ := hops q hq
      obtain ⟨-, -, e₁, hreaches, hleft, hmirrors⟩ := h.conn_step hagrees hop hq
      obtain ⟨calls, hcalls, hadmissible⟩ := hreaches
      obtain ⟨b₁, hagrees₁, -⟩ := hagrees.exec hadmissible hcalls
      obtain ⟨e₂, hreaches₂, hleft₂, hmirrors₂⟩ := ih hmirrors hagrees₁ hrest halong
      exact ⟨e₂, .trans ⟨calls, hcalls, hadmissible⟩ hreaches₂, hleft₂.trans hleft, hmirrors₂⟩

/-- **The client has just got its session**, as in `Opened`, of a server whose connection has
handled nothing but what was on the wire. -/
def Begun (p : Pair) : Prop :=
  ∃ (before : Pair) (a : RakClient.Action) (mtuSize mtuSize' : UInt16) (guid : UInt64)
    (addr : SocketAddr) (lastPing lastReceive : Instant) (ops : List ServerConn.Op),
    Probed mtuSize ∧ Probed mtuSize' ∧ before.client.success? a = some (mtuSize - 1 + 96)
      ∧ before.client.step a = .ok p.client
      ∧ Run.exec step (new before.client (mtuSize - 1 + 96)
          (.new (mtuSize' - 1) guid addr lastPing lastReceive)) (ops.map .conn) = .ok before
      ∧ Run.Along step Closed (new before.client (mtuSize - 1 + 96)
          (.new (mtuSize' - 1) guid addr lastPing lastReceive)) (ops.map .conn)
      ∧ p = { before with client := p.client }

/-- A new session and the request that it queues, as a call of the exchange. -/
lemma Mirrors.opens (h : p.Mirrors e) (hagrees : e.Agrees b) {c : RakClient} {mtu : UInt16}
    {env : RakClient.Env} {remote : SocketAddr} {request : ConnectionRequest} {s : Session}
    (hleft : e .left = ⟨.new remote mtu env.lastPing env.lastReceive, [], [], []⟩)
    (hturn : (Session.new remote mtu env.lastPing env.lastReceive).turn (.sendSystemPacket
      env.session ConnectionRequest request .reliable) = .ok s)
    (hs : c.session = some s) :
    ∃ e', Run.Reaches Exchange.step Exchange.Admissible e e'
      ∧ { p with client := c }.Shows c.told e' := by
  obtain ⟨u, hstep, hu⟩ := bind_eq_ok.mp hturn
  -- queueing the request sends and posts nothing
  obtain ⟨hudp, hparent⟩ : u.udp = [] ∧ u.parent = [] := by
    obtain ⟨_, -, -, -, _, -, rfl⟩ := Session.sendSystemPacket_eq_ok.mp hstep
    exact ⟨rfl, rfl⟩
  obtain rfl := Except.ok.inj hu
  have hnew : Session.new remote mtu env.lastPing env.lastReceive = (e .left).session := by
    rw [hleft]
  rw [hnew] at hturn hstep
  obtain ⟨e', hcalls, halong, hsession, hsaid, htold, hpeer⟩ := Exchange.exec_turns hagrees
    (Run.exec_singleton.mpr hturn)
    (fun op hop => List.mem_singleton.mp hop ▸ fun body hbody =>
      (length_connectionRequest _ hbody).trans_le (by decide))
    (fun op hop => List.mem_singleton.mp hop ▸ trivial)
    (fun op hop => List.mem_singleton.mp hop ▸ trivial)
  -- and a reliable packet gets no order index
  have hsaid' : (e' .left).said = (e .left).said := by
    rw [hsaid, Session.spoken_singleton]
    exact List.append_nil _
  have htold' : (e' .left).told = [] := by
    rw [htold, Session.reports_singleton hstep, hleft, hparent]
    rfl
  have hright : e' .right = e .right := hpeer
  refine ⟨e', ⟨_, hcalls, halong⟩, ?_⟩
  exact
    { client := fun t ht => by
        obtain rfl := Option.some.inj (hs.symm.trans (session_eq_some.mp ht).2)
        refine ⟨hsession, ?_⟩
        rw [Party.frames, htold']
        exact (List.append_nil _).symm
      conn := hright ▸ h.conn
      passed := hright ▸ h.passed
      up := hsaid'.trans h.up
      down := hright ▸ h.down
      upWire := by rw [hsession, hudp, ← h.upWire, hleft]; rfl
      downWire := hright ▸ h.downWire }

/-- When the client has got its session, the pair shows an exchange that began with two new ones. -/
lemma Begun.shows (h : p.Begun) : ∃ (addr : Side → SocketAddr) (mtu : Side → UInt16)
    (ping receive : Side → Instant) (e : Exchange), (∀ side, (mtu side).toNat ≤ 8191)
      ∧ Run.Reaches Exchange.step Exchange.Admissible (.new addr mtu ping receive) e
      ∧ p.Shows p.client.told e := by
  obtain ⟨before, a, mtuSize, mtuSize', guid, addr, lastPing, lastReceive, ops, hprobed, hprobed',
    hsuccess, hclient, hops, halong, hp⟩ := h
  obtain ⟨env, remote, s, -, hturn, hs⟩ := RakClient.step_success hsuccess hclient
  let addrs : Side → SocketAddr := Side.rec remote addr
  let mtus : Side → UInt16 := Side.rec (mtuSize - 1 + 96) (mtuSize' - 1)
  let pings : Side → Instant := Side.rec env.lastPing lastPing
  let receives : Side → Instant := Side.rec env.lastReceive lastReceive
  have hmtus : ∀ side, (mtus side).toNat ≤ 8191 := by
    intro side
    cases side
    · exact hprobed.mtu_le.2
    · exact hprobed'.mtu_le.1
  have hmirrors : Mirrors (new before.client (mtuSize - 1 + 96)
      (.new (mtuSize' - 1) guid addr lastPing lastReceive))
      (Exchange.new addrs mtus pings receives) := ⟨rfl, rfl, rfl, rfl, rfl, rfl⟩
  have hagrees := Exchange.agrees_new addrs mtus pings receives hmtus
  obtain ⟨e, ⟨calls, hcalls, hadmissible⟩, hleft, hmirrors⟩ :=
    hmirrors.conn_steps hagrees hops halong
  obtain ⟨b, hagrees, -⟩ := hagrees.exec hadmissible hcalls
  obtain ⟨e', hreaches, hshows⟩ := hmirrors.opens hagrees hleft hturn hs
  refine ⟨addrs, mtus, pings, receives, e', hmtus, .trans ⟨calls, hcalls, hadmissible⟩ hreaches, ?_⟩
  rw [hp]
  exact hshows

/-- **Refinement**: whatever the client, the connection, their users and timers do, and whatever the
network does with the datagrams but make them up, the pair shows at every moment an exchange of two
sessions that began when both were new, and there what each has said is conveyed to the other. -/
theorem refines (hp : p.Begun) {actions : List Action}
    (h : Run.Along Pair.step Closed p actions) :
    ∃ (addr : Side → SocketAddr) (mtu : Side → UInt16) (ping receive : Side → Instant),
      Run.Always Pair.step (fun q => ∃ e,
        Run.Reaches Exchange.step Exchange.Admissible (.new addr mtu ping receive) e
          ∧ q.Shows p.client.told e ∧ ∀ side : Side, Exchange.Conveyed (e side) (e side.peer))
        p actions := by
  obtain ⟨addr, mtu, ping, receive, e, hmtu, hreaches, hshows⟩ := hp.shows
  have hagrees := Exchange.agrees_new addr mtu ping receive hmtu
  obtain ⟨calls, hcalls, hadmissible⟩ := hreaches
  obtain ⟨b, he, -⟩ := hagrees.exec hadmissible hcalls
  have halways := (simulates p.client.told).always ⟨calls, hcalls, hadmissible⟩ ⟨hshows, b, he⟩ h
  refine ⟨addr, mtu, ping, receive, halways.mono ?_⟩
  rintro q ⟨e', hreaches, hshows, -⟩
  exact ⟨e', hreaches, hshows, hreaches.of_always fun calls hcalls =>
    Exchange.conveys addr mtu ping receive hmtu calls hcalls⟩

/-- The theorem where a packet of the client reaches the connection, which acknowledges it. -/
theorem refines_sample : ∃ p : Pair, p.Begun ∧ ∃ (addr : Side → SocketAddr) (mtu : Side → UInt16)
    (ping receive : Side → Instant), Run.Always Pair.step (fun q => ∃ e,
      Run.Reaches Exchange.step Exchange.Admissible (.new addr mtu ping receive) e
        ∧ q.Shows p.client.told e ∧ ∀ side : Side, Exchange.Conveyed (e side) (e side.peer))
      p (accepting ++ toClient acceptBytes
        ++ [.client (.call default (.packet [0xfe, 1])), .client (.fire default 1)]
        ++ toConn (incomingBytes 1 0) ++ toConn (packetBytes 2 1 [0xfe, 1])
        ++ [.conn (.act (.fire default 1))] ++ toClient (Ack.datagram (1, 2))) := by
  obtain ⟨c, c', hc, hopen, hstep⟩ := Handshake.exec_opening
  have hbegun : (joined c').Begun :=
    ⟨joined c, .deliver default, 1496, 1496, 9, clientAddr, 0, 0, [], ⟨0, rfl⟩, ⟨0, rfl⟩, hopen,
      hstep, rfl, trivial, rfl⟩
  have hrun : ∀ c,
      Run.exec RakClient.step (.init 7) (Handshake.opening ++ [.deliver default]) = .ok c →
      Run.Along Pair.step Closed (joined c)
        (accepting ++ toClient acceptBytes
          ++ [.client (.call default (.packet [0xfe, 1])), .client (.fire default 1)]
          ++ toConn (incomingBytes 1 0) ++ toConn (packetBytes 2 1 [0xfe, 1])
          ++ [.conn (.act (.fire default 1))] ++ toClient (Ack.datagram (1, 2))) := by
    decide +kernel
  exact ⟨joined c', hbegun, refines hbegun
    (hrun c' (Run.exec_append.mpr ⟨c, hc, Run.exec_singleton.mpr hstep⟩))⟩

end Pair

end ActixRaknet
