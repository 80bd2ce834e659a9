import ActixRaknet.Client.Accepting
import ActixRaknet.Pair.Basic
import ActixRaknet.Server.Accepting
import ActixRaknet.Session.Recital

/-!
Where the frames come from that wait at the two sides of a pair.

* `Lane.OnWire`: the frame is in a datagram that has been sent; `Lane.Slight`: all of them are
  slight;
* `Traced`: the frames that a session has passed on carry the messages of its peer, in order, or are
  on its wire; `Traced.exec`;
* `Pair.Sourced`, `Pair.Traces`: so it is with the connection, and with the client; `Traces.step`.
-/

namespace ActixRaknet

open Fallible ReceivedQueue

namespace Lane

/-- The frame is in a datagram that has been sent. -/
def OnWire (l : Lane) (f : Frame) : Prop := ∃ bytes ∈ l.wire, f ∈ Session.arrives bytes

/-- The frames without an order index are pings, pongs and connection requests. -/
def Slight (l : Lane) : Prop := ∀ f, l.OnWire f → f.Slight

lemma slight_of_nil {l : Lane} (h : l.wire = []) : l.Slight := by
  rintro f ⟨bytes, hbytes, -⟩
  rw [h] at hbytes
  cases hbytes

end Lane

/-- **What a session passes on can be traced**: to the messages of its peer, in their order, or to
the wire; and its own wire is what it has sent. -/
structure Traced (out inn : Lane) (s : Session) (log : List Frame) : Prop where
  slight : s.Bears Frame.Slight
  wire : out.wire = s.udp.map (·.bytes)
  recites : s.Recites inn.OnWire inn.said log

section Traced

variable {out inn : Lane} {s s' : Session} {log log' : List Frame} {ops : List Session.Op}

/-- **The calls that an actor makes** keep what is passed on traced. -/
lemma Traced.exec (h : Traced out inn s log) (hc : Converses out inn s log') (hinn : inn.Honest)
    (hshort : ∀ op ∈ ops, Session.Short op) (hdiscreet : ∀ op ∈ ops, Session.Discreet op)
    (hgenuine : ∀ op ∈ ops, Session.Genuine inn.wire op)
    (hs : Run.exec Session.turn s ops = .ok s') :
    Traced (out.speak s ops s') (inn.hear ops) s'
        (log ++ (s.reports ops).filterMap ParentMsg.frame?)
      ∧ (out.speak s ops s').Slight ∧ ∀ f, out.OnWire f → (out.speak s ops s').OnWire f := by
  have hready := hc.listens.ready
  have hslight := h.slight.exec_slight hc.speaks hready hshort hdiscreet hs
  refine ⟨⟨hslight, rfl, ?_⟩, ?_, ?_⟩
  · exact h.recites.exec hc.listens (fun op hop => hinn.tells (hgenuine op hop))
      (fun op hop => (hgenuine op hop).exists_bytes) hs
  · rintro f ⟨bytes, hbytes, hf⟩
    obtain ⟨packet, hpacket, rfl⟩ := List.mem_map.mp hbytes
    exact hslight.sent packet hpacket f hf
  · rintro f ⟨bytes, hbytes, hf⟩
    rw [h.wire] at hbytes
    exact ⟨bytes, ((Session.sent_exec hready hs).map _).subset hbytes, hf⟩

/-- The other side goes on speaking. -/
lemma Traced.extend (h : Traced out inn s log) (hc : Converses out inn s log') {t t' : Session}
    (honwire : ∀ f, inn.OnWire f → (inn.speak t ops t').OnWire f) :
    Traced out (inn.speak t ops t') s log :=
  ⟨h.slight, h.wire, (h.recites.mono honwire).extend hc.listens.min_le _⟩

/-- From a side that has said and sent nothing, nothing has been passed on. -/
lemma Traced.log_eq_nil (h : Traced out inn s log) (hsaid : inn.said = []) (hwire : inn.wire = []) :
    log = [] := by
  refine List.eq_nil_iff_forall_not_mem.mpr fun f hf => ?_
  cases hordered : f.reliability.sequencedOrOrdered with
  | true =>
      obtain ⟨m, hm, -⟩ := h.recites.exists_message hf hordered
      rw [hsaid] at hm
      cases hm
  | false =>
      obtain ⟨bytes, hbytes, -⟩ := h.recites.others f hf hordered
      rw [hwire] at hbytes
      cases hbytes

end Traced

namespace Pair

/-- What the connection of the server has passed on can be traced. -/
structure Sourced (p : Pair) : Prop where
  up : p.up.Slight
  down : p.down.Slight
  conn : Traced p.down p.up p.conn.session p.conn.view.frames

/-- **Both sides can be traced**: an accept that waits at the client has been passed on by its
session. -/
structure Traces (p : Pair) : Prop extends Sourced p where
  client : ∀ s, p.session = some s →
    ∃ log, Traced p.up p.down s log ∧ ∀ f ∈ p.client.waiting, f.Accepts → f ∈ log

variable {handle : ConnectionHandle} {earlier : List Bytes} {p p' : Pair}

lemma sourced_new (c : RakClient) (mtu mtu' : UInt16) (guid : UInt64) (addr : SocketAddr)
    (lastPing lastReceive : Instant) :
    Sourced (new c mtu (.new mtu' guid addr lastPing lastReceive)) where
  up := Lane.slight_of_nil rfl
  down := Lane.slight_of_nil rfl
  conn := ⟨Session.bears_new _ addr mtu' lastPing lastReceive, rfl,
    Session.recites_new _ _ addr mtu' lastPing lastReceive⟩

/-- The calls of a connection are discreet: an accept is an ordered message. -/
lemma discreet_conn (c : ServerConn) (op : ServerConn.Op) :
    ∀ sop ∈ c.sessionOps op, Session.Discreet sop := by
  intro sop hsop
  rcases ServerConn.mem_sessionOps hsop with ⟨hquiet, -⟩ | ⟨env, frame, request, -, -, -, -, -, rfl⟩
  · exact hquiet.discreet
  · rintro ⟨⟩

/-- So are those of the client: the new incoming connection is one, too. -/
lemma discreet_client {c c' : RakClient} {a : RakClient.Action} (hnone : c.success? a = none)
    (h : c.step a = .ok c') : ∀ sop ∈ c.sessionOps a, Session.Discreet sop := by
  intro sop hsop
  cases haccept : c.accept? a with
  | none => exact ((RakClient.step_of_accept?_eq_none haccept hnone h).2 sop hsop).discreet
  | some accept =>
      obtain ⟨env, remote, -, -, -, hops⟩ := RakClient.step_accept haccept h
      rw [hops] at hsop
      rcases List.mem_cons.mp hsop with rfl | hsop
      · rintro ⟨⟩
      · exact List.mem_singleton.mp hsop ▸ trivial

/-- A turn of the connection. -/
lemma Sourced.conn_step (h : p.Sourced) (hserved : p.Served handle) {op : ServerConn.Op}
    (hop : p.Admissible (.conn op)) {conn : ServerConn} (hconn : p.conn.turn op = .ok conn) :
    (p.connMoves (p.conn.sessionOps op) conn).Sourced
      ∧ ∀ f, p.down.OnWire f → (p.connMoves (p.conn.sessionOps op) conn).down.OnWire f := by
  obtain ⟨⟨hcalls, -⟩, hpassed⟩ := ServerConn.turn_conducts hconn
  obtain ⟨htraced, hslight, honwire⟩ := h.conn.exec hserved.conn hserved.up
    (p.conn.short_sessionOps op) (discreet_conn p.conn op) hop hcalls
  have hframes : conn.view.frames = p.conn.view.frames
      ++ (p.conn.session.reports (p.conn.sessionOps op)).filterMap ParentMsg.frame? := by
    change conn.passed.filterMap _ = p.conn.passed.filterMap _ ++ _
    rw [hpassed, List.filterMap_append]
  rw [← hframes] at htraced
  exact ⟨⟨h.up, hslight, htraced⟩, honwire⟩

/-- A pending connection has passed on no new incoming connection before its next message. -/
lemma Served.frames_of_pending (h : p.Served handle) (hlife : p.conn.life = .started)
    (hpending : p.conn.disconnectHandle.isSome) {frame : Frame}
    (hnext : p.conn.nextFrame? = some frame) : ∃ before waiting,
      p.conn.view.frames = before ++ frame :: waiting ∧ ∀ f ∈ before, ¬f.Announces := by
  have halive : p.conn.life ≠ .terminated := by rw [hlife]; decide
  obtain ⟨before, hview, hbefore⟩ :=
    h.telling.2.of_pending (ServerConn.view_alive halive) hpending
  obtain ⟨waiting, hwaiting⟩ := ServerConn.waiting_of_nextFrame? hnext
  have hframes := congrArg ServerConn.View.frames hview
  rw [hwaiting] at hframes
  exact ⟨before, waiting, hframes, hbefore⟩

/-- A new incoming connection that the connection has passed on came in order. -/
lemma Sourced.ordered_of_announces (h : p.Sourced) {f : Frame} (hf : f ∈ p.conn.view.frames)
    (hannounces : f.Announces) : f.reliability.sequencedOrOrdered = true := by
  by_contra hnot
  have hwire := h.conn.recites.others f hf (eq_false_of_ne_true hnot)
  exact hnot ((h.up f hwire).ordered_of_announces hannounces)

/-- **Before the client has said anything**, the connection says nothing but what its user sends and
the farewell. -/
lemma Sourced.conn_steps (h : p.Sourced) (hserved : p.Served handle) (hsaid : p.up.said = [])
    (hwire : p.up.wire = []) (hfarewell : ∀ m ∈ p.down.said, m.user = false → m = .farewell)
    {ops : List ServerConn.Op} (hs : Run.exec Pair.step p (ops.map .conn) = .ok p')
    (hops : Run.Along Pair.step Admissible p (ops.map .conn)) :
    p'.Sourced ∧ p'.up.wire = [] ∧ ∀ m ∈ p'.down.said, m.user = false → m = .farewell := by
  induction ops generalizing p with
  | nil =>
      obtain rfl := Except.ok.inj hs
      exact ⟨h, hwire, hfarewell⟩
  | cons op ops ih =>
      obtain ⟨q, hq, hrest⟩ := Run.exec_cons.mp hs
      obtain ⟨hop, halong⟩ := hops q hq
      obtain ⟨conn, hconn, hp⟩ := bind_eq_ok.mp hq
      rw [RakClient.mapError_eq_ok] at hconn
      have hserved' := (hserved.conn_step hop hq).1
      obtain rfl := Except.ok.inj hp
      refine ih (h.conn_step hserved hop hconn).1 hserved' hsaid hwire (fun m hm huser => ?_) hrest
        halong
      rcases List.mem_append.mp hm with hm | hm
      · exact hfarewell m hm huser
      · rcases ServerConn.mem_spoken hm with
          rfl | ⟨hsent, -⟩ | ⟨-, frame, -, -, hlife, hpending, hnext, -⟩
        · rfl
        · cases huser.symm.trans hsent
        -- no frame has come in that could be a request
        · obtain ⟨before, waiting, hframes, -⟩ := hserved.frames_of_pending hlife hpending hnext
          have hnil := h.conn.log_eq_nil hsaid hwire
          rw [hframes] at hnil
          exact absurd hnil (by simp)

/-- The first calls of the client's session: a connection request, outside the order. -/
lemma traced_opened {c c' : RakClient} {mtu : UInt16} (hc : c.Opens c' mtu)
    (hmtu : mtu.toNat ≤ 8191)
    {out inn : Lane} (hwire : out.wire = []) :
    ∀ s, c'.session = some s → Traced out inn s [] := by
  obtain ⟨env, remote, s, -, hturn, hs⟩ := hc
  intro t ht
  obtain rfl := Option.some.inj (hs.symm.trans ht)
  let op : Session.Op := .sendSystemPacket env.session ConnectionRequest
    (.new c.guid env.requestTime false) .reliable
  let opened := Session.new remote mtu env.lastPing env.lastReceive
  have hlistens : opened.Listens [] [] [] :=
    Session.listens_new .nil remote mtu env.lastPing env.lastReceive
  have hspeaks : opened.Speaks mtu [] := Session.speaks_new remote env.lastPing env.lastReceive hmtu
  obtain ⟨u, hstep, hu⟩ := bind_eq_ok.mp hturn
  obtain rfl := Except.ok.inj hu
  have hshort : Session.Short op := fun body hbody =>
    (length_connectionRequest _ hbody).trans_le (by decide)
  have hdiscreet : Session.Discreet op := fun _ body hbody => Or.inr <| by
    rw [← Except.ok.inj ((encode_eq (writes_connectionRequest _)).symm.trans hbody),
      List.head?_cons]
  have hnew := Session.bears_new Frame.Slight remote mtu env.lastPing env.lastReceive
  have hslight := hnew.step_slight
    hspeaks hlistens.ready hshort hdiscreet hstep
  obtain ⟨hreceived, hposted, -⟩ := Session.step_of_not_routed hstep (by rintro _ _ ⟨⟩)
  have hrecites :=
    (Session.recites_new inn.OnWire inn.said remote mtu env.lastPing env.lastReceive).quiet
      hreceived hposted
  obtain ⟨_, -, -, -, _, -, rfl⟩ := Session.sendSystemPacket_eq_ok.mp hstep
  exact ⟨hslight.relabel rfl rfl, hwire, hrecites⟩

/-- A turn of the connection. -/
lemma Traces.conn_step (h : p.Traces) (hagrees : p.Agrees earlier handle) {op : ServerConn.Op}
    (hop : p.Admissible (.conn op)) {conn : ServerConn} (hconn : p.conn.turn op = .ok conn) :
    (p.connMoves (p.conn.sessionOps op) conn).Traces := by
  obtain ⟨hsourced, honwire⟩ := h.toSourced.conn_step hagrees.toServed hop hconn
  refine ⟨hsourced, fun s hs => ?_⟩
  obtain ⟨log, htraced, hwaiting⟩ := h.client s hs
  obtain ⟨_, hconverses, -⟩ := hagrees.client s hs
  obtain ⟨hslight, hwire, hrecites⟩ := htraced.extend hconverses honwire
  exact ⟨log, ⟨hslight, hwire, hrecites⟩, hwaiting⟩

/-- A step of the client. -/
lemma Traces.client_step (h : p.Traces) (hagrees : p.Agrees earlier handle) {a : RakClient.Action}
    (ha : p.Admissible (.client a)) {client : RakClient} (hclient : p.client.step a = .ok client) :
    (p.clientMoves a client).Traces
      ∧ ∀ f, p.up.OnWire f → (p.clientMoves a client).up.OnWire f := by
  rcases clientMoves_cases hclient with
    ⟨s, s', hsession, hsession', hs, hnone, hops, hmoves⟩ | ⟨hnone, hmoves⟩
  · rw [hmoves]
    obtain ⟨log, htraced, hwaiting⟩ := h.client s hsession
    obtain ⟨_, hconverses, -⟩ := hagrees.client s hsession
    obtain ⟨htraced', hslight, honwire⟩ := htraced.exec hconverses hagrees.down
      (p.client.short_sessionOps a) (discreet_client hnone hclient)
      (ha (Option.isSome_of_mem hsession)) hops
    refine ⟨⟨⟨hslight, h.down, ?_⟩, fun t ht => ?_⟩, honwire⟩
    · obtain ⟨hslight, hwire, hrecites⟩ := h.conn.extend hagrees.conn honwire
      exact ⟨hslight, hwire, hrecites⟩
    · obtain rfl := Option.some.inj (hsession'.symm.trans ht)
      refine ⟨_, htraced', fun f hf haccepts => ?_⟩
      rcases RakClient.collects_step hnone hclient f hf with hf | hf
      · exact List.mem_append_left _ (hwaiting f hf haccepts)
      · rw [RakClient.reported, hs] at hf
        exact List.mem_append_right _ hf
  · rw [hmoves]
    exact ⟨⟨⟨h.up, h.down, h.conn⟩, fun t ht => by cases hnone.symm.trans ht⟩, fun _ hf => hf⟩

/-- **Step lemma**: an admissible step keeps both sides traced, and what is on the wire stays there.
-/
lemma Traces.step (h : p.Traces) (hagrees : p.Agrees earlier handle) {a : Action}
    (ha : p.Admissible a) (hs : p.step a = .ok p') :
    p'.Traces ∧ ∀ f, p.up.OnWire f → p'.up.OnWire f := by
  cases a with
  | client a =>
      obtain ⟨client, hclient, hp⟩ := bind_eq_ok.mp hs
      obtain rfl := Except.ok.inj hp
      exact h.client_step hagrees ha (RakClient.mapError_eq_ok.mp hclient)
  | conn op =>
      obtain ⟨conn, hconn, hp⟩ := bind_eq_ok.mp hs
      obtain rfl := Except.ok.inj hp
      exact ⟨h.conn_step hagrees ha (RakClient.mapError_eq_ok.mp hconn), fun _ hf => hf⟩

/-- When the client has got its session, both sides can be traced, and the connection has said
nothing but what its user sends and the farewell. -/
lemma Opened.traces (h : p.Opened) (hwaiting : ∀ f ∈ p.client.waiting, ¬f.Accepts) :
    p.Traces ∧ ∀ m ∈ p.down.said, m.user = false → m = .farewell := by
  obtain ⟨before, a, mtuSize, mtuSize', guid, addr, lastPing, lastReceive, ops, hprobed, hprobed',
    hsuccess, hclient, hops, halong, hp⟩ := h
  have hserved := served_new before.client (mtuSize - 1 + 96) hprobed'.mtu_le.1 guid addr lastPing
    lastReceive
  have hsourced := sourced_new before.client (mtuSize - 1 + 96) (mtuSize' - 1) guid addr lastPing
    lastReceive
  obtain ⟨hsourced', hwire, hfarewell⟩ := hsourced.conn_steps hserved rfl rfl
    (fun _ hm => absurd hm List.not_mem_nil) hops halong
  rw [hp]
  refine ⟨⟨⟨hsourced'.up, hsourced'.down, hsourced'.conn⟩,
    fun s hs => ⟨[], ?_, fun f hf haccepts => ?_⟩⟩, hfarewell⟩
  · exact traced_opened (RakClient.step_success hsuccess hclient) hprobed.mtu_le.2 hwire s
      (session_eq_some.mp hs).2
  · exact absurd haccepts (hwaiting f hf)

end Pair

end ActixRaknet
