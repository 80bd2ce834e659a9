import ActixRaknet.Client.Effects
import ActixRaknet.Handshake.Magic
import ActixRaknet.Session.Headers

/-!
The two protocols that share a socket: the offline packets of the handshake and of pings, and the
datagrams of sessions.

* `Offline`: the bytes begin with the id of an offline packet;
* `RakServer.Answer`, `RakServer.replies_receivedUdp`: what a server answers to a datagram;
* `AllOffline.server_step`, `AllOffline.mediator_step`: what a server and a mediator send is
  offline;
* `RakClient.Kept`: what holds of every mediator of a client;
* `Protocol`, `Emits`: what the actors of either protocol send, in any run;
* `told_apart`: the actors of the other protocol ignore it.
-/

namespace ActixRaknet

open Fallible Writer

/-- The bytes begin with the id of an offline packet. -/
def Offline (bytes : Bytes) : Prop := ∃ t : OfflineType, bytes.head? = some t.id

/-- An offline packet is encoded behind its id. -/
lemma offline_of_encode {P : Type} [Packet P] {p : P} (t : OfflineType) (hid : t.id = Packet.ID P)
    (hwrite : Appends (Packet.write p)) {bytes : Bytes} (hbytes : encode p = .ok bytes) :
    Offline bytes :=
  ⟨t, by rw [hid, head_of_encode hwrite hbytes]⟩

/-- No id of an offline packet has the flag of a datagram. -/
lemma OfflineType.not_flagged (t : OfflineType) : t.id &&& DATAGRAM_FLAG = 0 := by
  cases t <;> decide

/-- A datagram of a session reads as no offline packet. -/
lemma Session.Headed.not_reads {bytes : Bytes} (h : Session.Headed bytes) (t : OfflineType)
    {P : Type} [Packet P] (hid : t.id = Packet.ID P) : ¬Reads P bytes := by
  obtain ⟨header, hhead, hheader⟩ := h
  refine not_reads_of_id hhead fun heq => hheader.flagged ?_
  rw [heq, ← hid]
  exact t.not_flagged

/-! ### What the offline actors send -/

/-- All the datagrams are offline. -/
def AllOffline (udp : List UdpPacket) : Prop := ∀ p ∈ udp, Offline p.bytes

/-- One more is sent. -/
lemma AllOffline.send {udp : List UdpPacket} (h : AllOffline udp) {bytes : Bytes}
    (hbytes : Offline bytes) (addr : SocketAddr) : AllOffline (udp ++ [⟨bytes, addr⟩]) := by
  intro p hp
  rcases List.mem_append.mp hp with hp | hp
  · exact h p hp
  · rw [List.mem_singleton.mp hp]
    exact hbytes

namespace RakServer

variable {s s' : RakServer}

/-- What a server answers to a datagram: a pong with its message of the day to a ping, and packets
of the handshake. -/
inductive Answer (s : RakServer) (request : Bytes) : Bytes → Prop
  | pong {ping bytes} (hid : request.head? = some (Packet.ID UnconnectedPing))
      (hping : decode UnconnectedPing request = .ok (.ok ping))
      (hbytes : encode (UnconnectedPong.new ping.time s.guid s.motd) = .ok bytes) :
      Answer s request bytes
  | handshake {bytes} (t : OfflineType) (ht : t ≠ .unconnectedPong)
      (hid : bytes.head? = some t.id) : Answer s request bytes

lemma Answer.isOffline {request bytes : Bytes} (h : s.Answer request bytes) : Offline bytes := by
  cases h with
  | pong hid hping hbytes =>
      exact offline_of_encode .unconnectedPong rfl ((writes_writeI64 _ _).bind <|
        (writes_writeU64 _ _).bind <| (writes_write _).bind <| writes_string _).appends hbytes
  | handshake t ht hid => exact ⟨t, hid⟩

/-- The server keeps its message of the day, and sends at most one answer, to where the request
came from. -/
structure Replies (s : RakServer) (request : UdpPacket) (s' : RakServer) : Prop where
  motd : s'.motd = s.motd
  sent : s'.udp = s.udp ∨ ∃ p, s'.udp = s.udp ++ [p] ∧ p.addr = request.addr
    ∧ s.Answer request.bytes p.bytes

variable {request : UdpPacket}

lemma Replies.refl (s : RakServer) (request : UdpPacket) : s.Replies request s :=
  ⟨rfl, Or.inl rfl⟩

lemma Replies.of_encode {P : Type} [Packet P] {packet : P}
    (hanswer : ∀ bytes, encode packet = .ok bytes → s.Answer request.bytes bytes)
    (hs : s.reply packet request.addr = .ok s') : s.Replies request s' := by
  obtain ⟨bytes, hbytes, hs⟩ := bind_eq_ok.mp hs
  obtain rfl := Except.ok.inj hs
  exact ⟨rfl, Or.inr ⟨⟨bytes, request.addr⟩, rfl, rfl, hanswer bytes hbytes⟩⟩

/-- A packet of the handshake is an answer to anything. -/
lemma Replies.of_handshake {P : Type} [Packet P] {packet : P} (t : OfflineType)
    (ht : t ≠ .unconnectedPong) (hid : t.id = Packet.ID P) (hwrite : Appends (Packet.write packet))
    (hs : s.reply packet request.addr = .ok s') : s.Replies request s' :=
  .of_encode (fun bytes hbytes => .handshake t ht (by rw [hid, head_of_encode hwrite hbytes])) hs

lemma replies_request1 {request1 : OpenConnectionRequest1}
    (hs : s.handleRequest1 request.addr request1 = .ok s') : s.Replies request s' := by
  rw [handleRequest1] at hs
  split_ifs at hs
  · exact .of_handshake .incompatibleProtocolVersion (by decide) rfl
      ((writes_writeU8 _).bind <| (writes_write _).bind <| writes_writeU64 _ _).appends hs
  · exact .of_handshake .openConnectionReply1 (by decide) rfl
      ((writes_write _).bind <| (writes_writeU64 _ _).bind <| (writes_writeU8 _).bind <|
        writes_writeU16 _ _).appends hs

lemma replies_request2 {env : Env} {request2 : OpenConnectionRequest2}
    (hs : s.handleRequest2 env request.addr request2 = .ok s') : s.Replies request s' := by
  rw [handleRequest2] at hs
  split_ifs at hs
  · exact .of_handshake .alreadyConnected (by decide) rfl
      ((writes_write _).bind <| writes_writeU64 _ _).appends hs
  · obtain ⟨t, ht, hs⟩ := bind_eq_ok.mp hs
    obtain ⟨worker, -, hs⟩ := bind_eq_ok.mp hs
    obtain rfl := Except.ok.inj hs
    have hreplies : s.Replies request t :=
      .of_handshake .openConnectionReply2 (by decide) rfl (writes_reply2 _).appends ht
    exact ⟨hreplies.motd, hreplies.sent⟩

/-- **A server** answers with offline packets only, and with pongs to pings only. -/
lemma replies_receivedUdp {env : Env} (hs : s.handleReceivedUdp env request = .ok s') :
    s.Replies request s' := by
  rw [handleReceivedUdp] at hs
  split at hs
  · obtain rfl := Except.ok.inj hs
    exact ⟨rfl, (Replies.refl s request).sent⟩
  · obtain ⟨id, hid, hs⟩ := bind_eq_ok.mp hs
    rw [index_zero_eq_ok] at hid
    split_ifs at hs with hping
    · rcases unwrapOrReturn_eq_ok hs with rfl | ⟨ping, hdecode, hs⟩
      · exact .refl s' _
      · exact .of_encode (fun bytes hbytes => .pong (hping ▸ hid) hdecode hbytes) hs
    · rcases unwrapOrReturn_eq_ok hs with rfl | ⟨request1, -, hs⟩
      · exact .refl s' _
      · exact replies_request1 hs
    · rcases unwrapOrReturn_eq_ok hs with rfl | ⟨request2, -, hs⟩
      · exact .refl s' _
      · exact replies_request2 hs
    · exact Except.ok.inj hs ▸ .refl s _

/-- What else happens to a server makes it send nothing. -/
lemma udp_step {a : Action} (ha : ∀ env msg, a ≠ .receivedUdp env msg) (hs : s.step a = .ok s') :
    s'.udp = s.udp := by
  cases a with
  | receivedUdp env msg => exact absurd rfl (ha env msg)
  | setMotd motd => exact Except.ok.inj hs ▸ rfl
  | deliver =>
      rw [RakServer.step] at hs
      split at hs
      · exact Except.ok.inj hs ▸ rfl
      · obtain ⟨worker, -, hs⟩ := bind_eq_ok.mp hs
        obtain ⟨connectedId, -, hs⟩ := bind_eq_ok.mp hs
        exact Except.ok.inj hs ▸ rfl
  | conn conn action =>
      obtain rfl := Except.ok.inj hs
      rw [RakServer.connStep]
      split
      · rfl
      · split <;> rfl

end RakServer

lemma AllOffline.server_step {s s' : RakServer} (h : AllOffline s.udp) {a : RakServer.Action}
    (hs : s.step a = .ok s') : AllOffline s'.udp := by
  cases a with
  | receivedUdp env msg =>
      rcases (RakServer.replies_receivedUdp hs).sent with hudp | ⟨answer, hudp, -, hanswer⟩
      · exact hudp ▸ h
      · rw [hudp]
        exact h.send hanswer.isOffline answer.addr
  | setMotd motd => exact RakServer.udp_step (by simp) hs ▸ h
  | deliver => exact RakServer.udp_step (by simp) hs ▸ h
  | conn conn action => exact RakServer.udp_step (by simp) hs ▸ h

section Mediator

variable {m m' : ClientMediator}

/-- The padding of a request does not touch what is before it. -/
lemma appends_request1 (p : OpenConnectionRequest1) : Appends (Packet.write p) :=
  (writes_write MAGIC).appends.bind fun _ =>
    (writes_writeU8 p.protocolVersion).appends.bind fun _ =>
      appends_pos.bind fun pos => (appends_liftM (usizeSub p.mtuSize.toNat (pos + 32))).bind
        fun padding => (writes_write (List.replicate padding 0)).appends

lemma AllOffline.request1 (h : AllOffline m.udp) (hm : m.request1 = .ok m') :
    AllOffline m'.udp := by
  rw [ClientMediator.request1] at hm
  split at hm
  · exact Except.ok.inj hm ▸ h
  · obtain ⟨count, -, hm⟩ := bind_eq_ok.mp hm
    obtain ⟨bytes, hbytes, hm⟩ := bind_eq_ok.mp hm
    obtain rfl := Except.ok.inj hm
    exact h.send (offline_of_encode .openConnectionRequest1 rfl (appends_request1 _) hbytes) _

lemma AllOffline.request2 (h : AllOffline m.udp) {mtu : UInt16} (hm : m.request2 mtu = .ok m') :
    AllOffline m'.udp := by
  obtain ⟨bytes, hbytes, hm⟩ := bind_eq_ok.mp hm
  obtain rfl := Except.ok.inj hm
  exact h.send
    (offline_of_encode .openConnectionRequest2 rfl (writes_request2 _).appends hbytes) _

lemma AllOffline.success (h : AllOffline m.udp) (mtu : UInt16) :
    AllOffline (m.success mtu).udp := by
  rw [ClientMediator.success]
  split <;> exact h

/-- A reply is handled: the mediator asks once more, or reports. -/
lemma AllOffline.mediator_receivedUdp (h : AllOffline m.udp) {msg : UdpPacket}
    (hm : m.handleReceivedUdp msg = .ok m') : AllOffline m'.udp := by
  obtain ⟨id, -, hm⟩ := bind_eq_ok.mp hm
  split_ifs at hm
  · rcases ClientMediator.onReply_eq_ok hm with rfl | ⟨handle, reply1, -, -, hm⟩
    · exact h
    · exact AllOffline.request2 (by exact h) hm
  · rcases ClientMediator.onReply_eq_ok hm with rfl | ⟨handle, reply2, -, -, hm⟩
    · exact h
    · obtain ⟨mtu, -, hm⟩ := bind_eq_ok.mp hm
      obtain rfl := Except.ok.inj hm
      exact AllOffline.success (by exact h) _
  · rcases ClientMediator.onReply_eq_ok hm with rfl | ⟨handle, packet, -, -, hm⟩
    · exact h
    · exact Except.ok.inj hm ▸ h
  · rcases ClientMediator.onReply_eq_ok hm with rfl | ⟨handle, packet, -, -, hm⟩
    · exact h
    · exact Except.ok.inj hm ▸ h
  · exact Except.ok.inj hm ▸ h

/-- **A mediator** sends requests only. -/
lemma AllOffline.mediator_step (h : AllOffline m.udp) {a : ClientMediator.Action}
    (hm : m.step a = .ok m') : AllOffline m'.udp := by
  cases a with
  | start =>
      rw [ClientMediator.step] at hm
      split_ifs at hm
      · exact AllOffline.request1 (by exact h) hm
      · exact Except.ok.inj hm ▸ h
  | deliver =>
      rw [ClientMediator.step] at hm
      split at hm
      · rename_i msg rest _ _
        cases msg with
        | receivedUdp msg => exact AllOffline.mediator_receivedUdp (by exact h) hm
        | terminateMediator => exact Except.ok.inj hm ▸ h
      · exact Except.ok.inj hm ▸ h
  | fire handle =>
      rw [ClientMediator.step] at hm
      split at hm
      · rename_i f _ _
        cases hcallback : f.callback with
        | timeout =>
            rw [hcallback] at hm
            exact Except.ok.inj hm ▸ h
        | request1 =>
            rw [hcallback] at hm
            exact AllOffline.request1 (by exact h) hm
      · exact Except.ok.inj hm ▸ h

end Mediator

/-! ### The mediators and the session of a client -/

namespace RakClient

/-- What holds of new mediators and is kept by what happens to a mediator. -/
structure Kept (P : ClientMediator → Prop) : Prop where
  new : ∀ guid address, P (.new guid address)
  post : ∀ (m : ClientMediator) msgs, P m → P { m with ctx := m.ctx.post msgs }
  gone : ∀ m, P m → P { m with life := .terminated }
  step : ∀ (m m' : ClientMediator) action, P m → m.step action = .ok m' → P { m' with parent := [] }

variable {P : ClientMediator → Prop} {c c' : RakClient}

lemma Kept.mediatorStep (h : Kept P) (hc : ∀ m ∈ c.mediators, P m) (attempt : ℕ)
    (action : ClientMediator.Action) : ∀ m ∈ (c.mediatorStep attempt action).mediators, P m := by
  rw [RakClient.mediatorStep]
  split
  · exact hc
  · rename_i m hm
    have hP := hc m (List.mem_of_getElem? hm)
    split
    · intro d hd
      rcases List.mem_or_eq_of_mem_set hd with hd | rfl
      · exact hc d hd
      · exact h.gone m hP
    · rename_i m' hm'
      intro d hd
      rcases List.mem_or_eq_of_mem_set hd with hd | rfl
      · exact hc d hd
      · exact h.step m m' action hP hm'

lemma Kept.effect (h : Kept P) (hc : ∀ m ∈ c.mediators, P m) {a : Action}
    (heffect : c.Effect a c') : ∀ m ∈ c'.mediators, P m := by
  have hpost : ∀ (l : List ClientMediator), (∀ m ∈ l, P m) → ∀ i msgs,
      ∀ m ∈ l.modify i (fun m => { m with ctx := m.ctx.post msgs }), P m :=
    fun l hl i msgs => forall_mem_modify (fun m hm => h.post m msgs hm) hl i
  cases heffect with
  | connect env addr =>
      intro m hm
      rcases List.mem_append.mp hm with hm | hm
      · exact hc m hm
      · obtain rfl := List.mem_singleton.mp hm
        exact h.new _ _
  | relay env msg mediator hm => exact hpost _ hc _ _
  | mediator attempt action => exact h.mediatorStep hc attempt action
  | refused env attempt event rest reason mediator hmail hm hreason => exact hpost _ hc _ _
  | success env attempt mtu rest mediator session hmail hm hremote => exact hpost _ hc _ _
  | _ => exact hc

/-- **What all mediators of a client keep.** -/
theorem Kept.exec (h : Kept P) {guid : UInt64} {actions : List Action}
    (hc : Run.exec RakClient.step (.init guid) actions = .ok c) : ∀ m ∈ c.mediators, P m :=
  Run.invariant (P := fun c : RakClient => ∀ m ∈ c.mediators, P m)
    (fun _ _ _ hs hstep => h.effect hs (step_effect hstep))
    (fun _ hm => absurd hm List.not_mem_nil) hc

lemma kept_offline : Kept fun m => AllOffline m.udp where
  new _ _ _ hp := absurd hp List.not_mem_nil
  post _ _ h := h
  gone _ h := h
  step _ m' _ h hm := by
    have hstep : AllOffline m'.udp := h.mediator_step hm
    exact hstep

end RakClient

/-- The sessions of a server's connections have headers of their protocol. -/
lemma RakServer.kept_headings : Kept fun c => c.session.Headings where
  new mtu _ addr lastPing lastReceive := Session.headings_new addr mtu lastPing lastReceive
  post _ _ h := h
  gone _ h := h
  step c c' action h hc := by
    have hturn : c.turn (.act action) = .ok c' := hc
    exact h.exec (ServerConn.turn_session hturn).1

/-! ### The two protocols -/

/-- The protocol of sessions, and the packets around it. -/
inductive Protocol
  | session
  | offline
  deriving DecidableEq

/-- In some run an actor of the protocol sends the bytes. -/
inductive Emits : Protocol → Bytes → Prop
  | connection {guid motd thread actions s c p}
      (h : Run.exec RakServer.step (.new guid motd thread) actions = .ok s)
      (hc : c ∈ s.connections) (hp : p ∈ c.session.udp) : Emits .session p.bytes
  | client {guid actions c s p} (h : Run.exec RakClient.step (.init guid) actions = .ok c)
      (hs : s ∈ c.session) (hp : p ∈ s.udp) : Emits .session p.bytes
  | server {guid motd thread actions s p}
      (h : Run.exec RakServer.step (.new guid motd thread) actions = .ok s) (hp : p ∈ s.udp) :
      Emits .offline p.bytes
  | mediator {guid actions c m p} (h : Run.exec RakClient.step (.init guid) actions = .ok c)
      (hm : m ∈ c.mediators) (hp : p ∈ m.udp) : Emits .offline p.bytes
  | ping {actions r p} (h : Run.exec RakPing.step .new actions = .ok r) (hp : p ∈ r.udp) :
      Emits .offline p.bytes

/-- The session of a client has headers of its protocol in every run. -/
lemma RakClient.headings {guid : UInt64} {actions : List Action} {c : RakClient}
    (h : Run.exec RakClient.step (.init guid) actions = .ok c) : ∀ s ∈ c.session, s.Headings :=
  Run.invariant (P := fun c : RakClient => ∀ s ∈ c.session, s.Headings)
    (fun _ _ _ => keeps_session Session.headings_new fun _ _ _ h hturn => h.turn hturn)
    (by rintro _ ⟨⟩) h

/-- **What the sessions send** has a header of their protocol. -/
lemma Emits.headed {bytes : Bytes} (h : Emits .session bytes) : Session.Headed bytes := by
  cases h with
  | connection h hc hp => exact (RakServer.kept_headings.exec h _ hc).sent _ hp
  | client h hs hp => exact (RakClient.headings h _ hs).sent _ hp

/-- **What the others send** has the id of an offline packet. -/
lemma Emits.isOffline {bytes : Bytes} (h : Emits .offline bytes) : Offline bytes := by
  cases h with
  | server h hp =>
      exact Run.invariant (P := fun s : RakServer => AllOffline s.udp)
        (fun _ _ _ hs hstep => hs.server_step hstep) (fun _ hp => absurd hp List.not_mem_nil) h _ hp
  | mediator h hm hp => exact RakClient.kept_offline.exec h _ hm _ hp
  | ping h hp =>
      rw [(RakPing.exec_logs h).1] at hp
      obtain ⟨action, -, hping⟩ := List.mem_filterMap.mp hp
      cases action with
      | receivedUdp msg => cases hping
      | pingTo time addr =>
          obtain rfl := Option.some.inj hping
          exact ⟨.unconnectedPing, rfl⟩

/-- The protocol that an actor takes part in: a client hands the offline packets to its mediator. -/
def Receiver.protocol : Receiver → Protocol
  | .connection _ _ | .client _ _ => .session
  | .server _ _ | .mediator _ | .ping _ => .offline

/-- **The two protocols are told apart**: whatever an actor of one protocol sends in any run, an
actor of the other ignores it, in every state that it comes to. -/
theorem told_apart {r : Receiver} (hr : r.Reachable) {protocol : Protocol}
    (hprotocol : r.protocol ≠ protocol) {msg : UdpPacket} (hmsg : Emits protocol msg.bytes) :
    r.Ignores msg := by
  cases protocol with
  | session =>
      have hheaded := hmsg.headed
      have hbytes : msg.bytes ≠ [] := by
        obtain ⟨header, hhead, -⟩ := hheaded
        intro hnil
        rw [hnil] at hhead
        cases hhead
      cases hr with
      | server env h =>
          refine (RakServer.keeps_iff hbytes).mpr fun hanswers => ?_
          rcases hanswers.2 with hping | hrequest1 | hrequest2
          · exact hheaded.not_reads .unconnectedPing rfl hping
          · exact hheaded.not_reads .openConnectionRequest1 rfl hrequest1
          · exact hheaded.not_reads .openConnectionRequest2 rfl hrequest2
      | connection env h hc => exact absurd rfl hprotocol
      | client env h => exact absurd rfl hprotocol
      | mediator h hm hlife =>
          refine (ClientMediator.keeps_iff hbytes).mpr fun hexpects => ?_
          rcases hexpects.2 with hreply1 | hreply2 | halready | hversion
          · exact hheaded.not_reads .openConnectionReply1 rfl hreply1
          · exact hheaded.not_reads .openConnectionReply2 rfl hreply2
          · exact hheaded.not_reads .alreadyConnected rfl halready
          · exact hheaded.not_reads .incompatibleProtocolVersion rfl hversion
      | ping h =>
          exact (RakPing.keeps_iff hbytes).mpr (hheaded.not_reads .unconnectedPong rfl)
  | offline =>
      obtain ⟨t, hid⟩ := hmsg.isOffline
      cases hr with
      | server env h => exact absurd rfl hprotocol
      | connection env h hc =>
          exact ServerConn.handle_offline (RakServer.kept_parent.exec h _ hc) hid
      | client env h =>
          have hparent := Run.invariant
            (P := fun c : RakClient => ∀ s ∈ c.session, s.parent = [])
            (fun _ _ _ hs hstep => RakClient.parent_step hs hstep) (by rintro _ ⟨⟩) h
          exact RakClient.keeps hparent hid
      | mediator h hm hlife => exact absurd rfl hprotocol
      | ping h => exact absurd rfl hprotocol

/-- The theorem at the goodbye of a connection that was given up after five seconds, which reaches a
server without a connection for its sender. -/
theorem told_apart_sample :
    let client : SocketAddr := .v4 ⟨127, 0, 0, 1⟩ 50000
    let request2 : Bytes := [7] ++ MAGIC ++ [4, 128, 255, 255, 254, 74, 188, 5, 216]
      ++ List.replicate 8 0
    ∃ (s : RakServer) (c : ServerConn) (packet : UdpPacket),
      Run.exec RakServer.step (.new 9 "motd" 1) [.receivedUdp default ⟨request2, client⟩,
        .conn 0 .start, .conn 0 (.fire default 0)] = .ok s
      ∧ c ∈ s.connections ∧ packet ∈ c.session.udp
      ∧ (Receiver.server (.new 10 "motd" 1) default).Ignores packet := by
  intro client request2
  have hrun : (fun s : RakServer => s.connections.map fun c => c.session.udp.length)
      <$> Run.exec RakServer.step (.new 9 "motd" 1) [.receivedUdp default ⟨request2, client⟩,
        .conn 0 .start, .conn 0 (.fire default 0)] = .ok [1] := by
    decide +kernel
  obtain ⟨s, hs, hconnections⟩ := map_eq_ok.mp hrun
  obtain ⟨c, hc, hlength⟩ := List.mem_map.mp (hconnections ▸ List.mem_singleton_self 1)
  obtain ⟨packet, hpacket⟩ := List.exists_mem_of_length_pos (hlength ▸ Nat.one_pos)
  have hnew : Run.exec RakServer.step (.new 10 "motd" 1) [] = .ok (.new 10 "motd" 1) := rfl
  exact ⟨s, c, packet, hs, hc, hpacket,
    told_apart (.server default hnew) (by decide) (.connection hs hc hpacket)⟩

end ActixRaknet
