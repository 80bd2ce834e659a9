import ActixRaknet.Handshake.Basic

/-!
When a request of the mediator is answered.

* `Answered`: the server, or the connection it hands the datagram to, sends a reply;
* `Open`: the address of the client is not registered, and the request decodes;
* `retries_answered_iff`: in every state that the two can reach, a request is answered exactly when
  it is `Open`;
* `ProbeRead`: the size that the other side reads off a probe, with what the server and the mediator
  make of it;
* `probe_never_roundTrips`: it is never the size that was probed.
-/

namespace ActixRaknet

open Fallible

namespace Session

/-- A session ignores the requests of the open handshake. -/
lemma handle_request {s : Session} {env : Env} {address addr : SocketAddr} {guid : UInt64}
    {arrived : List Bytes} {bytes : Bytes} (h : Request address guid arrived bytes) :
    s.handle env ⟨bytes, addr⟩ = .ok s := by
  cases h <;> rfl

end Session

namespace Handshake

/-- One more datagram goes to `addr`: a reply or an `AlreadyConnected`. -/
def Replies (addr : SocketAddr) (before after : List UdpPacket) : Prop :=
  ∃ bytes, after = before ++ [⟨bytes, addr⟩] ∧
    (bytes.head? = some (Packet.ID OpenConnectionReply1)
      ∨ bytes.head? = some (Packet.ID OpenConnectionReply2)
      ∨ bytes.head? = some (Packet.ID AlreadyConnected))

/-- The server answers the datagram, or the connection that it is handed to does when it handles
it. -/
def Answered (s s' : RakServer) (msg : UdpPacket) : Prop :=
  Replies msg.addr s.udp s'.udp ∨ ∃ (c c' : ServerConn) (env : ServerConn.Env),
    msg.addr ∈ s.conns ∧ c.handle env (.receivedUdp msg) = .ok c'
      ∧ Replies msg.addr c.session.udp c'.session.udp

/-- The client is new to the server, and the request decodes. -/
def Open (addr : SocketAddr) (h : Handshake) (bytes : Bytes) : Prop :=
  addr ∉ h.server.conns ∧
    (bytes.head? = some (Packet.ID OpenConnectionRequest1) ∨ h.client.address.isIpv4 = true)

lemma not_replies_self (addr : SocketAddr) (udp : List UdpPacket) : ¬Replies addr udp udp := by
  rintro ⟨bytes, hudp, -⟩
  have hlen := congrArg List.length hudp
  rw [List.length_append, List.length_singleton] at hlen
  omega

section Requests

variable {addr address : SocketAddr} {guid : UInt64} {arrived : List Bytes} {bytes : Bytes}
  {s s' : RakServer} {env : RakServer.Env}

/-- A connection does not answer a request. -/
lemma not_replies_conn (hbytes : Request address guid arrived bytes) {c c' : ServerConn}
    {env : ServerConn.Env} (h : c.handle env (.receivedUdp ⟨bytes, addr⟩) = .ok c') :
    ¬Replies addr c.session.udp c'.session.udp := by
  obtain ⟨session, hsession, h⟩ := bind_eq_ok.mp h
  obtain rfl := Except.ok.inj ((Session.handle_request hbytes).symm.trans hsession)
  obtain rfl := Except.ok.inj h
  exact not_replies_self addr _

lemma answered_iff_replies (hbytes : Request address guid arrived bytes) :
    Answered s s' ⟨bytes, addr⟩ ↔ Replies addr s.udp s'.udp := by
  refine ⟨fun h => h.resolve_right ?_, Or.inl⟩
  rintro ⟨c, c', env, -, hc, hreplies⟩
  exact not_replies_conn hbytes hc hreplies

/-- Once the address is registered, no request of the handshake is answered. -/
lemma not_answered_of_registered (hbytes : Request address guid arrived bytes)
    (hconn : addr ∈ s.conns) (hs : s.handleReceivedUdp env ⟨bytes, addr⟩ = .ok s') :
    ¬Answered s s' ⟨bytes, addr⟩ := by
  obtain ⟨conn, hlookup⟩ := HashMap.exists_lookup_of_mem hconn
  rw [RakServer.handle_registered hlookup] at hs
  obtain rfl := Except.ok.inj hs
  rw [answered_iff_replies hbytes]
  exact not_replies_self addr s.udp

/-- A first request is answered with a reply. -/
lemma replies_probe (hconn : s.conns.lookup addr = none) {mtuSize : UInt16}
    (hmtu : 50 ≤ mtuSize.toNat)
    (hs : s.handleReceivedUdp env ⟨probe RAKNET_PROTOCOL_VERSION mtuSize, addr⟩ = .ok s') :
    Replies addr s.udp s'.udp := by
  rw [RakServer.handle_probe hconn env hmtu] at hs
  obtain rfl := Except.ok.inj hs
  exact ⟨_, rfl, Or.inl rfl⟩

/-- A second request to an IPv4 address is answered with a reply, or with an `AlreadyConnected`. -/
lemma replies_request2 (hconn : s.conns.lookup addr = none) (haddress : address.isIpv4 = true)
    {mtu : UInt16} (hs : s.handleReceivedUdp env ⟨request2Bytes address mtu guid, addr⟩ = .ok s') :
    Replies addr s.udp s'.udp := by
  rw [RakServer.handle_request2 hconn, if_pos haddress, RakServer.handleRequest2] at hs
  split_ifs at hs
  · obtain ⟨bytes, hencode, hs⟩ := bind_eq_ok.mp hs
    obtain rfl := Except.ok.inj (hencode.symm.trans (encode_eq
      ((Writer.writes_write _).bind (Writer.writes_writeU64 _ _))))
    obtain rfl := Except.ok.inj hs
    exact ⟨_, rfl, Or.inr (Or.inr rfl)⟩
  · rw [RakServer.reply, encode_reply2, ok_bind, pure_eq_ok, ok_bind] at hs
    obtain ⟨w, -, hs⟩ := bind_eq_ok.mp hs
    obtain rfl := Except.ok.inj hs
    exact ⟨_, rfl, Or.inr (Or.inl rfl)⟩

/-- **When a request that has been handled is answered.** -/
lemma answered_iff {h : Handshake} (hbytes : Request h.client.address guid arrived bytes)
    (hs : h.server.handleReceivedUdp env ⟨bytes, addr⟩ = .ok s') :
    Answered h.server s' ⟨bytes, addr⟩ ↔ Open addr h bytes := by
  by_cases hconn : addr ∈ h.server.conns
  · exact iff_of_false (not_answered_of_registered hbytes hconn hs) fun hopen => hopen.1 hconn
  · have hnone := AList.lookup_eq_none.mpr hconn
    rw [answered_iff_replies hbytes, Open, and_iff_right hconn]
    cases hbytes with
    | request1 mtuSize hprobed =>
        exact iff_of_true (replies_probe hnone hprobed.room hs) (Or.inl rfl)
    | request2 mtu hgot =>
        by_cases haddress : h.client.address.isIpv4 = true
        · exact iff_of_true (replies_request2 hnone haddress hs) (Or.inr haddress)
        · rw [RakServer.handle_request2 hnone, if_neg haddress] at hs
          obtain rfl := Except.ok.inj hs
          refine iff_of_false (not_replies_self addr _) fun hopen => ?_
          rcases hopen with hid | haddress'
          · cases hid
          · exact haddress haddress'

/-- A request is handled to the end, if the server has a worker for another connection. -/
lemma handle_request_succeeds (hbytes : Request address guid arrived bytes)
    (hroom : s.sessionWorker.HasRoom) (env : RakServer.Env) :
    ∃ s', s.handleReceivedUdp env ⟨bytes, addr⟩ = .ok s' := by
  cases hconn : s.conns.lookup addr with
  | some conn => exact ⟨_, RakServer.handle_registered hconn env bytes⟩
  | none =>
      cases hbytes with
      | request1 mtuSize hprobed =>
          exact ⟨_, RakServer.handle_probe hconn env hprobed.room⟩
      | request2 mtu hgot =>
          rw [RakServer.handle_request2 hconn, RakServer.handleRequest2]
          split_ifs
          · exact ⟨_, by rw [RakServer.reply, encode_eq
              ((Writer.writes_write _).bind (Writer.writes_writeU64 _ _)), ok_bind, pure_eq_ok]⟩
          · obtain ⟨w, hw⟩ := hroom.add env.order addr
            rw [RakServer.reply, encode_reply2, ok_bind, pure_eq_ok, ok_bind, RakServer.register]
            simp only [RakServer.sendUdp, OpenConnectionRequest2.new, hw]
            exact ⟨_, rfl⟩
          · exact ⟨s, rfl⟩

end Requests

/-- **Which requests are answered.**  Whatever the network has lost, repeated and reordered, and
whatever the server has done besides: a request that the mediator has sent is answered, when the
server handles it, exactly if the client's address is not registered and the request decodes. -/
theorem retries_answered_iff (addr address : SocketAddr) (guid serverGuid : UInt64)
    (motd : String) (thread : ℕ) (ops : List Action) {h : Handshake}
    (hops : Run.exec (step addr) (new guid address (.new serverGuid motd thread)) ops = .ok h)
    {packet : UdpPacket} (hpacket : packet ∈ h.client.udp) (env : RakServer.Env) :
    (∀ s, h.server.handleReceivedUdp env ⟨packet.bytes, addr⟩ = .ok s →
        (Answered h.server s ⟨packet.bytes, addr⟩ ↔ Open addr h packet.bytes))
      ∧ (h.server.sessionWorker.HasRoom →
        ∃ s, h.server.handleReceivedUdp env ⟨packet.bytes, addr⟩ = .ok s) := by
  have hagreed := agreed_of_exec (.new serverGuid motd thread) rfl hops
  have hrequest := hagreed.asking.requests packet hpacket
  exact ⟨fun s hs => answered_iff hrequest hs,
    fun hroom => handle_request_succeeds hrequest hroom env⟩

/-- The server has registered the client, its `OpenConnectionReply2` is lost, and the mediator asks
again after 510 ms. -/
def lostReply2 : List Action :=
  [.client .start, .toServer default 0, .toClient 0, .client .deliver, .toServer default 1,
    .client (.fire 2)]

/-- The theorem at the second request of that run, before the server handles it. -/
theorem retries_answered_iff_sample :
    ∃ h, Run.exec (step (.v4 ⟨127, 0, 0, 1⟩ 50000)) (new 7 (.v4 ⟨127, 0, 0, 1⟩ 19132)
        (.new 9 "motd" 1)) (lostReply2.take 4) = .ok h ∧ ∃ packet ∈ h.client.udp,
      ∀ s, h.server.handleReceivedUdp default ⟨packet.bytes, .v4 ⟨127, 0, 0, 1⟩ 50000⟩ = .ok s →
        (Answered h.server s ⟨packet.bytes, .v4 ⟨127, 0, 0, 1⟩ 50000⟩
          ↔ Open (.v4 ⟨127, 0, 0, 1⟩ 50000) h packet.bytes) := by
  have hrun : (fun h => h.client.udp.length) <$> Run.exec (step (.v4 ⟨127, 0, 0, 1⟩ 50000))
      (new 7 (.v4 ⟨127, 0, 0, 1⟩ 19132) (.new 9 "motd" 1)) (lostReply2.take 4) = .ok 2 := by
    decide +kernel
  obtain ⟨h, hh, hlen⟩ := map_eq_ok.mp hrun
  have hlt : 1 < h.client.udp.length := by omega
  exact ⟨h, hh, _, List.getElem_mem hlt, (retries_answered_iff (.v4 ⟨127, 0, 0, 1⟩ 50000)
    (.v4 ⟨127, 0, 0, 1⟩ 19132) 7 9 "motd" 1 (lostReply2.take 4) hh (List.getElem_mem hlt)
    default).1⟩

/-- The mediator has reported nothing and the server has announced nothing, and the request with
which the mediator asks again is handled and not answered: the lost `OpenConnectionReply2` is not
recovered. -/
theorem retries_answered_counterexample :
    ∃ h, Run.exec (step (.v4 ⟨127, 0, 0, 1⟩ 50000)) (new 7 (.v4 ⟨127, 0, 0, 1⟩ 19132)
        (.new 9 "motd" 1)) lostReply2 = .ok h ∧ h.client.parent = []
      ∧ h.server.connections.map ServerConn.sent = [[]]
      ∧ ∃ packet, h.client.udp.getLast? = some packet ∧ ∃ s,
        h.server.handleReceivedUdp default ⟨packet.bytes, .v4 ⟨127, 0, 0, 1⟩ 50000⟩ = .ok s
          ∧ ¬Answered h.server s ⟨packet.bytes, .v4 ⟨127, 0, 0, 1⟩ 50000⟩ := by
  have hrun : (fun h => (h.client.parent, h.server.connections.map ServerConn.sent,
      h.server.conns.lookup (.v4 ⟨127, 0, 0, 1⟩ 50000), h.client.udp.length))
      <$> Run.exec (step (.v4 ⟨127, 0, 0, 1⟩ 50000)) (new 7 (.v4 ⟨127, 0, 0, 1⟩ 19132)
        (.new 9 "motd" 1)) lostReply2 = .ok ([], [[]], some 0, 3) := by
    decide +kernel
  obtain ⟨h, hh, heq⟩ := map_eq_ok.mp hrun
  simp only [Prod.mk.injEq] at heq
  obtain ⟨hparent, hsent, hlookup, hlen⟩ := heq
  have hagreed := agreed_of_exec (.new 9 "motd" 1) rfl hh
  obtain ⟨packet, hlast⟩ : ∃ packet, h.client.udp.getLast? = some packet := by
    rw [← Option.ne_none_iff_exists', ne_eq, List.getLast?_eq_none_iff, ← List.length_eq_zero_iff,
      hlen]
    decide
  have hrequest := hagreed.asking.requests packet (List.mem_of_getLast? hlast)
  have hs := RakServer.handle_registered hlookup default packet.bytes
  exact ⟨h, hh, hparent, hsent, packet, hlast, _, hs,
    not_answered_of_registered hrequest (HashMap.mem_of_lookup hlookup) hs⟩

/-! ### The size of a probe -/

/-- A probe made with `mtuSize` passes for one of `size`: it decodes to that size, a server to which
the sender is new echoes it, and a mediator with a request pending copies what was echoed. -/
structure ProbeRead (version : UInt8) (mtuSize size : UInt16) : Prop where
  decoded : ∃ bytes, encode (OpenConnectionRequest1.new version mtuSize) = .ok bytes
    ∧ decode OpenConnectionRequest1 bytes = .ok (.ok (.new version size))
  echoed : version = RAKNET_PROTOCOL_VERSION → ∀ (s : RakServer) (env : RakServer.Env)
    (addr : SocketAddr), addr ∉ s.conns → ∃ bytes reply,
      encode (OpenConnectionRequest1.new version mtuSize) = .ok bytes
        ∧ encode (OpenConnectionReply1.new s.guid false size) = .ok reply
        ∧ s.handleReceivedUdp env ⟨bytes, addr⟩ = .ok (s.sendUdp reply addr)
  copied : ∀ (m : ClientMediator) (addr : SocketAddr) (guid : UInt64),
    m.nextRequest1Handle.isSome = true → ∃ reply request2 m',
      encode (OpenConnectionReply1.new guid false size) = .ok reply
        ∧ encode (OpenConnectionRequest2.new m.address size m.guid) = .ok request2
        ∧ m.handleReceivedUdp ⟨reply, addr⟩ = .ok m'
        ∧ m'.udp = m.udp ++ [⟨request2, m.address⟩]

lemma not_roundTrips_probe (version : UInt8) {mtuSize : UInt16} (h : 50 ≤ mtuSize.toNat) :
    ¬ RoundTrips (OpenConnectionRequest1.new version mtuSize) := by
  rintro ⟨bytes, hencode, hdecode⟩
  obtain rfl := Except.ok.inj ((encode_request1 version h).symm.trans hencode)
  have hread := Except.ok.inj (Except.ok.inj ((decode_probe version h).symm.trans hdecode))
  have hsize : mtuSize - 1 = mtuSize := congrArg OpenConnectionRequest1.mtuSize hread
  have htoNat := congrArg UInt16.toNat hsize
  have hle : (1 : UInt16) ≤ mtuSize := UInt16.le_iff_toNat_le.mpr (le_trans (by decide) h)
  rw [UInt16.toNat_sub_of_le _ _ hle] at htoNat
  have hone : (1 : UInt16).toNat = 1 := rfl
  omega

/-- The mediator answers an `OpenConnectionReply1` with the size in it. -/
lemma handle_reply1 {m : ClientMediator} (h : m.nextRequest1Handle.isSome = true) (guid : UInt64)
    (size : UInt16) (addr : SocketAddr) : ∃ m',
      m.handleReceivedUdp ⟨reply1Bytes guid size, addr⟩ = .ok m'
        ∧ m'.udp = m.udp ++ [⟨request2Bytes m.address size m.guid, m.address⟩] := by
  obtain ⟨handle, hhandle⟩ := Option.isSome_iff_exists.mp h
  have hid : (0x6 : UInt8) = Packet.ID OpenConnectionReply1 := rfl
  rw [ClientMediator.handleReceivedUdp]
  simp only [reply1Bytes, index_cons_zero, ok_bind, if_pos hid]
  rw [← reply1Bytes, ClientMediator.onReply, hhandle]
  simp only [unwrapOrReturn, decode_reply1, ClientMediator.request2, encode_request2, ok_bind,
    pure_eq_ok]
  exact ⟨_, rfl, rfl⟩

/-- **A probe is always taken for a smaller one.**  Over all versions and all sizes that can be
encoded, the decoder reads one less than what was encoded, and this is the size that the server
echoes and the mediator copies. -/
theorem probe_never_roundTrips (version : UInt8) {mtuSize : UInt16}
    (hmtu : 50 ≤ mtuSize.toNat) :
    ¬ RoundTrips (OpenConnectionRequest1.new version mtuSize)
      ∧ ProbeRead version mtuSize (mtuSize - 1) := by
  refine ⟨not_roundTrips_probe version hmtu, ?_, ?_, ?_⟩
  · exact ⟨_, encode_request1 version hmtu, decode_probe version hmtu⟩
  · rintro rfl s env addr haddr
    exact ⟨_, _, encode_request1 _ hmtu, encode_reply1 _ _,
      RakServer.handle_probe (AList.lookup_eq_none.mpr haddr) env hmtu⟩
  · intro m addr guid hpending
    obtain ⟨m', hm', hudp⟩ := handle_reply1 hpending guid (mtuSize - 1) addr
    exact ⟨_, _, m', encode_reply1 _ _, encode_request2 _ _ _, hm', hudp⟩

/-- The theorem at the first probe of a mediator. -/
theorem probe_never_roundTrips_first :
    ¬ RoundTrips (OpenConnectionRequest1.new RAKNET_PROTOCOL_VERSION 1496)
      ∧ ProbeRead RAKNET_PROTOCOL_VERSION 1496 1495 :=
  probe_never_roundTrips RAKNET_PROTOCOL_VERSION (by decide)

/-- The first probe of a mediator decodes to 1495. -/
theorem probe_counterexample : ∃ bytes,
    encode (OpenConnectionRequest1.new RAKNET_PROTOCOL_VERSION 1496) = .ok bytes
      ∧ decode OpenConnectionRequest1 bytes = .ok (.ok (.new RAKNET_PROTOCOL_VERSION 1495))
      ∧ ¬ RoundTrips (OpenConnectionRequest1.new RAKNET_PROTOCOL_VERSION 1496) :=
  ⟨_, encode_request1 _ (by decide), decode_probe _ (by decide), not_roundTrips_probe _ (by decide)⟩

end Handshake

end ActixRaknet
