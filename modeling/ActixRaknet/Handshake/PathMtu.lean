import ActixRaknet.Client.Sessions
import ActixRaknet.Handshake.Basic
import ActixRaknet.Server.Sessions

/-!
The size of the datagrams of both sides after the handshake, against the probe that got through.

* `RakServer.Hosting`: the sessions that the server has for the client keep to the size read off a
  probe, over every run (`hosting_of_exec`);
* `RakClient.Within`, `RakClient.Modest`: the session of the client stays within a limit as long as
  what it queues does;
* `path_mtu_of_modest`: both sides.
-/

namespace ActixRaknet

open Fallible

/-! ### The server -/

namespace RakServer

/-- The sessions for an address keep to a size that was read off a request. -/
def Hosting (arrived : List Bytes) (addr : SocketAddr) (s : RakServer) : Prop :=
  ∀ c ∈ s.connections, c.addr = addr → Got arrived c.session.mtu ∧ c.session.Slim

variable {arrived : List Bytes} {addr : SocketAddr} {s s' : RakServer}

lemma Hosting.mono (h : Hosting arrived addr s) (bytes : Bytes) :
    Hosting (arrived ++ [bytes]) addr s := fun c hc haddr => (h c hc haddr).imp_left (·.mono bytes)

/-- A connection that keeps its address, its size and its session's limit may change. -/
lemma Hosting.set (h : Hosting arrived addr s) {i : ℕ} {c : ServerConn} (c' : ServerConn)
    (hc : s.connections[i]? = some c) (haddr : c'.addr = c.addr)
    (hkeep : c.session.Slim → c'.session.Slim ∧ c'.session.mtu = c.session.mtu)
    (hs : s'.connections = s.connections.set i c') : Hosting arrived addr s' := by
  intro d hd hd'
  rw [hs] at hd
  rcases List.mem_or_eq_of_mem_set hd with hd | rfl
  · exact h d hd hd'
  · obtain ⟨hgot, hslim⟩ := h c (List.mem_of_getElem? hc) (haddr.symm.trans hd')
    obtain ⟨hslim', hmtu⟩ := hkeep hslim
    exact ⟨hmtu ▸ hgot, hslim'⟩

/-- A new connection has the size of its request. -/
lemma Hosting.register (h : Hosting arrived addr s) {env : Env} {request2 : OpenConnectionRequest2}
    {sender : SocketAddr} (hgot : sender = addr → Got arrived request2.mtu)
    (hs : s.register env request2 sender = .ok s') : Hosting arrived addr s' := by
  obtain ⟨w, -, hs⟩ := bind_eq_ok.mp hs
  obtain rfl := Except.ok.inj hs
  intro c hc haddr
  rcases List.mem_append.mp hc with hc | hc
  · exact h c hc haddr
  · obtain rfl := List.mem_singleton.mp hc
    have hgot := hgot haddr
    obtain ⟨mtuSize, hprobed, -, hmtu⟩ := id hgot
    refine ⟨hgot, Session.slim_new _ _ _ ?_⟩
    rw [hmtu]
    rcases hprobed.cases with rfl | rfl | rfl <;> decide

/-- What a server without new connections sends does not matter. -/
lemma Hosting.relabel (h : Hosting arrived addr s) (hs : s'.connections = s.connections) :
    Hosting arrived addr s' := by
  intro c hc haddr
  exact h c (hs ▸ hc) haddr

/-- **A datagram is handled**: a request of the address has a size that was read off a probe. -/
lemma Hosting.receivedUdp (h : Hosting arrived addr s) {env : Env} {msg : UdpPacket}
    (hmsg : msg.addr = addr → ∀ request2,
      decode OpenConnectionRequest2 msg.bytes = .ok (.ok request2) →
        msg.bytes.head? = some (Packet.ID OpenConnectionRequest2) → Got arrived request2.mtu)
    (hs : s.handleReceivedUdp env msg = .ok s') : Hosting arrived addr s' := by
  have hreply : ∀ {P : Type} [Packet P] {packet : P} {t : RakServer},
      s.reply packet msg.addr = .ok t → Hosting arrived addr t := by
    intro P _ packet t ht
    obtain ⟨bytes, rfl⟩ := reply_eq_ok ht
    exact h
  rw [handleReceivedUdp] at hs
  split at hs
  · rename_i conn hconn
    obtain rfl := Except.ok.inj hs
    cases hc : s.connections[conn]? with
    | none =>
        refine h.relabel ?_
        rw [sendConn, List.modify_eq_self (List.getElem?_eq_none_iff.mp hc)]
    | some c =>
        refine h.set (c.post (.receivedUdp msg)) hc rfl (fun hslim => ⟨hslim, rfl⟩) ?_
        have : Inhabited ServerConn := ⟨c⟩
        rw [sendConn, List.modify_eq_set, hc]
        rfl
  · obtain ⟨id, hid, hs⟩ := bind_eq_ok.mp hs
    rw [index_zero_eq_ok] at hid
    split_ifs at hs with hping hrequest1 hrequest2
    · rcases unwrapOrReturn_eq_ok hs with rfl | ⟨ping, -, hs⟩
      · exact h
      · exact hreply hs
    · rcases unwrapOrReturn_eq_ok hs with rfl | ⟨request1, -, hs⟩
      · exact h
      · rw [handleRequest1] at hs
        split_ifs at hs
        · exact hreply hs
        · exact hreply hs
    · rcases unwrapOrReturn_eq_ok hs with rfl | ⟨request2, hdecode, hs⟩
      · exact h
      · rw [handleRequest2] at hs
        split_ifs at hs
        · exact hreply hs
        · obtain ⟨t, ht, hs⟩ := bind_eq_ok.mp hs
          refine (hreply ht).register (fun haddr => hmsg haddr request2 hdecode ?_) hs
          rw [hid, hrequest2]
    · exact Except.ok.inj hs ▸ h

/-- A request of the client is handled. -/
lemma Hosting.request (h : Hosting arrived addr s) {env : Env} {address : SocketAddr}
    {guid : UInt64} {bytes : Bytes} (hbytes : Request address guid (arrived ++ [bytes]) bytes)
    (hs : s.handleReceivedUdp env ⟨bytes, addr⟩ = .ok s') :
    Hosting (arrived ++ [bytes]) addr s' := by
  refine (h.mono bytes).receivedUdp (fun _ request2 hdecode hid => ?_) hs
  cases hbytes with
  | request1 mtuSize hprobed => cases hid
  | request2 mtu hgot =>
      cases address with
      | v4 ip port =>
          obtain rfl := Except.ok.inj (Except.ok.inj
            (hdecode.symm.trans (decode_request2_v4 ip port mtu guid)))
          exact hgot
      | v6 ip port =>
          rw [request2Bytes, decode_request2_v6] at hdecode
          cases hdecode

/-- What the server does besides, its connections included, keeps the sessions to their size. -/
lemma Hosting.step (h : Hosting arrived addr s) {a : Action} (ha : ¬a.From addr)
    (hs : s.step a = .ok s') : Hosting arrived addr s' := by
  cases a with
  | receivedUdp env msg => exact h.receivedUdp (fun haddr => absurd haddr ha) hs
  | setMotd motd => exact Except.ok.inj hs ▸ h
  | deliver =>
      rw [RakServer.step] at hs
      split at hs
      · exact Except.ok.inj hs ▸ h
      · simp only [handleConnectionEnd, bind_eq_ok, pure_eq_ok, Except.ok.injEq] at hs
        obtain ⟨_, -, _, -, rfl⟩ := hs
        exact h
  | conn conn action =>
      obtain rfl := Except.ok.inj hs
      rw [connStep]
      cases hc : s.connections[conn]? with
      | none => exact h
      | some c =>
          cases hstep : c.step action with
          | error e =>
              simp only [hstep]
              exact h.set { c with life := .terminated } hc rfl
                (fun hslim => ⟨hslim, rfl⟩) rfl
          | ok c' =>
              have hturn : c.turn (.act action) = .ok c' := hstep
              have hkeep := fun hslim : c.session.Slim => ServerConn.slim_turn hslim hturn
              simp only [hstep]
              exact h.set { c' with server := [] } hc (ServerConn.turn_session hturn).2
                hkeep rfl

end RakServer

namespace Handshake

/-- **The sessions of the server for the client**, in every state of a run. -/
lemma hosting_of_exec {addr address : SocketAddr} {guid : UInt64} (server : RakServer)
    (hudp : server.udp = []) (hconnections : server.connections = []) {ops : List Action}
    {h : Handshake} (hops : Run.exec (step addr) (new guid address server) ops = .ok h) :
    h.server.Hosting h.arrived addr := by
  refine (Run.invariant (P := fun h => h.Agreed addr ∧ h.server.Hosting h.arrived addr)
    (fun t a t' ht hstep => ⟨ht.1.step hstep, ?_⟩)
    ⟨agreed_of_exec server hudp (Run.exec_nil _), fun c hc => ?_⟩ hops).2
  · obtain ⟨hagreed, ht⟩ := ht
    cases a with
    | client action =>
        obtain rfl := Except.ok.inj hstep
        rw [clientStep]
        split <;> exact ht
    | terminate => exact Except.ok.inj hstep ▸ ht
    | server action =>
        rw [Handshake.step] at hstep
        split_ifs at hstep with hfrom
        · exact Except.ok.inj hstep ▸ ht
        · obtain ⟨server, hserver, hstep⟩ := bind_eq_ok.mp hstep
          exact Except.ok.inj hstep ▸ ht.step hfrom hserver
    | toServer env i =>
        rw [Handshake.step] at hstep
        split at hstep
        · exact Except.ok.inj hstep ▸ ht
        · rename_i packet hpacket
          obtain ⟨server, hserver, hstep⟩ := bind_eq_ok.mp hstep
          have hrequest := (hagreed.asking.requests packet (List.mem_of_getElem? hpacket)).mono
            packet.bytes
          exact Except.ok.inj hstep ▸ ht.request hrequest hserver
    | toClient i =>
        rw [Handshake.step] at hstep
        split at hstep
        · exact Except.ok.inj hstep ▸ ht
        · split_ifs at hstep <;> exact Except.ok.inj hstep ▸ ht
    | noise bytes =>
        rw [Handshake.step] at hstep
        split_ifs at hstep <;> exact Except.ok.inj hstep ▸ ht
  · rw [new, hconnections] at hc
    cases hc

end Handshake

/-! ### The client -/

namespace RakClient

/-- The datagrams of the client's session, sent and still to be sent, stay within the limit. -/
def Within (limit : ℕ) (c : RakClient) : Prop := ∀ s, c.session = some s → s.Within limit

/-- The step opens no session, and the frames that the session queues in it leave the queue within
the limit. -/
def Modest (limit : ℕ) (c : RakClient) (a : Action) : Prop :=
  c.success? a = none
    ∧ ∀ s, c.session = some s → Run.Along Session.turn (Session.Modest limit) s (c.sessionOps a)

instance (limit : ℕ) (c : RakClient) (a : Action) : Decidable (c.Modest limit a) :=
  inferInstanceAs (Decidable (_ ∧ ∀ s ∈ c.session,
    Run.Along Session.turn (Session.Modest limit) s (c.sessionOps a)))

variable {limit : ℕ} {c c' : RakClient}

/-- **Step lemma**: a modest step stays within the limit. -/
lemma Within.step (h : c.Within limit) (hlimit : 24 ≤ limit) {a : Action} (ha : c.Modest limit a)
    (hstep : c.step a = .ok c') : c'.Within limit := by
  intro t ht
  rcases step_session ha.1 hstep with ⟨s, s', hs, hops, hs'⟩ | hnone
  · obtain rfl := Option.some.inj (hs'.symm.trans ht)
    have halways := Run.always_of_along (P := Session.Within limit)
      (fun _ _ _ hw hop hturn => (hw.turn hlimit hop hturn).1) (h s hs) (ha.2 s hs)
    exact Run.always_iff.mp halways _ [] _ (List.append_nil _).symm hops
  · exact absurd (hnone.symm.trans ht) (by simp)

/-- A session that has just been opened has sent nothing and queued one short frame. -/
lemma Opens.within {mtu : UInt16} (h : Opens c c' mtu) (hlimit : 48 ≤ limit) :
    c'.Within limit := by
  obtain ⟨env, remote, s, -, hturn, hs⟩ := h
  intro t ht
  obtain rfl := Option.some.inj (hs.symm.trans ht)
  have hmodest : (Session.new remote mtu env.lastPing env.lastReceive).Modest limit
      (.sendSystemPacket env.session ConnectionRequest (.new c.guid env.requestTime false)
        .reliable) := by
    intro body hbody
    refine Session.leaves_of_le ?_
    have hle := Frame.length_new_le .reliable body
    rw [length_connectionRequest _ hbody] at hle
    change 4 + 0 + _ ≤ limit
    omega
  exact ((Session.within_new remote mtu env.lastPing env.lastReceive (by omega)).turn (by omega)
    hmodest hturn).1

end RakClient

/-! ### Both -/

namespace Handshake

/-- No datagram of the session is larger than the probe. -/
def Fits (mtuSize : UInt16) (s : Session) : Prop :=
  ∀ p ∈ s.udp, p.bytes.length ≤ (probe RAKNET_PROTOCOL_VERSION mtuSize).length

/-- **Path MTU after the handshake.**  Whatever the network has lost, repeated and reordered: the
mtu of a session of the server for the client, and the one that the mediator reports, come from a
probe that got through.  No run of the connection makes the server's session send a larger datagram
than that probe, and no run of the client from its success does, as long as what the client's
session queues stays within the probe. -/
theorem path_mtu_of_modest (addr address : SocketAddr) (guid serverGuid : UInt64)
    (motd : String) (thread : ℕ) (ops : List Action) {h : Handshake}
    (hops : Run.exec (step addr) (new guid address (.new serverGuid motd thread)) ops = .ok h) :
    (∀ c ∈ h.server.connections, c.addr = addr → ∃ mtuSize, Probed mtuSize
        ∧ probe RAKNET_PROTOCOL_VERSION mtuSize ∈ h.arrived ∧ c.session.mtu = mtuSize - 1
        ∧ ∀ turns c', Run.exec ServerConn.turn c turns = .ok c' → Fits mtuSize c'.session)
      ∧ ∀ mtu, .success mtu ∈ h.client.parent → ∃ mtuSize, Probed mtuSize
        ∧ probe RAKNET_PROTOCOL_VERSION mtuSize ∈ h.arrived ∧ mtu = mtuSize - 1 + 96
        ∧ ∀ (c c' : RakClient) (a : RakClient.Action), c.success? a = some mtu →
          c.step a = .ok c' → ∀ actions,
          Run.Along RakClient.step
            (RakClient.Modest (probe RAKNET_PROTOCOL_VERSION mtuSize).length) c' actions →
          Run.Always RakClient.step (fun c => ∀ s, c.session = some s → Fits mtuSize s) c'
            actions := by
  constructor
  · intro c hc haddr
    obtain ⟨⟨mtuSize, hprobed, harrived, hmtu⟩, hslim⟩ :=
      hosting_of_exec (.new serverGuid motd thread) rfl rfl hops c hc haddr
    refine ⟨mtuSize, hprobed, harrived, hmtu, fun turns c' hturns p hp => ?_⟩
    obtain ⟨hslim', hmtu'⟩ := Run.invariant
      (P := fun d : ServerConn => d.session.Slim ∧ d.session.mtu = c.session.mtu)
      (fun d op d' hd hop => (ServerConn.slim_turn hd.1 hop).imp_right (·.trans hd.2))
      ⟨hslim, rfl⟩ hturns
    have hsize : (mtuSize - 1).toNat = mtuSize.toNat - 1 :=
      UInt16.toNat_sub_of_le _ _ (UInt16.le_iff_toNat_le.mpr (le_trans (by decide) hprobed.le.1))
    have hle := hslim'.within.sent p hp
    have hprobe := length_probe RAKNET_PROTOCOL_VERSION hprobed.room
    rw [hmtu', hmtu, hsize] at hle
    omega
  · intro mtu hsuccess
    have hagreed := agreed_of_exec (.new serverGuid motd thread) rfl hops
    obtain ⟨got, ⟨mtuSize, hprobed, harrived, rfl⟩, rfl⟩ := hagreed.asking.success mtu hsuccess
    refine ⟨mtuSize, hprobed, harrived, rfl, fun c c' a hopen hstep actions hmodest => ?_⟩
    have hprobe := length_probe RAKNET_PROTOCOL_VERSION hprobed.room
    have hlimit := hprobed.le.1
    have hwithin : c'.Within (probe RAKNET_PROTOCOL_VERSION mtuSize).length :=
      (RakClient.step_success hopen hstep).within (by omega)
    exact (Run.always_of_along (fun _ _ _ hw ha hs => hw.step (by omega) ha hs) hwithin
      hmodest).mono fun _ hw s hs p hp => (hw s hs).sent p hp

/-- A handshake that succeeds with the first probe. -/
def opened : List Action :=
  [.client .start, .toServer default 0, .toClient 0, .client .deliver, .toServer default 1,
    .toClient 1, .client .deliver]

/-- The client in that handshake, up to the success of its mediator, which it has still to handle.
-/
def opening : List RakClient.Action :=
  let reply (bytes : Bytes) : UdpPacket := ⟨bytes, .v4 ⟨127, 0, 0, 1⟩ 19132⟩
  [.call default (.connect (.v4 ⟨127, 0, 0, 1⟩ 19132)), .mediator 0 .start,
    .receivedUdp default (reply (reply1Bytes 9 1495)), .mediator 0 .deliver,
    .receivedUdp default (reply (reply2Bytes 9 (.v4 ⟨127, 0, 0, 1⟩ 50000) 1495)),
    .mediator 0 .deliver]

lemma exec_opened :
    ∃ h, Run.exec (step (.v4 ⟨127, 0, 0, 1⟩ 50000)) (new 7 (.v4 ⟨127, 0, 0, 1⟩ 19132)
      (.new 9 "motd" 1)) opened = .ok h ∧ h.client.parent = [.success 1591]
        ∧ probe RAKNET_PROTOCOL_VERSION 1496 ∈ h.arrived := by
  have hrun : (fun h => (h.client.parent, decide (probe RAKNET_PROTOCOL_VERSION 1496 ∈ h.arrived)))
      <$> Run.exec (step (.v4 ⟨127, 0, 0, 1⟩ 50000)) (new 7 (.v4 ⟨127, 0, 0, 1⟩ 19132)
        (.new 9 "motd" 1)) opened = .ok ([.success 1591], true) := by
    decide +kernel
  obtain ⟨h, hh, heq⟩ := map_eq_ok.mp hrun
  obtain ⟨hparent, harrived⟩ := Prod.mk.inj heq
  exact ⟨h, hh, hparent, of_decide_eq_true harrived⟩

lemma exec_opening :
    ∃ c c', Run.exec RakClient.step (.init 7) opening = .ok c
      ∧ c.success? (.deliver default) = some 1591
      ∧ c.step (.deliver default) = .ok c' := by
  have hrun : (fun c => (c.success? (.deliver default),
      (c.step (.deliver default)).toBool)) <$> Run.exec RakClient.step (.init 7) opening
        = .ok (some 1591, true) := by
    decide +kernel
  obtain ⟨c, hc, heq⟩ := map_eq_ok.mp hrun
  obtain ⟨hopen, hstep⟩ := Prod.mk.inj heq
  cases hc' : c.step (.deliver default) with
  | error e =>
      rw [hc'] at hstep
      cases hstep
  | ok c' => exact ⟨c, c', hc, hopen, hc'⟩

/-- The theorem where the client sends a short buffer and flushes. -/
theorem path_mtu_of_modest_sample :
    ∃ h, Run.exec (step (.v4 ⟨127, 0, 0, 1⟩ 50000)) (new 7 (.v4 ⟨127, 0, 0, 1⟩ 19132)
        (.new 9 "motd" 1)) opened = .ok h
      ∧ ∃ mtuSize, probe RAKNET_PROTOCOL_VERSION mtuSize ∈ h.arrived
      ∧ ∃ c, Run.exec RakClient.step (.init 7) (opening ++ [.deliver default]) = .ok c
        ∧ Run.Always RakClient.step (fun c => ∀ s, c.session = some s → Fits mtuSize s) c
          [.call default (.packet [0xfe, 1]), .fire default 1] := by
  obtain ⟨h, hh, hparent, -⟩ := exec_opened
  obtain ⟨c, c', hc, hopen, hstep⟩ := exec_opening
  obtain ⟨mtuSize, hprobed, harrived, hmtu, hclient⟩ := (path_mtu_of_modest
    (.v4 ⟨127, 0, 0, 1⟩ 50000) (.v4 ⟨127, 0, 0, 1⟩ 19132) 7 9 "motd" 1 opened hh).2 1591
    (by rw [hparent]; exact List.mem_singleton.mpr rfl)
  have hexec : Run.exec RakClient.step (.init 7) (opening ++ [.deliver default]) = .ok c' :=
    Run.exec_append.mpr ⟨c, hc, Run.exec_singleton.mpr hstep⟩
  refine ⟨h, hh, mtuSize, harrived, c', hexec, hclient c c' _ hopen hstep _ ?_⟩
  have hsize : mtuSize = 1496 := by
    rcases hprobed.cases with rfl | rfl | rfl
    · rfl
    · exact absurd hmtu (by decide)
    · exact absurd hmtu (by decide)
  have hmodest : ∀ c, Run.exec RakClient.step (.init 7) (opening ++ [.deliver default]) = .ok c →
      Run.Along RakClient.step (RakClient.Modest (probe RAKNET_PROTOCOL_VERSION 1496).length) c
        [.call default (.packet [0xfe, 1]), .fire default 1] := by
    decide +kernel
  rw [hsize]
  exact hmodest c' hexec

/-- With the mtu of that handshake, a buffer of 1500 bytes goes out in one datagram, which is larger
than the probe. -/
theorem path_mtu_counterexample :
    (∃ h, Run.exec (step (.v4 ⟨127, 0, 0, 1⟩ 50000)) (new 7 (.v4 ⟨127, 0, 0, 1⟩ 19132)
        (.new 9 "motd" 1)) opened = .ok h ∧ .success 1591 ∈ h.client.parent
        ∧ probe RAKNET_PROTOCOL_VERSION 1496 ∈ h.arrived)
      ∧ ∃ c, Run.exec RakClient.step (.init 7) opening = .ok c
        ∧ c.success? (.deliver default) = some 1591
        ∧ ∃ c', Run.exec RakClient.step c [.deliver default,
            .call default (.packet (List.replicate 1500 0xfe)), .fire default 1] = .ok c'
          ∧ ∃ s, c'.session = some s ∧ ¬Fits 1496 s := by
  obtain ⟨h, hh, hparent, harrived⟩ := exec_opened
  obtain ⟨c, -, hc, hopen, -⟩ := exec_opening
  refine ⟨⟨h, hh, by rw [hparent]; exact List.mem_singleton.mpr rfl, harrived⟩, c, hc, hopen, ?_⟩
  have hrun : (fun c => c.session.map fun s => s.udp.map (·.bytes.length)) <$>
      Run.exec RakClient.step (.init 7) (opening ++ [.deliver default,
        .call default (.packet (List.replicate 1500 0xfe)), .fire default 1])
      = .ok (some [1538]) := by
    decide +kernel
  obtain ⟨c', hc', heq⟩ := map_eq_ok.mp hrun
  obtain ⟨_, hopening, hrest⟩ := Run.exec_append.mp hc'
  obtain rfl := Except.ok.inj (hopening.symm.trans hc)
  obtain ⟨s, hs, hlengths⟩ := Option.map_eq_some_iff.mp heq
  refine ⟨c', hrest, s, hs, fun hfits => ?_⟩
  obtain ⟨p, hp, hlen⟩ := List.mem_map.mp (hlengths ▸ List.mem_singleton.mpr rfl :
    1538 ∈ s.udp.map (·.bytes.length))
  have hle := hfits p hp
  have hprobe := length_probe RAKNET_PROTOCOL_VERSION (show 50 ≤ (1496 : UInt16).toNat by decide)
  have hsize : (1496 : UInt16).toNat = 1496 := rfl
  omega

end Handshake

end ActixRaknet
