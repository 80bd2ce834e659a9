import ActixRaknet.Client.Mediator
import ActixRaknet.Handshake.Datagrams
import ActixRaknet.Server.Basic

/-!
One mediator and a server, joined by a network that loses, repeats and reorders their datagrams.

* `Handshake`, `step`: either side does something, or a datagram that one side has sent is handled
  by the other; the server may have other clients, whose datagrams come in as well;
* `Probed`, `Got`: a size the mediator asks with, and a size the server has read off a request;
* `Request`, `Reply`: the datagrams of the two sides;
* `Asking`: what the mediator has sent, received and reported, kept by its steps;
* `Answering`: what the server has sent to the client;
* `Agreed`: both, in every state of a run (`agreed_of_exec`).
-/

namespace ActixRaknet

open Fallible

/-- A size of the requests of a mediator. -/
def Probed (mtuSize : UInt16) : Prop := ∃ n, ClientMediator.mtuSize n = some mtuSize

lemma Probed.cases {mtuSize : UInt16} (h : Probed mtuSize) :
    mtuSize = 1496 ∨ mtuSize = 1204 ∨ mtuSize = 584 := by
  obtain ⟨n, hn⟩ := h
  rw [ClientMediator.mtuSize] at hn
  split_ifs at hn
  · exact Or.inl (Option.some.inj hn).symm
  · exact Or.inr (Or.inl (Option.some.inj hn).symm)
  · exact Or.inr (Or.inr (Option.some.inj hn).symm)

lemma Probed.le {mtuSize : UInt16} (h : Probed mtuSize) :
    584 ≤ mtuSize.toNat ∧ mtuSize.toNat ≤ 1496 := by
  rcases h.cases with rfl | rfl | rfl <;> decide

lemma Probed.room {mtuSize : UInt16} (h : Probed mtuSize) : 50 ≤ mtuSize.toNat :=
  le_trans (by decide) h.le.1

/-- The server has read the size off a request that got through. -/
def Got (arrived : List Bytes) (mtu : UInt16) : Prop :=
  ∃ mtuSize, Probed mtuSize ∧ probe RAKNET_PROTOCOL_VERSION mtuSize ∈ arrived ∧ mtu = mtuSize - 1

/-- A datagram of the mediator. -/
inductive Request (address : SocketAddr) (guid : UInt64) (arrived : List Bytes) : Bytes → Prop
  | request1 (mtuSize) : Probed mtuSize →
    Request address guid arrived (probe RAKNET_PROTOCOL_VERSION mtuSize)
  | request2 (mtu) : Got arrived mtu → Request address guid arrived (request2Bytes address mtu guid)

/-- A datagram of the server to the client: the sizes in it were read off requests. -/
inductive Reply (arrived : List Bytes) : Bytes → Prop
  | reply1 (guid mtu) : Got arrived mtu → Reply arrived (reply1Bytes guid mtu)
  | reply2 (guid address mtu) : Got arrived mtu → Reply arrived (reply2Bytes guid address mtu)
  | other (bytes) : bytes.head? ≠ some 0x6 → bytes.head? ≠ some 0x8 → Reply arrived bytes

lemma Got.mono {arrived : List Bytes} {mtu : UInt16} (h : Got arrived mtu) (bytes : Bytes) :
    Got (arrived ++ [bytes]) mtu := by
  obtain ⟨mtuSize, hprobed, hmem, hmtu⟩ := h
  exact ⟨mtuSize, hprobed, List.mem_append_left _ hmem, hmtu⟩

lemma Request.mono {address : SocketAddr} {guid : UInt64} {arrived : List Bytes} {b : Bytes}
    (h : Request address guid arrived b) (bytes : Bytes) :
    Request address guid (arrived ++ [bytes]) b := by
  cases h with
  | request1 mtuSize hprobed => exact .request1 mtuSize hprobed
  | request2 mtu hgot => exact .request2 mtu (hgot.mono bytes)

lemma Reply.mono {arrived : List Bytes} {b : Bytes} (h : Reply arrived b) (bytes : Bytes) :
    Reply (arrived ++ [bytes]) b := by
  cases h with
  | reply1 guid mtu hgot => exact .reply1 guid mtu (hgot.mono bytes)
  | reply2 guid address mtu hgot => exact .reply2 guid address mtu (hgot.mono bytes)
  | other b h₁ h₂ => exact .other b h₁ h₂

/-! ### The mediator -/

namespace ClientMediator

/-- What a mediator has sent are requests, what waits for it are replies, and a success it has
reported is 96 above a size that the server has read. -/
structure Asking (arrived : List Bytes) (m : ClientMediator) : Prop where
  requests : ∀ p ∈ m.udp, Request m.address m.guid arrived p.bytes
  inbox : ∀ msg, .receivedUdp msg ∈ m.ctx.mailbox → Reply arrived msg.bytes
  success : ∀ mtu, .success mtu ∈ m.parent → ∃ got, Got arrived got ∧ mtu = got + 96

lemma asking_new (guid : UInt64) (address : SocketAddr) (arrived : List Bytes) :
    Asking arrived (new guid address) :=
  ⟨fun _ h => absurd h List.not_mem_nil, fun _ h => absurd h List.not_mem_nil,
    fun _ h => absurd h List.not_mem_nil⟩

variable {arrived : List Bytes} {m m' : ClientMediator}

lemma Asking.mono (h : Asking arrived m) (bytes : Bytes) : Asking (arrived ++ [bytes]) m := by
  refine ⟨fun p hp => (h.requests p hp).mono bytes, fun msg hmsg => (h.inbox msg hmsg).mono bytes,
    fun mtu hmtu => ?_⟩
  obtain ⟨got, hgot, heq⟩ := h.success mtu hmtu
  exact ⟨got, hgot.mono bytes, heq⟩

/-- The address and the guid stay, and the mediator goes on asking. -/
def Asks (arrived : List Bytes) (m m' : ClientMediator) : Prop :=
  m'.Asking arrived ∧ m'.address = m.address ∧ m'.guid = m.guid

lemma Asks.trans {m'' : ClientMediator} (h : Asks arrived m m') (h' : Asks arrived m' m'') :
    Asks arrived m m'' := ⟨h'.1, h'.2.1.trans h.2.1, h'.2.2.trans h.2.2⟩

/-- What a mediator keeps for itself does not matter. -/
lemma Asking.relabel (h : Asking arrived m) (m' : ClientMediator)
    (haddress : m'.address = m.address)
    (hguid : m'.guid = m.guid) (hudp : m'.udp = m.udp) (hparent : m'.parent = m.parent)
    (hmail : m'.ctx.mailbox ⊆ m.ctx.mailbox) : Asks arrived m m' :=
  ⟨⟨by rw [hudp, haddress, hguid]; exact h.requests, fun msg hmsg => h.inbox msg (hmail hmsg),
    by rw [hparent]; exact h.success⟩, haddress, hguid⟩

/-- An event that is no success is reported. -/
lemma Asking.event (h : Asking arrived m) {event : MediatorEvent}
    (he : ∀ mtu, event ≠ .success mtu) :
    Asks arrived m (m.event event) := by
  refine ⟨⟨h.requests, h.inbox, fun mtu hmtu => ?_⟩, rfl, rfl⟩
  rcases List.mem_append.mp hmtu with hmtu | hmtu
  · exact h.success mtu hmtu
  · exact absurd (List.mem_singleton.mp hmtu).symm (he mtu)

/-- A request is sent, and the next one is due. -/
lemma Asking.send (h : Asking arrived m) {bytes : Bytes}
    (hbytes : Request m.address m.guid arrived bytes) :
    Asks arrived m (m.sendUdp bytes).scheduleRequest1 := by
  refine ⟨⟨fun p hp => ?_, h.inbox, h.success⟩, rfl, rfl⟩
  rcases List.mem_append.mp hp with hp | hp
  · exact h.requests p hp
  · rw [List.mem_singleton.mp hp]
    exact hbytes

lemma Asking.request1 (h : Asking arrived m) (hm : m.request1 = .ok m') : Asks arrived m m' := by
  rw [ClientMediator.request1] at hm
  split at hm
  · exact Except.ok.inj hm ▸ h.event fun _ => MediatorEvent.noConfusion
  · rename_i mtuSize hsize
    have hprobed : Probed mtuSize := ⟨_, hsize⟩
    rw [encode_request1 _ hprobed.room] at hm
    simp only [bind_eq_ok, Except.ok.injEq, exists_eq_left', pure_eq_ok] at hm
    obtain ⟨count, -, rfl⟩ := hm
    have hcounted := h.relabel { m with request1Count := count }
      rfl rfl rfl rfl (List.Subset.refl _)
    exact hcounted.trans (hcounted.1.send (.request1 mtuSize hprobed))

lemma Asking.request2 (h : Asking arrived m) {mtu : UInt16} (hgot : Got arrived mtu)
    (hm : m.request2 mtu = .ok m') : Asks arrived m m' := by
  rw [ClientMediator.request2, encode_request2, ok_bind, pure_eq_ok, Except.ok.injEq] at hm
  exact hm ▸ h.send (.request2 mtu hgot)

/-- A reply that is taken cancels the timer of the next request. -/
lemma Asking.onReply (h : Asking arrived m) {P : Type} [Packet P] {bytes : Bytes}
    {next : ClientMediator → P → Except Panic ClientMediator}
    (hnext : ∀ t packet, Asking arrived t → decode P bytes = .ok (.ok packet) →
      next t packet = .ok m' → Asks arrived t m')
    (hm : m.onReply P bytes next = .ok m') : Asks arrived m m' := by
  rcases onReply_eq_ok hm with rfl | ⟨handle, packet, -, hdecode, hm⟩
  · exact ⟨h, rfl, rfl⟩
  · have hcancelled := h.relabel { m with
        ctx := m.ctx.cancelFuture handle, nextRequest1Handle := none }
      rfl rfl rfl rfl (List.Subset.refl _)
    exact hcancelled.trans (hnext _ packet hcancelled.1 hdecode hm)

/-- A success is 96 above the size in the reply. -/
lemma Asking.succeed (h : Asking arrived m) {got : UInt16} (hgot : Got arrived got) {mtu : ℕ}
    (hmtu : u16Add got.toNat 96 = .ok mtu) : Asks arrived m (m.success (UInt16.ofNat mtu)) := by
  obtain ⟨-, rfl⟩ := u16Add_eq_ok.mp hmtu
  rw [ClientMediator.success]
  split
  · exact ⟨h, rfl, rfl⟩
  · refine ⟨⟨h.requests, h.inbox, fun mtu hmtu => ?_⟩, rfl, rfl⟩
    rcases List.mem_append.mp hmtu with hmtu | hmtu
    · exact h.success mtu hmtu
    · rw [List.mem_singleton, MediatorEvent.success.injEq] at hmtu
      refine ⟨got, hgot, hmtu.trans ?_⟩
      rw [UInt16.ofNat_add, UInt16.ofNat_toNat]
      rfl

/-- **A datagram of the server is handled.** -/
lemma Asking.receivedUdp (h : Asking arrived m) {msg : UdpPacket} (hmsg : Reply arrived msg.bytes)
    (hm : m.handleReceivedUdp msg = .ok m') : Asks arrived m m' := by
  rw [handleReceivedUdp] at hm
  cases hbytes : msg.bytes with
  | nil =>
      rw [hbytes] at hm
      cases hm
  | cons id payload =>
      rw [hbytes, index_cons_zero, ok_bind] at hm
      rw [hbytes] at hmsg
      split_ifs at hm with h1 h2 h3 h4
      · refine h.onReply (fun t reply1 ht hdecode hnext => ?_) hm
        cases hmsg with
        | reply1 guid mtu hgot =>
            have hreply := hdecode.symm.trans (decode_reply1 guid mtu)
            obtain rfl := Except.ok.inj (Except.ok.inj hreply)
            exact ht.request2 hgot hnext
        | reply2 guid address mtu hgot => cases h1
        | other _ hne _ => exact absurd (congrArg some h1) hne
      · refine h.onReply (fun t reply2 ht hdecode hnext => ?_) hm
        cases hmsg with
        | reply1 guid mtu hgot => cases h2
        | reply2 guid address mtu hgot =>
            rw [← decode_reply2 hdecode] at hgot
            obtain ⟨mtu', hmtu', hnext⟩ := bind_eq_ok.mp hnext
            exact Except.ok.inj hnext ▸ ht.succeed hgot hmtu'
        | other _ _ hne => exact absurd (congrArg some h2) hne
      · refine h.onReply (fun t _ ht _ hnext => ?_) hm
        exact Except.ok.inj hnext ▸ ht.event fun _ => MediatorEvent.noConfusion
      · refine h.onReply (fun t _ ht _ hnext => ?_) hm
        exact Except.ok.inj hnext ▸ ht.event fun _ => MediatorEvent.noConfusion
      · exact Except.ok.inj hm ▸ ⟨h, rfl, rfl⟩

/-- **Step lemma of the mediator.** -/
lemma Asking.step (h : Asking arrived m) {a : Action} (hm : m.step a = .ok m') :
    Asks arrived m m' := by
  have hsame : Asks arrived m m := ⟨h, rfl, rfl⟩
  cases a with
  | start =>
      rw [ClientMediator.step] at hm
      split_ifs at hm
      · have hstarted := h.relabel { m with
            life := .started
            ctx := m.ctx.spawn .timeout false
            disconnectTimer := some m.ctx.spawned } rfl rfl rfl rfl (List.Subset.refl _)
        exact hstarted.trans (hstarted.1.request1 hm)
      · exact Except.ok.inj hm ▸ hsame
  | deliver =>
      rw [ClientMediator.step] at hm
      split at hm
      · rename_i msg rest hlife hmail
        have hpopped := h.relabel { m with ctx := m.ctx.withMailbox rest }
          rfl rfl rfl rfl (by rw [hmail]; exact List.subset_cons_self _ _)
        refine hpopped.trans ?_
        cases msg with
        | receivedUdp msg =>
            exact hpopped.1.receivedUdp (h.inbox msg (hmail ▸ List.mem_cons_self)) hm
        | terminateMediator =>
            exact Except.ok.inj hm ▸ hpopped.1.relabel _ rfl rfl rfl rfl (List.Subset.refl _)
      · exact Except.ok.inj hm ▸ hsame
  | fire handle =>
      rw [ClientMediator.step] at hm
      split at hm
      · rename_i f hlife hf
        have hfired := h.relabel { m with ctx := m.ctx.fired f }
          rfl rfl rfl rfl (by rw [Context.mailbox_fired]; exact List.Subset.refl _)
        refine hfired.trans ?_
        cases hcallback : f.callback with
        | timeout =>
            rw [hcallback] at hm
            exact Except.ok.inj hm ▸ hfired.1.event fun _ => MediatorEvent.noConfusion
        | request1 =>
            rw [hcallback] at hm
            exact hfired.1.request1 hm
      · exact Except.ok.inj hm ▸ hsame

end ClientMediator

/-! ### The server -/

namespace RakServer

/-- What the server has sent to an address are replies. -/
def Answering (arrived : List Bytes) (addr : SocketAddr) (s : RakServer) : Prop :=
  ∀ p ∈ s.udp, p.addr = addr → Reply arrived p.bytes

variable {arrived : List Bytes} {addr : SocketAddr} {s s' : RakServer}

lemma Answering.mono (h : Answering arrived addr s) (bytes : Bytes) :
    Answering (arrived ++ [bytes]) addr s := fun p hp haddr => (h p hp haddr).mono bytes

lemma Answering.sendUdp (h : Answering arrived addr s) {bytes : Bytes}
    (hbytes : Reply arrived bytes) : Answering arrived addr (s.sendUdp bytes addr) := by
  intro p hp haddr
  rcases List.mem_append.mp hp with hp | hp
  · exact h p hp haddr
  · rw [List.mem_singleton.mp hp]
    exact hbytes

/-- A datagram goes to the connection that is registered for its address. -/
lemma handle_registered {conn : ℕ} (h : s.conns.lookup addr = some conn) (env : Env)
    (bytes : Bytes) : s.handleReceivedUdp env ⟨bytes, addr⟩
      = .ok (s.sendConn conn ⟨bytes, addr⟩) := by
  rw [handleReceivedUdp, h]

/-- A request from a new address is answered with the size read off it. -/
lemma handle_probe (h : s.conns.lookup addr = none) (env : Env) {mtuSize : UInt16}
    (hmtu : 50 ≤ mtuSize.toNat) :
    s.handleReceivedUdp env ⟨probe RAKNET_PROTOCOL_VERSION mtuSize, addr⟩
      = .ok (s.sendUdp (reply1Bytes s.guid (mtuSize - 1)) addr) := by
  have hid : (0x5 : UInt8) ≠ Packet.ID UnconnectedPing := by decide
  have hid' : (0x5 : UInt8) = Packet.ID OpenConnectionRequest1 := rfl
  rw [handleReceivedUdp, h]
  simp only [probe, index_cons_zero, ok_bind, if_neg hid, if_pos hid']
  rw [← probe, unwrapOrReturn, decode_probe _ hmtu]
  simp only [handleRequest1, ne_eq, not_true_eq_false, if_false, reply, encode_reply1, ok_bind,
    pure_eq_ok]

/-- A second request from a new address is handled if it decodes. -/
lemma handle_request2 (h : s.conns.lookup addr = none) (env : Env) (address : SocketAddr)
    (mtu : UInt16) (guid : UInt64) :
    s.handleReceivedUdp env ⟨request2Bytes address mtu guid, addr⟩
      = if address.isIpv4 = true then s.handleRequest2 env addr (.new address mtu guid)
        else .ok s := by
  have hid : (0x7 : UInt8) ≠ Packet.ID UnconnectedPing := by decide
  have hid₁ : (0x7 : UInt8) ≠ Packet.ID OpenConnectionRequest1 := by decide
  have hid₂ : (0x7 : UInt8) = Packet.ID OpenConnectionRequest2 := rfl
  rw [handleReceivedUdp, h]
  simp only [request2Bytes, index_cons_zero, ok_bind, if_neg hid, if_neg hid₁, if_pos hid₂]
  rw [← request2Bytes, unwrapOrReturn]
  cases address with
  | v4 ip port => rw [decode_request2_v4]; rfl
  | v6 ip port => rw [request2Bytes, decode_request2_v6]; rfl

/-- What handling a datagram sends goes to where the datagram came from. -/
lemma handle_udp {env : Env} {msg : UdpPacket} (h : s.handleReceivedUdp env msg = .ok s') :
    ∃ l, s'.udp = s.udp ++ l ∧ ∀ p ∈ l, p.addr = msg.addr := by
  have hnothing : ∃ l, s.udp = s.udp ++ l ∧ ∀ p ∈ l, p.addr = msg.addr :=
    ⟨[], (List.append_nil _).symm, fun _ hp => absurd hp List.not_mem_nil⟩
  have hreply : ∀ {P : Type} [Packet P] {packet : P} {t : RakServer},
      s.reply packet msg.addr = .ok t → ∃ l, t.udp = s.udp ++ l ∧ ∀ p ∈ l, p.addr = msg.addr := by
    intro P _ packet t ht
    obtain ⟨bytes, rfl⟩ := reply_eq_ok ht
    exact ⟨[⟨bytes, msg.addr⟩], rfl, fun p hp => by rw [List.mem_singleton.mp hp]⟩
  rw [handleReceivedUdp] at h
  split at h
  · exact Except.ok.inj h ▸ hnothing
  · obtain ⟨id, -, h⟩ := bind_eq_ok.mp h
    split_ifs at h
    · rcases unwrapOrReturn_eq_ok h with rfl | ⟨ping, -, h⟩
      · exact hnothing
      · exact hreply h
    · rcases unwrapOrReturn_eq_ok h with rfl | ⟨request1, -, h⟩
      · exact hnothing
      · rw [handleRequest1] at h
        split_ifs at h
        · exact hreply h
        · exact hreply h
    · rcases unwrapOrReturn_eq_ok h with rfl | ⟨request2, -, h⟩
      · exact hnothing
      · rw [handleRequest2] at h
        split_ifs at h
        · exact hreply h
        · obtain ⟨t, ht, h⟩ := bind_eq_ok.mp h
          obtain ⟨w, -, h⟩ := bind_eq_ok.mp h
          obtain rfl := Except.ok.inj h
          obtain ⟨l, hudp, hto⟩ := hreply ht
          exact ⟨l, hudp, hto⟩
    · exact Except.ok.inj h ▸ hnothing

/-- **A datagram of the client is handled**: what is sent to it was read off its requests. -/
lemma Answering.handle_request (h : Answering arrived addr s) {env : Env} {address : SocketAddr}
    {guid : UInt64} {bytes : Bytes} (hbytes : Request address guid (arrived ++ [bytes]) bytes)
    (hs : s.handleReceivedUdp env ⟨bytes, addr⟩ = .ok s') :
    Answering (arrived ++ [bytes]) addr s' := by
  have h' := h.mono bytes
  cases hconn : s.conns.lookup addr with
  | some conn =>
      rw [handle_registered hconn] at hs
      exact Except.ok.inj hs ▸ h'
  | none =>
      cases hbytes with
      | request1 mtuSize hprobed =>
          rw [handle_probe hconn env hprobed.room] at hs
          have hgot : Got (arrived ++ [probe RAKNET_PROTOCOL_VERSION mtuSize]) (mtuSize - 1) :=
            ⟨mtuSize, hprobed, List.mem_append_right _ (List.mem_singleton.mpr rfl), rfl⟩
          exact Except.ok.inj hs ▸ h'.sendUdp (.reply1 _ _ hgot)
      | request2 mtu hgot =>
          rw [handle_request2 hconn] at hs
          split_ifs at hs
          · rw [handleRequest2] at hs
            split_ifs at hs
            · obtain ⟨bytes, hencode, hs⟩ := bind_eq_ok.mp hs
              obtain rfl := Except.ok.inj (hencode.symm.trans (encode_eq
                ((Writer.writes_write _).bind (Writer.writes_writeU64 _ _))))
              exact Except.ok.inj hs ▸ h'.sendUdp
                (.other _ (by rw [List.head?_cons]; decide) (by rw [List.head?_cons]; decide))
            · rw [reply, encode_reply2, ok_bind, pure_eq_ok, ok_bind] at hs
              obtain ⟨w, -, hs⟩ := bind_eq_ok.mp hs
              exact Except.ok.inj hs ▸ h'.sendUdp (.reply2 _ _ _ hgot)
          · exact Except.ok.inj hs ▸ h'

/-- The action is a datagram from an address. -/
def Action.From (addr : SocketAddr) : Action → Prop
  | .receivedUdp _ msg => msg.addr = addr
  | _ => False

instance (addr : SocketAddr) : DecidablePred (Action.From addr)
  | .receivedUdp _ _ => inferInstanceAs (Decidable (_ = _))
  | .setMotd _ | .deliver | .conn _ _ => isFalse id

/-- What the server does besides sends the client nothing. -/
lemma Answering.step (h : Answering arrived addr s) {a : Action} (ha : ¬a.From addr)
    (hs : s.step a = .ok s') : Answering arrived addr s' := by
  have hsame : ∀ {t : RakServer}, t.udp = s.udp → Answering arrived addr t := fun ht p hp haddr =>
    h p (ht ▸ hp) haddr
  cases a with
  | receivedUdp env msg =>
      obtain ⟨l, hudp, hto⟩ := handle_udp hs
      intro p hp haddr
      rw [hudp] at hp
      rcases List.mem_append.mp hp with hp | hp
      · exact h p hp haddr
      · exact absurd ((hto p hp).symm.trans haddr) ha
  | setMotd motd => exact hsame (Except.ok.inj hs ▸ rfl)
  | deliver =>
      rw [RakServer.step] at hs
      split at hs
      · exact Except.ok.inj hs ▸ h
      · simp only [handleConnectionEnd, bind_eq_ok, pure_eq_ok, Except.ok.injEq] at hs
        obtain ⟨_, -, _, -, rfl⟩ := hs
        exact hsame rfl
  | conn conn action =>
      refine hsame (Except.ok.inj hs ▸ ?_)
      rw [connStep]
      split
      · rfl
      · split <;> rfl

end RakServer

/-! ### Both -/

/-- A mediator and a server, and the datagrams of the mediator that the server has handled. -/
structure Handshake where
  client : ClientMediator
  server : RakServer
  arrived : List Bytes

namespace Handshake

/-- A new mediator of a client with the given guid, that connects to `address`. -/
def new (guid : UInt64) (address : SocketAddr) (server : RakServer) : Handshake :=
  ⟨.new guid address, server, []⟩

/-- The mediator does something.  One that panics is gone. -/
def clientStep (h : Handshake) (action : ClientMediator.Action) : Handshake :=
  match h.client.step action with
  | .error _ => { h with client := { h.client with life := .terminated } }
  | .ok client => { h with client := client }

/-- A message arrives at the mediator. -/
def post (h : Handshake) (msg : MediatorMsg) : Handshake :=
  { h with client := { h.client with ctx := h.client.ctx.post [msg] } }

/-- The server handles a datagram of the mediator. -/
def request (addr : SocketAddr) (h : Handshake) (env : RakServer.Env) (bytes : Bytes) :
    Except Panic Handshake := do
  let server ← h.server.handleReceivedUdp env ⟨bytes, addr⟩
  return { h with server := server, arrived := h.arrived ++ [bytes] }

/-- What can happen next. -/
inductive Action
  /-- The mediator does something. -/
  | client (action : ClientMediator.Action)
  /-- The mediator is told to terminate. -/
  | terminate
  /-- The server does something. -/
  | server (action : RakServer.Action)
  /-- A datagram of the mediator, by its number, is handled by the server. -/
  | toServer (env : RakServer.Env) (i : ℕ)
  /-- A datagram of the server, by its number, reaches the mediator. -/
  | toClient (i : ℕ)
  /-- Another datagram reaches the mediator, one of a connection of the server, say. -/
  | noise (bytes : Bytes)

/-- A step of a mediator, whose address is `addr`, and a server.  What cannot happen changes
nothing: a datagram that was not sent is not delivered, and no other client has this address. -/
def step (addr : SocketAddr) (h : Handshake) : Action → Except Panic Handshake
  | .client action => .ok (h.clientStep action)
  | .terminate => .ok (h.post .terminateMediator)
  | .server action =>
    if action.From addr then .ok h
    else do
      let server ← h.server.step action
      return { h with server := server }
  | .toServer env i =>
    match h.client.udp[i]? with
    | none => .ok h
    | some packet => h.request addr env packet.bytes
  | .toClient i =>
    match h.server.udp[i]? with
    | none => .ok h
    | some packet =>
      if packet.addr = addr then .ok (h.post (.receivedUdp ⟨packet.bytes, h.client.address⟩))
      else .ok h
  | .noise bytes =>
    if bytes.head? = some (Packet.ID OpenConnectionReply1)
        ∨ bytes.head? = some (Packet.ID OpenConnectionReply2) then .ok h
    else .ok (h.post (.receivedUdp ⟨bytes, h.client.address⟩))

/-- The invariant of the two sides. -/
structure Agreed (addr : SocketAddr) (h : Handshake) : Prop where
  asking : h.client.Asking h.arrived
  answering : h.server.Answering h.arrived addr

lemma Agreed.post {addr : SocketAddr} {h : Handshake} (hh : h.Agreed addr) {msg : MediatorMsg}
    (hmsg : ∀ m, msg = .receivedUdp m → Reply h.arrived m.bytes) : (h.post msg).Agreed addr := by
  refine ⟨⟨hh.asking.requests, fun m hm => ?_, hh.asking.success⟩, hh.answering⟩
  rcases List.mem_append.mp hm with hm | hm
  · exact hh.asking.inbox m hm
  · exact hmsg m (List.mem_singleton.mp hm).symm

/-- **Step lemma.** -/
lemma Agreed.step {addr : SocketAddr} {h h' : Handshake} (hh : h.Agreed addr) {a : Action}
    (hstep : h.step addr a = .ok h') : h'.Agreed addr := by
  cases a with
  | client action =>
      obtain rfl := Except.ok.inj hstep
      rw [clientStep]
      split
      · have hgone := hh.asking.relabel { h.client with life := .terminated }
          rfl rfl rfl rfl (List.Subset.refl _)
        exact ⟨hgone.1, hh.answering⟩
      · rename_i client hclient
        exact ⟨(hh.asking.step hclient).1, hh.answering⟩
  | terminate =>
      exact Except.ok.inj hstep ▸ hh.post fun _ => MediatorMsg.noConfusion
  | server action =>
      rw [Handshake.step] at hstep
      split_ifs at hstep with hfrom
      · exact Except.ok.inj hstep ▸ hh
      · obtain ⟨server, hserver, hstep⟩ := bind_eq_ok.mp hstep
        exact Except.ok.inj hstep ▸ ⟨hh.asking, hh.answering.step hfrom hserver⟩
  | toServer env i =>
      rw [Handshake.step] at hstep
      split at hstep
      · exact Except.ok.inj hstep ▸ hh
      · rename_i packet hpacket
        obtain ⟨server, hserver, hstep⟩ := bind_eq_ok.mp hstep
        have hrequest := (hh.asking.requests packet (List.mem_of_getElem? hpacket)).mono
          packet.bytes
        exact Except.ok.inj hstep
          ▸ ⟨hh.asking.mono packet.bytes, hh.answering.handle_request hrequest hserver⟩
  | toClient i =>
      rw [Handshake.step] at hstep
      split at hstep
      · exact Except.ok.inj hstep ▸ hh
      · rename_i packet hpacket
        split_ifs at hstep with haddr
        · refine Except.ok.inj hstep ▸ hh.post fun m hm => ?_
          rw [← MediatorMsg.receivedUdp.inj hm]
          exact hh.answering packet (List.mem_of_getElem? hpacket) haddr
        · exact Except.ok.inj hstep ▸ hh
  | noise bytes =>
      rw [Handshake.step] at hstep
      split_ifs at hstep with hid
      · exact Except.ok.inj hstep ▸ hh
      · refine Except.ok.inj hstep ▸ hh.post fun m hm => ?_
        rw [← MediatorMsg.receivedUdp.inj hm]
        exact .other bytes (fun h => hid (Or.inl h)) fun h => hid (Or.inr h)

lemma agreed_of_exec {addr address : SocketAddr} {guid : UInt64} (server : RakServer)
    (hserver : server.udp = []) {ops : List Action} {h : Handshake}
    (hops : Run.exec (step addr) (new guid address server) ops = .ok h) : h.Agreed addr := by
  refine Run.invariant (fun _ _ _ hh hstep => hh.step hstep)
    ⟨ClientMediator.asking_new guid address _, ?_⟩ hops
  intro p hp
  rw [new, hserver] at hp
  cases hp

end Handshake

end ActixRaknet
