import ActixRaknet.Client.Ping
import ActixRaknet.Client.Sessions
import ActixRaknet.Packets.Magic
import ActixRaknet.Server.Basic
import ActixRaknet.Server.Sessions

/-!
What the magic of an offline packet is good for.

* `RakServer.Kept`: what holds of every connection of a server;
* `RakServer.keeps_iff`, `ClientMediator.keeps_iff`, `RakPing.keeps_iff`: which datagrams leave an
  actor as it is; `RakClient.keeps` for the client, which hands them on;
* `Receiver`, `Receiver.Reachable`: the actors that datagrams come to, in the states of a run;
* `Receiver.Ignores`, `Receiver.Takes`: the datagram has no effect, and the actor acts on it;
* `wrongMagic_ignored_iff`: what the decoders record of the magic is not looked at.
-/

namespace ActixRaknet

open Fallible

/-! ### Sessions -/

/-- A session ignores a datagram without a flag of its protocol. -/
lemma Session.handle_offline {s : Session} {env : Session.Env} {t : OfflineType} {msg : UdpPacket}
    (hid : msg.bytes.head? = some t.id) : s.handle env msg = .ok s := by
  rw [Session.handle, index_zero_eq_ok.mpr hid, ok_bind]
  cases t <;> rfl

/-- What a session posts is taken at the end of each call. -/
lemma Session.parent_exec {s s' : Session} {ops : List Session.Op} (h : s.parent = [])
    (hs : Run.exec Session.turn s ops = .ok s') : s'.parent = [] := by
  refine Run.invariant (P := fun s : Session => s.parent = []) (fun s op s' _ hturn => ?_) h hs
  obtain ⟨t, -, ht⟩ := bind_eq_ok.mp hturn
  exact Except.ok.inj ht ▸ rfl

namespace ServerConn

/-- A connection hands the datagram to its session. -/
lemma handle_offline {c : ServerConn} {env : Env} {t : OfflineType} {msg : UdpPacket}
    (h : c.session.parent = []) (hid : msg.bytes.head? = some t.id) :
    c.handle env (.receivedUdp msg) = .ok c := by
  rw [handle, withSession, Session.handle_offline hid, ok_bind, pure_eq_ok, putSession, h,
    List.append_nil, List.map_nil, Context.post, List.append_nil, ← h]

end ServerConn

/-- What holds of a list's members and is kept by `f` holds after one of them is modified. -/
lemma forall_mem_modify {α : Type*} {P : α → Prop} {f : α → α} (hf : ∀ a, P a → P (f a))
    {l : List α} (hl : ∀ a ∈ l, P a) (i : ℕ) : ∀ a ∈ l.modify i f, P a := by
  intro a ha
  obtain ⟨j, hj⟩ := List.mem_iff_getElem?.mp ha
  rw [List.getElem?_modify] at hj
  obtain ⟨b, hb, rfl⟩ := Option.map_eq_some_iff.mp hj
  split_ifs
  · exact hf b (hl b (List.mem_of_getElem? hb))
  · exact hl b (List.mem_of_getElem? hb)

/-- A map that does not see `f` does not see a modification by it. -/
lemma map_modify {α β : Type*} {f : α → α} {g : α → β} (hg : ∀ a, g (f a) = g a) (l : List α)
    (i : ℕ) : (l.modify i f).map g = l.map g := by
  refine List.ext_getElem? fun j => ?_
  rw [List.getElem?_map, List.getElem?_map, List.getElem?_modify, Option.map_eq_map,
    Option.map_map]
  refine congrArg (Option.map · _) (funext fun a => ?_)
  rw [Function.comp_apply]
  split_ifs
  · exact hg a
  · rfl

namespace RakServer

/-- What holds of new connections and is kept by what happens to a connection. -/
structure Kept (P : ServerConn → Prop) : Prop where
  new : ∀ mtu guid addr lastPing lastReceive, P (.new mtu guid addr lastPing lastReceive)
  post : ∀ c msg, P c → P (c.post msg)
  gone : ∀ c, P c → P { c with life := .terminated }
  step : ∀ (c c' : ServerConn) action, P c → c.step action = .ok c' → P { c' with server := [] }

variable {P : ServerConn → Prop} {s s' : RakServer}

lemma Kept.receivedUdp (h : Kept P) (hs : ∀ c ∈ s.connections, P c) {env : Env} {msg : UdpPacket}
    (hstep : s.handleReceivedUdp env msg = .ok s') : ∀ c ∈ s'.connections, P c := by
  rw [handleReceivedUdp] at hstep
  split at hstep
  · obtain rfl := Except.ok.inj hstep
    exact forall_mem_modify (fun c => h.post c _) hs _
  · obtain ⟨id, -, hstep⟩ := bind_eq_ok.mp hstep
    split_ifs at hstep
    · rcases unwrapOrReturn_eq_ok hstep with rfl | ⟨ping, -, hstep⟩
      · exact hs
      · obtain ⟨bytes, rfl⟩ := reply_eq_ok hstep
        exact hs
    · rcases unwrapOrReturn_eq_ok hstep with rfl | ⟨request1, -, hstep⟩
      · exact hs
      · rw [handleRequest1] at hstep
        split_ifs at hstep
        all_goals
          obtain ⟨bytes, rfl⟩ := reply_eq_ok hstep
          exact hs
    · rcases unwrapOrReturn_eq_ok hstep with rfl | ⟨request2, -, hstep⟩
      · exact hs
      · rw [handleRequest2] at hstep
        split_ifs at hstep
        · obtain ⟨bytes, rfl⟩ := reply_eq_ok hstep
          exact hs
        · obtain ⟨t, ht, hstep⟩ := bind_eq_ok.mp hstep
          obtain ⟨bytes, rfl⟩ := reply_eq_ok ht
          obtain ⟨worker, -, hstep⟩ := bind_eq_ok.mp hstep
          obtain rfl := Except.ok.inj hstep
          intro c hc
          rcases List.mem_append.mp hc with hc | hc
          · exact hs c hc
          · exact List.mem_singleton.mp hc ▸ h.new _ _ _ _ _
    · exact Except.ok.inj hstep ▸ hs

lemma Kept.connStep (h : Kept P) (hs : ∀ c ∈ s.connections, P c) (conn : ℕ)
    (action : ServerConn.Action) : ∀ c ∈ (s.connStep conn action).connections, P c := by
  rw [RakServer.connStep]
  split
  · exact hs
  · rename_i c hc
    have hP := hs c (List.mem_of_getElem? hc)
    split
    · intro d hd
      rcases List.mem_or_eq_of_mem_set hd with hd | rfl
      · exact hs d hd
      · exact h.gone c hP
    · rename_i c' hc'
      intro d hd
      rcases List.mem_or_eq_of_mem_set hd with hd | rfl
      · exact hs d hd
      · exact h.step c c' action hP hc'

/-- **What all connections of a server keep.** -/
theorem Kept.exec (h : Kept P) {guid : UInt64} {motd : String} {thread : ℕ} {actions : List Action}
    (hs : Run.exec RakServer.step (.new guid motd thread) actions = .ok s) :
    ∀ c ∈ s.connections, P c := by
  refine Run.invariant (P := fun s : RakServer => ∀ c ∈ s.connections, P c)
    (fun s a s' hs hstep => ?_) (fun c hc => absurd hc List.not_mem_nil) hs
  cases a with
  | receivedUdp env msg => exact h.receivedUdp hs hstep
  | setMotd motd => exact Except.ok.inj hstep ▸ hs
  | deliver =>
      rw [RakServer.step] at hstep
      split at hstep
      · exact Except.ok.inj hstep ▸ hs
      · obtain ⟨worker, -, hstep⟩ := bind_eq_ok.mp hstep
        obtain ⟨connectedId, -, hstep⟩ := bind_eq_ok.mp hstep
        obtain rfl := Except.ok.inj hstep
        exact hs
  | conn conn action => exact Except.ok.inj hstep ▸ h.connStep hs conn action

/-- The session of a connection has nothing to post between turns. -/
lemma kept_parent : Kept fun c => c.session.parent = [] where
  new _ _ _ _ _ := rfl
  post _ _ h := h
  gone _ h := h
  step c c' action h hc := by
    have hturn : c.turn (.act action) = .ok c' := hc
    exact Session.parent_exec h (ServerConn.turn_session hturn).1

end RakServer

namespace RakClient

/-- The session of a client has nothing to post between steps. -/
lemma parent_step {c c' : RakClient} {a : Action} (h : ∀ s ∈ c.session, s.parent = [])
    (hc : c.step a = .ok c') : ∀ s ∈ c'.session, s.parent = [] := by
  intro s' hs'
  cases hsuccess : c.success? a with
  | some mtu =>
      obtain ⟨env, remote, s, -, hturn, hs⟩ := step_success hsuccess hc
      obtain rfl := Option.some.inj (hs.symm.trans hs')
      exact Session.parent_exec (s := .new remote mtu env.lastPing env.lastReceive) rfl
        (Run.exec_singleton.mpr hturn)
  | none =>
      rcases step_session hsuccess hc with ⟨s, t, hs, hexec, ht⟩ | hnone
      · obtain rfl := Option.some.inj (ht.symm.trans hs')
        exact Session.parent_exec (h s hs) hexec
      · cases hnone.symm.trans hs'

end RakClient

/-! ### The actors -/

namespace RakServer

/-- The server, but for the messages that wait for its connections. -/
def unread (s : RakServer) : RakServer :=
  { s with connections := s.connections.map fun c => { c with ctx := c.ctx.withMailbox [] } }

variable {s s' : RakServer}

lemma unread_sendConn (s : RakServer) (conn : ℕ) (msg : UdpPacket) :
    (s.sendConn conn msg).unread = s.unread := by
  have hmap := map_modify (f := fun c : ServerConn => c.post (.receivedUdp msg))
    (g := fun c => { c with ctx := c.ctx.withMailbox [] }) (fun _ => rfl) s.connections conn
  exact congrArg (fun connections => { s with connections := connections }) hmap

lemma unread_ne_of_udp {bytes : Bytes} {addr : SocketAddr}
    (h : s'.udp = s.udp ++ [⟨bytes, addr⟩]) : s'.unread ≠ s.unread := by
  intro heq
  have hudp : s'.udp = s.udp := show s'.unread.udp = s.unread.udp from congrArg RakServer.udp heq
  have hlen := congrArg List.length (h.symm.trans hudp)
  rw [List.length_append, List.length_singleton] at hlen
  omega

/-- Every request that decodes is answered. -/
lemma handleRequest2_udp {env : Env} {addr : SocketAddr} {request2 : OpenConnectionRequest2}
    (h : s.handleRequest2 env addr request2 = .ok s') :
    ∃ bytes, s'.udp = s.udp ++ [⟨bytes, addr⟩] := by
  rw [handleRequest2] at h
  split_ifs at h
  · obtain ⟨bytes, rfl⟩ := reply_eq_ok h
    exact ⟨bytes, rfl⟩
  · obtain ⟨t, ht, h⟩ := bind_eq_ok.mp h
    obtain ⟨bytes, rfl⟩ := reply_eq_ok ht
    obtain ⟨worker, -, h⟩ := bind_eq_ok.mp h
    obtain rfl := Except.ok.inj h
    exact ⟨bytes, rfl⟩

lemma handleRequest1_udp {addr : SocketAddr} {request1 : OpenConnectionRequest1}
    (h : s.handleRequest1 addr request1 = .ok s') : ∃ bytes, s'.udp = s.udp ++ [⟨bytes, addr⟩] := by
  rw [handleRequest1] at h
  split_ifs at h
  all_goals
    obtain ⟨bytes, rfl⟩ := reply_eq_ok h
    exact ⟨bytes, rfl⟩

/-- The datagrams that a server answers. -/
def Answers (bytes : Bytes) : Prop :=
  Reads UnconnectedPing bytes ∨ Reads OpenConnectionRequest1 bytes
    ∨ Reads OpenConnectionRequest2 bytes

/-- **Which datagrams leave the server as it is.** -/
lemma keeps_iff {env : Env} {msg : UdpPacket} (hmsg : msg.bytes ≠ []) :
    (∃ s', s.handleReceivedUdp env msg = .ok s' ∧ s'.unread = s.unread)
      ↔ ¬(msg.addr ∉ s.conns ∧ Answers msg.bytes) := by
  by_cases hconn : msg.addr ∈ s.conns
  · obtain ⟨conn, hlookup⟩ := HashMap.exists_lookup_of_mem hconn
    rw [handleReceivedUdp, hlookup]
    exact iff_of_true ⟨_, rfl, unread_sendConn s conn msg⟩ fun h => h.1 hconn
  · obtain ⟨id, payload, hbytes⟩ := List.exists_cons_of_ne_nil hmsg
    have hid : msg.bytes.head? = some id := by rw [hbytes, List.head?_cons]
    rw [handleReceivedUdp, AList.lookup_eq_none.mpr hconn, and_iff_right hconn, Answers,
      index_zero_eq_ok.mpr hid, ok_bind]
    split_ifs with hping hrequest1 hrequest2
    · subst hping
      have h₁ := not_reads_of_id (P := OpenConnectionRequest1) hid (by decide)
      have h₂ := not_reads_of_id (P := OpenConnectionRequest2) hid (by decide)
      rw [or_iff_left (not_or.mpr ⟨h₁, h₂⟩)]
      refine unwrapOrReturn_keeps_iff_not_reads rfl (fun ping s' h => ?_) hid
      obtain ⟨bytes, rfl⟩ := reply_eq_ok h
      exact unread_ne_of_udp rfl
    · subst hrequest1
      have h₀ := not_reads_of_id (P := UnconnectedPing) hid (by decide)
      have h₂ := not_reads_of_id (P := OpenConnectionRequest2) hid (by decide)
      rw [or_iff_right h₀, or_iff_left h₂]
      refine unwrapOrReturn_keeps_iff_not_reads rfl (fun request1 s' h => ?_) hid
      obtain ⟨bytes, hudp⟩ := handleRequest1_udp h
      exact unread_ne_of_udp hudp
    · subst hrequest2
      have h₀ := not_reads_of_id (P := UnconnectedPing) hid (by decide)
      have h₁ := not_reads_of_id (P := OpenConnectionRequest1) hid (by decide)
      rw [or_iff_right h₀, or_iff_right h₁]
      refine unwrapOrReturn_keeps_iff_not_reads rfl (fun request2 s' h => ?_) hid
      obtain ⟨bytes, hudp⟩ := handleRequest2_udp h
      exact unread_ne_of_udp hudp
    · refine iff_of_true ⟨s, rfl, rfl⟩ ?_
      rintro (h | h | h)
      · exact not_reads_of_id hid hping h
      · exact not_reads_of_id hid hrequest1 h
      · exact not_reads_of_id hid hrequest2 h

end RakServer

namespace RakClient

/-- The client, but for the messages that wait for its mediators. -/
def unread (c : RakClient) : RakClient :=
  { c with mediators := c.mediators.map fun m => { m with ctx := m.ctx.withMailbox [] } }

lemma unread_sendMediator (c : RakClient) (mediator : ℕ) (msg : MediatorMsg) :
    (c.sendMediator mediator msg).unread = c.unread := by
  have hmap := map_modify (f := fun m : ClientMediator => { m with ctx := m.ctx.post [msg] })
    (g := fun m => { m with ctx := m.ctx.withMailbox [] }) (fun _ => rfl) c.mediators mediator
  exact congrArg (fun mediators => { c with mediators := mediators }) hmap

lemma putSession_self {c : RakClient} {s : Session} (hs : c.session = some s)
    (h : s.parent = []) : c.putSession s = c := by
  rw [putSession, h, List.map_nil, Context.post, List.append_nil, ← h, ← hs]

/-- A client hands the datagram to its mediator, or to its session, which ignores it. -/
lemma keeps {c : RakClient} (h : ∀ s ∈ c.session, s.parent = []) {env : Env} {t : OfflineType}
    {msg : UdpPacket} (hid : msg.bytes.head? = some t.id) :
    ∃ c', c.handleReceivedUdp env msg = .ok c' ∧ c'.unread = c.unread := by
  rw [handleReceivedUdp]
  split
  · exact ⟨c, rfl, rfl⟩
  · by_cases haddr : ‹SocketAddr› ≠ msg.addr
    · exact ⟨c, if_pos haddr, rfl⟩
    · rw [if_neg haddr]
      split
      · exact ⟨_, rfl, unread_sendMediator c _ _⟩
      · split_ifs with hsession
        · obtain ⟨s, hs⟩ := Option.isSome_iff_exists.mp hsession
          refine ⟨c, withSession_eq_ok.mpr ⟨s, s, hs, Session.handle_offline hid, ?_⟩, rfl⟩
          exact (putSession_self hs (h s hs)).symm
        · exact ⟨c, rfl, rfl⟩

end RakClient

namespace ClientMediator

variable {m : ClientMediator}

/-- The datagrams that a mediator takes for an answer to its request. -/
def Expects (bytes : Bytes) : Prop :=
  Reads OpenConnectionReply1 bytes ∨ Reads OpenConnectionReply2 bytes
    ∨ Reads AlreadyConnected bytes ∨ Reads IncompatibleProtocolVersion bytes

/-- A mediator with a request pending keeps its state exactly when the reply does not decode. -/
lemma onReply_eq_self_iff {handle : ℕ} (hhandle : m.nextRequest1Handle = some handle) {P : Type}
    [Packet P] {bytes : Bytes} {next : ClientMediator → P → Except Panic ClientMediator}
    (hnext : ∀ p, next { m with
      ctx := m.ctx.cancelFuture handle, nextRequest1Handle := none } p ≠ .ok m)
    (hid : bytes.head? = some (Packet.ID P)) :
    m.onReply P bytes next = .ok m ↔ ¬Reads P bytes := by
  rw [onReply, hhandle, ← unwrapOrReturn_keeps_iff_not_reads (s := m) (K := (· = m)) rfl
    (fun p m' h heq => hnext p (h.trans (congrArg Except.ok heq))) hid]
  constructor
  · intro h
    exact ⟨m, h, rfl⟩
  · rintro ⟨m', h, rfl⟩
    exact h

/-- An answer that is reported leaves no request pending. -/
lemma event_ne {handle : ℕ} (hhandle : m.nextRequest1Handle = some handle)
    (ctx : Context MediatorMsg MediatorTimer) (e : MediatorEvent) :
    event { m with ctx := ctx, nextRequest1Handle := none } e ≠ m := by
  intro heq
  have hnone : (none : Option ℕ) = m.nextRequest1Handle := congrArg nextRequest1Handle heq
  rw [hhandle] at hnone
  cases hnone

lemma success_ne {handle : ℕ} (hhandle : m.nextRequest1Handle = some handle)
    (ctx : Context MediatorMsg MediatorTimer) (mtu : UInt16) :
    success { m with ctx := ctx, nextRequest1Handle := none } mtu ≠ m := by
  intro heq
  have hnone : (success { m with ctx := ctx, nextRequest1Handle := none } mtu).nextRequest1Handle
      = none := by
    rw [success]
    split <;> rfl
  rw [heq, hhandle] at hnone
  cases hnone

/-- A second request is one more datagram. -/
lemma request2_ne {t : ClientMediator} (ht : t.udp = m.udp) (mtu : UInt16) :
    t.request2 mtu ≠ .ok m := by
  intro h
  obtain ⟨bytes, -, h⟩ := bind_eq_ok.mp h
  obtain rfl := Except.ok.inj h
  have hlen : t.udp.length = (t.udp ++ [(⟨bytes, t.address⟩ : UdpPacket)]).length :=
    congrArg List.length ht
  rw [List.length_append, List.length_singleton] at hlen
  omega

/-- **Which datagrams leave the mediator as it is.** -/
lemma keeps_iff {msg : UdpPacket} (hmsg : msg.bytes ≠ []) :
    m.handleReceivedUdp msg = .ok m
      ↔ ¬(m.nextRequest1Handle.isSome = true ∧ Expects msg.bytes) := by
  obtain ⟨id, payload, hbytes⟩ := List.exists_cons_of_ne_nil hmsg
  have hid : msg.bytes.head? = some id := by rw [hbytes, List.head?_cons]
  rw [handleReceivedUdp, index_zero_eq_ok.mpr hid, ok_bind]
  cases hhandle : m.nextRequest1Handle with
  | none =>
      refine iff_of_true ?_ fun h => Bool.false_ne_true h.1
      simp only [onReply, hhandle, ite_self]
  | some handle =>
      rw [Option.isSome_some, and_iff_right rfl, Expects]
      split_ifs with h₁ h₂ h₃ h₄
      · subst h₁
        have h₂ := not_reads_of_id (P := OpenConnectionReply2) hid (by decide)
        have h₃ := not_reads_of_id (P := AlreadyConnected) hid (by decide)
        have h₄ := not_reads_of_id (P := IncompatibleProtocolVersion) hid (by decide)
        rw [or_iff_left (not_or.mpr ⟨h₂, not_or.mpr ⟨h₃, h₄⟩⟩)]
        exact onReply_eq_self_iff hhandle (fun p => request2_ne (m := m) (t := { m with
          ctx := m.ctx.cancelFuture handle, nextRequest1Handle := none }) rfl p.mtuSize) hid
      · subst h₂
        have h₁ := not_reads_of_id (P := OpenConnectionReply1) hid (by decide)
        have h₃ := not_reads_of_id (P := AlreadyConnected) hid (by decide)
        have h₄ := not_reads_of_id (P := IncompatibleProtocolVersion) hid (by decide)
        rw [or_iff_right h₁, or_iff_left (not_or.mpr ⟨h₃, h₄⟩)]
        refine onReply_eq_self_iff hhandle (fun p h => ?_) hid
        obtain ⟨mtu, -, h⟩ := bind_eq_ok.mp h
        exact success_ne hhandle _ _ (Except.ok.inj h)
      · subst h₃
        have h₁ := not_reads_of_id (P := OpenConnectionReply1) hid (by decide)
        have h₂ := not_reads_of_id (P := OpenConnectionReply2) hid (by decide)
        have h₄ := not_reads_of_id (P := IncompatibleProtocolVersion) hid (by decide)
        rw [or_iff_right h₁, or_iff_right h₂, or_iff_left h₄]
        exact onReply_eq_self_iff hhandle (fun p h => event_ne hhandle _ _ (Except.ok.inj h)) hid
      · subst h₄
        have h₁ := not_reads_of_id (P := OpenConnectionReply1) hid (by decide)
        have h₂ := not_reads_of_id (P := OpenConnectionReply2) hid (by decide)
        have h₃ := not_reads_of_id (P := AlreadyConnected) hid (by decide)
        rw [or_iff_right h₁, or_iff_right h₂, or_iff_right h₃]
        exact onReply_eq_self_iff hhandle (fun p h => event_ne hhandle _ _ (Except.ok.inj h)) hid
      · refine iff_of_true rfl ?_
        rintro (h | h | h | h)
        · exact not_reads_of_id hid h₁ h
        · exact not_reads_of_id hid h₂ h
        · exact not_reads_of_id hid h₃ h
        · exact not_reads_of_id hid h₄ h

end ClientMediator

/-- **Which datagrams leave the pinging actor as it is.** -/
lemma RakPing.keeps_iff {p : RakPing} {msg : UdpPacket} (hmsg : msg.bytes ≠ []) :
    p.handleReceivedUdp msg = .ok p ↔ ¬Reads UnconnectedPong msg.bytes := by
  obtain ⟨id, payload, hbytes⟩ := List.exists_cons_of_ne_nil hmsg
  have hid : msg.bytes.head? = some id := by rw [hbytes, List.head?_cons]
  rw [handleReceivedUdp, index_zero_eq_ok.mpr hid, ok_bind]
  split_ifs with hpong
  · subst hpong
    rw [← unwrapOrReturn_keeps_iff_not_reads (s := p) (K := (· = p)) rfl ?_ hid]
    · exact ⟨fun h => ⟨p, h, rfl⟩, fun ⟨p', h, heq⟩ => heq ▸ h⟩
    · intro pong p' h heq
      rw [heq] at h
      have hlen := congrArg (fun p => p.handler.length) (Except.ok.inj h)
      simp only [List.length_append, List.length_singleton] at hlen
      omega
  · exact iff_of_true rfl (not_reads_of_id hid hpong)

/-! ### Datagrams without the magic -/

/-- An actor that datagrams come to, with what its handler reads from outside. -/
inductive Receiver
  | server (s : RakServer) (env : RakServer.Env)
  | connection (c : ServerConn) (env : ServerConn.Env)
  | client (c : RakClient) (env : RakClient.Env)
  | mediator (m : ClientMediator)
  | ping (p : RakPing)

namespace Receiver

/-- The actor is in a state that it comes to in a run. -/
inductive Reachable : Receiver → Prop
  | server {guid motd thread actions s} (env)
      (h : Run.exec RakServer.step (.new guid motd thread) actions = .ok s) :
      Reachable (.server s env)
  | connection {guid motd thread actions s c} (env)
      (h : Run.exec RakServer.step (.new guid motd thread) actions = .ok s)
      (hc : c ∈ s.connections) : Reachable (.connection c env)
  | client {guid actions c} (env) (h : Run.exec RakClient.step (.init guid) actions = .ok c) :
      Reachable (.client c env)
  | mediator {guid actions c m} (h : Run.exec RakClient.step (.init guid) actions = .ok c)
      (hm : m ∈ c.mediators) (hlife : m.life = .started) : Reachable (.mediator m)
  | ping {actions p} (h : Run.exec RakPing.step .new actions = .ok p) : Reachable (.ping p)

/-- The datagram has no effect: the actor keeps its state, with its timers and the logs of what it
has sent and told, up to the datagram that it hands on to an actor of its own. -/
def Ignores : Receiver → UdpPacket → Prop
  | server s env, msg => ∃ s', s.handleReceivedUdp env msg = .ok s' ∧ s'.unread = s.unread
  | connection c env, msg => c.handle env (.receivedUdp msg) = .ok c
  | client c env, msg => ∃ c', c.handleReceivedUdp env msg = .ok c' ∧ c'.unread = c.unread
  | mediator m, msg => m.handleReceivedUdp msg = .ok m
  | ping p, msg => p.handleReceivedUdp msg = .ok p

/-- The actor acts on the datagram: a server on a request of an address without a connection, a
mediator on an answer while a request is pending, and the pinging actor on a pong. -/
def Takes : Receiver → UdpPacket → Prop
  | server s _, msg => msg.addr ∉ s.conns ∧ RakServer.Answers msg.bytes
  | connection _ _, _ => False
  | client _ _, _ => False
  | mediator m, msg => m.nextRequest1Handle.isSome = true ∧ ClientMediator.Expects msg.bytes
  | ping _, msg => Reads UnconnectedPong msg.bytes

end Receiver

/-- **Which offline packets with a wrong magic are ignored.**  In every state that an actor can
reach, a datagram of any of the eight packets with other bytes in the place of the magic has no
effect exactly if it is none that the actor acts on, and for that the magic does not matter. -/
theorem wrongMagic_ignored_iff {r : Receiver} (hr : r.Reachable) {t : OfflineType} {msg : UdpPacket}
    (hmsg : WrongMagic t msg.bytes) : r.Ignores msg ↔ ¬r.Takes msg := by
  have hbytes : msg.bytes ≠ [] := by
    intro hnil
    have hhead := hmsg.head
    rw [hnil] at hhead
    cases hhead
  cases hr with
  | server env h => exact RakServer.keeps_iff hbytes
  | connection env h hc =>
      have hparent := RakServer.kept_parent.exec h _ hc
      exact iff_of_true (ServerConn.handle_offline hparent hmsg.head) id
  | client env h =>
      have hparent := Run.invariant
        (P := fun c : RakClient => ∀ s ∈ c.session, s.parent = [])
        (fun _ _ _ hs hstep => RakClient.parent_step hs hstep) (by rintro _ ⟨⟩) h
      exact iff_of_true (RakClient.keeps hparent hmsg.head) id
  | mediator h hm hlife => exact ClientMediator.keeps_iff hbytes
  | ping h => exact RakPing.keeps_iff hbytes

/-- An `UnconnectedPing` with zeros for the magic. -/
def zeroPing : UdpPacket := ⟨0x01 :: List.replicate 32 0, .v4 ⟨127, 0, 0, 1⟩ 50000⟩

/-- The theorem at a new server and a ping without the magic. -/
theorem wrongMagic_ignored_iff_ping :
    (Receiver.server (.new 9 "motd" 1) default).Ignores zeroPing
      ↔ ¬(Receiver.server (.new 9 "motd" 1) default).Takes zeroPing := by
  have hnew : (Receiver.server (.new 9 "motd" 1) default).Reachable :=
    .server default (Run.exec_nil _)
  have hwrong : WrongMagic .unconnectedPing zeroPing.bytes := by decide
  exact wrongMagic_ignored_iff hnew hwrong

/-- An `AlreadyConnected` with zeros for the magic. -/
def zeroAlreadyConnected : UdpPacket := ⟨0x12 :: List.replicate 24 0, .v4 ⟨127, 0, 0, 1⟩ 19132⟩

/-- A new server answers a ping with zeros for the magic.  A mediator that has asked once, and has
said nothing, gives up for an `AlreadyConnected` with zeros for the magic. -/
theorem wrongMagic_counterexample :
    (WrongMagic .unconnectedPing zeroPing.bytes ∧ ∃ s,
      RakServer.handleReceivedUdp (.new 9 "motd" 1) default zeroPing = .ok s ∧ s.udp.length = 1
        ∧ ¬(Receiver.server (.new 9 "motd" 1) default).Ignores zeroPing)
      ∧ WrongMagic .alreadyConnected zeroAlreadyConnected.bytes ∧ ∃ m m',
        Receiver.Reachable (.mediator m) ∧ m.parent = []
          ∧ m.handleReceivedUdp zeroAlreadyConnected = .ok m' ∧ m'.parent = [.alreadyConnected]
          ∧ ¬(Receiver.mediator m).Ignores zeroAlreadyConnected := by
  refine ⟨⟨by decide, ?_⟩, by decide, ?_⟩
  · have hudp : (fun s => s.udp.length)
        <$> RakServer.handleReceivedUdp (.new 9 "motd" 1) default zeroPing = .ok 1 := by
      decide +kernel
    obtain ⟨s, hs, hlen⟩ := map_eq_ok.mp hudp
    refine ⟨s, hs, hlen, ?_⟩
    rintro ⟨s', hs', hunread⟩
    obtain rfl := Except.ok.inj (hs.symm.trans hs')
    have hnil : s.udp = [] := congrArg RakServer.udp hunread
    rw [hnil] at hlen
    cases hlen
  · have hrun : (fun c => c.mediators.map fun m => (m.life, m.parent,
        (fun m' => m'.parent) <$> m.handleReceivedUdp zeroAlreadyConnected))
        <$> Run.exec RakClient.step (.init 7) [.call default (.connect zeroAlreadyConnected.addr),
          .mediator 0 .start] = .ok [(.started, [], .ok [.alreadyConnected])] := by
      decide +kernel
    obtain ⟨c, hc, hmap⟩ := map_eq_ok.mp hrun
    obtain ⟨m, hm, hlife⟩ := List.map_eq_singleton_iff.mp hmap
    simp only [Prod.mk.injEq] at hlife
    obtain ⟨hlife, hparent, hreply⟩ := hlife
    obtain ⟨m', hm', htold⟩ := map_eq_ok.mp hreply
    refine ⟨m, m', .mediator hc (hm ▸ List.mem_singleton_self m) hlife, hparent, hm', htold, ?_⟩
    intro hsame
    obtain rfl := Except.ok.inj (hm'.symm.trans hsame)
    cases hparent.symm.trans htold

end ActixRaknet
