import ActixRaknet.Handshake.Separation
import ActixRaknet.Packets.RoundTrip

/-!
The messages of the day that a user is told.

* `RakServer.setMotd?`, `motd_exec`: the messages of the day of a run;
* `RakServer.wire`: what has been sent from the socket of a server;
* `RakServer.Answered`: a server answers a ping with the message of the day that it has when the
  ping comes in, and sends no other pongs, `answered_exec`;
* `RakPing.pongs_true`: what a user is told comes from such an answer.
-/

namespace ActixRaknet

open Fallible Writer

/-- A pong is read back, if its message of the day fits the counter. -/
lemma decode_pong {time : Int64} {guid : UInt64} {motd : String}
    (hmotd : (utf8Bytes motd).length ≤ 65535) {bytes : Bytes}
    (h : encode (UnconnectedPong.new time guid motd) = .ok bytes) :
    decode UnconnectedPong bytes = .ok (.ok (.new time guid motd)) := by
  have hround : RoundTrips (UnconnectedPong.new time guid motd) :=
    roundTrips_of_read ((writes_writeI64 _ _).bind <| (writes_writeU64 _ _).bind <|
      (writes_write _).bind <| writes_string _) <|
      readWith_layout fun done rest => by
        simp [UnconnectedPong.new, readString_facing hmotd]
  obtain ⟨bytes', hbytes', hdecode⟩ := hround
  obtain rfl := Except.ok.inj (h.symm.trans hbytes')
  exact hdecode

namespace RakServer

/-- The message of the day that an action sets. -/
def setMotd? : Action → Option String
  | .setMotd motd => some motd
  | _ => none

/-- What has been sent from the socket of the server, by itself and by its connections. -/
def wire (s : RakServer) : List UdpPacket := s.udp ++ s.connections.flatMap (·.session.udp)

variable {s s' : RakServer}

lemma motd_step {a : Action} (h : s.step a = .ok s') : s'.motd = (setMotd? a).getD s.motd := by
  cases a with
  | receivedUdp env msg => exact (replies_receivedUdp h).motd
  | setMotd motd => exact Except.ok.inj h ▸ rfl
  | deliver =>
      rw [RakServer.step] at h
      split at h
      · exact Except.ok.inj h ▸ rfl
      · obtain ⟨worker, -, h⟩ := bind_eq_ok.mp h
        obtain ⟨connectedId, -, h⟩ := bind_eq_ok.mp h
        exact Except.ok.inj h ▸ rfl
  | conn conn action =>
      obtain rfl := Except.ok.inj h
      rw [RakServer.connStep]
      split
      · rfl
      · split <;> rfl

/-- The message of the day is the first one, or one that was set. -/
lemma motd_exec {actions : List Action} (h : Run.exec RakServer.step s actions = .ok s') :
    s'.motd ∈ s.motd :: actions.filterMap setMotd? := by
  induction actions generalizing s with
  | nil => exact Except.ok.inj h ▸ List.mem_cons_self
  | cons a actions ih =>
      obtain ⟨t, ht, hrest⟩ := Run.exec_cons.mp h
      have hmem := ih hrest
      rw [motd_step ht] at hmem
      cases hmotd : setMotd? a with
      | none =>
          rw [hmotd] at hmem
          rwa [List.filterMap_cons_none hmotd]
      | some motd =>
          rw [hmotd] at hmem
          rw [List.filterMap_cons_some hmotd]
          exact List.mem_cons_of_mem _ hmem

/-- In the run the server answers a ping with the packet: a pong with the time of the ping and the
message of the day that the server has then, sent to where the ping came from. -/
inductive Answered (start : RakServer) (actions : List Action) (packet : UdpPacket)
    (motd : String) : Prop
  | pong {before env msg after t t' ping}
      (hactions : actions = before ++ .receivedUdp env msg :: after)
      (hbefore : Run.exec step start before = .ok t)
      (hstep : t.step (.receivedUdp env msg) = .ok t') (hsent : t'.udp = t.udp ++ [packet])
      (haddr : packet.addr = msg.addr) (hid : msg.bytes.head? = some (Packet.ID UnconnectedPing))
      (hping : decode UnconnectedPing msg.bytes = .ok (.ok ping))
      (hbytes : encode (UnconnectedPong.new ping.time t.guid t.motd) = .ok packet.bytes)
      (hmotd : motd = t.motd) : Answered start actions packet motd

variable {start : RakServer} {actions : List Action} {packet : UdpPacket} {motd : String}

lemma Answered.append (h : Answered start actions packet motd) (a : Action) :
    Answered start (actions ++ [a]) packet motd := by
  obtain @⟨before, env, msg, after, t, t', ping, rfl, hbefore, hstep, hsent, haddr, hid, hping,
    hbytes, hmotd⟩ := h
  have hactions : before ++ .receivedUdp env msg :: after ++ [a]
      = before ++ .receivedUdp env msg :: (after ++ [a]) := by
    rw [List.append_assoc, List.cons_append]
  exact .pong hactions hbefore hstep hsent haddr hid hping hbytes hmotd

/-- The message of the day of an answer is the first one, or one that was set. -/
lemma Answered.mem_motd (h : Answered start actions packet motd) :
    motd ∈ start.motd :: actions.filterMap setMotd? := by
  obtain @⟨before, env, msg, after, t, t', ping, rfl, hbefore, -, -, -, -, -, -, rfl⟩ := h
  rw [List.filterMap_append, ← List.cons_append]
  exact List.mem_append_left _ (motd_exec hbefore)

/-- An answer is read back as the pong that it is. -/
lemma Answered.decode (h : Answered start actions packet motd)
    (hmotd : (utf8Bytes motd).length ≤ 65535) :
    ∃ time guid, decode UnconnectedPong packet.bytes = .ok (.ok (.new time guid motd)) := by
  obtain @⟨before, env, msg, after, t, t', ping, -, -, -, -, -, -, -, hbytes, rfl⟩ := h
  exact ⟨ping.time, t.guid, decode_pong hmotd hbytes⟩

/-- **Every pong that a server sends** answers a ping. -/
lemma answered_exec (hstart : start.udp = []) (h : Run.exec RakServer.step start actions = .ok s) :
    ∀ p ∈ s.udp, p.bytes.head? = some (Packet.ID UnconnectedPong) →
      ∃ motd, Answered start actions p motd := by
  induction actions using List.reverseRecOn generalizing s with
  | nil =>
      obtain rfl := Except.ok.inj h
      intro p hp
      rw [hstart] at hp
      cases hp
  | append_singleton actions a ih =>
      obtain ⟨t, ht, hs⟩ := Run.exec_append.mp h
      rw [Run.exec_singleton] at hs
      intro p hp hid
      have hold : p ∈ t.udp → ∃ motd, Answered start (actions ++ [a]) p motd := by
        intro hp
        obtain ⟨motd, hanswered⟩ := ih ht p hp hid
        exact ⟨motd, hanswered.append a⟩
      cases a with
      | receivedUdp env msg =>
          rcases (replies_receivedUdp hs).sent with hudp | ⟨answer, hudp, haddr, hanswer⟩
          · exact hold (hudp ▸ hp)
          rcases List.mem_append.mp (hudp ▸ hp) with hp | hp
          · exact hold hp
          obtain rfl := List.mem_singleton.mp hp
          cases hanswer with
          | pong hrequest hping hbytes =>
              exact ⟨t.motd, .pong rfl ht hs hudp haddr hrequest hping hbytes rfl⟩
          | handshake offline hne hhead =>
              have heq := hhead.symm.trans hid
              cases offline with
              | unconnectedPong => exact absurd rfl hne
              | _ => exact absurd heq (by decide)
      | setMotd motd => exact hold (udp_step (by simp) hs ▸ hp)
      | deliver => exact hold (udp_step (by simp) hs ▸ hp)
      | conn conn action => exact hold (udp_step (by simp) hs ▸ hp)

/-- The pongs on the wire are the server's own: no connection sends any. -/
lemma mem_udp_of_wire {guid : UInt64} {motd : String} {thread : ℕ} {actions : List Action}
    (h : Run.exec RakServer.step (.new guid motd thread) actions = .ok s) {p : UdpPacket}
    (hp : p ∈ s.wire) (hid : p.bytes.head? = some (Packet.ID UnconnectedPong)) : p ∈ s.udp := by
  rcases List.mem_append.mp hp with hp | hp
  · exact hp
  · obtain ⟨c, hc, hp⟩ := List.mem_flatMap.mp hp
    obtain ⟨header, hhead, hheader⟩ := (kept_headings.exec h c hc).sent p hp
    obtain rfl := Option.some.inj (hhead.symm.trans hid)
    exact absurd (OfflineType.not_flagged .unconnectedPong) hheader.flagged

end RakServer

namespace RakPing

lemma pong?_eq_some {msg : UdpPacket} {pong : Pong} (h : pong? (.receivedUdp msg) = some pong) :
    msg.bytes.head? = some (Packet.ID UnconnectedPong) ∧ pong.addr = msg.addr
      ∧ ∃ reply, decode UnconnectedPong msg.bytes = .ok (.ok reply) ∧ pong.motd = reply.motd := by
  rw [pong?] at h
  split_ifs at h with hid
  split at h
  · rename_i reply hreply
    obtain rfl := Option.some.inj h
    exact ⟨hid, rfl, reply, hreply, rfl⟩
  · cases h

/-- **What the user is told is true**: of what a server and its connections have sent, only the
answers to pings are told as pongs, and if what comes from the address of the server was sent from
its socket, every pong under that address is told on such an answer, with the message of the day
that the server had when it handled the ping, provided that these messages fit a counted string. -/
theorem pongs_true (guid : UInt64) (motd : String) (thread : ℕ) {serving : List RakServer.Action}
    {pinging : List Action} {s : RakServer} {p : RakPing} {addr : SocketAddr}
    (hs : Run.exec RakServer.step (.new guid motd thread) serving = .ok s)
    (hp : Run.exec step new pinging = .ok p)
    (hnetwork : ∀ msg, Action.receivedUdp msg ∈ pinging → msg.addr = addr →
      ∃ packet ∈ s.wire, packet.bytes = msg.bytes)
    (hmotd : ∀ m ∈ motd :: serving.filterMap RakServer.setMotd?, (utf8Bytes m).length ≤ 65535) :
    (∀ packet ∈ s.wire, ∀ addr pong, pong? (.receivedUdp ⟨packet.bytes, addr⟩) = some pong →
      RakServer.Answered (.new guid motd thread) serving packet pong.motd)
    ∧ ∀ pong ∈ p.handler, pong.addr = addr →
      ∃ msg packet, Action.receivedUdp msg ∈ pinging ∧ pong? (.receivedUdp msg) = some pong
        ∧ packet ∈ s.wire ∧ packet.bytes = msg.bytes
        ∧ RakServer.Answered (.new guid motd thread) serving packet pong.motd := by
  have hsent : ∀ packet ∈ s.wire, ∀ addr pong,
      pong? (.receivedUdp ⟨packet.bytes, addr⟩) = some pong →
        RakServer.Answered (.new guid motd thread) serving packet pong.motd := by
    intro packet hpacket addr pong hpong
    obtain ⟨hid, -, reply, hreply, hreplied⟩ := pong?_eq_some hpong
    obtain ⟨sent, hanswered⟩ :=
      RakServer.answered_exec rfl hs packet (RakServer.mem_udp_of_wire hs hpacket hid) hid
    obtain ⟨time, guid', hdecode⟩ := hanswered.decode (hmotd sent hanswered.mem_motd)
    obtain rfl := Except.ok.inj (Except.ok.inj (hdecode.symm.trans hreply))
    rw [hreplied]
    exact hanswered
  refine ⟨hsent, fun pong hpong haddr => ?_⟩
  rw [(exec_logs hp).2] at hpong
  obtain ⟨a, ha, hpong⟩ := List.mem_filterMap.mp hpong
  cases a with
  | pingTo time addr => cases hpong
  | receivedUdp msg =>
      obtain ⟨-, hfrom, -⟩ := pong?_eq_some hpong
      obtain ⟨packet, hpacket, hbytes⟩ := hnetwork msg ha (hfrom.symm.trans haddr)
      refine ⟨msg, packet, ha, hpong, hpacket, hbytes, hsent packet hpacket msg.addr pong ?_⟩
      rw [hbytes]
      exact hpong

/-- The theorem where a server changes its message of the day between two pings, and refuses a
request in between.  The pongs arrive in the other order, one of them twice, and so does the
refusal, of which the user is told nothing. -/
theorem pongs_true_sample :
    let server : SocketAddr := .v4 ⟨127, 0, 0, 1⟩ 19132
    let user : SocketAddr := .v4 ⟨127, 0, 0, 1⟩ 50000
    let request1 : Bytes := [5] ++ MAGIC ++ [99, 0, 0]
    let serving : List RakServer.Action := [.receivedUdp default ⟨pingBytes 1, user⟩,
      .setMotd "closed", .receivedUdp default ⟨request1, user⟩,
      .receivedUdp default ⟨pingBytes 2, user⟩]
    let pong (time : UInt8) (motd : Bytes) : Bytes := [0x1c, 0, 0, 0, 0, 0, 0, 0, time, 0, 0, 0, 0,
      0, 0, 0, 9] ++ (MAGIC ++ motd)
    let first : Bytes := pong 1 [0, 4, 111, 112, 101, 110]
    let second : Bytes := pong 2 [0, 6, 99, 108, 111, 115, 101, 100]
    let refusal : Bytes := [0x19, 10] ++ MAGIC ++ [0, 0, 0, 0, 0, 0, 0, 9]
    let pinging : List Action := [.pingTo 1 server, .pingTo 2 server,
      .receivedUdp ⟨second, server⟩, .receivedUdp ⟨refusal, server⟩, .receivedUdp ⟨first, server⟩,
      .receivedUdp ⟨second, server⟩]
    ∃ s p, Run.exec RakServer.step (.new 9 "open" 1) serving = .ok s
      ∧ s.wire = [⟨first, user⟩, ⟨refusal, user⟩, ⟨second, user⟩]
      ∧ Run.exec step new pinging = .ok p
      ∧ p.handler = [⟨server, "closed"⟩, ⟨server, "open"⟩, ⟨server, "closed"⟩]
      ∧ (∀ packet ∈ s.wire, ∀ addr told, pong? (.receivedUdp ⟨packet.bytes, addr⟩) = some told →
        RakServer.Answered (.new 9 "open" 1) serving packet told.motd)
      ∧ ∀ told ∈ p.handler, told.addr = server →
        ∃ msg packet, Action.receivedUdp msg ∈ pinging ∧ pong? (.receivedUdp msg) = some told
          ∧ packet ∈ s.wire ∧ packet.bytes = msg.bytes
          ∧ RakServer.Answered (.new 9 "open" 1) serving packet told.motd := by
  intro server user request1 serving pong first second refusal pinging
  have hserving : (fun s : RakServer => s.wire)
      <$> Run.exec RakServer.step (.new 9 "open" 1) serving
        = .ok [⟨first, user⟩, ⟨refusal, user⟩, ⟨second, user⟩] := by
    decide +kernel
  have hpinging : (fun p : RakPing => p.handler) <$> Run.exec step new pinging
      = .ok [⟨server, "closed"⟩, ⟨server, "open"⟩, ⟨server, "closed"⟩] := by
    decide +kernel
  obtain ⟨s, hs, hwire⟩ := map_eq_ok.mp hserving
  obtain ⟨p, hp, hhandler⟩ := map_eq_ok.mp hpinging
  refine ⟨s, p, hs, hwire, hp, hhandler, pongs_true 9 "open" 1 hs hp ?_ (by decide +kernel)⟩
  intro msg hmsg _
  rw [hwire]
  simp only [pinging, List.mem_cons, reduceCtorEq, Action.receivedUdp.injEq, List.not_mem_nil,
    or_false, false_or] at hmsg
  rcases hmsg with rfl | rfl | rfl | rfl
  · exact ⟨⟨second, user⟩, by simp, rfl⟩
  · exact ⟨⟨refusal, user⟩, by simp, rfl⟩
  · exact ⟨⟨first, user⟩, by simp, rfl⟩
  · exact ⟨⟨second, user⟩, by simp, rfl⟩

end RakPing

end ActixRaknet
