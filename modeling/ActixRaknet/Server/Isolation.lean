import ActixRaknet.Server.Events
import ActixRaknet.Server.Registry

/-!
The connections of the server do not touch each other.

* `ServerConn.survive`: a turn of a connection on its own, which a panic ends;
* `ServerConn.Alike`: two connections are the same, but for what waits for them once they have
  terminated;
* `RakServer.Creates`: the datagram makes the server create a connection;
* `Action.ofConn`: what an action of the server is to one of its connections, by its address and its
  place; `Sound.alike_step`: it is nothing else;
* `connections_isolated`: a connection is at any time what its own datagrams, timers, messages and
  user have made of a new one.
-/

namespace ActixRaknet

open Fallible HashMap

namespace ServerConn

/-- A turn of a connection whose messages to the server are taken from it.  A panic ends it. -/
def survive (c : ServerConn) (op : Op) : ServerConn :=
  match c.turn op with
  | .error _ => { c with life := .terminated }
  | .ok c => { c with server := [] }

/-- The turns of a connection on its own. -/
def survives (c : ServerConn) (ops : List Op) : ServerConn := ops.foldl survive c

/-- The connection, but for what waits for it and what it has spawned. -/
def still (c : ServerConn) : ServerConn := { c with ctx := .empty }

/-- The connections are the same, but that other messages may wait for a terminated one. -/
structure Alike (c lone : ServerConn) : Prop where
  still : c.still = lone.still
  alive : c.life ≠ .terminated → c = lone

variable {c c' lone lone' : ServerConn} {ops : List Op}

lemma life_of_still (h : c.still = c'.still) : c.life = c'.life := by
  have hlife := congrArg ServerConn.life h
  exact hlife

lemma Alike.refl (c : ServerConn) : Alike c c := ⟨rfl, fun _ => rfl⟩

/-- What waits for a terminated connection makes no difference. -/
lemma Alike.of_terminated (h : Alike c lone) (hlife : c.life = .terminated)
    (hc : c'.still = c.still) (hlone : lone'.still = lone.still) : Alike c' lone' :=
  ⟨hc.trans (h.still.trans hlone.symm), fun halive => absurd (life_of_still hc ▸ hlife) halive⟩

lemma survive_receive (hserver : c.server = []) (msg : UdpPacket) :
    c.survive (.receive msg) = c.post (.receivedUdp msg) := by
  rw [survive, turn, post, ← hserver]

/-- A connection that has terminated does nothing, but messages still arrive. -/
lemma survive_terminated (hlife : c.life = .terminated) (hserver : c.server = []) (op : Op) :
    (c.survive op).still = c.still := by
  cases op with
  | receive msg => rw [survive_receive hserver]; rfl
  | act action =>
      cases action with
      | start => simp [survive, turn, step, still, hlife, hserver]
      | deliver env => simp [survive, turn, step, still, hlife, hserver]
      | fire env handle => simp [survive, turn, step, still, hlife, hserver]
      | send bytes => simp [survive, turn, step, still, post, hserver]
      | disconnect => simp [survive, turn, step, still, post, hserver]

lemma survive_server (hserver : c.server = []) (op : Op) : (c.survive op).server = [] := by
  rw [survive]
  split
  · exact hserver
  · rfl

lemma survive_addr (c : ServerConn) (op : Op) : (c.survive op).addr = c.addr := by
  rw [survive]
  split
  · rfl
  · rename_i c' hturn
    cases op with
    | receive msg => exact Except.ok.inj hturn ▸ rfl
    | act action => exact (step_spec hturn).elim Same.addr Ended.addr

lemma survives_addr (c : ServerConn) (ops : List Op) : (c.survives ops).addr = c.addr := by
  induction ops generalizing c with
  | nil => rfl
  | cons op ops ih => exact (ih (c.survive op)).trans (c.survive_addr op)

lemma survives_terminated (hlife : c.life = .terminated) (hserver : c.server = [])
    (ops : List Op) : (c.survives ops).still = c.still := by
  induction ops generalizing c with
  | nil => rfl
  | cons op ops ih =>
      have hop := survive_terminated hlife hserver op
      have hlife' := (life_of_still hop).trans hlife
      exact (ih hlife' (survive_server hserver op)).trans hop

/-- A connection that lives has not panicked: these are its turns. -/
lemma exec_survives (hserver : c.server = []) (halive : (c.survives ops).life ≠ .terminated) :
    Run.exec turn c ops = .ok (c.survives ops) := by
  induction ops generalizing c with
  | nil => rfl
  | cons op ops ih =>
      have halive' : (c.survive op).life ≠ .terminated := fun hlife =>
        halive ((life_of_still (survives_terminated hlife (survive_server hserver op) ops)).trans
          hlife)
      have hrest := ih (survive_server hserver op) halive
      refine Run.exec_cons.mpr ⟨c.survive op, ?_, hrest⟩
      rw [survive] at halive' ⊢
      cases hturn : c.turn op with
      | error panic => simp [hturn] at halive'
      | ok c' =>
          simp only [hturn] at halive' ⊢
          have hserver' : c'.server = [] := by
            cases op with
            | receive msg =>
                obtain rfl := Except.ok.inj hturn
                exact hserver
            | act action =>
                rcases step_spec hturn with hsame | hended
                · rw [hsame.server, hserver]
                · exact absurd hended.terminated halive'
          rw [← hserver']

lemma Alike.exec (h : Alike c (lone.survives ops)) (hserver : lone.server = [])
    (halive : c.life ≠ .terminated) : Run.exec turn lone ops = .ok c := by
  rw [h.alive halive]
  exact exec_survives hserver (h.alive halive ▸ halive)

end ServerConn

namespace RakServer

/-- The datagram makes the server create a connection. -/
structure Creates (s : RakServer) (msg : UdpPacket) (request2 : OpenConnectionRequest2) : Prop where
  head : msg.bytes.head? = some (Packet.ID OpenConnectionRequest2)
  request : decode OpenConnectionRequest2 msg.bytes = .ok (.ok request2)
  unregistered : s.conns.lookup msg.addr = none
  unconnected : request2.guid ∉ s.connectedId

/-- What an action is to the connection of an address: a datagram from the address arrives, or the
connection does something. -/
def Action.ofConn (conn : ℕ) (addr : SocketAddr) : Action → List ServerConn.Op
  | .receivedUdp _ msg => if msg.addr = addr then [.receive msg] else []
  | .conn conn' action => if conn' = conn then [.act action] else []
  | .setMotd _ => []
  | .deliver => []

variable {s s' : RakServer} {a : Action} {env : Env} {msg : UdpPacket} {conn : ℕ} {c : ServerConn}

/-- What a datagram does to the connections. -/
lemma connections_receivedUdp (hs : s.handleReceivedUdp env msg = .ok s') :
    (∃ conn, s.conns.lookup msg.addr = some conn
        ∧ s'.connections = s.connections.modify conn fun c => c.post (.receivedUdp msg))
      ∨ (s.conns.lookup msg.addr = none ∧ (s'.connections = s.connections
        ∨ ∃ request2, s.Creates msg request2 ∧ s'.connections = s.connections
          ++ [.new request2.mtu request2.guid msg.addr env.lastPing env.lastReceive])) := by
  rw [handleReceivedUdp] at hs
  split at hs
  · rename_i conn hlookup
    obtain rfl := Except.ok.inj hs
    exact Or.inl ⟨conn, hlookup, rfl⟩
  · rename_i hlookup
    refine Or.inr ⟨hlookup, ?_⟩
    obtain ⟨id, hid, hs⟩ := bind_eq_ok.mp hs
    split_ifs at hs with hping hrequest1 hrequest2
    · rcases unwrapOrReturn_eq_ok hs with rfl | ⟨ping, -, hs⟩
      · exact Or.inl rfl
      · obtain ⟨bytes, rfl⟩ := reply_eq_ok hs
        exact Or.inl rfl
    · rcases unwrapOrReturn_eq_ok hs with rfl | ⟨request1, -, hs⟩
      · exact Or.inl rfl
      · rw [handleRequest1] at hs
        split_ifs at hs
        all_goals
          obtain ⟨bytes, rfl⟩ := reply_eq_ok hs
          exact Or.inl rfl
    · rcases unwrapOrReturn_eq_ok hs with rfl | ⟨request2, hdecode, hs⟩
      · exact Or.inl rfl
      · rw [handleRequest2] at hs
        split_ifs at hs with hguid
        · obtain ⟨bytes, rfl⟩ := reply_eq_ok hs
          exact Or.inl rfl
        · obtain ⟨t, ht, hs⟩ := bind_eq_ok.mp hs
          obtain ⟨bytes, rfl⟩ := reply_eq_ok ht
          obtain ⟨worker, -, hs⟩ := bind_eq_ok.mp hs
          obtain rfl := Except.ok.inj hs
          exact Or.inr ⟨request2, ⟨hrequest2 ▸ index_zero_eq_ok.mp hid, hdecode, hlookup, hguid⟩,
            rfl⟩
    · exact Or.inl (Except.ok.inj hs ▸ rfl)

/-- The end of a connection leaves the connections as they are. -/
lemma connections_deliver (hs : s.step .deliver = .ok s') : s'.connections = s.connections := by
  rw [step] at hs
  split at hs
  · exact Except.ok.inj hs ▸ rfl
  · obtain ⟨worker, -, hs⟩ := bind_eq_ok.mp hs
    obtain ⟨connectedId, -, hs⟩ := bind_eq_ok.mp hs
    exact Except.ok.inj hs ▸ rfl

/-- A connection does something: it alone has a turn. -/
lemma getElem?_connStep (s : RakServer) (conn conn' : ℕ) (action : ServerConn.Action) :
    (s.connStep conn' action).connections[conn]?
      = if conn' = conn then s.connections[conn]?.map (·.survive (.act action))
        else s.connections[conn]? := by
  rw [connStep]
  cases hc : s.connections[conn']? with
  | none =>
      split_ifs with heq
      · rw [← heq, hc, Option.map_none]
      · rfl
  | some c =>
      obtain ⟨hlt, -⟩ := List.getElem?_eq_some_iff.mp hc
      cases hstep : c.step action with
      | error panic =>
          simp only [hstep]
          split_ifs with heq
          · rw [← heq, List.getElem?_set_self hlt, hc, Option.map_some, ServerConn.survive,
              ServerConn.turn, hstep]
          · rw [List.getElem?_set_ne heq]
      | ok c' =>
          simp only [hstep]
          split_ifs with heq
          · rw [← heq, List.getElem?_set_self hlt, hc, Option.map_some, ServerConn.survive,
              ServerConn.turn, hstep]
          · rw [List.getElem?_set_ne heq]

/-- **Step lemma**: a step of the server is to a connection what it is by address and place. -/
lemma Sound.alike_step (h : s.Sound) (hs : s.step a = .ok s')
    (hc : s.connections[conn]? = some c) {lone : ServerConn} (halike : c.Alike lone) :
    ∃ c', s'.connections[conn]? = some c' ∧ c'.addr = c.addr
      ∧ c'.Alike (lone.survives (a.ofConn conn c.addr)) := by
  have hserver := h.told conn c hc
  have hserver' : lone.server = [] := (congrArg ServerConn.server halike.still).symm.trans hserver
  have hterm : c.life = .terminated → lone.life = .terminated :=
    (ServerConn.life_of_still halike.still).symm.trans
  cases a with
  | setMotd motd =>
      obtain rfl := Except.ok.inj hs
      exact ⟨c, hc, rfl, halike⟩
  | deliver => exact ⟨c, by rw [connections_deliver hs, hc], rfl, halike⟩
  | conn conn' action =>
      obtain rfl := Except.ok.inj hs
      rw [getElem?_connStep, Action.ofConn]
      split_ifs with heq
      · refine ⟨c.survive (.act action), by rw [hc, Option.map_some], c.survive_addr _, ?_⟩
        by_cases hlife : c.life = .terminated
        · exact halike.of_terminated hlife (ServerConn.survive_terminated hlife hserver _)
            (ServerConn.survives_terminated (hterm hlife) hserver' [_])
        · rw [← halike.alive hlife]
          exact .refl _
      · exact ⟨c, hc, rfl, halike⟩
  | receivedUdp env msg =>
      have hgone : msg.addr = c.addr → s.conns.lookup msg.addr ≠ some conn →
          c.Alike (lone.survives [.receive msg]) := by
        intro haddr hnot
        have hlife : c.life = .terminated := by
          by_contra halive
          exact hnot (haddr ▸ h.alive conn c hc halive)
        exact halike.of_terminated hlife rfl
          (ServerConn.survives_terminated (hterm hlife) hserver' [_])
      have hother : s.conns.lookup msg.addr ≠ some conn →
          c.Alike (lone.survives ((Action.receivedUdp env msg).ofConn conn c.addr)) := by
        intro hnot
        rw [Action.ofConn]
        split_ifs with haddr
        · exact hgone haddr hnot
        · exact halike
      rcases connections_receivedUdp hs with ⟨conn', hlookup, hconns⟩ | ⟨hlookup, hconns⟩
      · rw [hconns]
        by_cases heq : conn' = conn
        · obtain ⟨d, hd, haddr⟩ := h.own msg.addr conn' hlookup
          rw [heq, hc] at hd
          obtain rfl := Option.some.inj hd
          refine ⟨c.post (.receivedUdp msg), ?_, rfl, ?_⟩
          · rw [heq, List.getElem?_modify_eq, hc, Option.map_eq_map, Option.map_some]
          · rw [Action.ofConn, if_pos haddr.symm]
            by_cases hlife : c.life = .terminated
            · exact halike.of_terminated hlife rfl
                (ServerConn.survives_terminated (hterm hlife) hserver' [_])
            · rw [← halike.alive hlife, ← ServerConn.survive_receive hserver]
              exact .refl _
        · exact ⟨c, by rw [List.getElem?_modify_ne _ _ heq, hc], rfl,
            hother (hlookup ▸ fun h => heq (Option.some.inj h))⟩
      · refine ⟨c, ?_, rfl, hother (hlookup ▸ Option.some_ne_none conn |>.symm)⟩
        rcases hconns with hconns | ⟨request2, -, hconns⟩
        · rw [hconns, hc]
        · rw [hconns, List.getElem?_append_left (List.getElem?_eq_some_iff.mp hc).1, hc]

/-- **Run lemma**: a run of the server is to a connection what its steps are. -/
lemma Sound.alike_exec (h : s.Sound) {actions : List Action}
    (hs : Run.exec RakServer.step s actions = .ok s') (hc : s.connections[conn]? = some c)
    {lone : ServerConn} (halike : c.Alike lone) : ∃ c', s'.connections[conn]? = some c'
      ∧ c'.Alike (lone.survives (actions.flatMap (Action.ofConn conn c.addr))) := by
  induction actions generalizing s c lone with
  | nil =>
      obtain rfl := Except.ok.inj hs
      exact ⟨c, hc, halike⟩
  | cons a actions ih =>
      obtain ⟨t, ht, hrest⟩ := Run.exec_cons.mp hs
      obtain ⟨c₁, hc₁, haddr, halike₁⟩ := h.alike_step ht hc halike
      obtain ⟨c', hc', halike'⟩ := ih (h.step ht).1 hrest hc₁ halike₁
      rw [haddr, ServerConn.survives, ServerConn.survives, ← List.foldl_append] at halike'
      exact ⟨c', hc', halike'⟩

/-- A connection that was not there is new, and a datagram has created it. -/
lemma creates_of_step (hs : s.step a = .ok s') (hc : s'.connections[conn]? = some c)
    (hnew : s.connections[conn]? = none) : ∃ env msg request2, a = .receivedUdp env msg
      ∧ s.Creates msg request2 ∧ s.connections.length = conn
      ∧ c = .new request2.mtu request2.guid msg.addr env.lastPing env.lastReceive := by
  have hkept : s'.connections[conn]? ≠ none := by rw [hc]; exact Option.some_ne_none c
  cases a with
  | setMotd motd =>
      obtain rfl := Except.ok.inj hs
      exact absurd hnew hkept
  | deliver => exact absurd (connections_deliver hs ▸ hnew) hkept
  | conn conn' action =>
      obtain rfl := Except.ok.inj hs
      refine absurd ?_ hkept
      rw [getElem?_connStep, hnew]
      split_ifs <;> rfl
  | receivedUdp env msg =>
      rcases connections_receivedUdp hs with
        ⟨conn', -, hconns⟩ | ⟨-, hconns | ⟨request2, hcreates, hconns⟩⟩
      · refine absurd ?_ hkept
        rw [hconns, List.getElem?_modify, hnew]
        rfl
      · exact absurd (hconns ▸ hnew) hkept
      · have hle := List.getElem?_eq_none_iff.mp hnew
        rw [hconns, List.getElem?_append_right hle] at hc
        obtain ⟨hlt, hget⟩ := List.getElem?_eq_some_iff.mp hc
        rw [List.getElem_singleton] at hget
        rw [List.length_singleton] at hlt
        exact ⟨env, msg, request2, rfl, hcreates, by omega, hget.symm⟩

/-- **A connection on its own**: a datagram of the run has created it, with what the datagram says,
and it is what the datagrams of its address and its own actions since have made of it; as long as
it lives, by turns that complete. -/
def OnItsOwn (start : RakServer) (actions : List Action) (conn : ℕ) (c : ServerConn) : Prop :=
  ∃ (before after : List Action) (t : RakServer) (env : Env) (msg : UdpPacket)
    (request2 : OpenConnectionRequest2),
    actions = before ++ .receivedUdp env msg :: after ∧ Run.exec step start before = .ok t
      ∧ t.Creates msg request2 ∧ t.connections.length = conn
      ∧ c.Alike (ServerConn.survives
        (.new request2.mtu request2.guid msg.addr env.lastPing env.lastReceive)
        (after.flatMap (Action.ofConn conn msg.addr)))
      ∧ (c.life ≠ .terminated → Run.exec ServerConn.turn
        (.new request2.mtu request2.guid msg.addr env.lastPing env.lastReceive)
        (after.flatMap (Action.ofConn conn msg.addr)) = .ok c)

/-- **Isolation**: whatever the other clients of a server do, each connection is at any time what
the datagrams from its address and its own timers, messages and user have made of a new one. -/
theorem connections_isolated (guid : UInt64) (motd : String) (thread : ℕ) {actions : List Action}
    (h : Run.exec step (new guid motd thread) actions = .ok s)
    (hc : s.connections[conn]? = some c) :
    OnItsOwn (new guid motd thread) actions conn c := by
  induction actions using List.reverseRecOn generalizing s c with
  | nil =>
      obtain rfl := Except.ok.inj h
      cases hc
  | append_singleton actions a ih =>
      obtain ⟨t, ht, hs⟩ := Run.exec_append.mp h
      rw [Run.exec_singleton] at hs
      have hsound : t.Sound := Run.invariant (fun s a s' hs hstep => (hs.step hstep).1)
        (sound_new guid motd thread) ht
      cases hc₀ : t.connections[conn]? with
      | none =>
          obtain ⟨env, msg, request2, rfl, hcreates, hconn, rfl⟩ := creates_of_step hs hc hc₀
          exact ⟨actions, [], t, env, msg, request2, rfl, ht, hcreates, hconn, .refl _,
            fun _ => rfl⟩
      | some c₀ =>
          obtain ⟨before, after, t₀, env, msg, request2, rfl, ht₀, hcreates, hconn, halike, -⟩ :=
            ih ht hc₀
          obtain ⟨c', hc', -, halike'⟩ := hsound.alike_step hs hc₀ halike
          obtain rfl := Option.some.inj (hc.symm.trans hc')
          have haddr : c₀.addr = msg.addr :=
            (congrArg ServerConn.addr halike.still).trans (ServerConn.survives_addr _ _)
          rw [haddr, ServerConn.survives, ServerConn.survives, ← List.foldl_append,
            ← ServerConn.survives, ← List.flatMap_singleton (f := Action.ofConn conn msg.addr),
            ← List.flatMap_append] at halike'
          refine ⟨before, after ++ [a], t₀, env, msg, request2, ?_, ht₀, hcreates, hconn, halike',
            halike'.exec rfl⟩
          rw [List.append_assoc, List.cons_append]

/-- The theorem where the requests and the datagrams of two clients come in by turns, with a third
request that is refused: the first connection has handled its own datagram. -/
theorem connections_isolated_sample :
    let client (n : UInt8) : SocketAddr := .v4 ⟨127, 0, 0, n⟩ 50000
    let request2 : Bytes := [7] ++ MAGIC ++ [4, 128, 255, 255, 254, 74, 188, 5, 216]
      ++ List.replicate 7 0
    let actions : List Action := [.receivedUdp default ⟨request2 ++ [1], client 1⟩,
      .conn 0 .start, .receivedUdp default ⟨request2 ++ [2], client 2⟩,
      .receivedUdp default ⟨[132, 0, 0, 0], client 2⟩,
      .receivedUdp default ⟨[132, 1, 0, 0], client 1⟩, .conn 0 (.deliver default), .deliver,
      .receivedUdp default ⟨request2 ++ [1], client 3⟩, .conn 1 .start]
    ∃ s c, Run.exec step (new 9 "motd" 2) actions = .ok s ∧ s.connections[0]? = some c
      ∧ s.connections.length = 2 ∧ c.session.ackQueue.highest = 2
      ∧ OnItsOwn (new 9 "motd" 2) actions 0 c := by
  intro client request2 actions
  have hrun : (fun s : RakServer => (s.connections.length,
        s.connections[0]?.map (·.session.ackQueue.highest)))
      <$> Run.exec step (new 9 "motd" 2) actions = .ok (2, some 2) := by
    decide +kernel
  obtain ⟨s, hs, heq⟩ := map_eq_ok.mp hrun
  obtain ⟨hlength, hhighest⟩ := Prod.mk.inj heq
  obtain ⟨c, hc, hhighest⟩ := Option.map_eq_some_iff.mp hhighest
  exact ⟨s, c, hs, hc, hlength, hhighest, connections_isolated 9 "motd" 2 hs hc⟩

end RakServer

end ActixRaknet
