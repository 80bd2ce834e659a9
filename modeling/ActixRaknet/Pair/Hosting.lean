import ActixRaknet.Handshake.Arithmetic
import ActixRaknet.Pair.Refinement
import ActixRaknet.Server.Isolation

/-!
A client and its connection at a server with other clients.

* `Pair.ofHost`: what a step of the server or of the client is to the pair; `exec_ofHost`;
* `hosted_conveys`: at a server with any number of clients, what the client and its connection have
  said is conveyed, as long as the connection lives.
-/

namespace ActixRaknet

open Fallible

namespace Pair

/-- What a step of the server or of the client is to the client and the connection at a place. -/
def ofHost (conn : ℕ) (addr : SocketAddr) : RakServer.Action ⊕ RakClient.Action → List Action
  | .inl a => (a.ofConn conn addr).map .conn
  | .inr a => [.client a]

variable {p : Pair} {c : RakClient} {d : ServerConn}

/-- Turns of the connection are steps of the pair. -/
lemma exec_conn {ops : List ServerConn.Op} (hd : Run.exec ServerConn.turn p.conn ops = .ok d) :
    ∃ q, Run.exec Pair.step p (ops.map .conn) = .ok q ∧ q.client = p.client ∧ q.conn = d := by
  induction ops generalizing p with
  | nil =>
      obtain rfl := Except.ok.inj hd
      exact ⟨p, rfl, rfl, rfl⟩
  | cons op ops ih =>
      obtain ⟨conn, hturn, hrest⟩ := Run.exec_cons.mp hd
      obtain ⟨q, hq, hclient, hconn⟩ := ih (p := p.connMoves (p.conn.sessionOps op) conn) hrest
      refine ⟨q, Run.exec_cons.mpr ⟨_, ?_, hq⟩, hclient, hconn⟩
      rw [Pair.step, hturn]
      rfl

/-- A step of the client is one of the pair. -/
lemma exec_client {a : RakClient.Action} (hc : p.client.step a = .ok c) :
    ∃ q, p.step (.client a) = .ok q ∧ q.client = c ∧ q.conn = p.conn := by
  refine ⟨p.clientMoves a c, ?_, ?_⟩
  · rw [Pair.step, hc]
    rfl
  · rw [clientMoves]
    split <;> exact ⟨rfl, rfl⟩

/-- **A run of the server and the client** is one of the pair, for a connection that lives. -/
lemma exec_ofHost {s s' : RakServer} (hsound : s.Sound) {conn : ℕ}
    (hconn : s.connections[conn]? = some p.conn)
    {steps : List (RakServer.Action ⊕ RakClient.Action)}
    (hserver : Run.exec RakServer.step s (steps.filterMap Sum.getLeft?) = .ok s')
    (hclient : Run.exec RakClient.step p.client (steps.filterMap Sum.getRight?) = .ok c)
    (hd : s'.connections[conn]? = some d) (halive : d.life ≠ .terminated) :
    ∃ q, Run.exec Pair.step p (steps.flatMap (ofHost conn p.conn.addr)) = .ok q
      ∧ q.client = c ∧ q.conn = d := by
  have hops : Run.exec ServerConn.turn p.conn
      ((steps.filterMap Sum.getLeft?).flatMap (RakServer.Action.ofConn conn p.conn.addr))
        = .ok d := by
    obtain ⟨d', hd', halike⟩ := hsound.alike_exec hserver hconn (.refl _)
    obtain rfl := Option.some.inj (hd.symm.trans hd')
    exact halike.exec (hsound.told conn _ hconn) halive
  clear hserver hsound hconn hd
  generalize p.conn.addr = addr at hops ⊢
  induction steps generalizing p with
  | nil => exact ⟨p, rfl, Except.ok.inj hclient, Except.ok.inj hops⟩
  | cons step steps ih =>
      cases step with
      | inl a =>
          obtain ⟨conn', hturns, hops⟩ := Run.exec_append.mp hops
          obtain ⟨q, hq, hqclient, hqconn⟩ := exec_conn hturns
          obtain ⟨r, hr, hrclient, hrconn⟩ := ih (p := q) (hqclient ▸ hclient) (hqconn ▸ hops)
          exact ⟨r, Run.exec_append.mpr ⟨q, hq, hr⟩, hrclient, hrconn⟩
      | inr a =>
          obtain ⟨client, hstep, hclient⟩ := Run.exec_cons.mp hclient
          obtain ⟨q, hq, hqclient, hqconn⟩ := exec_client hstep
          obtain ⟨r, hr, hrclient, hrconn⟩ := ih (p := q) (hqclient ▸ hclient) (hqconn ▸ hops)
          exact ⟨r, Run.exec_cons.mpr ⟨q, hq, hr⟩, hrclient, hrconn⟩

/-- **A server with any number of clients**: from the moment that one of them has its session, and
as long as its connection lives, the two have run as a pair, which shows an exchange that began with
two new sessions, and what they have said is conveyed, whatever comes in from the others, if what
the two handle of each other was sent. -/
theorem hosted_conveys (guid : UInt64) (motd : String) (thread : ℕ) {before : List RakServer.Action}
    {s s' : RakServer} (hs : Run.exec RakServer.step (.new guid motd thread) before = .ok s)
    {conn : ℕ} (hp : p.Begun) (hconn : s.connections[conn]? = some p.conn)
    {steps : List (RakServer.Action ⊕ RakClient.Action)}
    (hserver : Run.exec RakServer.step s (steps.filterMap Sum.getLeft?) = .ok s')
    (hclient : Run.exec RakClient.step p.client (steps.filterMap Sum.getRight?) = .ok c)
    (hd : s'.connections[conn]? = some d) (halive : d.life ≠ .terminated)
    (hclosed : Run.Along Pair.step Closed p (steps.flatMap (ofHost conn p.conn.addr))) :
    ∃ (q : Pair) (e : Exchange) (addr : Side → SocketAddr) (mtu : Side → UInt16)
      (ping receive : Side → Instant),
      Run.exec Pair.step p (steps.flatMap (ofHost conn p.conn.addr)) = .ok q
        ∧ q.client = c ∧ q.conn = d
        ∧ Run.Reaches Exchange.step Exchange.Admissible (.new addr mtu ping receive) e
        ∧ q.Shows p.client.told e ∧ ∀ side : Side, Exchange.Conveyed (e side) (e side.peer) := by
  have hsound : s.Sound := Run.invariant (fun s a s' hs hstep => (hs.step hstep).1)
    (RakServer.sound_new guid motd thread) hs
  obtain ⟨q, hq, hqclient, hqconn⟩ := exec_ofHost hsound hconn hserver hclient hd halive
  obtain ⟨addr, mtu, ping, receive, halways⟩ := refines hp hclosed
  obtain ⟨e, hreaches, hshows, hconveyed⟩ :=
    Run.always_iff.mp halways _ [] q (List.append_nil _).symm hq
  exact ⟨q, e, addr, mtu, ping, receive, hq, hqclient, hqconn, hreaches, hshows, hconveyed⟩

/-- The steps of a server and a client: the request, the new incoming connection and a packet of the
client reach the connection, and another client gets a connection meanwhile. -/
def hosting : List (RakServer.Action ⊕ RakClient.Action) :=
  let arrive (addr : SocketAddr) (bytes : Bytes) : RakServer.Action ⊕ RakClient.Action :=
    .inl (.receivedUdp default ⟨bytes, addr⟩)
  let other : SocketAddr := .v4 ⟨127, 0, 0, 2⟩ 50000
  let act (action : ServerConn.Action) : RakServer.Action ⊕ RakClient.Action :=
    .inl (.conn 0 action)
  [act .start, .inr (.fire default 1), arrive clientAddr requestBytes,
    arrive other (request2Bytes (.v4 ⟨127, 0, 0, 1⟩ 19132) 1495 8), act (.deliver default),
    arrive other requestBytes, act (.deliver default), .inl (.conn 1 .start),
    act (.fire default 1), .inr (.receivedUdp default ⟨acceptBytes, .v4 ⟨127, 0, 0, 1⟩ 19132⟩),
    .inr (.deliver default), .inr (.call default (.packet [0xfe, 1])), .inr (.fire default 1),
    arrive clientAddr (incomingBytes 1 0), .inl (.conn 1 (.deliver default)),
    act (.deliver default), act (.deliver default), arrive clientAddr (packetBytes 2 1 [0xfe, 1]),
    act (.deliver default), act (.deliver default)]

/-- The theorem for these steps: the connection has released two messages. -/
theorem hosted_conveys_sample : ∃ (p q : Pair) (e : Exchange) (addr : Side → SocketAddr)
    (mtu : Side → UInt16) (ping receive : Side → Instant), p.Begun
    ∧ Run.exec Pair.step p (hosting.flatMap (ofHost 0 clientAddr)) = .ok q
    ∧ q.conn.session.received.min = 2
    ∧ Run.Reaches Exchange.step Exchange.Admissible (.new addr mtu ping receive) e
    ∧ q.Shows p.client.told e ∧ ∀ side : Side, Exchange.Conveyed (e side) (e side.peer) := by
  obtain ⟨c₀, c, hc₀, hopen, hstep⟩ := Handshake.exec_opening
  have hc := Run.exec_append.mpr ⟨c₀, hc₀, Run.exec_singleton.mpr hstep⟩
  let pair (c : RakClient) : Pair := new c 1591 (.new 1495 7 clientAddr 0 0)
  have hbegun : (pair c).Begun :=
    ⟨pair c₀, .deliver default, 1496, 1496, 7, clientAddr, 0, 0, [], ⟨0, rfl⟩, ⟨0, rfl⟩, hopen,
      hstep, rfl, trivial, rfl⟩
  obtain ⟨s, hs, hconns⟩ := RakServer.exists_register 1495
  have hserver : (fun s : RakServer => s.connections[0]?.map fun d =>
        (d.life, d.session.received.min))
      <$> Run.exec RakServer.step (.new 9 "motd" 1) (.receivedUdp default
        ⟨request2Bytes (.v4 ⟨127, 0, 0, 1⟩ 19132) 1495 7, clientAddr⟩
          :: hosting.filterMap Sum.getLeft?) = .ok (some (.started, 2)) := by
    decide +kernel
  have hclient : ∀ c,
      Run.exec RakClient.step (.init 7) (Handshake.opening ++ [.deliver default]) = .ok c →
      (Run.exec RakClient.step c (hosting.filterMap Sum.getRight?)).toBool = true
        ∧ Run.Along Pair.step Closed (pair c) (hosting.flatMap (ofHost 0 clientAddr)) := by
    decide +kernel
  obtain ⟨hsome, hclosed⟩ := hclient c hc
  obtain ⟨c', hc'⟩ :
      ∃ c', Run.exec RakClient.step c (hosting.filterMap Sum.getRight?) = .ok c' := by
    cases hexec : Run.exec RakClient.step c (hosting.filterMap Sum.getRight?) with
    | error fault => rw [hexec] at hsome; cases hsome
    | ok c' => exact ⟨c', rfl⟩
  obtain ⟨s', hs', heq⟩ := map_eq_ok.mp hserver
  obtain ⟨d, hd, heq⟩ := Option.map_eq_some_iff.mp heq
  obtain ⟨hlife, hmin⟩ := Prod.mk.inj heq
  obtain ⟨s₁, hs₁, hsteps⟩ := Run.exec_cons.mp hs'
  obtain rfl := Except.ok.inj (hs.symm.trans hs₁)
  obtain ⟨q, e, addr, mtu, ping, receive, hq, -, hqconn, hreaches, hshows, hconveyed⟩ :=
    hosted_conveys 9 "motd" 1 (Run.exec_singleton.mpr hs₁) hbegun (by rw [hconns]; rfl) hsteps hc'
      hd (by rw [hlife]; decide) hclosed
  exact ⟨pair c, q, e, addr, mtu, ping, receive, hbegun, hq, hqconn ▸ hmin, hreaches, hshows,
    hconveyed⟩

end Pair

end ActixRaknet
