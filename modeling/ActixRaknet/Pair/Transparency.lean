import ActixRaknet.Pair.Delivery

/-!
Both users get what the other one sends, byte for byte.

* `Lane.due`: the messages of a user whose frames, and those of all messages before, have arrived,
  if they are ones that no layer keeps;
* `transparent_of_open`: the users have been given them, in order, or they wait in the mailbox.
-/

namespace ActixRaknet

open Fallible ReceivedQueue

/-- The bytes are none that the session or the client keep. -/
def ForClient (body : Bytes) : Prop :=
  Session.Plain body ∧ body.head? ≠ some (Packet.ID ConnectionRequestAccepted)

instance : DecidablePred ForClient := fun _ => inferInstanceAs (Decidable (_ ∧ _))

/-- The user gave the message, and `send_to` queues the whole of it, which is not empty. -/
def Message.Given (mtu : UInt16) (m : Message) : Prop :=
  m.user = true ∧ m.body ≠ [] ∧ Whole mtu m.body

instance (mtu : UInt16) : DecidablePred (Message.Given mtu) := fun _ =>
  inferInstanceAs (Decidable (_ ∧ _))

/-- All frames of the first `n` messages have arrived. -/
def Lane.Complete (l : Lane) (n : ℕ) : Prop := ∀ k < n, Arrived (carriers l.said) l.arrived k

instance (l : Lane) (n : ℕ) : Decidable (l.Complete n) := inferInstanceAs (Decidable (∀ _ < _, _))

/-- The user's messages among those from `i` up to `n` that the receiver passes on. -/
def Lane.due (l : Lane) (Open : Bytes → Prop) [DecidablePred Open] (i n : ℕ) : List Message :=
  ((l.said.take n).drop i).filter fun m => m.Given l.mtu ∧ Open m.body

section Due

variable {l : Lane} {Open : Bytes → Prop} [DecidablePred Open] {i n : ℕ}

/-- They travel as they are. -/
lemma Lane.Honest.payload_due (h : l.Honest) {m : Message} (hm : m ∈ l.due Open i n) :
    m.payload = m.body ∧ Open m.payload := by
  obtain ⟨hm, hdue⟩ := List.mem_filter.mp hm
  obtain ⟨⟨-, -, hwhole⟩, hopen⟩ := of_decide_eq_true hdue
  have hsaid := List.mem_of_mem_take (List.mem_of_mem_drop hm)
  have heq := (h.faithful m hsaid).whole (Or.inr hwhole)
  exact ⟨heq, heq ▸ hopen⟩

lemma Lane.Honest.bodies_due (h : l.Honest) :
    (l.due Open i n).map Message.body = (l.due Open i n).map Message.payload :=
  List.map_congr_left fun _ hm => (h.payload_due hm).1.symm

end Due

namespace Pair

variable {handle : ConnectionHandle} {earlier : List Bytes} {p p' q r : Pair}

/-- What has been said stays. -/
lemma said_grows {a : Action} (hs : p.step a = .ok p') : p.up.said <+: p'.up.said := by
  cases a with
  | conn op =>
      obtain ⟨conn, -, hp⟩ := bind_eq_ok.mp hs
      exact Except.ok.inj hp ▸ List.prefix_rfl
  | client a =>
      obtain ⟨client, -, hp⟩ := bind_eq_ok.mp hs
      obtain rfl := Except.ok.inj hp
      rw [clientMoves]
      split
      · exact List.prefix_append _ _
      · exact List.prefix_rfl

/-- **Toward the server**: behind an announcement, what is due has been given to the user or waits.
-/
lemma Served.due_told (h : p.Served handle) (halive : p.conn.life ≠ .terminated) {i j n : ℕ}
    {m : Message} (hm : p.up.said[j]? = some m) (hannounces : m.Announces) (hj : j < i)
    (hn : p.up.Complete n) :
    ((p.up.due Session.Plain i n).map Message.body).Sublist p.conn.view.told := by
  rw [h.up.bodies_due]
  refine (map_payload_sublist ?_ fun m hm => (h.up.payload_due hm).2).trans
    (h.released_after halive hm hannounces (h.conn.listens.le_min hn))
  exact List.filter_sublist.trans (List.drop_suffix_drop_left _ hj).sublist

/-- **Toward the client**: what is due has been given to the user or waits. -/
lemma Agrees.due_told (h : p.Agrees earlier handle) (hsession : p.session.isSome) {n : ℕ}
    (hn : p.down.Complete n) :
    ∃ got, p.client.told = earlier ++ got
      ∧ ((p.down.due ForClient 0 n).map Message.body).Sublist got := by
  obtain ⟨s, hs⟩ := Option.isSome_iff_exists.mp hsession
  obtain ⟨log, hconverses, htold⟩ := h.client s hs
  refine ⟨_, htold, ?_⟩
  have hgiven : ((payloads p.down.said s.received.min).filter (ForClient ·)).Sublist
      (RakClient.given log) := by
    have hpassed := hconverses.listens.passed.filter
      fun body => decide (body.head? ≠ some (Packet.ID ConnectionRequestAccepted))
    rw [List.filter_filter, List.filter_map] at hpassed
    have hboth : (fun body => decide (body.head? ≠ some (Packet.ID ConnectionRequestAccepted))
        && decide (Session.Plain body)) = fun body => decide (ForClient body) :=
      funext fun body => (Bool.and_comm _ _).trans (Bool.decide_and _ _).symm
    rwa [hboth] at hpassed
  rw [h.down.bodies_due]
  have hreleased : (p.down.due ForClient 0 n).Sublist (p.down.said.take s.received.min) := by
    have hmin := hconverses.listens.le_min hn
    rw [Lane.due, List.drop_zero]
    exact List.filter_sublist.trans (List.take_prefix_take_left hmin).sublist
  exact (map_payload_sublist hreleased fun m hm => (h.down.payload_due hm).2).trans hgiven

/-- **The payloads of a user come out as they went in**, if their first byte is none that a layer
keeps: what is given to a client that has handled the accept, or at any time to a connection, and
has arrived with all that was given before it, has been given to the user of the other side, in
order, or waits in the mailbox there.  Where a session handles such a payload, it passes it on and
does nothing else. -/
theorem transparent_of_open (hp : p.Opened) {before after : List Action}
    (hbefore : Run.Along Pair.step Admissible p before) (hq : Run.exec Pair.step p before = .ok q)
    (hafter : Run.Along Pair.step Admissible q after) (hr : Run.exec Pair.step q after = .ok r) :
    (q.session.isSome → q.client.disconnectHandle = none → r.conn.life ≠ .terminated →
        ∀ n, r.up.Complete n →
          ((r.up.due Session.Plain q.up.said.length n).map Message.body).Sublist r.conn.view.told)
      ∧ (r.session.isSome → ∀ n, r.down.Complete n →
        ∃ got, r.client.told = p.client.told ++ got
          ∧ ((r.down.due ForClient 0 n).map Message.body).Sublist got)
      ∧ ∀ env s f, f.data ≠ [] → Session.Plain f.data →
        Session.handlePacket env s f
          = .ok { s.post (.receivedDatagram f) with lastReceive := env.receive } := by
  obtain ⟨handle, halways⟩ := hp.always hbefore
  have hq' := Run.always_iff.mp halways before [] q (List.append_nil _).symm hq
  have hr' := Run.always_iff.mp (Run.always_of_along (fun _ _ _ h ha hs => h.step ha hs) hq' hafter)
    after [] r (List.append_nil _).symm hr
  refine ⟨fun hsession haccepted halive n hn => ?_,
    fun hsession n hn => hr'.due_told hsession hn, ?_⟩
  · obtain ⟨m, hm, hannounces⟩ := hq'.announced hsession haccepted
    obtain ⟨j, hj, hget⟩ := List.getElem_of_mem hm
    have hsaid : q.up.said <+: r.up.said := Run.invariant
      (P := fun t : Pair => q.up.said <+: t.up.said)
      (fun _ _ _ h hs => h.trans (said_grows hs)) List.prefix_rfl hr
    refine hr'.toServed.due_told halive ?_ hannounces hj hn
    obtain ⟨more, hmore⟩ := hsaid
    rw [← hmore, List.getElem?_append_left hj, List.getElem?_eq_getElem hj, hget]
  · intro env s f hdata ⟨hping, hpong, hdisconnected⟩
    obtain ⟨b, rest, hf⟩ := List.exists_cons_of_ne_nil hdata
    rw [hf, List.head?_cons] at hping hpong hdisconnected
    rw [Session.handlePacket, Session.dispatch, hf, index_cons_zero, ok_bind,
      if_neg (mt (congrArg some) hping),
      if_neg (mt (congrArg some) hpong), if_neg (mt (congrArg some) hdisconnected)]
    rfl

/-- The theorem where both users send two bytes. -/
theorem transparent_of_open_sample :
    ∃ p q r : Pair, p.Opened
      ∧ Run.exec Pair.step p (accepting ++ toClient acceptBytes ++ toConn (incomingBytes 1 0))
        = .ok q
      ∧ Run.exec Pair.step q
        ([.client (.call default (.packet [0xfe, 1])), .client (.fire default 1)]
        ++ toConn (packetBytes 2 1 [0xfe, 1]) ++ [.conn (.act (.send [0xfe, 2])),
          .conn (.act (.deliver default)), .conn (.act (.fire default 1))]
        ++ toClient (packetBytes 1 1 [0xfe, 2])) = .ok r
      ∧ [[0xfe, 1]].Sublist r.conn.view.told
      ∧ ∃ got, r.client.told = p.client.told ++ got ∧ [[0xfe, 2]].Sublist got := by
  obtain ⟨c, hc, hopened⟩ := opened_joined
  let before : List Action := accepting ++ toClient acceptBytes ++ toConn (incomingBytes 1 0)
  let after : List Action :=
    [.client (.call default (.packet [0xfe, 1])), .client (.fire default 1)]
    ++ toConn (packetBytes 2 1 [0xfe, 1]) ++ [.conn (.act (.send [0xfe, 2])),
      .conn (.act (.deliver default)), .conn (.act (.fire default 1))]
    ++ toClient (packetBytes 1 1 [0xfe, 2])
  have hrun : ∀ c,
      Run.exec RakClient.step (.init 7) (Handshake.opening ++ [.deliver default]) = .ok c →
      Run.Along Pair.step Admissible (joined c) before
        ∧ (fun q : Pair => decide (q.session.isSome ∧ q.client.disconnectHandle = none
            ∧ Run.Along Pair.step Admissible q after
            ∧ (fun r : Pair => decide (r.conn.life ≠ .terminated ∧ r.session.isSome
                ∧ r.up.Complete 2 ∧ r.down.Complete 2
                ∧ (r.up.due Session.Plain q.up.said.length 2).map Message.body = [[0xfe, 1]]
                ∧ (r.down.due ForClient 0 2).map Message.body = [[0xfe, 2]]))
              <$> Run.exec Pair.step q after = .ok true))
          <$> Run.exec Pair.step (joined c) before = .ok true := by
    decide +kernel
  obtain ⟨hbefore, hexec⟩ := hrun c hc
  obtain ⟨q, hq, heq⟩ := map_eq_ok.mp hexec
  obtain ⟨hsession, haccepted, hafter, hexec'⟩ := of_decide_eq_true heq
  obtain ⟨r, hr, heq'⟩ := map_eq_ok.mp hexec'
  obtain ⟨halive, hsession', hup, hdown, hdueUp, hdueDown⟩ := of_decide_eq_true heq'
  obtain ⟨htoConn, htoClient, -⟩ := transparent_of_open hopened hbefore hq hafter hr
  have htold := htoConn hsession haccepted halive 2 hup
  have hgot := htoClient hsession' 2 hdown
  rw [hdueUp] at htold
  rw [hdueDown] at hgot
  exact ⟨joined c, q, r, hopened, hq, hr, htold, hgot⟩

/-- Two bytes that begin like a pong, given to the client of an established connection, arrive, and
the user of the server does not get them. -/
theorem transparent_counterexample :
    ∃ (p q r : Pair) (before after : List Action), p.Opened
      ∧ Run.Along Pair.step Admissible p before
      ∧ Run.exec Pair.step p before = .ok q ∧ q.client.disconnectHandle = none
      ∧ q.conn.disconnectHandle = none
      ∧ Run.Along Pair.step Admissible q (.client (.call default (.packet [0x03, 1])) :: after)
      ∧ Run.exec Pair.step q (.client (.call default (.packet [0x03, 1])) :: after) = .ok r
      ∧ (∃ m ∈ r.up.said, m.user = true ∧ m.body = [0x03, 1])
      ∧ r.up.Complete r.up.said.length
      ∧ r.conn.life = .started ∧ [0x03, 1] ∉ r.conn.view.told := by
  obtain ⟨c, hc, hopened⟩ := opened_joined
  let before : List Action := accepting ++ toClient acceptBytes ++ toConn (incomingBytes 1 0)
  let after : List Action := .client (.fire default 1) :: toConn (packetBytes 2 1 [0x03, 1])
  have hrun : ∀ c,
      Run.exec RakClient.step (.init 7) (Handshake.opening ++ [.deliver default]) = .ok c →
      Run.Along Pair.step Admissible (joined c) before
        ∧ (fun q : Pair => decide (q.client.disconnectHandle = none ∧ q.conn.disconnectHandle = none
            ∧ Run.Along Pair.step Admissible q
              (.client (.call default (.packet [0x03, 1])) :: after)
            ∧ (fun r : Pair => decide ((∃ m ∈ r.up.said, m.user = true ∧ m.body = [0x03, 1])
                ∧ r.up.Complete r.up.said.length
                ∧ r.conn.life = .started ∧ [0x03, 1] ∉ r.conn.view.told))
              <$> Run.exec Pair.step q (.client (.call default (.packet [0x03, 1])) :: after)
              = .ok true))
          <$> Run.exec Pair.step (joined c) before = .ok true := by
    decide +kernel
  obtain ⟨hbefore, hexec⟩ := hrun c hc
  obtain ⟨q, hq, heq⟩ := map_eq_ok.mp hexec
  obtain ⟨haccepted, hconnected, hafter, hexec'⟩ := of_decide_eq_true heq
  obtain ⟨r, hr, heq'⟩ := map_eq_ok.mp hexec'
  obtain ⟨hsaid, harrived, hlife, hnot⟩ := of_decide_eq_true heq'
  exact ⟨joined c, q, r, before, after, hopened, hbefore, hq, haccepted, hconnected, hafter, hr,
    hsaid,
    harrived, hlife, hnot⟩

end Pair

end ActixRaknet
