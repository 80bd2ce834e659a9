import ActixRaknet.Pair.Basic

/-!
What the server's user is given of the messages of the client.

* `Served.released_after`: the plain messages behind one that announces the connection, as far as
  they have been released, have been given to the user or wait for it;
* `Pair.Delivers`: every packet of the client's user that has been released has been given so, or
  its front;
* `Pair.Timely`: the packet comes once the client has announced the connection, and the session does
  not take it for a ping or a pong;
* `delivers_of_timely`: in a run whose packets are timely, the packets are delivered.
-/

namespace ActixRaknet

open Fallible

/-- A frame whose body is followed by others. -/
lemma exists_frame_of_sublist {bodies bodies' : List Bytes} {body : Bytes} {log : List Frame}
    (h : (bodies ++ body :: bodies').Sublist (log.map Frame.data)) :
    ∃ before f after, log = before ++ f :: after ∧ f.data = body
      ∧ bodies'.Sublist (after.map Frame.data) := by
  have hrest := (List.sublist_append_right bodies (body :: bodies')).trans h
  obtain ⟨r₁, r₂, hlog, hbody, hsub⟩ := List.cons_sublist_iff.mp hrest
  obtain ⟨l₁, l₂, rfl, rfl, rfl⟩ := List.map_eq_append_iff.mp hlog
  obtain ⟨f, hf, hdata⟩ := List.mem_map.mp hbody
  obtain ⟨before, after, rfl⟩ := List.append_of_mem hf
  refine ⟨before, f, after ++ l₂, by rw [List.append_assoc, List.cons_append], hdata, ?_⟩
  rw [List.map_append]
  exact hsub.trans (List.sublist_append_right _ _)

/-- The payloads of some of the messages, if they all have the property. -/
lemma map_payload_sublist {P : Bytes → Prop} [DecidablePred P] {due released : List Message}
    (h : due.Sublist released) (hP : ∀ m ∈ due, P m.payload) :
    (due.map Message.payload).Sublist ((released.map Message.payload).filter (P ·)) := by
  have hself : (due.map Message.payload).filter (P ·) = due.map Message.payload := by
    refine List.filter_eq_self.mpr fun body hbody => ?_
    obtain ⟨m, hm, rfl⟩ := List.mem_map.mp hbody
    simpa using hP m hm
  rw [← hself]
  exact (h.map _).filter _

/-- What is announced is a frame that announces the connection, and the session passes it on. -/
lemma Message.Announces.frame {m : Message} (h : m.Announces) :
    Session.Plain m.payload ∧ m.user = false ∧ ∀ f : Frame, f.data = m.payload → f.Announces := by
  obtain ⟨body, q, rfl, hdecode⟩ := h
  have hid : ∀ id, id ≠ Packet.ID NewIncomingConnection →
      (Message.system (Packet.ID NewIncomingConnection :: body)).payload.head? ≠ some id :=
    fun id hid h => hid (Option.some.inj h).symm
  refine ⟨⟨hid _ (by decide), hid _ (by decide), hid _ (by decide)⟩, rfl, fun f hf => ?_⟩
  have hdata : f.data = Packet.ID NewIncomingConnection :: body := hf
  exact ⟨by rw [hdata, List.head?_cons], q, by rw [hdata, hdecode]⟩

namespace Pair

variable {handle : ConnectionHandle} {earlier : List Bytes} {p p' : Pair}

/-- **What is released behind an announcement**: while the connection lives, the plain payloads
among it have been given to the user or wait. -/
lemma Served.released_after (h : p.Served handle) (halive : p.conn.life ≠ .terminated) {j n : ℕ}
    {m : Message} (hm : p.up.said[j]? = some m) (hannounces : m.Announces)
    (hn : n ≤ p.conn.session.received.min) :
    ((((p.up.said.take n).drop (j + 1)).map Message.payload).filter (Session.Plain ·)).Sublist
      p.conn.view.told := by
  obtain ⟨hplain, -, hframe⟩ := hannounces.frame
  rcases Nat.lt_or_ge j n with hj | hj
  · obtain ⟨hlt, hget⟩ := List.getElem?_eq_some_iff.mp hm
    have hj' : j < (p.up.said.take n).length := by
      rw [List.length_take]
      omega
    have hsplit : p.up.said.take n
        = (p.up.said.take n).take j ++ m :: (p.up.said.take n).drop (j + 1) := by
      have hdrop := List.drop_eq_getElem_cons hj'
      rw [List.getElem_take, hget] at hdrop
      rw [← hdrop, List.take_append_drop]
    -- the payloads released, cut down to the first `n`
    have hpassed : ((payloads p.up.said n).filter (Session.Plain ·)).Sublist
        (p.conn.view.frames.map Frame.data) :=
      ((((List.take_prefix_take_left hn).sublist).map _).filter _).trans h.conn.listens.passed
    rw [payloads, hsplit, List.map_append, List.map_cons, List.filter_append,
      List.filter_cons_of_pos (by simpa using hplain)] at hpassed
    obtain ⟨before, f, after, hframes, hdata, hsub⟩ := exists_frame_of_sublist hpassed
    have htold := h.telling.2.sublist_told (ServerConn.view_alive halive)
    have hsuffix := suffix_afterIncoming before after (hframe f hdata)
    rw [← hframes] at hsuffix
    exact hsub.trans ((hsuffix.sublist.map _).trans htold)
  · rw [List.drop_eq_nil_of_le (by rw [List.length_take]; omega)]
    exact List.nil_sublist _

end Pair

/-! ### The packets of the client's user -/

/-- Every message of the user comes behind one that announces the connection, and the session does
not take it for a ping or a pong. -/
def Timed (said : List Message) : Prop :=
  ∀ i m, said[i]? = some m → m.user = true → (∃ a ∈ said.take i, a.Announces)
    ∧ m.body.head? ≠ some (Packet.ID ConnectedPing) ∧ m.body.head? ≠ some (Packet.ID ConnectedPong)

lemma Timed.append {said more : List Message} (h : Timed said)
    (hmore : ∀ m ∈ more, m.user = true → (∃ a ∈ said, a.Announces)
      ∧ m.body.head? ≠ some (Packet.ID ConnectedPing)
      ∧ m.body.head? ≠ some (Packet.ID ConnectedPong)) : Timed (said ++ more) := by
  intro i m hm huser
  rcases Nat.lt_or_ge i said.length with hi | hi
  · rw [List.getElem?_append_left hi] at hm
    rw [List.take_append_of_le_length hi.le]
    exact h i m hm huser
  · rw [List.getElem?_append_right hi] at hm
    obtain ⟨⟨a, ha, hannounces⟩, hbody⟩ := hmore m (List.mem_of_getElem? hm) huser
    refine ⟨⟨a, ?_, hannounces⟩, hbody⟩
    rw [List.take_append, List.take_of_length_le hi]
    exact List.mem_append_left _ ha

/-- Of the first messages, those of the user are behind one that announces the connection. -/
lemma Timed.split {said : List Message} (h : Timed said) (n : ℕ) :
    (∀ m ∈ said.take n, m.user = false)
      ∨ ∃ j < n, ∃ m, said[j]? = some m ∧ m.Announces
        ∧ ∀ m ∈ (said.take n).take (j + 1), m.user = false := by
  induction n with
  | zero => exact Or.inl fun m hm => by simp at hm
  | succ n ih =>
      rcases ih with hnone | ⟨j, hj, a, ha, hannounces, hfront⟩
      · cases hn : said[n]? with
        | none =>
            refine Or.inl fun m hm => hnone m ?_
            rwa [List.take_add_one, hn, Option.toList_none, List.append_nil] at hm
        | some m =>
            cases huser : m.user with
            | false =>
                refine Or.inl fun m' hm' => ?_
                rw [List.take_add_one, hn, Option.toList_some] at hm'
                rcases List.mem_append.mp hm' with hm' | hm'
                · exact hnone m' hm'
                · exact List.mem_singleton.mp hm' ▸ huser
            | true =>
                obtain ⟨⟨a, ha, hannounces⟩, -⟩ := h n m hn huser
                obtain ⟨j, hj, hget⟩ := List.getElem_of_mem ha
                rw [List.length_take] at hj
                refine Or.inr ⟨j, by omega, a, ?_, hannounces, fun m' hm' => hnone m' ?_⟩
                · rw [← hget, List.getElem_take, List.getElem?_eq_getElem]
                · rw [List.take_take, min_eq_left (by omega)] at hm'
                  exact (List.take_prefix_take_left (by omega)).subset hm'
      · refine Or.inr ⟨j, by omega, a, ha, hannounces, ?_⟩
        rw [List.take_take, min_eq_left hj] at hfront
        rwa [List.take_take, min_eq_left (by omega)]

namespace Pair

/-- A packet that the client takes comes once it has announced the connection, and the session of
the server does not take it for a ping or a pong. -/
def Timely (p : Pair) : Action → Prop
  | .client (.call _ (.packet bytes)) => p.session.isSome →
    p.client.disconnectHandle = none ∧ bytes.head? ≠ some (Packet.ID ConnectedPing)
      ∧ bytes.head? ≠ some (Packet.ID ConnectedPong)
  | _ => True

instance (p : Pair) : DecidablePred p.Timely
  | .client (.call _ (.packet _)) => inferInstanceAs (Decidable (_ → _))
  | .client (.call _ (.connect _)) => inferInstanceAs (Decidable True)
  | .client (.call _ .disconnect) => inferInstanceAs (Decidable True)
  | .client (.receivedUdp _ _) => inferInstanceAs (Decidable True)
  | .client (.deliver _) => inferInstanceAs (Decidable True)
  | .client (.fire _ _) => inferInstanceAs (Decidable True)
  | .client (.mediator _ _) => inferInstanceAs (Decidable True)
  | .conn _ => inferInstanceAs (Decidable True)

/-- **The packets that have been released are delivered**: while the connection has not ended, its
user has been given each packet of the client's user that its session has released, or the packet
waits in the mailbox, or its front if `send_to` queues no more. -/
def Delivers (p : Pair) : Prop :=
  p.conn.life ≠ .terminated → p.conn.session.disconnected = false →
    ∃ delivered, delivered.Sublist p.conn.view.told
      ∧ ((p.up.said.take p.conn.session.received.min).filter (·.user)).Forall₂
        (fun m body => body ≠ [] ∧ body <+: m.body
          ∧ (Message.Whole p.up.mtu m.body → body = m.body)) delivered

variable {handle : ConnectionHandle} {earlier : List Bytes} {p p' : Pair}

/-- **Step lemma**: a timely step keeps the messages of the user behind the announcement. -/
lemma Agrees.timed_step (h : p.Agrees earlier handle) (htimed : Timed p.up.said) {a : Action}
    (ha : p.Timely a) (hs : p.step a = .ok p') : Timed p'.up.said := by
  cases a with
  | conn op =>
      obtain ⟨conn, -, hp⟩ := bind_eq_ok.mp hs
      exact Except.ok.inj hp ▸ htimed
  | client a =>
      obtain ⟨client, -, hp⟩ := bind_eq_ok.mp hs
      obtain rfl := Except.ok.inj hp
      rw [clientMoves]
      split
      · rename_i s s' hsession hsession'
        refine htimed.append fun m hm huser => ?_
        obtain ⟨env, hmem⟩ := Session.user_spoken hm huser
        obtain ⟨env', rfl⟩ := RakClient.call_of_sendTo hmem
        obtain ⟨haccepted, hbody⟩ := ha (Option.isSome_of_mem hsession)
        exact ⟨h.announced (Option.isSome_of_mem hsession) haccepted, hbody⟩
      · exact htimed

/-- Where the user's messages are timed, what has been released of them is delivered. -/
lemma Served.delivers_all (h : p.Served handle) (htimed : Timed p.up.said) : p.Delivers := by
  intro halive hopen
  rcases htimed.split p.conn.session.received.min with hnone | ⟨j, -, a, ha, hannounces, hfront⟩
  · refine ⟨[], List.nil_sublist _, ?_⟩
    rw [List.filter_eq_nil_iff.mpr fun m hm => by rw [hnone m hm]; exact Bool.false_ne_true]
    exact .nil
  · have husers : (p.up.said.take p.conn.session.received.min).filter (·.user)
        = ((p.up.said.take p.conn.session.received.min).drop (j + 1)).filter (·.user) := by
      conv_lhs => rw [← List.take_append_drop (j + 1) (p.up.said.take _), List.filter_append]
      rw [List.filter_eq_nil_iff.mpr fun m hm => by rw [hfront m hm]; exact Bool.false_ne_true,
        List.nil_append]
    -- what is known of a message of the user that has been released
    have hreleased : ∀ m ∈ (p.up.said.take p.conn.session.received.min).filter (·.user),
        m.payload ≠ [] ∧ m.payload <+: m.body ∧ (Message.Whole p.up.mtu m.body → m.payload = m.body)
          ∧ Session.Plain m.payload := by
      intro m hm
      obtain ⟨hm, huser⟩ := List.mem_filter.mp hm
      have hfaithful := h.up.faithful m (List.mem_of_mem_take hm)
      have hpayload : m.payload ∈ payloads p.up.said p.conn.session.received.min :=
        List.mem_map_of_mem hm
      have hne := h.conn.listens.nonempty _ hpayload
      obtain ⟨i, hi, hget⟩ := List.getElem_of_mem (List.mem_of_mem_take hm)
      obtain ⟨-, hping, hpong⟩ := htimed i m (by rw [← hget, List.getElem?_eq_getElem]) huser
      have hhead : m.payload.head? = m.body.head? := by
        obtain ⟨b, rest, hb⟩ := List.exists_cons_of_ne_nil hne
        have hid : m.payload.head? = some b := by rw [hb, List.head?_cons]
        rw [hid, hfaithful.head?_body hid]
      refine ⟨hne, hfaithful.payload_front, fun hw => hfaithful.whole (Or.inr hw), ?_⟩
      rw [Session.Plain, hhead]
      exact ⟨hping, hpong, hhead ▸ h.conn.listens.opened hopen _ hpayload⟩
    refine ⟨((p.up.said.take p.conn.session.received.min).filter (·.user)).map Message.payload,
      ?_, ?_⟩
    · refine (map_payload_sublist ?_ fun m hm => (hreleased m hm).2.2.2).trans
        (h.released_after halive ha hannounces le_rfl)
      rw [husers]
      exact List.filter_sublist
    · rw [List.forall₂_map_right_iff, List.forall₂_same]
      intro m hm
      obtain ⟨hne, hfront, hwhole, -⟩ := hreleased m hm
      exact ⟨hne, hfront, hwhole⟩

/-- **Acknowledged packets are not dropped**, in a run whose packets come once the client has
announced the connection. -/
theorem delivers_of_timely (hp : p.Opened) {actions : List Action}
    (h : Run.Along Pair.step (fun p a => p.Admissible a ∧ p.Timely a) p actions) :
    Run.Always Pair.step Delivers p actions := by
  obtain ⟨handle, hagrees, hsaid⟩ := hp.agrees
  have htimed : Timed p.up.said := by
    rw [hsaid]
    exact fun i m hm => by cases hm
  have halways := Run.always_of_along
    (P := fun q => q.Agrees p.client.told handle ∧ Timed q.up.said)
    (fun q a q' hq ha hs => ⟨hq.1.step ha.1 hs, hq.1.timed_step hq.2 ha.2 hs⟩) ⟨hagrees, htimed⟩ h
  exact halways.mono fun q hq => hq.1.toServed.delivers_all hq.2

/-- The theorem where a packet is given once the client has handled the accept. -/
theorem delivers_of_timely_sample :
    ∃ p : Pair, p.Opened ∧ Run.Always Pair.step Delivers p (accepting ++ toClient acceptBytes
      ++ [.client (.call default (.packet [0xfe, 1])), .client (.fire default 1)]
      ++ toConn (incomingBytes 1 0) ++ toConn (packetBytes 2 1 [0xfe, 1])) := by
  obtain ⟨c, hc, hopened⟩ := opened_joined
  have hrun : ∀ c,
      Run.exec RakClient.step (.init 7) (Handshake.opening ++ [.deliver default]) = .ok c →
      Run.Along Pair.step (fun p a => p.Admissible a ∧ p.Timely a) (joined c)
        (accepting ++ toClient acceptBytes
          ++ [.client (.call default (.packet [0xfe, 1])), .client (.fire default 1)]
          ++ toConn (incomingBytes 1 0) ++ toConn (packetBytes 2 1 [0xfe, 1])) := by
    decide +kernel
  exact ⟨joined c, hopened, delivers_of_timely hopened (hrun c hc)⟩

/-- A packet that is given before the client has handled the accept is released and acknowledged,
and the connection, which is then established, has given its user nothing. -/
theorem delivers_counterexample :
    ∃ (p q : Pair) (actions : List Action), p.Opened ∧ Run.Along Pair.step Admissible p actions
      ∧ Run.exec Pair.step p actions = .ok q ∧ ¬q.Delivers
      ∧ q.conn.sent = [.event (.connected q.conn.myHandle)]
      ∧ Ack.datagram (1, 1) ∈ q.down.wire := by
  obtain ⟨c, hc, hopened⟩ := opened_joined
  let actions : List Action := accepting
    ++ [.client (.call default (.packet [0xfe, 1])), .client (.fire default 1)]
    ++ toConn (packetBytes 1 0 [0xfe, 1]) ++ [.conn (.act (.fire default 1))]
    ++ toClient acceptBytes
    ++ toConn (incomingBytes 2 1)
  have hrun : ∀ c,
      Run.exec RakClient.step (.init 7) (Handshake.opening ++ [.deliver default]) = .ok c →
      Run.Along Pair.step Admissible (joined c) actions
        ∧ (fun q : Pair => decide (q.conn.life ≠ .terminated ∧ q.conn.session.disconnected = false
            ∧ q.conn.view.told = []
            ∧ ((q.up.said.take q.conn.session.received.min).filter (·.user)).map (·.body) ≠ []
            ∧ q.conn.sent = [.event (.connected q.conn.myHandle)]
            ∧ Ack.datagram (1, 1) ∈ q.down.wire))
          <$> Run.exec Pair.step (joined c) actions = .ok true := by
    decide +kernel
  obtain ⟨halong, hexec⟩ := hrun c hc
  obtain ⟨q, hq, heq⟩ := map_eq_ok.mp hexec
  obtain ⟨hlife, hopen, htold, husers, hsent, hack⟩ := of_decide_eq_true heq
  refine ⟨joined c, q, actions, hopened, halong, hq, fun hdelivers => ?_, hsent, hack⟩
  obtain ⟨delivered, hsub, hall⟩ := hdelivers hlife hopen
  obtain rfl := List.sublist_nil.mp (htold ▸ hsub)
  rw [List.forall₂_nil_right_iff.mp hall] at husers
  exact husers rfl

end Pair

end ActixRaknet
