import ActixRaknet.Session.Messages

/-!
What a session passes on of the messages that its peer speaks.

* `Session.Plain`: the bytes are none that `handle_packet` keeps, `handlePackets_spec`;
* `Session.reports`: what the calls of a session post;
* `Session.Listens`: the messages before the first one whose frames have not all arrived have been
  released, and those of them that are plain have been passed on, in order; `Listens.step`,
  `Listens.exec`.
-/

namespace ActixRaknet

open Fallible ReceivedQueue

/-- The payloads of the first `n` messages. -/
def payloads (said : List Message) (n : ℕ) : List Bytes := (said.take n).map Message.payload

namespace ReceivedQueue

variable {messages : ℕ → Carrier} {arrivals : List Frame}

lemma Arrived.exists_mem {k : ℕ} (h : Arrived messages arrivals k) :
    ∃ f ∈ arrivals, f.orderIndex = k := by
  rw [Arrived] at h
  cases hm : messages k with
  | unsplit body =>
      rw [hm] at h
      exact h
  | fragments splitId bodies nonempty =>
      rw [hm] at h
      obtain ⟨f, hf, hk, -⟩ := h 0 (List.length_pos_iff.mpr nonempty)
      exact ⟨f, hf, hk⟩

/-- Whether a message has arrived depends on how it travels alone, and one that no frame carries
has not. -/
lemma arrived_congr {messages' : ℕ → Carrier}
    (h : ∀ f ∈ arrivals, messages' f.orderIndex = messages f.orderIndex) (k : ℕ) :
    Arrived messages' arrivals k ↔ Arrived messages arrivals k := by
  have hsame : ∀ {m m' : ℕ → Carrier}, (∀ f ∈ arrivals, m' f.orderIndex = m f.orderIndex) →
      Arrived m arrivals k → Arrived m' arrivals k := by
    intro m m' hm hk
    obtain ⟨f, hf, rfl⟩ := hk.exists_mem
    rwa [Arrived, hm f hf]
  exact ⟨hsame fun f hf => (h f hf).symm, hsame h⟩

lemma Fragments.congr {messages' : ℕ → Carrier} {q : SplitPacketQueue}
    (h : Fragments messages arrivals q)
    (hmessages : ∀ f ∈ arrivals, messages' f.orderIndex = messages f.orderIndex) :
    Fragments messages' arrivals q where
  toDraining := h.toDraining
  opened := h.opened
  held := h.held
  kept := h.kept
  done id hid := by
    obtain ⟨f, hf, hsplit, hfid, harrived⟩ := h.done id hid
    exact ⟨f, hf, hsplit, hfid, (arrived_congr hmessages _).mpr harrived⟩

lemma Drawn.left {more : List Frame} (h : Drawn messages (arrivals ++ more)) :
    Drawn messages arrivals where
  carries f hf := h.carries f (List.mem_append_left _ hf)
  splitId f hf g hg := h.splitId f (List.mem_append_left _ hf) g (List.mem_append_left _ hg)
  orderIndex_lt f hf := h.orderIndex_lt f (List.mem_append_left _ hf)

/-- What `hand` does to an ordered frame. -/
lemma hand_of_receive {released : List Frame} {q : ReceivedQueue} {f : Frame}
    {s : List Frame × ReceivedQueue} (hordered : f.reliability.sequencedOrOrdered = true)
    (h : receive (released, q) f = .ok s) :
    ∃ ret, q.hand f = .ok (ret, s.2) ∧ s.1 = released ++ ret := by
  obtain ⟨q₁, hadd, hall⟩ := bind_eq_ok.mp h
  obtain rfl := Except.ok.inj hall
  refine ⟨q₁.getAll.1, ?_, rfl⟩
  rw [hand, if_pos hordered, hadd, ok_bind]
  rfl

/-- The ordered frames of a datagram. -/
def ordered (fs : List Frame) : List Frame := fs.filter fun f => f.reliability.sequencedOrOrdered

/-- **The frames of a datagram** keep the queue in step with the arrivals, and what they release is
among the frames handed on. -/
lemma Reassembled.handed {released : List Frame} {q q' : ReceivedQueue} {fs l : List Frame}
    (hd : Drawn messages (arrivals ++ ordered fs))
    (hs : Reassembled (payloadOf messages) (Arrived messages arrivals) (released, q))
    (hp : Fragments messages arrivals q.splits) (h : q.handed fs = .ok (l, q')) :
    ∃ r, r.Sublist l
      ∧ Reassembled (payloadOf messages) (Arrived messages (arrivals ++ ordered fs))
          (released ++ r, q')
      ∧ Fragments messages (arrivals ++ ordered fs) q'.splits := by
  induction fs generalizing arrivals released q l with
  | nil =>
      obtain ⟨rfl, rfl⟩ := Prod.mk.inj (Except.ok.inj h)
      refine ⟨[], List.Sublist.refl _, ?_, ?_⟩
      · rwa [ordered, List.filter_nil, List.append_nil, List.append_nil]
      · rwa [ordered, List.filter_nil, List.append_nil]
  | cons f fs ih =>
      obtain ⟨ret, q₁, rest, hhand, hrest, rfl⟩ := handed_cons_eq_ok.mp h
      cases hordered : f.reliability.sequencedOrOrdered with
      | false =>
          have hskip : ordered (f :: fs) = ordered fs :=
            List.filter_cons_of_neg (by rw [hordered]; exact Bool.false_ne_true)
          rw [hand, hordered, if_neg Bool.false_ne_true] at hhand
          obtain ⟨rfl, rfl⟩ := Prod.mk.inj (Except.ok.inj hhand)
          rw [hskip] at hd ⊢
          obtain ⟨r, hsub, hall⟩ := ih hd hs hp hrest
          exact ⟨r, hsub.trans (List.sublist_append_right _ _), hall⟩
      | true =>
          have htake : ordered (f :: fs) = f :: ordered fs := List.filter_cons_of_pos hordered
          rw [htake, List.append_cons] at hd ⊢
          obtain ⟨s, hreceive, hs', hp'⟩ := receive_step hd.left hs hp
          obtain ⟨ret', hhand', hreleased⟩ := hand_of_receive hordered hreceive
          obtain ⟨rfl, rfl⟩ := Prod.mk.inj (Except.ok.inj (hhand'.symm.trans hhand))
          have hs'' : Reassembled (payloadOf messages) (Arrived messages (arrivals ++ [f]))
              (released ++ ret', s.2) := hreleased ▸ hs'
          obtain ⟨r, hsub, hall⟩ := ih hd hs'' hp' hrest
          rw [List.append_assoc released] at hall
          exact ⟨ret' ++ r, hsub.append_left ret', hall⟩

end ReceivedQueue

/-- What is released are the payloads of the first messages. -/
lemma map_payloadOf {said : List Message} {n : ℕ} (h : n ≤ said.length) :
    (List.range n).map (payloadOf (carriers said)) = payloads said n := by
  refine List.ext_getElem (by simp [payloads, h]) fun i hi hi' => ?_
  rw [List.length_map, List.length_range] at hi
  have hsome : said[i]? = some said[i] := List.getElem?_eq_getElem (by omega)
  simp only [payloads, List.getElem_map, List.getElem_range, List.getElem_take, payloadOf,
    carriers_eq hsome, Message.payload]

namespace Session

/-! ### Frames that are handled -/

/-- The first byte is not one that `handle_packet` takes for a packet of its own. -/
def Plain (body : Bytes) : Prop :=
  body.head? ≠ some (Packet.ID ConnectedPing) ∧ body.head? ≠ some (Packet.ID ConnectedPong)
    ∧ body.head? ≠ some (Packet.ID Disconnected)

instance : DecidablePred Plain := fun _ => inferInstanceAs (Decidable (_ ∧ _))

/-- The first byte is that of a `Disconnected`. -/
def Ends (body : Bytes) : Prop := body.head? = some (Packet.ID Disconnected)

variable {s s' : Session} {env : Env}

lemma send_posted {clock : PacketQueue.Clock} {f : Frame} (h : s.send clock f = .ok s') :
    s'.posted = s.posted ∧ s'.disconnected = s.disconnected := by
  simp only [send, bind_eq_ok, pure_eq_ok, Except.ok.injEq] at h
  obtain ⟨q, -, rfl⟩ := h
  exact ⟨rfl, rfl⟩

/-- **A frame that is handled** is not empty; it is passed on if it is plain, and one that says
goodbye ends the session. -/
lemma handlePacket_spec {f : Frame} (h : handlePacket env s f = .ok s') :
    f.data ≠ [] ∧ s'.posted = s.posted ++ [f].filter (fun f => Plain f.data)
      ∧ (s'.disconnected = false → s.disconnected = false ∧ ¬Ends f.data) := by
  obtain ⟨id, hid, h⟩ := bind_eq_ok.mp h
  rw [index_zero_eq_ok] at hid
  have hdata : f.data ≠ [] := fun hnil => by
    rw [hnil] at hid
    cases hid
  have hplain : Plain f.data ↔ id ≠ Packet.ID ConnectedPing ∧ id ≠ Packet.ID ConnectedPong
      ∧ id ≠ Packet.ID Disconnected := by
    simp only [Plain, hid, ne_eq, Option.some.injEq]
  have hends : Ends f.data ↔ id = Packet.ID Disconnected := by
    rw [Ends, hid, Option.some.injEq]
  have hkept : ¬Plain f.data → [f].filter (fun f => Plain f.data) = [] := fun hnot => by
    rw [List.filter_cons_of_neg (by simpa using hnot), List.filter_nil]
  refine ⟨hdata, ?_⟩
  split_ifs at h with hping hpong hdis
  · rw [hkept (fun hf => (hplain.mp hf).1 hping), List.append_nil, hends, hping]
    have hnot : ¬Packet.ID ConnectedPing = Packet.ID Disconnected := by decide
    rcases unwrapOrReturn_eq_ok h with rfl | ⟨ping, -, h⟩
    · exact ⟨rfl, fun hs => ⟨hs, hnot⟩⟩
    · obtain ⟨bytes, -, hsend⟩ := bind_eq_ok.mp h
      obtain ⟨hposted, hdisconnected⟩ := send_posted hsend
      exact ⟨hposted, fun hs => ⟨hdisconnected.symm.trans hs, hnot⟩⟩
  · rw [hkept (fun hf => (hplain.mp hf).2.1 hpong), List.append_nil, hends, hpong]
    have hs' : s' = { s with lastReceive := env.receive } := by
      rcases unwrapOrReturn_eq_ok h with rfl | ⟨pong, -, h⟩
      · rfl
      · exact (Except.ok.inj h).symm
    rw [hs']
    exact ⟨rfl, fun hs => ⟨hs, by decide⟩⟩
  · rw [hkept (fun hf => (hplain.mp hf).2.2 hdis), List.append_nil]
    have hs' : s' = Session.end { s with lastReceive := env.receive } := by
      -- there is nothing to read, so it always decodes
      obtain ⟨b, rest, hf⟩ := List.exists_cons_of_ne_nil hdata
      rw [hf] at h
      exact (Except.ok.inj h).symm
    rw [hs']
    exact ⟨posted_end _, fun hs => nomatch hs⟩
  · rw [List.filter_cons_of_pos (by simpa using hplain.mpr ⟨hping, hpong, hdis⟩), List.filter_nil]
    obtain rfl := Except.ok.inj h
    exact ⟨List.filterMap_append, fun hs => ⟨hs, mt hends.mp hdis⟩⟩

lemma handlePackets_spec {l : List Frame} (h : l.foldlM (handlePacket env) s = .ok s') :
    (∀ f ∈ l, f.data ≠ []) ∧ s'.posted = s.posted ++ l.filter (fun f => Plain f.data)
      ∧ (s'.disconnected = false → s.disconnected = false ∧ ∀ f ∈ l, ¬Ends f.data) := by
  induction l generalizing s with
  | nil =>
      obtain rfl := Except.ok.inj h
      exact ⟨fun _ hf => absurd hf List.not_mem_nil, (List.append_nil _).symm,
        fun hs => ⟨hs, fun _ hf => absurd hf List.not_mem_nil⟩⟩
  | cons f l ih =>
      obtain ⟨s₁, hf, hl⟩ := foldlM_cons_eq_ok.mp h
      obtain ⟨hdata, hposted, hopen⟩ := handlePacket_spec hf
      obtain ⟨hdatas, hposteds, hopens⟩ := ih hl
      refine ⟨List.forall_mem_cons.mpr ⟨hdata, hdatas⟩, ?_, fun hs => ?_⟩
      · rw [hposteds, hposted, List.append_assoc, ← List.filter_append, List.singleton_append]
      · obtain ⟨hs₁, hrest⟩ := hopens hs
        obtain ⟨hs, hfirst⟩ := hopen hs₁
        exact ⟨hs, List.forall_mem_cons.mpr ⟨hfirst, hrest⟩⟩

/-! ### Calls -/

/-- A call that takes in no frame set leaves the receive queue alone, passes nothing on, and does
not bring an ended session back. -/
lemma step_of_not_routed {op : Op} (h : s.step op = .ok s')
    (hop : ∀ env msg, op = .handle env msg → ¬Routed msg.bytes) :
    s'.received = s.received ∧ s'.posted = s.posted
      ∧ (s'.disconnected = false → s.disconnected = false) := by
  have hpasses : Passes s s' [] → s'.received = s.received ∧ s'.posted = s.posted := fun hp =>
    ⟨hp.received, hp.posted.trans (List.append_nil _)⟩
  have hflush : ∀ {t t' : Session} {clock order}, t.flushQueue clock order = .ok t' →
      t'.disconnected = t.disconnected := by
    intro t t' clock order ht
    obtain ⟨⟨sets, q⟩, -, hsets⟩ := bind_eq_ok.mp ht
    refine foldlM_induction (P := fun u : Session => u.disconnected = t.disconnected)
      (f := sendSet) (fun u fs u' _ hu hstep => ?_) (s := { t with packetQueue := q }) rfl hsets
    obtain ⟨bytes, -, hstep⟩ := bind_eq_ok.mp hstep
    exact Except.ok.inj hstep ▸ hu
  cases op with
  | update env =>
      refine ⟨(hpasses (passes_update h)).1, (hpasses (passes_update h)).2, fun hs => ?_⟩
      by_contra hdisconnected
      rw [step, update, if_pos (Bool.eq_true_of_not_eq_false hdisconnected)] at h
      exact hdisconnected (Except.ok.inj h ▸ hs)
  | forceFlush env =>
      exact ⟨(hpasses (passes_flushQueue h)).1, (hpasses (passes_flushQueue h)).2,
        fun hs => (hflush h).symm.trans hs⟩
  | disconnect env =>
      refine ⟨(hpasses (passes_disconnect h)).1, (hpasses (passes_disconnect h)).2, fun hs => ?_⟩
      simp only [step, disconnect, bind_eq_ok, pure_eq_ok, Except.ok.injEq] at h
      obtain ⟨_, -, _, -, _, -, _, -, s₁, -, rfl⟩ := h
      cases hs
  | sendSystemPacket env P packet reliability =>
      refine ⟨(hpasses (passes_sendSystemPacket h)).1, (hpasses (passes_sendSystemPacket h)).2,
        fun hs => ?_⟩
      simp only [step, sendSystemPacket, bind_eq_ok] at h
      obtain ⟨_, -, _, -, _, -, hsend⟩ := h
      exact (send_posted hsend).2.symm.trans hs
  | sendTo env buff =>
      refine ⟨(hpasses (passes_sendTo h)).1, (hpasses (passes_sendTo h)).2, fun hs => ?_⟩
      by_cases hlen : buff.length < s.mtu.toNat - 46
      · obtain ⟨q, -, rfl⟩ := sendTo_whole hlen h
        exact hs
      · simp only [step, sendTo, bind_eq_ok, u16Sub_eq_ok] at h
        obtain ⟨_, ⟨-, rfl⟩, _, ⟨-, rfl⟩, h⟩ := h
        rw [if_neg (by omega)] at h
        obtain ⟨-, -, rfl⟩ := sendSplit_eq_ok.mp h
        exact hs
  | handle env msg =>
      rcases handle_of_not_routed (hop env msg rfl) h with hack | hnack | rfl
      · obtain ⟨hreceived, hposted⟩ := hpasses (passes_handleAck hack)
        refine ⟨hreceived, hposted, fun hs => ?_⟩
        rcases unwrapOrReturn_eq_ok hack with rfl | ⟨ack, -, hack⟩
        · exact hs
        · simp only [bind_eq_ok, pure_eq_ok, Except.ok.injEq] at hack
          obtain ⟨_, -, rfl⟩ := hack
          exact hs
      · refine ⟨(hpasses (passes_handleNack hnack)).1, (hpasses (passes_handleNack hnack)).2,
          fun hs => ?_⟩
        rcases unwrapOrReturn_eq_ok hnack with rfl | ⟨nack, -, hnack⟩
        · exact hs
        · simp only [bind_eq_ok, pure_eq_ok, Except.ok.injEq] at hnack
          obtain ⟨_, -, _, -, rfl⟩ := hnack
          exact hs
      · exact ⟨rfl, rfl, id⟩

/-- The frames that come in with a call. -/
def Op.incoming : Op → List Frame
  | .handle _ msg => arrives msg.bytes
  | _ => []

/-- What the calls that an actor makes post to it. -/
def reports (s : Session) : List Op → List ParentMsg
  | [] => []
  | op :: ops =>
    match s.step op with
    | .error _ => []
    | .ok t => t.parent ++ reports { t with parent := [] } ops

lemma reports_singleton {op : Op} (h : s.step op = .ok s') : s.reports [op] = s'.parent := by
  rw [reports, h]
  exact List.append_nil _

lemma reports_append {ops ops' : List Op} (h : Run.exec turn s ops = .ok s') :
    s.reports (ops ++ ops') = s.reports ops ++ s'.reports ops' := by
  induction ops generalizing s with
  | nil => exact Except.ok.inj h ▸ rfl
  | cons op ops ih =>
      obtain ⟨t, hturn, hrest⟩ := Run.exec_cons.mp h
      obtain ⟨u, hstep, ht⟩ := bind_eq_ok.mp hturn
      obtain rfl := Except.ok.inj ht
      rw [List.cons_append, reports, hstep, reports, hstep]
      simp only [ih hrest, List.append_assoc]

/-- What a call passes on is not empty. -/
lemma posted_step (hready : s.Ready) {op : Op} (h : s.step op = .ok s') {f : Frame}
    (hf : f ∈ s'.posted) : f ∈ s.posted ∨ f.data ≠ [] := by
  by_cases hrouted : ∃ env msg, op = .handle env msg ∧ Routed msg.bytes
  · obtain ⟨env, msg, rfl, hmsg⟩ := hrouted
    rw [step, handle_of_routed hmsg] at h
    cases hdecode : FrameSet.decode msg.bytes with
    | error e =>
        rw [handleDatagram, hdecode] at h
        exact Or.inl (Except.ok.inj h ▸ hf)
    | ok frameSet =>
        obtain ⟨ackQueue, l, q, -, -, -, heq⟩ := hready.handleDatagram_eq env hdecode
        obtain ⟨t, hfold, rfl⟩ := map_eq_ok.mp (heq.symm.trans h)
        obtain ⟨hdata, hposted, -⟩ := handlePackets_spec hfold
        have hf : f ∈ t.posted := hf
        rw [hposted] at hf
        rcases List.mem_append.mp hf with hf | hf
        · exact Or.inl hf
        · exact Or.inr (hdata f (List.mem_of_mem_filter hf))
  · push Not at hrouted
    obtain ⟨-, hposted, -⟩ := step_of_not_routed h hrouted
    exact Or.inl (hposted ▸ hf)

/-- Nor is what the calls of an actor pass on. -/
lemma reports_ne_nil (hready : s.Ready) (hposted : s.posted = []) {ops : List Op} {f : Frame}
    (hf : f ∈ (s.reports ops).filterMap ParentMsg.frame?) : f.data ≠ [] := by
  induction ops generalizing s with
  | nil => exact absurd hf List.not_mem_nil
  | cons op ops ih =>
      rw [reports] at hf
      cases hstep : s.step op with
      | error e =>
          rw [hstep] at hf
          exact absurd hf List.not_mem_nil
      | ok t =>
          simp only [hstep, List.filterMap_append] at hf
          rcases List.mem_append.mp hf with hf | hf
          · rcases posted_step hready hstep hf with hold | hdata
            · rw [hposted] at hold
              exact absurd hold List.not_mem_nil
            · exact hdata
          · have hready' := hready.step hstep
            exact ih (s := { t with parent := [] }) ⟨hready'.sane, hready'.max_lt⟩ rfl hf

/-- **The session listens to the messages**: it has released those before the first one whose frames
have not all arrived; of them it has passed on the plain ones, in order, among the frames in `log`;
and none was empty, or said goodbye to a session that has not ended. -/
structure Listens (said : List Message) (arrivals : List Frame) (s : Session) (log : List Frame) :
    Prop where
  ready : s.Ready
  apart : Apart said
  known : ∀ f ∈ arrivals, f.Tells said ∧ f.reliability.sequencedOrOrdered = true
    ∧ f.orderIndex < 2 ^ 24
  assembled : ∃ released, Reassembled (payloadOf (carriers said)) (Arrived (carriers said) arrivals)
    (released, s.received)
  pool : Fragments (carriers said) arrivals s.received.splits
  passed : ((payloads said s.received.min).filter (Plain ·)).Sublist (log.map Frame.data)
  nonempty : ∀ body ∈ payloads said s.received.min, body ≠ []
  opened : s.disconnected = false → ∀ body ∈ payloads said s.received.min, ¬Ends body

section Listens

variable {said : List Message} {arrivals log : List Frame}

lemma listens_new (hapart : Apart said) (addr : SocketAddr) (mtu : UInt16)
    (lastPing lastReceive : Instant) :
    Listens said [] (new addr mtu lastPing lastReceive) log where
  ready := ready_new addr mtu lastPing lastReceive
  apart := hapart
  known _ hf := absurd hf List.not_mem_nil
  assembled := ⟨[], window_new.congr (fun k => iff_false_intro (not_arrived_nil k)) fun _ _ => rfl,
    not_arrived_nil _, rfl⟩
  pool := fragments_nil
  passed := List.nil_sublist _
  nonempty _ hbody := absurd hbody List.not_mem_nil
  opened _ _ hbody := absurd hbody List.not_mem_nil

/-- The message of an ordered frame. -/
lemma message_of_known {f : Frame} (hf : f.Tells said)
    (hordered : f.reliability.sequencedOrOrdered = true) :
    f.orderIndex < said.length ∧ Carries (carriers said) f :=
  hf.message _ (Frame.message_eq_some.mpr ⟨hordered, rfl⟩)

/-- Frames that tell messages with split ids of their own are drawn from their frames. -/
lemma drawn_of_known (hapart : Apart said)
    (hknown : ∀ f ∈ arrivals, f.Tells said ∧ f.reliability.sequencedOrOrdered = true
      ∧ f.orderIndex < 2 ^ 24) : Drawn (carriers said) arrivals := by
  have hsplit : ∀ f ∈ arrivals, f.split = true → ∃ h : f.orderIndex < said.length,
      said[f.orderIndex].splitId? = some f.splitId := by
    intro f hf hsplit
    obtain ⟨htells, hordered, -⟩ := hknown f hf
    obtain ⟨hlt, hcarries⟩ := message_of_known htells hordered
    obtain ⟨bodies, nonempty, hmessage, -⟩ := carries_split hcarries hsplit
    refine ⟨hlt, ?_⟩
    rw [carriers_eq (List.getElem?_eq_getElem hlt)] at hmessage
    rw [Message.splitId?, hmessage]
  refine ⟨fun f hf => ?_, fun f hf g hg hfs hgs hid => ?_, fun f hf => ?_⟩
  · obtain ⟨htells, hordered, -⟩ := hknown f hf
    exact (message_of_known htells hordered).2
  · obtain ⟨hflt, hfid⟩ := hsplit f hf hfs
    obtain ⟨hglt, hgid⟩ := hsplit g hg hgs
    rcases Nat.lt_trichotomy f.orderIndex g.orderIndex with hlt | heq | hgt
    · exact absurd (hid ▸ hgid) (List.pairwise_iff_getElem.mp hapart _ _ hflt hglt hlt _ hfid)
    · exact heq
    · exact absurd (hid ▸ hfid) (List.pairwise_iff_getElem.mp hapart _ _ hglt hflt hgt _ hgid)
  · have hlt := (hknown f hf).2.2
    omega

variable {s s' : Session}

/-- No more is released than was said. -/
lemma min_le_of_known {released : List Frame} {q : ReceivedQueue}
    (hknown : ∀ f ∈ arrivals, f.Tells said ∧ f.reliability.sequencedOrOrdered = true
      ∧ f.orderIndex < 2 ^ 24)
    (hs : Reassembled (payloadOf (carriers said)) (Arrived (carriers said) arrivals)
      (released, q)) : q.min ≤ said.length := by
  by_contra hlt
  obtain ⟨f, hf, hk⟩ := (hs.window.below said.length (not_le.mp hlt)).exists_mem
  obtain ⟨htells, hordered, -⟩ := hknown f hf
  have hindex := (message_of_known htells hordered).1
  omega

lemma Listens.min_le (h : Listens said arrivals s log) : s.received.min ≤ said.length := by
  obtain ⟨released, hs⟩ := h.assembled
  exact min_le_of_known h.known hs

/-- The bodies that have been released. -/
lemma bodies_of_assembled {released : List Frame} {q : ReceivedQueue}
    (hs : Reassembled (payloadOf (carriers said)) (Arrived (carriers said) arrivals) (released, q))
    (hmin : q.min ≤ said.length) : released.map Frame.data = payloads said q.min := by
  have hmap := congrArg (List.map Prod.snd) hs.released
  rw [List.map_map, List.map_map] at hmap
  exact hmap.trans (map_payloadOf hmin)

/-- A message whose frames, and those of all before it, have arrived, has been released. -/
lemma Listens.le_min (h : Listens said arrivals s log) {n : ℕ}
    (hn : ∀ k < n, Arrived (carriers said) arrivals k) : n ≤ s.received.min := by
  obtain ⟨released, hs⟩ := h.assembled
  by_contra hlt
  exact hs.least (hn _ (not_le.mp hlt))

/-- The peer goes on speaking. -/
lemma Listens.extend (h : Listens said arrivals s log) {more : List Message}
    (hapart : Apart (said ++ more)) : Listens (said ++ more) arrivals s log := by
  have hsame : ∀ f ∈ arrivals,
      carriers (said ++ more) f.orderIndex = carriers said f.orderIndex := by
    intro f hf
    obtain ⟨htells, hordered, -⟩ := h.known f hf
    exact carriers_append (message_of_known htells hordered).1 more
  have hpayloads : payloads (said ++ more) s.received.min = payloads said s.received.min := by
    rw [payloads, List.take_append_of_le_length h.min_le, payloads]
  obtain ⟨released, hs⟩ := h.assembled
  refine ⟨h.ready, hapart, fun f hf => ?_,
    ⟨released, hs.congr (arrived_congr hsame) fun k hk => ?_⟩,
    h.pool.congr hsame, hpayloads ▸ h.passed, hpayloads ▸ h.nonempty, hpayloads ▸ h.opened⟩
  · obtain ⟨htells, hrest⟩ := h.known f hf
    exact ⟨htells.mono more, hrest⟩
  · obtain ⟨f, hf, rfl⟩ := hk.exists_mem
    rw [payloadOf, payloadOf, hsame f hf]

/-- A call that takes in no frames. -/
lemma Listens.quiet (h : Listens said arrivals s log) (hready : s'.Ready)
    (hreceived : s'.received = s.received)
    (hopen : s'.disconnected = false → s.disconnected = false)
    (more : List Frame) : Listens said arrivals { s' with parent := [] } (log ++ more) where
  ready := ⟨hready.sane, hready.max_lt⟩
  apart := h.apart
  known := h.known
  assembled := hreceived ▸ h.assembled
  pool := hreceived ▸ h.pool
  passed := by
    rw [List.map_append]
    exact (hreceived ▸ h.passed).trans (List.sublist_append_left _ _)
  nonempty := hreceived ▸ h.nonempty
  opened hs := hreceived ▸ h.opened (hopen hs)

/-- A datagram with frames of the messages is handled. -/
lemma Listens.handleDatagram (h : Listens said arrivals s log) {env : Env} {buff : Bytes}
    {frameSet : FrameSet} (hdecode : FrameSet.decode buff = .ok frameSet)
    (hincoming : ∀ f ∈ frameSet.datas, f.Tells said) (hs : s.handleDatagram env buff = .ok s') :
    Listens said (arrivals ++ ordered frameSet.datas) { s' with parent := [] }
      (log ++ s'.posted) := by
  obtain ⟨released, hassembled⟩ := h.assembled
  obtain ⟨-, horder⟩ := FrameSet.lt_of_decode hdecode
  obtain ⟨ackQueue, l, q, -, hhanded, hsane, heq⟩ := h.ready.handleDatagram_eq env hdecode
  obtain ⟨t, hfold, rfl⟩ := map_eq_ok.mp (heq.symm.trans hs)
  have hknown : ∀ f ∈ arrivals ++ ordered frameSet.datas,
      f.Tells said ∧ f.reliability.sequencedOrOrdered = true ∧ f.orderIndex < 2 ^ 24 := by
    intro f hf
    rcases List.mem_append.mp hf with hf | hf
    · exact h.known f hf
    · obtain ⟨hf, hordered⟩ := List.mem_filter.mp hf
      exact ⟨hincoming f hf, hordered, horder f hf⟩
  obtain ⟨r, hr, hassembled', hpool⟩ :=
    hassembled.handed (drawn_of_known h.apart hknown) h.pool hhanded
  -- the bodies released before, and those released now
  have hbodies : payloads said q.min = payloads said s.received.min ++ r.map Frame.data := by
    rw [← bodies_of_assembled hassembled' (min_le_of_known hknown hassembled'), List.map_append,
      bodies_of_assembled hassembled h.min_le]
  obtain ⟨hdata, hposted, hopen⟩ := handlePackets_spec hfold
  obtain ⟨_, -, hpasses⟩ := passes_handlePackets hfold
  have hready : (withReceived q t).Ready := ⟨hsane, hpasses.max_lt h.ready.max_lt⟩
  refine ⟨⟨hready.sane, hready.max_lt⟩, h.apart, hknown, ⟨_, hassembled'⟩, hpool, ?_, ?_, ?_⟩
  · change ((payloads said q.min).filter (Plain ·)).Sublist ((log ++ t.posted).map Frame.data)
    rw [hbodies, List.filter_append, List.map_append]
    refine h.passed.append ?_
    rw [hposted, List.map_append, List.filter_map]
    exact ((hr.filter _).map _).trans (List.sublist_append_right _ _)
  · change ∀ body ∈ payloads said q.min, body ≠ []
    rw [hbodies]
    intro body hbody
    rcases List.mem_append.mp hbody with hbody | hbody
    · exact h.nonempty body hbody
    · obtain ⟨f, hf, rfl⟩ := List.mem_map.mp hbody
      exact hdata f (hr.subset hf)
  · change t.disconnected = false → ∀ body ∈ payloads said q.min, ¬Ends body
    rw [hbodies]
    intro ht body hbody
    obtain ⟨hs', hlast⟩ := hopen ht
    rcases List.mem_append.mp hbody with hbody | hbody
    · exact h.opened hs' body hbody
    · obtain ⟨f, hf, rfl⟩ := List.mem_map.mp hbody
      exact hlast f (hr.subset hf)

/-- **Step lemma**: the session goes on listening, whatever it is called for, as long as the frames
that come in are frames of the messages. -/
lemma Listens.step (h : Listens said arrivals s log) {op : Op}
    (hincoming : ∀ f ∈ op.incoming, f.Tells said) (hstep : s.step op = .ok s') :
    Listens said (arrivals ++ ordered op.incoming) { s' with parent := [] } (log ++ s'.posted) := by
  have hready := h.ready.step hstep
  have hnone : op.incoming = [] → s'.received = s.received →
      (s'.disconnected = false → s.disconnected = false) →
      Listens said (arrivals ++ ordered op.incoming) { s' with parent := [] }
        (log ++ s'.posted) := by
    intro hnil hreceived hopen
    rw [hnil, ordered, List.filter_nil, List.append_nil]
    exact h.quiet hready hreceived hopen _
  by_cases hrouted : ∃ env msg, op = .handle env msg ∧ Routed msg.bytes
  · obtain ⟨env, msg, rfl, hmsg⟩ := hrouted
    have hhandle : s.handleDatagram env msg.bytes = .ok s' :=
      (handle_of_routed hmsg).symm.trans hstep
    rw [Op.incoming, arrives, if_pos hmsg] at hincoming hnone ⊢
    cases hdecode : FrameSet.decode msg.bytes with
    | error e =>
        rw [hdecode] at hnone
        rw [Session.handleDatagram, hdecode] at hhandle
        obtain rfl := Except.ok.inj hhandle
        exact hnone rfl rfl id
    | ok frameSet =>
        rw [hdecode] at hincoming
        exact h.handleDatagram hdecode hincoming hhandle
  · have hnot : ∀ env msg, op = .handle env msg → ¬Routed msg.bytes := fun env msg hop hmsg =>
      hrouted ⟨env, msg, hop, hmsg⟩
    obtain ⟨hreceived, -, hopen⟩ := step_of_not_routed hstep hnot
    refine hnone ?_ hreceived hopen
    cases op with
    | handle env msg => exact if_neg (hnot env msg rfl)
    | _ => rfl

/-- **Run lemma**: so it does over the calls that an actor makes. -/
lemma Listens.exec (h : Listens said arrivals s log) {ops : List Op}
    (hincoming : ∀ op ∈ ops, ∀ f ∈ op.incoming, f.Tells said)
    (hs : Run.exec turn s ops = .ok s') :
    Listens said (arrivals ++ ordered (ops.flatMap Op.incoming)) s'
      (log ++ (s.reports ops).filterMap ParentMsg.frame?) := by
  induction ops generalizing arrivals log s with
  | nil =>
      obtain rfl := Except.ok.inj hs
      rwa [List.flatMap_nil, ordered, List.filter_nil, List.append_nil, reports, List.filterMap_nil,
        List.append_nil]
  | cons op ops ih =>
      obtain ⟨t, hturn, hrest⟩ := Run.exec_cons.mp hs
      obtain ⟨u, hstep, ht⟩ := bind_eq_ok.mp hturn
      obtain rfl := Except.ok.inj ht
      obtain ⟨hop, hops⟩ := List.forall_mem_cons.mp hincoming
      have hnext := ih (h.step hop hstep) hops hrest
      rwa [reports, hstep, List.flatMap_cons, ordered, List.filter_append, ← List.append_assoc,
        List.filterMap_append, ← List.append_assoc]

end Listens

end Session

end ActixRaknet
