import ActixRaknet.EndToEnd.Link

/-!
Reliable ordered delivery over a network that loses, repeats, reorders and delays.

* `Invariant.sendTo`, `Invariant.update`, `Invariant.deliver`: every action keeps the invariant of
  the link;
* `Delivers`: what has been released is a prefix of what was sent, and every other message is held
  by the sender, in one place, or by the receiver;
* `delivers`: this is so in every state of every run.
-/

namespace ActixRaknet

open Fallible

/-- Pings and pongs that are queued keep custody. -/
lemma PacketQueue.Custody.queued {q q' : PacketQueue} {sent : List Bytes}
    {emitted : List FrameSet} {taken : ℕ → Prop} (h : q.Custody sent emitted taken)
    (hq : Relation.ReflTransGen Session.AddsUnordered q q') :
    q'.Custody sent emitted taken ∧ q'.sendMin = q.sendMin := by
  induction hq with
  | refl => exact ⟨h, rfl⟩
  | tail _ hstep ih =>
      obtain ⟨clock, body, hbody, hadd⟩ := hstep
      obtain ⟨hcustody, hmin⟩ := ih.1.addUnordered (by omega) hadd
      exact ⟨hcustody, hmin.trans ih.2⟩

namespace Link

section Acknowledges

variable {q q' : ACKQueue} {bound : ℕ} {settled : ℕ → Prop}

/-- The arrival of a number that may be acknowledged. -/
lemma Acknowledges.add (h : Acknowledges q bound settled) {n : ℕ} (hn : n < bound)
    (hsettled : settled n) (hq : q.add n = .ok q') : Acknowledges q' bound settled := by
  rw [ACKQueue.add] at hq
  split_ifs at hq with hnew
  · obtain ⟨highest, hraised, hq⟩ := bind_eq_ok.mp hq
    obtain rfl := Except.ok.inj hq
    refine ⟨?_, fun m hm => ?_⟩
    · rw [ACKQueue.raised] at hraised
      split_ifs at hraised with hhigh
      · obtain ⟨-, rfl⟩ := u32Add_eq_ok.mp hraised
        exact hn
      · obtain rfl := Except.ok.inj hraised
        exact h.highest_le
    · rcases Finset.mem_insert.mp hm with rfl | hm
      · exact hsettled
      · exact h.settled m hm
  · obtain rfl := Except.ok.inj hq
    exact h

lemma Acknowledges.mono (h : Acknowledges q bound settled) {bound' : ℕ} {settled' : ℕ → Prop}
    (hbound : bound ≤ bound') (hsettled : ∀ n, settled n → settled' n) :
    Acknowledges q bound' settled' :=
  ⟨h.highest_le.trans hbound, fun n hn => hsettled n (h.settled n hn)⟩

lemma Acknowledges.clear (h : Acknowledges q bound settled) :
    Acknowledges q.clear.2 bound settled := by
  refine ⟨h.highest_le, fun n hn => h.settled n ?_⟩
  rw [ACKQueue.clear_eq] at hn
  exact (Finset.mem_sdiff.mp hn).1

/-- The numbers of an acknowledged range may be acknowledged. -/
lemma Acknowledges.acked (h : Acknowledges q bound settled) {r : ℕ × ℕ}
    (hr : r ∈ q.clear.1.1) : r.1 ≤ r.2 ∧ ∀ n ∈ Ranges.numbers r, settled n := by
  have hsep : Ranges.Separated q.clear.1.1 := by
    rw [ACKQueue.clear_eq]
    exact Ranges.separated_collect (q.pending_sorted.filter _)
  refine ⟨hsep.le r hr, fun n hn => ?_⟩
  have hmem : n ∈ Ranges.expand q.clear.1.1 := List.mem_flatMap.mpr ⟨r, hr, hn⟩
  rw [ACKQueue.expand_clear] at hmem
  exact h.settled n (of_decide_eq_true (List.mem_filter.mp hmem).2)

lemma Acknowledges.missing (h : Acknowledges q bound settled) {n : ℕ} (hn : n ∈ q.clear.1.2) :
    n < bound := by
  rw [ACKQueue.missing_clear] at hn
  exact (ACKQueue.mem_pending.mp (List.mem_filter.mp hn).1).2.trans_le h.highest_le

end Acknowledges

lemma payload_append {sent : List Bytes} {k : ℕ} (hk : k < sent.length) (buff : Bytes) :
    payload (sent ++ [buff]) k = payload sent k := by
  rw [payload, payload, List.getD_eq_getElem?_getD, List.getD_eq_getElem?_getD,
    List.getElem?_append_left hk]

/-- What a side sends does not depend on the receive queue that faces it. -/
lemma Direction.receiver {x y e : Endpoint} {emitted : List FrameSet} (h : Direction x y emitted)
    (hreceived : e.session.received = y.session.received) (hreleased : e.released = y.released)
    (hack : e.session.ackQueue = y.session.ackQueue) : Direction x e emitted where
  custody := by
    rw [Endpoint.taken, hreceived]
    exact h.custody
  orderIndex := h.orderIndex
  reassembled := by
    rw [Endpoint.taken, hreceived, hreleased]
    exact h.reassembled
  taken_lt := by
    rw [Endpoint.taken, hreceived]
    exact h.taken_lt
  acknowledges := by
    rw [Endpoint.taken, hreceived, hack]
    exact h.acknowledges

variable {mtu : Side → UInt16} {l : Link} {emitted : Side → List FrameSet} {a : Side}
  {env : Session.Env} {e : Endpoint}

/-- The other side, as a receiver's peer. -/
lemma Invariant.incoming (h : Invariant mtu l emitted) (a : Side) :
    Direction (l a.peer) (l a) (emitted a.peer) := by
  have hdir := h.direction a.peer
  rwa [Side.peer_peer] at hdir

/-! ### `send_to` -/

/-- **A call of `send_to`** keeps the invariant. -/
lemma Invariant.sendTo (h : Invariant mtu l emitted) (hmtu : (mtu a).toNat ≤ 8192) {buff : Bytes}
    (hlen : buff.length < (mtu a).toNat - 46) (he : (l a).sendTo env buff = .ok e)
    (hmessage : e.session.messageIndex ≤ 2 ^ 24) (horder : e.session.orderIndex ≤ 2 ^ 24) :
    Invariant mtu (l.set a e) (Function.update emitted a (emitted a)) := by
  obtain ⟨s', hs', he⟩ := bind_eq_ok.mp he
  obtain rfl := Except.ok.inj he
  rw [← h.mtu_eq a] at hlen hmtu
  obtain ⟨q, hq, rfl⟩ := Session.sendTo_whole hlen hs'
  have hout := h.direction a
  have hsome : ((l a).session.wholeFrame buff).message = some (l a).sent.length :=
    congrArg some hout.orderIndex
  have hgenuine : Genuine ((l a).sent ++ [buff]) ((l a).session.wholeFrame buff) := by
    refine ⟨rfl, ⟨hmessage, Nat.two_pow_pos 24, horder, ?_⟩, fun k hk => ?_⟩
    · show buff.length ≤ 8191
      omega
    · obtain rfl := Option.some.inj (hsome.symm.trans hk)
      exact List.getElem?_concat_length
  obtain ⟨hcustody, hmin⟩ := hout.custody.addFrame hgenuine (fun g hg => hg.mono buff)
    (fun k hk => (Option.some.inj (hsome.symm.trans hk)).le) (fun k hk => by
      rw [List.length_append, List.length_singleton] at hk
      rw [hsome, Option.some.injEq]
      omega) hq
  refine h.set rfl (fun _ hfs => hfs) hmin.ge (fun _ hk => hk) ⟨hcustody, ?_, ?_, ?_, ?_⟩
    ((h.incoming a).receiver rfl rfl rfl) fun packet hpacket => Or.inl hpacket
  · show (l a).session.orderIndex + 1 = ((l a).sent ++ [buff]).length
    rw [hout.orderIndex, List.length_append, List.length_singleton]
  · exact hout.reassembled.congr (fun _ => Iff.rfl) fun k hk =>
      payload_append (hout.taken_lt k hk) buff
  · intro k hk
    exact (hout.taken_lt k hk).trans_le (by simp)
  · exact hout.acknowledges.mono hmin.ge fun n hn =>
      hn.mono hmin.ge (fun _ hk => hk) fun _ hfs => hfs

/-! ### `update` -/

lemma Direction.settled_lt {x y : Endpoint} {em : List FrameSet} (h : Direction x y em)
    (hmax : x.queue.max ≤ 2 ^ 24) {n : ℕ} (hn : x.queue.Settled em y.taken n) : n < 2 ^ 24 :=
  hn.1.trans_le (h.custody.sound.sendMin_le.trans hmax)

/-- The feedback that a side sends is what the other side may act on. -/
lemma Direction.feedback {x y : Endpoint} {em : List FrameSet} (h : Direction x y em)
    (hmax : x.queue.max ≤ 2 ^ 24) :
    (∀ r ∈ y.session.ackQueue.clear.1.1, r.1 < 2 ^ 24 ∧ r.2 < 2 ^ 24)
      ∧ (∀ n ∈ y.session.ackQueue.clear.1.2, n < 2 ^ 24)
      ∧ ∀ emitted, ∀ bytes ∈ Session.feedback y.session.ackQueue.clear.1,
          Traffic emitted (x.queue.Settled em y.taken) x.queue.sendMin bytes := by
  have hacks : ∀ r ∈ y.session.ackQueue.clear.1.1, r.1 < 2 ^ 24 ∧ r.2 < 2 ^ 24 := by
    intro r hr
    obtain ⟨hle, hsettled⟩ := h.acknowledges.acked hr
    exact ⟨h.settled_lt hmax (hsettled r.1 (Ranges.mem_numbers.mpr ⟨le_rfl, hle⟩)),
      h.settled_lt hmax (hsettled r.2 (Ranges.mem_numbers.mpr ⟨hle, le_rfl⟩))⟩
  have hmin : x.queue.sendMin ≤ 2 ^ 24 := h.custody.sound.sendMin_le.trans hmax
  refine ⟨hacks, fun n hn => (h.acknowledges.missing hn).trans_le hmin, fun emitted bytes hb => ?_⟩
  rcases List.mem_append.mp hb with hb | hb
  · obtain ⟨r, hr, rfl⟩ := List.mem_map.mp hb
    exact .ack r (hacks r hr).1 (hacks r hr).2 (h.acknowledges.acked hr).2
  · obtain ⟨n, hn, rfl⟩ := List.mem_map.mp hb
    exact .nack n ((h.acknowledges.missing hn).trans_le hmin) (h.acknowledges.missing hn)

/-- **A call of `update`** that does not end the session keeps the invariant. -/
lemma Invariant.update (h : Invariant mtu l emitted) (he : (l a).update env = .ok e)
    (hopen : (l a).session.disconnected = false) (hopen' : e.session.disconnected = false)
    (hmax : (l a.peer).queue.max ≤ 2 ^ 24) :
    ∃ sets, Invariant mtu (l.set a e) (Function.update emitted a (emitted a ++ sets)) := by
  obtain ⟨s', hs', he⟩ := bind_eq_ok.mp he
  obtain rfl := Except.ok.inj he
  obtain ⟨s₁, s₂, hflush, hack, hping⟩ := Session.update_eq hopen hs' hopen'
  obtain ⟨sets, q, hget, hsets⟩ := Session.flushQueue_eq hflush
  have hout := h.direction a
  have hin := h.incoming a
  obtain ⟨hcustody, hmin⟩ := hout.custody.getPacket hget
  obtain rfl := hsets fun fs hfs f hf =>
    (hcustody.emitted_genuine fs (List.mem_append_right _ hfs) f hf).encodable
  obtain ⟨hacks, hnacks, hfeedback⟩ := hin.feedback hmax
  have hs₂ := Session.flushAck_eq hack hacks hnacks
  have hanswers : Session.Answers s₂ s' := by
    rcases hping with rfl | ⟨body, q', hbody, hadd, rfl⟩
    · exact .refl _
    · exact ⟨rfl, rfl, rfl, rfl, rfl, .single ⟨env.queue, body, by omega, hadd⟩⟩
  rw [hs₂] at hanswers
  obtain ⟨hqueued, hmin'⟩ := hcustody.queued hanswers.queued
  have hle : (l a).queue.sendMin ≤ s'.packetQueue.sendMin := hmin.trans hmin'.ge
  refine ⟨sets, h.set hanswers.mtu (fun _ hfs => List.mem_append_left _ hfs) hle (fun k hk => ?_)
    ⟨hqueued, ?_, hout.reassembled, hout.taken_lt, ?_⟩ ?_ fun packet hpacket => ?_⟩
  · show s'.received.Taken k
    rwa [hanswers.received]
  · exact hanswers.orderIndex.trans hout.orderIndex
  · exact hout.acknowledges.mono hle fun n hn =>
      hn.mono hle (fun _ hk => hk) fun _ hfs => List.mem_append_left _ hfs
  · have hcleared : Direction (l a.peer)
        { l a with session := { (l a).session with ackQueue := (l a).session.ackQueue.clear.2 } }
        (emitted a.peer) :=
      ⟨hin.custody, hin.orderIndex, hin.reassembled, hin.taken_lt, hin.acknowledges.clear⟩
    exact hcleared.receiver hanswers.received rfl hanswers.ackQueue
  · have htaken : Endpoint.taken { l a with session := s' } = (l a).taken :=
      congrArg ReceivedQueue.Taken hanswers.received
    have hpacket : packet ∈ s'.udp := hpacket
    rw [hanswers.udp] at hpacket
    rw [htaken]
    rcases List.mem_append.mp hpacket with hpacket | hpacket
    · rcases List.mem_append.mp hpacket with hpacket | hpacket
      · exact Or.inl hpacket
      · obtain ⟨bytes, hbytes, rfl⟩ := List.mem_map.mp hpacket
        obtain ⟨fs, hfs, rfl⟩ := List.mem_map.mp hbytes
        exact Or.inr (.frameSet fs (List.mem_append_right _ hfs))
    · obtain ⟨bytes, hbytes, rfl⟩ := List.mem_map.mp hpacket
      exact Or.inr (hfeedback _ bytes hbytes)

/-! ### Deliveries -/

/-- What a side queues or hears of acknowledgements changes its packet queue only. -/
lemma Invariant.setQueue (h : Invariant mtu l emitted) {q : PacketQueue}
    (hcustody : q.Custody (l a).sent (emitted a) (l a.peer).taken)
    (hmin : q.sendMin = (l a).queue.sendMin) :
    Invariant mtu (l.set a { l a with session := { (l a).session with packetQueue := q } })
      (Function.update emitted a (emitted a)) := by
  have hout := h.direction a
  refine h.set rfl (fun _ hfs => hfs) hmin.ge (fun _ hk => hk)
    ⟨hcustody, hout.orderIndex, hout.reassembled, hout.taken_lt, ?_⟩
    ((h.incoming a).receiver rfl rfl rfl) fun packet hpacket => Or.inl hpacket
  exact hout.acknowledges.mono hmin.ge fun n hn =>
    hn.mono hmin.ge (fun _ hk => hk) fun _ hfs => hfs

/-- The frames of a set that was sent, as the wire carries them. -/
lemma Direction.carried {x y : Endpoint} {em : List FrameSet} (h : Direction x y em)
    {fs : FrameSet} (hfs : fs ∈ em) (horder : x.session.orderIndex ≤ 2 ^ 24) {f : Frame}
    (hf : f ∈ fs.datas.map Frame.carried) :
    f.split = false ∧ ∀ k, f.message = some k →
      k < x.sent.length ∧ k + 1 < 2 ^ 32 ∧ f.data = payload x.sent k := by
  obtain ⟨g, hg, rfl⟩ := List.mem_map.mp hf
  have hgenuine := h.custody.emitted_genuine fs hfs g hg
  refine ⟨hgenuine.unsplit, fun k hk => ?_⟩
  rw [Frame.message_carried] at hk
  have hsent := hgenuine.message k hk
  obtain ⟨hlt, -⟩ := List.getElem?_eq_some_iff.mp hsent
  rw [h.orderIndex] at horder
  refine ⟨hlt, by omega, ?_⟩
  rw [payload, List.getD_eq_getElem?_getD, hsent]
  rfl

/-- A set that was sent can be decoded. -/
lemma Direction.encodable {x y : Endpoint} {em : List FrameSet} (h : Direction x y em)
    {fs : FrameSet} (hfs : fs ∈ em) (hmax : x.queue.max ≤ 2 ^ 24) : fs.Encodable :=
  ⟨(h.custody.emitted_lt fs hfs).trans_le (h.custody.sound.sendMin_le.trans hmax),
    fun f hf => (h.custody.emitted_genuine fs hfs f hf).encodable⟩

/-- **The arrival of a frame set** keeps the invariant. -/
lemma Invariant.deliver_frameSet (h : Invariant mtu l emitted) {msg : UdpPacket} {fs : FrameSet}
    (hfs : fs ∈ emitted a.peer) (hmsg : msg.bytes = fs.layout)
    (hmax : (l a.peer).queue.max ≤ 2 ^ 24) (horder : (l a.peer).session.orderIndex ≤ 2 ^ 24)
    (he : (l a).deliver env msg = .ok e) :
    Invariant mtu (l.set a e) (Function.update emitted a (emitted a)) := by
  obtain ⟨s', hs', he⟩ := bind_eq_ok.mp he
  obtain rfl := Except.ok.inj he
  have hout := h.direction a
  have hin := h.incoming a
  have hencodable := hin.encodable hfs hmax
  have hheader := hin.custody.emitted_header fs hfs
  obtain ⟨ackQueue, hadd, hrun⟩ := Session.handle_frameSet hmsg hheader hencodable hs'
  have hcarried := fun f hf => hin.carried (f := f) hfs horder hf
  obtain ⟨⟨released, received⟩, hreceive, hreassembled⟩ := hin.reassembled.receiveAll
    (fun f hf => (hcarried f hf).1) fun f hf k hk => ((hcarried f hf).2 k hk).2
  have hanswers := Session.receivePackets_answers
    (s := { (l a).session with ackQueue := ackQueue }) hreceive hrun
  -- what has been taken now: what had been, and the messages of the set
  have htaken : ∀ k, s'.received.Taken k
      ↔ (l a).taken k ∨ ∃ f ∈ fs.datas.map Frame.carried, f.message = some k := by
    intro k
    rw [hanswers.received]
    exact hreassembled.window.arrived_iff
  have hreleased : (l a).releasedAfter msg.bytes = released := by
    have hrouted : Session.Routed msg.bytes := by
      rw [hmsg, FrameSet.layout, hheader]
      exact ⟨by decide, by decide, by decide⟩
    rw [Endpoint.releasedAfter, if_pos hrouted, hmsg, FrameSet.decode_layout hencodable]
    simp only [hreceive]
  have hle : ∀ k, (l a).taken k → s'.received.Taken k := fun k hk => (htaken k).mpr (Or.inl hk)
  obtain ⟨hqueued, hmin⟩ := hout.custody.queued hanswers.queued
  have hsettled : (l a.peer).queue.Settled (emitted a.peer) s'.received.Taken fs.sequenceNumber :=
    ⟨hin.custody.emitted_lt fs hfs, fs, hfs, rfl, fun f hf k hk => (htaken k).mpr
      (Or.inr ⟨f.carried, List.mem_map_of_mem hf, f.message_carried.trans hk⟩)⟩
  have hmono : ∀ n, (l a.peer).queue.Settled (emitted a.peer) (l a).taken n →
      (l a.peer).queue.Settled (emitted a.peer) s'.received.Taken n :=
    fun n hn => hn.mono le_rfl hle fun _ hfs => hfs
  refine h.set hanswers.mtu (fun _ hfs => hfs) hmin.ge hle
    ⟨hqueued, hanswers.orderIndex.trans hout.orderIndex, hout.reassembled, hout.taken_lt, ?_⟩
    ⟨hin.custody.mono hle, hin.orderIndex, ?_, fun k hk => ?_, ?_⟩
    fun packet hpacket => Or.inl (hanswers.udp ▸ hpacket)
  · exact hout.acknowledges.mono hmin.ge fun n hn =>
      hn.mono hmin.ge (fun _ hk => hk) fun _ hfs => hfs
  · have hstate : ((l a).releasedAfter msg.bytes, s'.received) = (released, received) := by
      rw [hreleased, hanswers.received]
      rfl
    show ReceivedQueue.Reassembled _ _ ((l a).releasedAfter msg.bytes, s'.received)
    rw [hstate]
    exact hreassembled.congr htaken fun _ _ => rfl
  · rcases (htaken k).mp hk with hk | ⟨f, hf, hk⟩
    · exact hin.taken_lt k hk
    · exact ((hcarried f hf).2 k hk).1
  · show Acknowledges s'.ackQueue _ _
    rw [hanswers.ackQueue]
    exact (hin.acknowledges.mono le_rfl hmono).add hsettled.1 hsettled hadd

/-- **The delivery of a datagram** that the other side has sent keeps the invariant. -/
lemma Invariant.deliver (h : Invariant mtu l emitted) {msg packet : UdpPacket}
    (hpacket : packet ∈ (l a.peer).session.udp) (hmsg : packet.bytes = msg.bytes)
    (hmax : (l a.peer).queue.max ≤ 2 ^ 24) (horder : (l a.peer).session.orderIndex ≤ 2 ^ 24)
    (he : (l a).deliver env msg = .ok e) :
    Invariant mtu (l.set a e) (Function.update emitted a (emitted a)) := by
  have htraffic := h.sent a.peer packet hpacket
  rw [Side.peer_peer, hmsg] at htraffic
  have hcustody := (h.direction a).custody
  generalize hbytes : msg.bytes = bytes at htraffic
  cases htraffic with
  | frameSet fs hfs => exact h.deliver_frameSet hfs hbytes hmax horder he
  | ack r h₁ h₂ hr =>
      have hreleased : (l a).releasedAfter msg.bytes = (l a).released := by
        rw [hbytes]
        exact if_neg fun hrouted => absurd hrouted.1 (by decide)
      rw [Endpoint.deliver, Session.handle_ack hbytes h₁ h₂, ok_bind, hreleased] at he
      obtain rfl := Except.ok.inj he
      obtain ⟨hreceived, hmin⟩ := hcustody.receivedAll hr
      exact h.setQueue hreceived hmin
  | nack n hn hb =>
      have hreleased : (l a).releasedAfter msg.bytes = (l a).released := by
        rw [hbytes]
        exact if_neg fun hrouted => absurd hrouted.2.1 (by decide)
      obtain ⟨s', hs', he⟩ := bind_eq_ok.mp he
      obtain ⟨q, hq, rfl⟩ := Session.handle_nack hbytes hn hs'
      rw [hreleased] at he
      obtain rfl := Except.ok.inj he
      obtain ⟨hresent, hmin⟩ := hcustody.resend hb hq
      exact h.setQueue hresent hmin

/-! ### Runs -/

/-- The sender holds a message in one place, in the open set or in a numbered one, unaltered. -/
structure Keeps (x : Endpoint) (k : ℕ) (buff : Bytes) : Prop where
  place : ∃! place, ∃ f, x.queue.Holds place f ∧ f.message = some k
  data : ∀ place f, x.queue.Holds place f → f.message = some k → f.data = buff

/-- The receiver holds a message for release. -/
def Awaits (y : Endpoint) (k : ℕ) (buff : Bytes) : Prop :=
  ∃ f, y.session.received.packetQueue.lookup k = some f ∧ f.data = buff

/-- What has been released is a prefix of what was given to `send_to`, and every other message is
held by the sender or by the receiver. -/
structure Delivered (x y : Endpoint) : Prop where
  isPrefix : y.released.map Frame.data <+: x.sent
  held : ∀ k buff, x.sent[k]? = some buff → y.released.length ≤ k →
    Keeps x k buff ∨ Awaits y k buff

/-- The invariant of a direction says what has been delivered. -/
lemma Direction.delivered {x y : Endpoint} {em : List FrameSet} (h : Direction x y em) :
    Delivered x y := by
  have hwindow := h.reassembled.window
  have hmap : y.released.map Frame.data
      = (List.range y.session.received.min).map (payload x.sent) := by
    have hreleased := congrArg (List.map Prod.snd) h.reassembled.released
    rwa [List.map_map, List.map_map] at hreleased
  have hlength : y.released.length = y.session.received.min := by
    simpa using congrArg List.length hmap
  have hmin : y.session.received.min ≤ x.sent.length := by
    by_contra hlt
    exact (h.taken_lt _ (hwindow.below _ (not_le.mp hlt))).false
  refine ⟨?_, fun k buff hk hle => ?_⟩
  · have htake : (List.range y.session.received.min).map (payload x.sent)
        = x.sent.take y.session.received.min := by
      refine List.ext_getElem (by simpa using hmin) fun k hk _ => ?_
      have hlt : k < y.session.received.min := by simpa using hk
      simp only [List.getElem_map, List.getElem_range, List.getElem_take, payload,
        List.getD_eq_getElem?_getD, List.getElem?_eq_getElem (hlt.trans_le hmin),
        Option.getD_some]
    rw [hmap, htake]
    exact List.take_prefix _ _
  · obtain ⟨hlt, -⟩ := List.getElem?_eq_some_iff.mp hk
    have hpayload : payload x.sent k = buff := by
      rw [payload, List.getD_eq_getElem?_getD, hk]
      rfl
    rw [hlength] at hle
    rcases h.custody.kept k hlt with htaken | ⟨place, f, hf, hmessage⟩
    · have hmem := (hwindow.mem_iff k hle).mpr htaken
      obtain ⟨f, hf⟩ := Option.isSome_iff_exists.mp (AList.lookup_isSome.mpr hmem)
      exact Or.inr ⟨f, hf, (hwindow.content k f hle hf).2.trans hpayload⟩
    · refine Or.inl ⟨⟨place, ⟨f, hf, hmessage⟩, ?_⟩, fun place' g hg hgk => ?_⟩
      · rintro place' ⟨g, hg, hgk⟩
        exact h.custody.apart _ _ _ _ _ hg hf hgk hmessage
      · exact Option.some.inj (((h.custody.genuine place' g hg).message k hgk).symm.trans hk)

/-- A new link. -/
lemma invariant_new (addr : Side → SocketAddr) (mtu : Side → UInt16)
    (ping receive : Side → Instant) :
    Invariant mtu (new addr mtu ping receive) fun _ => [] where
  mtu_eq _ := rfl
  direction side := by
    have hnone : ∀ k, ReceivedQueue.Taken .new k ↔ False := fun k =>
      iff_false_intro fun hk => hk.elim (Nat.not_lt_zero k) (AList.notMem_empty k)
    refine ⟨(PacketQueue.custody_new (mtu side)).mono fun _ hk => hk.elim, rfl,
      ⟨ReceivedQueue.window_new.congr hnone fun _ _ => rfl, (hnone 0).mp, rfl⟩,
      fun k hk => ((hnone k).mp hk).elim, ⟨le_rfl, fun n hn => absurd hn (Finset.notMem_empty n)⟩⟩
  sent side packet hpacket := absurd hpacket List.not_mem_nil

/-- **A step** within the counters, by a network that forges nothing, keeps the invariant. -/
lemma Invariant.step (h : Invariant mtu l emitted) (hmtu : ∀ side, (mtu side).toNat ≤ 8192)
    (hlive : Live l) {action : Action} (haction : Admissible mtu l action) {l' : Link}
    (hlive' : Live l') (hl : Link.step l action = .ok l') :
    ∃ emitted', Invariant mtu l' emitted' := by
  have hself : ∀ side e, l.set side e side = e := fun side e => by
    rw [Link.set, Function.update_self]
  cases action with
  | sendTo side env buff =>
      obtain ⟨e, he, rfl⟩ := map_eq_ok.mp hl
      obtain ⟨-, -, hmessage, horder⟩ := hlive' side
      rw [hself] at hmessage horder
      exact ⟨_, h.sendTo (hmtu side) haction.2 he hmessage horder⟩
  | update side env =>
      obtain ⟨e, he, rfl⟩ := map_eq_ok.mp hl
      obtain ⟨hopen', -⟩ := hlive' side
      rw [hself] at hopen'
      obtain ⟨sets, hupdate⟩ := h.update he (hlive side).1 hopen' (hlive side.peer).2.1
      exact ⟨_, hupdate⟩
  | deliver side env msg =>
      obtain ⟨e, he, rfl⟩ := map_eq_ok.mp hl
      obtain ⟨packet, hpacket, hbytes⟩ := haction
      obtain ⟨-, hmax, -, horder⟩ := hlive side.peer
      exact ⟨_, h.deliver hpacket hbytes hmax horder he⟩

/-- **Reliable ordered delivery**: over a network that loses, repeats, reorders and delays
datagrams, what a receiver has released is at any time a prefix of what the sender was given, and
no message is lost. -/
theorem delivers (addr : Side → SocketAddr) (mtu : Side → UInt16) (ping receive : Side → Instant)
    (hmtu : ∀ side, 584 ≤ (mtu side).toNat ∧ (mtu side).toNat ≤ 8192) (actions : List Action)
    (hadmissible : Run.Along step (Admissible mtu) (new addr mtu ping receive) actions)
    (hlive : Run.Always step Live (new addr mtu ping receive) actions) :
    Run.Always step (fun l => ∀ side : Side, Delivered (l side) (l side.peer))
      (new addr mtu ping receive) actions := by
  have hinvariant : Run.Always step (fun l => Live l ∧ ∃ emitted, Invariant mtu l emitted)
      (new addr mtu ping receive) actions := by
    refine Run.always_of_along (fun l action l' hl haction hstep => ?_)
      ⟨hlive.head, _, invariant_new addr mtu ping receive⟩ (hadmissible.and_always hlive)
    obtain ⟨hlive, emitted, hl⟩ := hl
    have hlive' := haction.2 l' hstep
    exact ⟨hlive', hl.step (fun side => (hmtu side).2) hlive haction.1 hlive' hstep⟩
  refine hinvariant.mono fun l hl side => ?_
  obtain ⟨-, emitted, hl⟩ := hl
  exact (hl.direction side).delivered

/-- A message is sent and flushed, the set arrives twice, and its acknowledgement arrives: the
message has been released once. -/
theorem delivers_sample :
    let addr : SocketAddr := .v4 ⟨127, 0, 0, 1⟩ 19132
    let set : UdpPacket := ⟨[0x84, 0, 0, 0, 0x60, 0, 0x18, 0, 0, 0, 0, 0, 0, 0, 1, 2, 3], addr⟩
    let actions := [.sendTo .left default [1, 2, 3], .update .left default,
      .deliver .right default set, .deliver .right default set, .update .right default,
      .deliver .left default ⟨[0xc0, 0, 1, 1, 0, 0, 0], addr⟩]
    let start := new (fun _ => addr) (fun _ => 1400) (fun _ => 0) fun _ => 0
    (Run.exec step start actions).map (fun l => (l .right).released.map Frame.data)
        = .ok [[1, 2, 3]]
      ∧ Run.Always step (fun l => ∀ side : Side, Delivered (l side) (l side.peer)) start actions :=
  ⟨by decide +kernel,
    delivers _ _ _ _ (by decide) _ (by decide +kernel) (by decide +kernel)⟩

end Link

end ActixRaknet
