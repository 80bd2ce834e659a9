import ActixRaknet.EndToEnd.Farewell
import ActixRaknet.EndToEnd.Recovery

/-!
How an exchange keeps itself alive.

* `PacketQueue.Waits`: the next `get_packet` returns the frame; `Ledger.waits`: what waits goes on
  waiting until a datagram carries it;
* `Session.step_clocks`: what the calls do to `last_ping` and `last_receive`;
* `World`: an exchange in time, with the datagrams that are under way; `World.Timely`: updates and
  datagrams are not late;
* `Fresh`: the last ping of one side that has not been heard is not old;
* `keeps_alive`: no update of a side finds the other one silent.
-/

namespace ActixRaknet

open Fallible ReceivedQueue
open PacketQueue (Books Clock)

namespace PacketQueue

variable {q q' : PacketQueue} {clock : Clock} {f : Frame} {ret : List FrameSet}

/-- The frame is in the open set, or in a set that was not sent yet. -/
def Waits (q : PacketQueue) (f : Frame) : Prop :=
  f ∈ q.setQueue ∨ ∃ n ∈ q.unsent, ∃ fs, q.queue.lookup n = some fs ∧ f ∈ fs.datas

lemma Waits.keep (h : q.Waits f) (hopen : q.setQueue ⊆ q'.setQueue)
    (hmin : q'.sendMin = q.sendMin) (hmax : q.max ≤ q'.max)
    (hold : ∀ n ∈ q.unsent, q'.queue.lookup n = q.queue.lookup n) : q'.Waits f := by
  rcases h with hf | ⟨n, hn, fs, hfs, hf⟩
  · exact .inl (hopen hf)
  · obtain ⟨hle, hlt⟩ := mem_unsent.mp hn
    exact .inr ⟨n, mem_unsent.mpr ⟨hmin ▸ hle, hlt.trans_le hmax⟩, fs, (hold n hn).trans hfs, hf⟩

lemma Waits.addFrame (h : q.Waits f) {g : Frame} (hq : q.addFrame clock g = .ok q') :
    q'.Waits f := by
  obtain ⟨-, ⟨-, rfl⟩ | ⟨-, -, rfl⟩⟩ := addFrame_eq_ok.mp hq
  · exact h.keep (List.subset_append_left _ _) rfl le_rfl fun _ _ => rfl
  · refine h.keep (List.Subset.refl _) rfl (Nat.le_succ _) fun n hn => ?_
    rw [lookup_allocate, if_neg (mem_unsent.mp hn).2.ne]

/-- A frame that is taken in waits. -/
lemma waits_of_addFrame (hle : q.sendMin ≤ q.max) (hq : q.addFrame clock f = .ok q') :
    q'.Waits f := by
  obtain ⟨-, ⟨-, rfl⟩ | ⟨-, -, rfl⟩⟩ := addFrame_eq_ok.mp hq
  · exact .inl (by simp)
  · have hlookup := lookup_allocate q clock (setHeader f.split) [f] q.max
    rw [if_pos rfl] at hlookup
    exact .inr ⟨q.max, mem_unsent.mpr ⟨hle, Nat.lt_succ_self _⟩, _, hlookup,
      List.mem_singleton_self f⟩

/-- Acknowledgements of sets that were sent. -/
lemma Waits.received (h : q.Waits f) {ns : List ℕ} (hns : ∀ n ∈ ns, n < q.sendMin) :
    (ns.foldl PacketQueue.received q).Waits f := by
  induction ns generalizing q with
  | nil => exact h
  | cons k ns ih =>
      refine ih (h.keep (fun _ hf => (sameOpen_received q k).setQueue ▸ hf) (received_sendMin q k)
        (received_max q k).ge fun n hn => ?_) fun n hn => ?_
      · have hk := hns k List.mem_cons_self
        rw [lookup_received, if_neg (hk.trans_le (mem_unsent.mp hn).1).ne']
      · exact (received_sendMin q k).symm ▸ hns n (List.mem_cons_of_mem k hn)

/-- A resend request for a set that was sent. -/
lemma Waits.resend (h : q.Waits f) (hsound : q.Sound) {k : ℕ} (hk : k < q.sendMin)
    (hq : q.resend clock k = .ok q') : q'.Waits f := by
  rcases hsound.resend_eq_ok (.inl hk) hq with rfl | ⟨k, fs, hk, -, -, rfl⟩
  · exact h
  · refine h.keep (List.Subset.refl _) rfl (Nat.le_succ _) fun n hn => ?_
    obtain ⟨hle, hlt⟩ := mem_unsent.mp hn
    rw [lookup_moved, if_neg (hk.trans_le hle).ne', if_neg hlt.ne]

/-- **What waits is returned** by the next `get_packet`. -/
lemma Emission.mem_of_waits (h : Emission q clock ret q') (hf : q.Waits f) :
    ∃ fs ∈ ret, f ∈ fs.datas := by
  obtain ⟨resent, -, -, hcontents⟩ := h.contents
  have hpayload : ∃ p ∈ ret.map FrameSet.payload, f ∈ p.2 := by
    rw [hcontents]
    rcases hf with hf | ⟨n, hn, fs, hfs, hf⟩
    · refine ⟨(setHeader false, q.setQueue), ?_, hf⟩
      simp [batch, List.ne_nil_of_mem hf]
    · have hset : fs ∈ q.sets := List.mem_filterMap.mpr ⟨n, hn, hfs⟩
      exact ⟨fs.payload, by simp [List.mem_map_of_mem hset], hf⟩
  obtain ⟨p, hp, hfp⟩ := hpayload
  obtain ⟨fs, hfs, rfl⟩ := List.mem_map.mp hp
  exact ⟨fs, hfs, hfp⟩

end PacketQueue

namespace Session

variable {arrived : Frame → Prop} {settled : ℕ → Prop} {bound : ℕ} {s s' s₁ : Session} {b : Books}
  {env : Env} {f : Frame}

/-! ### What waits is sent -/

/-- A flush sends what waits. -/
lemma Ledger.sent_of_waits (h : Ledger arrived settled bound s b) {clock : Clock}
    {order : IterOrder ℕ} (hs : s.flushQueue clock order = .ok s₁) (hfront : s₁.udp <+: s'.udp)
    (hf : s.packetQueue.Waits f) :
    ∃ packet ∈ s'.udp.drop s.udp.length, f ∈ arrives packet.bytes := by
  obtain ⟨sets, q, b', hget, rfl, hledger, -, hemitted⟩ := h.flushQueue hs
  have hemission := h.owes.orderly.getPacket h.owes.resends_eq hget
  obtain ⟨fs, hfs, hmem⟩ := hemission.mem_of_waits hf
  refine ⟨⟨fs.layout, s.addr⟩, Exchange.mem_drop_of_prefix hfront ?_, ?_⟩
  · exact List.mem_map_of_mem (List.mem_map_of_mem hfs)
  · rw [(hledger.emitted fs (hemitted ▸ List.mem_append_right _ hfs)).arrives]
    exact hmem

/-- What waits while a datagram of the peer is handled. -/
lemma Ledger.waits_handle (h : Ledger arrived settled bound s b) (hready : s.Ready)
    {msg : UdpPacket} {emittedPeer : List FrameSet} (hpeer : ∀ fs ∈ emittedPeer, fs.Sendable)
    (hmsg : Link.Traffic emittedPeer (b.Confirmed arrived) b.emitted.length msg.bytes)
    (hs : s.handle env msg = .ok s') (hf : s.packetQueue.Waits f) : s'.packetQueue.Waits f := by
  generalize hbytes : msg.bytes = bytes at hmsg
  cases hmsg with
  | frameSet fs hfs =>
      rw [handle_of_routed (hbytes ▸ (hpeer fs hfs).routed)] at hs
      obtain ⟨ackQueue, l, q, -, -, -, heq⟩ :=
        hready.handleDatagram_eq env (hbytes ▸ (hpeer fs hfs).decode)
      obtain ⟨t, ht, rfl⟩ := map_eq_ok.mp (heq.symm.trans hs)
      have hanswers : Answers { s with ackQueue := ackQueue } t := foldlM_induction
        (P := Answers { s with ackQueue := ackQueue })
        (fun u f u' _ hu hstep => hu.trans (handlePacket_answers hstep)) (.refl _) ht
      have hqueued := hanswers.queued
      show t.packetQueue.Waits f
      generalize t.packetQueue = q' at hqueued
      induction hqueued with
      | refl => exact hf
      | tail _ hadds ih =>
          obtain ⟨clock, body, -, hadd⟩ := hadds
          exact ih.addFrame hadd
  | ack r h₁ h₂ hr =>
      have heq : s.handle env msg = .ok _ := handle_ack hbytes h₁ h₂
      obtain rfl := Except.ok.inj (heq.symm.trans hs)
      exact hf.received fun n hn => h.owes.confirmed_lt (hr n hn)
  | nack n hn hb =>
      obtain ⟨q, hq, rfl⟩ := handle_nack hbytes hn hs
      rw [h.owes.length_emitted] at hb
      exact hf.resend h.owes.orderly.toSound hb hq

/-- What waits while a buffer is queued. -/
lemma waits_sendTo {buff : Bytes} (hs : s.sendTo env buff = .ok s') (hf : s.packetQueue.Waits f) :
    s'.packetQueue.Waits f := by
  by_cases hlen : buff.length < s.mtu.toNat - 46
  · obtain ⟨q, hq, rfl⟩ := sendTo_whole hlen hs
    exact hf.addFrame hq
  · have hsplit := (sendTo_eq_ok.mp hs).2
    rw [if_neg hlen] at hsplit
    obtain ⟨hmtu, hroom, rfl⟩ := sendSplit_eq_ok.mp hsplit
    show (s.packetQueue.allocated env.queue (s.splitFrames buff)).Waits f
    generalize s.splitFrames buff = frames
    generalize s.packetQueue = q at hf
    induction frames generalizing q with
    | nil => exact hf
    | cons g frames ih =>
        refine ih _ (hf.keep (List.Subset.refl _) rfl (Nat.le_succ _) fun n hn => ?_)
        rw [PacketQueue.lookup_allocate, if_neg (PacketQueue.mem_unsent.mp hn).2.ne]

/-- **What waits is sent**, by the next call that flushes, and waits until then. -/
lemma Ledger.waits (h : Ledger arrived settled bound s b) (hready : s.Ready) {op : Op}
    {emittedPeer : List FrameSet} (hpeer : ∀ fs ∈ emittedPeer, fs.Sendable)
    (hmsg : ∀ env msg, op = .handle env msg →
      Link.Traffic emittedPeer (b.Confirmed arrived) b.emitted.length msg.bytes)
    (hs : s.step op = .ok s') (hf : s.packetQueue.Waits f) :
    s'.packetQueue.Waits f ∧ (∀ env, op = .update env → s.disconnected = true)
      ∨ ∃ packet ∈ s'.udp.drop s.udp.length, f ∈ arrives packet.bytes := by
  cases op with
  | update env =>
      cases hclosed : s.disconnected with
      | true =>
          have hs' : s.update env = .ok s' := hs
          rw [Session.update, if_pos hclosed, Except.ok.injEq] at hs'
          exact .inl ⟨hs' ▸ hf, fun _ _ => rfl⟩
      | false =>
          obtain ⟨s₁, s₂, hflush, -, hfront, hfront₂⟩ := update_flushes hs hclosed
          exact .inr (h.sent_of_waits hflush (hfront.trans hfront₂) hf)
  | forceFlush env => exact .inr (h.sent_of_waits hs List.prefix_rfl hf)
  | handle env msg =>
      exact .inl ⟨h.waits_handle hready hpeer (hmsg env msg rfl) hs hf, fun _ hop => by cases hop⟩
  | disconnect env =>
      obtain ⟨-, -, q, hq, t, hflush, rfl⟩ := disconnect_eq_ok.mp hs
      obtain ⟨b₁, h₁, -, -⟩ := h.addFrame { s with
        messageIndex := s.messageIndex + 1
        orderIndex := s.orderIndex + 1
        packetQueue := q } (wired_closingFrame s) hq rfl rfl
      exact .inr (h₁.sent_of_waits hflush List.prefix_rfl (hf.addFrame hq))
  | sendSystemPacket env P packet reliability =>
      obtain ⟨body, -, -, -, q, hq, rfl⟩ := sendSystemPacket_eq_ok.mp hs
      exact .inl ⟨hf.addFrame hq, fun _ hop => by cases hop⟩
  | sendTo env buff => exact .inl ⟨waits_sendTo hs hf, fun _ hop => by cases hop⟩

/-! ### The clocks of a session -/

/-- `last_ping` is as before, and so is `last_receive`, unless something has been taken in. -/
structure Keeps (env : Env) (s s' : Session) : Prop where
  lastPing : s'.lastPing = s.lastPing
  lastReceive : s'.lastReceive = s.lastReceive ∨ s'.lastReceive = env.receive

lemma Keeps.refl (env : Env) (s : Session) : Keeps env s s := ⟨rfl, .inl rfl⟩

lemma Keeps.trans (h : Keeps env s s₁) (h' : Keeps env s₁ s') : Keeps env s s' where
  lastPing := h'.lastPing.trans h.lastPing
  lastReceive := by
    rcases h'.lastReceive with heq | heq
    · rw [heq]
      exact h.lastReceive
    · exact .inr heq

lemma handlePacket_clocks (h : handlePacket env s f = .ok s') :
    s'.lastPing = s.lastPing ∧ s'.lastReceive = env.receive := by
  by_cases hdata : f.data = []
  · rw [handlePacket_nil hdata] at h
    cases h
  · cases hasks : asksPong f with
    | true =>
        obtain ⟨body, -, heq⟩ := handlePacket_of_asksPong env s hasks
        obtain ⟨q, -, rfl⟩ := map_eq_ok.mp (heq.symm.trans h)
        exact ⟨rfl, rfl⟩
    | false =>
        obtain ⟨parent, disconnected, -, -, heq⟩ := handlePacket_of_not_asksPong env s hdata hasks
        obtain rfl := Except.ok.inj (heq.symm.trans h)
        exact ⟨rfl, rfl⟩

lemma receivePacket_keeps (h : receivePacket env s f = .ok s') : Keeps env s s' := by
  rw [receivePacket] at h
  split_ifs at h
  · exact ⟨(handlePacket_clocks h).1, .inr (handlePacket_clocks h).2⟩
  · obtain ⟨received, -, h⟩ := bind_eq_ok.mp h
    have hkeeps := foldlM_induction (P := Keeps env { s with received := received.getAll.2 })
      (fun t f t' _ ht hstep => ht.trans
        ⟨(handlePacket_clocks hstep).1, .inr (handlePacket_clocks hstep).2⟩) (.refl env _) h
    exact ⟨hkeeps.lastPing, hkeeps.lastReceive⟩

/-- **What a datagram does to the clocks**: one with a frame outside the order is heard. -/
lemma handle_clocks {msg : UdpPacket} (h : s.handle env msg = .ok s') : Keeps env s s'
    ∧ ∀ f ∈ arrives msg.bytes, f.reliability.sequencedOrOrdered = false →
      s'.lastReceive = env.receive := by
  by_cases hrouted : Routed msg.bytes
  · rw [handle_of_routed hrouted, handleDatagram] at h
    rw [arrives, if_pos hrouted]
    cases hdecode : FrameSet.decode msg.bytes with
    | error e =>
        rw [hdecode] at h
        exact ⟨Except.ok.inj h ▸ .refl env s, fun f hf => absurd hf List.not_mem_nil⟩
    | ok frameSet =>
        rw [hdecode] at h
        obtain ⟨ackQueue, -, h⟩ := bind_eq_ok.mp h
        have hfold : ∀ {t t' : Session} {l : List Frame},
            l.foldlM (receivePacket env) t = .ok t' → Keeps env t t' := fun {t t' l} ht =>
          foldlM_induction (P := Keeps env t) (fun u f u' _ hu hstep =>
            hu.trans (receivePacket_keeps hstep)) (.refl env t) ht
        refine ⟨⟨(hfold h).lastPing, (hfold h).lastReceive⟩, fun f hf hunordered => ?_⟩
        obtain ⟨front, back, hdatas⟩ : ∃ front back, frameSet.datas = front ++ f :: back :=
          List.append_of_mem hf
        rw [hdatas] at h
        obtain ⟨t, -, h⟩ := foldlM_append_eq_ok.mp h
        obtain ⟨t', ht', h⟩ := foldlM_cons_eq_ok.mp h
        rw [receivePacket, if_pos (by simp [hunordered])] at ht'
        rcases (hfold h).lastReceive with heq | heq
        · rw [heq, (handlePacket_clocks ht').2]
        · exact heq
  · rw [arrives, if_neg hrouted]
    refine ⟨?_, fun f hf => absurd hf List.not_mem_nil⟩
    rcases handle_of_not_routed hrouted h with hack | hnack | rfl
    · rcases unwrapOrReturn_eq_ok hack with rfl | ⟨ack, -, hack⟩
      · exact .refl env _
      · obtain ⟨sequences, -, hs⟩ := bind_eq_ok.mp hack
        exact Except.ok.inj hs ▸ ⟨rfl, .inl rfl⟩
    · rcases unwrapOrReturn_eq_ok hnack with rfl | ⟨nack, -, hnack⟩
      · exact .refl env _
      · simp only [bind_eq_ok, pure_eq_ok, Except.ok.injEq] at hnack
        obtain ⟨sequences, -, q, -, rfl⟩ := hnack
        exact ⟨rfl, .inl rfl⟩
    · exact .refl env _

/-- A call that is no update and takes in no datagram leaves both clocks alone. -/
lemma step_clocks {op : Op} (hupdate : ∀ env, op ≠ .update env)
    (hhandle : ∀ env msg, op ≠ .handle env msg) (h : s.step op = .ok s') :
    s'.lastPing = s.lastPing ∧ s'.lastReceive = s.lastReceive := by
  cases op with
  | update env => exact absurd rfl (hupdate env)
  | handle env msg => exact absurd rfl (hhandle env msg)
  | forceFlush env =>
      obtain ⟨sets, q, sent, -, rfl⟩ := flushQueue_queue h
      exact ⟨rfl, rfl⟩
  | disconnect env =>
      obtain ⟨-, -, q, -, t, hflush, rfl⟩ := disconnect_eq_ok.mp h
      obtain ⟨sets, q', sent, -, rfl⟩ := flushQueue_queue hflush
      exact ⟨rfl, rfl⟩
  | sendSystemPacket env P packet reliability =>
      obtain ⟨body, -, -, -, q, -, rfl⟩ := sendSystemPacket_eq_ok.mp h
      exact ⟨rfl, rfl⟩
  | sendTo env buff =>
      by_cases hlen : buff.length < s.mtu.toNat - 46
      · obtain ⟨q, -, rfl⟩ := sendTo_whole hlen h
        exact ⟨rfl, rfl⟩
      · have hsplit := (sendTo_eq_ok.mp h).2
        rw [if_neg hlen] at hsplit
        obtain ⟨-, -, rfl⟩ := sendSplit_eq_ok.mp hsplit
        exact ⟨rfl, rfl⟩

/-- **What an update does to the clocks**: it finds the last ping recent, or queues another. -/
lemma Ledger.update_clocks (h : Ledger arrived settled bound s b) (hs : s.update env = .ok s')
    (hopen : s.disconnected = false) (hshort : ¬s.Silent env) :
    s'.disconnected = false ∧ s'.lastReceive = s.lastReceive
      ∧ (env.ping.millisSince s.lastPing ≤ 3000 ∧ s'.lastPing = s.lastPing
        ∨ s'.lastPing = env.pinged ∧ ∃ f, f.reliability.sequencedOrOrdered = false
          ∧ s'.packetQueue.Waits f) := by
  rcases update_cases hs with
    ⟨hclosed, -⟩ | ⟨-, s₁, s₂, s₃, hqueue, hack, hsilence, hping⟩
  · rw [hopen] at hclosed
    cases hclosed
  · have hnot : ¬10 < env.silence.secsSince s₂.lastReceive := fun hlong =>
      hshort ⟨hopen, lastReceive_flushes hqueue hack ▸ hlong⟩
    obtain rfl := (hsilence.resolve_left fun hlong => hnot hlong.1).2
    obtain ⟨sets, q, b', -, rfl, hledger, -, -⟩ := h.flushQueue hqueue
    obtain ⟨-, rfl⟩ := hledger.flushAck hack
    rw [Session.checkPing] at hping
    split_ifs at hping with hdue
    · obtain ⟨body, -, hsend⟩ := bind_eq_ok.mp hping
      obtain ⟨q', hq', hsend⟩ := bind_eq_ok.mp hsend
      obtain rfl := Except.ok.inj hsend
      exact ⟨hopen, rfl, .inr ⟨rfl, Frame.new .unreliable body, rfl,
        PacketQueue.waits_of_addFrame hledger.owes.orderly.sendMin_le hq'⟩⟩
    · obtain rfl := Except.ok.inj hping
      exact ⟨hopen, rfl, .inl ⟨not_lt.mp hdue, rfl⟩⟩

end Session

namespace Exchange

/-! ### Without goodbyes -/

variable {e e' : Exchange} {b : Side → Books}

/-- No goodbye has been said, and none is on its way. -/
structure Peaceful (e : Exchange) : Prop where
  bears : ∀ side, (e side).session.Bears Frame.Gentle
  said : ∀ side, ∀ m ∈ (e side).said, ¬Session.Ends m.payload
  arrived : ∀ side, ∀ f ∈ (e side).arrived, f.Gentle

lemma peaceful_new (addr : Side → SocketAddr) (mtu : Side → UInt16)
    (ping receive : Side → Instant) : (new addr mtu ping receive).Peaceful where
  bears side := Session.bears_new _ (addr side) (mtu side) (ping side) (receive side)
  said _ _ hm := absurd hm List.not_mem_nil
  arrived _ _ hf := absurd hf List.not_mem_nil

/-- What holds of a side and of its peer holds of both. -/
lemma forall_of_peer {P : Side → Prop} (side : Side) (h : P side) (hpeer : P side.peer) :
    ∀ side', P side' := by
  intro side'
  rcases Side.eq_or_eq_peer side side' with heq | heq
  · exact heq ▸ h
  · exact heq ▸ hpeer

/-- A call that says no goodbye keeps the peace, unless the other side is silent. -/
lemma Peaceful.step (h : e.Peaceful) (hagrees : e.Agrees b) {c : Side} {op : Session.Op}
    (ha : e.Admissible (c, op)) (hop : ¬Session.Parts op)
    (hsilent : ∀ env, op = .update env → ¬(e c).session.Silent env)
    (hs : Exchange.step e (c, op) = .ok e') : e'.Peaceful := by
  obtain ⟨hshort, -, hsent⟩ := ha
  obtain ⟨p, hp, rfl⟩ := map_eq_ok.mp hs
  obtain ⟨s, hstep, hsession, hsaid, harrived, -⟩ := party_step hp
  have hspeaks := (hagrees c).speaks
  have hready := hagrees.ready c
  have hne := Side.peer_ne c
  have hbears := (h.bears c).step_gentle hspeaks hready hshort hop hstep
  have hmessages := Session.not_ends_messages hop hsilent hspeaks hready hshort hstep
  have hincoming : ∀ f ∈ op.incoming, f.Gentle := fun f hf => by
    obtain ⟨packet, hpacket, hin⟩ := hsent.exists_packet f hf
    exact (h.bears c.peer).sent packet hpacket f hin
  refine ⟨forall_of_peer c ?_ ?_, forall_of_peer c ?_ ?_, forall_of_peer c ?_ ?_⟩
  · rw [Function.update_self, hsession]
    exact hbears.relabel rfl rfl
  · rw [Function.update_of_ne hne]
    exact h.bears c.peer
  · rw [Function.update_self, hsaid]
    exact List.forall_mem_append.mpr ⟨h.said c, hmessages⟩
  · rw [Function.update_of_ne hne]
    exact h.said c.peer
  · rw [Function.update_self, harrived]
    exact List.forall_mem_append.mpr ⟨h.arrived c, hincoming⟩
  · rw [Function.update_of_ne hne]
    exact h.arrived c.peer

/-- No side has been told the end of the session. -/
lemma Peaceful.sessionEnd_notMem (h : e.Peaceful) (hc : e.Chronicled) (side : Side) :
    .sessionEnd ∉ (e side).told := by
  intro hend
  obtain ⟨before, after, htold⟩ := List.append_of_mem hend
  obtain ⟨entries, hentries⟩ := hc side.peer
  rw [Side.peer_peer] at hentries
  rcases hentries.of_end htold with hown | ⟨f, hf, hunordered, hends⟩ | ⟨n, m, hm, hends, -⟩
  · exact h.said side _ hown (by simp [Message.farewell, Message.system, Message.payload,
      Carrier.payload, Session.Ends])
  · exact (h.arrived side f hf).unordered hunordered hends
  · exact h.said side.peer m (List.mem_of_getElem? hm) hends

/-- So no side is ended. -/
lemma Peaceful.stays_open (h' : e'.Peaceful) (hc' : e'.Chronicled) (hagrees : e.Agrees b)
    {c : Side} {op : Session.Op} (hopen : ∀ side, (e side).session.disconnected = false)
    (hs : Exchange.step e (c, op) = .ok e') (side : Side) :
    (e' side).session.disconnected = false := by
  have hnot := h'.sessionEnd_notMem hc' c
  obtain ⟨p, hp, rfl⟩ := map_eq_ok.mp hs
  obtain ⟨s, hstep, hsession, -, -, htold⟩ := party_step hp
  revert side
  refine forall_of_peer c ?_ ?_
  · rw [Function.update_self, htold] at hnot
    rw [Function.update_self, hsession, ← Bool.not_eq_true]
    exact fun hclosed => hnot (List.mem_append_right _
      (Session.step_ends (hagrees.ready c) hstep (hopen c) hclosed))
  · rw [Function.update_of_ne (Side.peer_ne c)]
    exact hopen c.peer

end Exchange

/-! ### Time -/

/-- An exchange in time, in nanoseconds: when each side was last updated, and the datagrams that
each has sent and the other has not handled, with the times they were sent at. -/
structure World where
  exchange : Exchange
  now : ℕ
  updated : Side → ℕ
  pending : Side → List (UdpPacket × ℕ)

/-- The clocks that a call reads show the time. -/
def Session.ReadsAt (t : ℕ) : Session.Op → Prop
  | .update env => env.silence = t ∧ env.ping = t ∧ env.pinged = t
  | .handle env _ => env.receive = t
  | _ => True

/-- The call is an update. -/
def Session.Updates : Session.Op → Prop
  | .update _ => True
  | _ => False

instance (t : ℕ) : DecidablePred (Session.ReadsAt t)
  | .update _ => inferInstanceAs (Decidable (_ ∧ _))
  | .handle _ _ => inferInstanceAs (Decidable (_ = _))
  | @Session.Op.sendSystemPacket _ _ _ _ _ => isTrue trivial
  | .forceFlush _ => isTrue trivial
  | .disconnect _ => isTrue trivial
  | .sendTo _ _ => isTrue trivial

instance : DecidablePred Session.Updates
  | .update _ => isTrue trivial
  | .handle _ _ => isFalse id
  | @Session.Op.sendSystemPacket _ _ _ _ _ => isFalse id
  | .forceFlush _ => isFalse id
  | .disconnect _ => isFalse id
  | .sendTo _ _ => isFalse id

namespace World

open Exchange (Handles)

/-- Two new sessions, which have read their clocks before. -/
def new (addr : Side → SocketAddr) (mtu : Side → UInt16) (ping receive : Side → ℕ)
    (now : ℕ) : World :=
  ⟨.new addr mtu ping receive, now, ping, fun _ => []⟩

/-- A call at a time. -/
def step (w : World) (a : ℕ × Side × Session.Op) : Except Panic World := do
  let (t, side, op) := a
  let exchange ← w.exchange.step (side, op)
  return {
    exchange := exchange
    now := t
    updated := if Session.Updates op then Function.update w.updated side t else w.updated
    pending := fun sender =>
      if sender = side then
        w.pending side
          ++ (Exchange.Party.sentSince (w.exchange side) (exchange side)).map fun p => (p, t)
      else (w.pending sender).filter fun p => ¬Handles p.1.bytes op }

/-- A side that has not been ended. -/
abbrev Open (w : World) (side : Side) : Prop := (w.exchange side).session.disconnected = false

/-- At the time `t` no update of a session that is open is more than `period` late, and no datagram
to one has been under way for more than `delay`. -/
structure Timely (period delay : ℕ) (w : World) (t : ℕ) : Prop where
  now_le : w.now ≤ t
  updates : ∀ side, w.Open side → t ≤ w.updated side + period
  datagrams : ∀ side, w.Open side.peer → ∀ p ∈ w.pending side, t ≤ p.2 + delay

instance (period delay : ℕ) (w : World) (t : ℕ) : Decidable (Timely period delay w t) :=
  decidable_of_iff (w.now ≤ t ∧ (∀ side, w.Open side → t ≤ w.updated side + period)
      ∧ ∀ side, w.Open side.peer → ∀ p ∈ w.pending side, t ≤ p.2 + delay)
    ⟨fun h => ⟨h.1, h.2.1, h.2.2⟩, fun h => ⟨h.now_le, h.updates, h.datagrams⟩⟩

/-- A call that the network admits, on time. -/
def Admissible (period delay : ℕ) (w : World) (a : ℕ × Side × Session.Op) : Prop :=
  w.exchange.Admissible a.2 ∧ Session.ReadsAt a.1 a.2.2 ∧ w.Timely period delay a.1

instance (period delay : ℕ) (w : World) : DecidablePred (w.Admissible period delay) := fun _ =>
  inferInstanceAs (Decidable (_ ∧ _))

/-! ### What keeps a side alive -/

/-- The longest time in nanoseconds that is no reason for a ping. -/
def pause : ℕ := 3001 * 10 ^ 6

section Alive

variable {period delay shift : ℕ} {w w' : World} {side : Side}

/-- When a side has last asked for a pong. -/
abbrev lastPing (w : World) (side : Side) : ℕ := (w.exchange side).session.lastPing

/-- When a side has last heard something. -/
abbrev lastReceive (w : World) (side : Side) : ℕ := (w.exchange side).session.lastReceive

/-- **What lets a side be heard**: the other one has heard something since the last ping of this
side, or a frame outside the order waits here, or is on its way. -/
def Heard (period shift : ℕ) (x : Party) (updated : ℕ) (pending : List (UdpPacket × ℕ))
    (receive : ℕ) : Prop :=
  x.session.lastPing ≤ receive + shift
    ∨ ∃ f : Frame, f.reliability.sequencedOrOrdered = false
      ∧ (x.queue.Waits f ∧ updated ≤ receive + shift + pause + period
        ∨ ∃ p ∈ pending, f ∈ Session.arrives p.1.bytes
          ∧ p.2 ≤ receive + shift + pause + 2 * period)

/-- Both sides are heard. -/
structure Alive (period shift : ℕ) (w : World) : Prop where
  updated_lt : ∀ side, w.updated side < w.lastPing side + pause
  lastPing_le : ∀ side, w.lastPing side ≤ w.now
  lastReceive_le : ∀ side, w.lastReceive side ≤ w.now
  heard : ∀ side, Heard period shift (w.exchange side) (w.updated side) (w.pending side)
    (w.lastReceive side.peer)

/-- **Neither side is silent** while the calls are on time. -/
lemma Alive.recent (h : w.Alive period shift)
    (hbound : pause + 2 * period + delay + shift < 11 * 10 ^ 9) {t : ℕ}
    (ht : w.Timely period delay t) (hopen : ∀ side, w.Open side) (side : Side) :
    t < w.lastReceive side + 11 * 10 ^ 9 := by
  have hupdate := ht.updates side.peer (hopen side.peer)
  have hpinged := h.updated_lt side.peer
  have hheard := h.heard side.peer
  rw [Heard, Side.peer_peer] at hheard
  rcases hheard with hping | ⟨f, -, ⟨-, hwaits⟩ | ⟨p, hp, -, hsent⟩⟩
  · have hupdated := hpinged.trans_le (Nat.add_le_add_right hping pause)
    omega
  · omega
  · have hdelay := ht.datagrams side.peer (by rw [Side.peer_peer]; exact hopen side) p hp
    omega

lemma Alive.not_silent (h : w.Alive period shift)
    (hbound : pause + 2 * period + delay + shift < 11 * 10 ^ 9) {t : ℕ}
    (ht : w.Timely period delay t) (hopen : ∀ side, w.Open side) {env : Session.Env}
    (henv : env.silence = t) : ¬(w.exchange side).session.Silent env := by
  rintro ⟨-, hlong⟩
  have hrecent := h.recent hbound ht hopen side
  rw [henv, Instant.secsSince, Nat.lt_div_iff_mul_lt (by norm_num)] at hlong
  simp only [lastReceive] at hrecent
  omega

/-! ### Calls -/

/-- What a call at the time `t` does to the clocks of a session, and what it lets wait. -/
structure Ticks (t : ℕ) (op : Session.Op) (s s' : Session) : Prop where
  lastReceive : s'.lastReceive = s.lastReceive ∨ s'.lastReceive = t
  incoming : ∀ f ∈ op.incoming, f.reliability.sequencedOrOrdered = false → s'.lastReceive = t
  lastPing : s'.lastPing = s.lastPing ∧ (Session.Updates op → t < s.lastPing + pause)
    ∨ Session.Updates op ∧ s'.lastPing = t ∧ ∃ f : Frame, f.reliability.sequencedOrOrdered = false
      ∧ s'.packetQueue.Waits f

lemma ticks_of_ledger {arrived : Frame → Prop} {settled : ℕ → Prop} {bound : ℕ} {s s' : Session}
    {b : Books} (h : s.Ledger arrived settled bound b) {t : ℕ} {op : Session.Op}
    (hreads : Session.ReadsAt t op) (hopen : s.disconnected = false)
    (hsilent : ∀ env, op = .update env → ¬s.Silent env) (hs : s.step op = .ok s') :
    Ticks t op s s' := by
  by_cases hupdate : ∃ env, op = .update env
  · obtain ⟨env, rfl⟩ := hupdate
    obtain ⟨-, hping, hpinged⟩ := hreads
    obtain ⟨-, hreceive, hclocks⟩ := h.update_clocks hs hopen (hsilent env rfl)
    refine ⟨.inl hreceive, fun f hf => absurd hf List.not_mem_nil, ?_⟩
    rcases hclocks with ⟨hrecent, hsame⟩ | ⟨hlast, hwaits⟩
    · refine .inl ⟨hsame, fun _ => ?_⟩
      rw [hping, Instant.millisSince, ← Nat.lt_succ_iff, Nat.div_lt_iff_lt_mul (by norm_num)]
        at hrecent
      rw [pause]
      omega
    · exact .inr ⟨trivial, hlast.trans hpinged, hwaits⟩
  · simp only [not_exists] at hupdate
    have hnot : ¬Session.Updates op := fun hup => by
      cases op with
      | update env => exact hupdate env rfl
      | _ => exact hup
    by_cases hhandle : ∃ env msg, op = .handle env msg
    · obtain ⟨env, msg, rfl⟩ := hhandle
      obtain ⟨hkeeps, hheard⟩ := Session.handle_clocks hs
      have hreads' : env.receive = t := hreads
      rw [← hreads']
      exact ⟨hkeeps.lastReceive, hheard, .inl ⟨hkeeps.lastPing, fun hup => absurd hup hnot⟩⟩
    · simp only [not_exists] at hhandle
      obtain ⟨hping, hreceive⟩ := Session.step_clocks hupdate hhandle hs
      refine ⟨.inl hreceive, fun f hf => ?_, .inl ⟨hping, fun hup => absurd hup hnot⟩⟩
      cases op with
      | handle env msg => exact absurd rfl (hhandle env msg)
      | _ => exact absurd hf List.not_mem_nil

/-- **The side itself is called.** -/
lemma Heard.call {x x' : Party} {updated receive t : ℕ} {pending : List (UdpPacket × ℕ)}
    {op : Session.Op} (h : Heard period shift x updated pending receive)
    (hticks : Ticks t op x.session x'.session)
    (hwaits : ∀ f, x.queue.Waits f → x'.queue.Waits f ∧ ¬Session.Updates op
      ∨ ∃ packet ∈ Exchange.Party.sentSince x x', f ∈ Session.arrives packet.bytes)
    (hlate : t ≤ updated + period) (hpinged : updated < x.session.lastPing + pause) :
    Heard period shift x' (if Session.Updates op then t else updated)
      (pending ++ (Exchange.Party.sentSince x x').map fun p => (p, t)) receive := by
  rcases h with hping | ⟨f, hf, ⟨hwait, hrecent⟩ | ⟨p, hp, hmem, hsent⟩⟩
  · rcases hticks.lastPing with ⟨hsame, -⟩ | ⟨hupdates, -, f, hf, hwait⟩
    · exact .inl (hsame ▸ hping)
    · have hupdated := hpinged.trans_le (Nat.add_le_add_right hping pause)
      refine .inr ⟨f, hf, .inl ⟨hwait, ?_⟩⟩
      rw [if_pos hupdates]
      omega
  · rcases hwaits f hwait with ⟨hwait', hnot⟩ | ⟨packet, hpacket, hmem⟩
    · refine .inr ⟨f, hf, .inl ⟨hwait', ?_⟩⟩
      rwa [if_neg hnot]
    · refine .inr ⟨f, hf, .inr ⟨(packet, t), List.mem_append_right _ ?_, hmem, ?_⟩⟩
      · exact List.mem_map_of_mem hpacket
      · show t ≤ _
        omega
  · exact .inr ⟨f, hf, .inr ⟨p, List.mem_append_left _ hp, hmem, hsent⟩⟩

/-- **The other side is called.** -/
lemma Heard.listen {x : Party} {updated t : ℕ} {pending : List (UdpPacket × ℕ)} {s s' : Session}
    {op : Session.Op} (h : Heard period shift x updated pending s.lastReceive)
    (hticks : Ticks t op s s') (hping : x.session.lastPing ≤ t) :
    Heard period shift x updated (pending.filter fun p => ¬Handles p.1.bytes op)
      s'.lastReceive := by
  have hnow : s'.lastReceive = t →
      Heard period shift x updated (pending.filter fun p => ¬Handles p.1.bytes op)
        s'.lastReceive := fun heq => .inl (heq ▸ hping.trans (Nat.le_add_right t shift))
  rcases hticks.lastReceive with hsame | heq
  · rcases h with hrecent | ⟨f, hf, hwait | ⟨p, hp, hmem, hsent⟩⟩
    · exact .inl (hsame ▸ hrecent)
    · exact .inr ⟨f, hf, .inl (hsame ▸ hwait)⟩
    · by_cases hhandles : Handles p.1.bytes op
      · refine hnow (hticks.incoming f ?_ hf)
        cases op with
        | handle env msg =>
            have hbytes : msg.bytes = p.1.bytes := hhandles
            rw [Session.Op.incoming, hbytes]
            exact hmem
        | _ => exact absurd hhandles id
      · exact .inr ⟨f, hf, .inr ⟨p, List.mem_filter.mpr ⟨hp, decide_eq_true hhandles⟩, hmem,
          hsame ▸ hsent⟩⟩
  · exact hnow heq

lemma step_eq_ok {t : ℕ} {op : Session.Op} (hs : w.step (t, side, op) = .ok w') :
    ∃ p, (w.exchange side).step op = .ok p ∧ w' = {
      exchange := Function.update w.exchange side p
      now := t
      updated := if Session.Updates op then Function.update w.updated side t else w.updated
      pending := fun sender =>
        if sender = side then
          w.pending side ++ (Exchange.Party.sentSince (w.exchange side) p).map fun p => (p, t)
        else (w.pending sender).filter fun p => ¬Handles p.1.bytes op } := by
  obtain ⟨e, he, hs⟩ := bind_eq_ok.mp hs
  obtain ⟨p, hp, rfl⟩ := map_eq_ok.mp he
  obtain rfl := Except.ok.inj hs
  refine ⟨p, hp, ?_⟩
  simp only [Function.update_self]

/-- **Step lemma**: calls on time keep both sides heard. -/
lemma Alive.step {b : Side → Books} (hagrees : w.exchange.Agrees b) (h : w.Alive period shift)
    (hbound : pause + 2 * period + delay + shift < 11 * 10 ^ 9) (hopen : ∀ side, w.Open side)
    {a : ℕ × Side × Session.Op} (ha : w.Admissible period delay a)
    (hs : World.step w a = .ok w') : w'.Alive period shift := by
  obtain ⟨t, c, op⟩ := a
  obtain ⟨⟨-, -, hsent⟩, hreads, htimely⟩ := ha
  obtain ⟨p, hp, rfl⟩ := step_eq_ok hs
  obtain ⟨s, hstep, hsession, -⟩ := Exchange.party_step hp
  have hflow := hagrees c
  have hback := hagrees c.peer
  rw [Side.peer_peer] at hback
  have hmsg : ∀ env msg, op = .handle env msg → Link.Traffic (b c.peer).emitted
      ((b c).Confirmed (Exchange.Arrives (w.exchange c.peer))) (b c).emitted.length msg.bytes := by
    rintro env msg rfl
    obtain ⟨packet, hpacket, hbytes⟩ := hsent
    exact hbytes ▸ hback.ledger.sent packet hpacket
  have hsilent : ∀ env, op = .update env → ¬(w.exchange c).session.Silent env := by
    rintro env rfl
    exact h.not_silent hbound htimely hopen hreads.1
  have hticks : Ticks t op (w.exchange c).session p.session := by
    have hcall := ticks_of_ledger hflow.ledger hreads (hopen c) hsilent hstep
    rw [hsession]
    exact ⟨hcall.lastReceive, hcall.incoming, hcall.lastPing⟩
  have hwaits : ∀ f, (w.exchange c).queue.Waits f → p.queue.Waits f ∧ ¬Session.Updates op
      ∨ ∃ packet ∈ Exchange.Party.sentSince (w.exchange c) p, f ∈ Session.arrives packet.bytes := by
    intro f hf
    rw [Exchange.Party.sentSince, Party.queue, hsession]
    refine (hflow.ledger.waits hback.listens.ready hback.ledger.emitted hmsg hstep hf).imp_left
      fun hkept => ⟨hkept.1, fun hup => ?_⟩
    cases op with
    | update env => simpa [hopen c] using hkept.2 env rfl
    | _ => exact hup
  have hnow := htimely.now_le
  have hlate := htimely.updates c (hopen c)
  have hlastPing := h.lastPing_le c
  have hother := h.lastPing_le c.peer
  have hping : p.session.lastPing ≤ t := by
    rcases hticks.lastPing with ⟨heq, -⟩ | ⟨-, heq, -⟩
    · exact heq ▸ hlastPing.trans hnow
    · exact heq.le
  have hupdated : (if Session.Updates op then t else w.updated c) < p.session.lastPing + pause := by
    rcases hticks.lastPing with ⟨heq, hrecent⟩ | ⟨hup, heq, -⟩
    · rw [heq]
      split_ifs with hup
      · exact hrecent hup
      · exact h.updated_lt c
    · rw [if_pos hup, heq]
      exact Nat.lt_add_of_pos_right (by norm_num [pause])
  have hcaller := (h.heard c).call hticks hwaits hlate (h.updated_lt c)
  have hlistens : Heard period shift (w.exchange c.peer) (w.updated c.peer)
      ((w.pending c.peer).filter fun p => ¬Handles p.1.bytes op) p.session.lastReceive := by
    have hheard := h.heard c.peer
    rw [Side.peer_peer] at hheard
    exact hheard.listen hticks (hother.trans hnow)
  have hreceive : p.session.lastReceive ≤ t := by
    rcases hticks.lastReceive with heq | heq
    · exact heq ▸ (h.lastReceive_le c).trans hnow
    · exact heq.le
  have hne := Side.peer_ne c
  refine ⟨Exchange.forall_of_peer c ?_ ?_, Exchange.forall_of_peer c ?_ ?_,
    Exchange.forall_of_peer c ?_ ?_, Exchange.forall_of_peer c ?_ ?_⟩
  · simpa only [lastPing, ite_apply, Function.update_self] using hupdated
  · simpa only [lastPing, ite_apply, Function.update_of_ne hne, ite_self] using h.updated_lt c.peer
  · simpa only [lastPing, Function.update_self] using hping
  · simpa only [lastPing, Function.update_of_ne hne] using hother.trans hnow
  · simpa only [lastReceive, Function.update_self] using hreceive
  · simpa only [lastReceive, Function.update_of_ne hne] using (h.lastReceive_le c.peer).trans hnow
  · simpa only [lastReceive, ite_apply, Function.update_self, Function.update_of_ne hne, if_true]
      using hcaller
  · simpa only [lastReceive, ite_apply, Side.peer_peer, Function.update_self,
      Function.update_of_ne hne, ite_self, if_neg hne] using hlistens

end Alive

/-- **Keep-alive.**  A session is updated at least every `period`, and a datagram sent by one side
is handled by the other within `delay`: if a ping, two periods and a delay fit into eleven seconds,
no side ever takes the other one for silent, and as long as nobody says goodbye no session ends. -/
theorem keeps_alive (addr : Side → SocketAddr) (mtu : Side → UInt16) (ping receive : Side → ℕ)
    (now period delay shift : ℕ) (hmtu : ∀ side, (mtu side).toNat ≤ 8191)
    (hping : ∀ side, ping side ≤ now) (hreceive : ∀ side, receive side ≤ now)
    (hshift : ∀ side : Side, ping side ≤ receive side.peer + shift)
    (hbound : pause + 2 * period + delay + shift < 11 * 10 ^ 9)
    (actions : List (ℕ × Side × Session.Op))
    (hadmissible : Run.Along step
      (fun w a => w.Admissible period delay a ∧ ¬Session.Parts a.2.2)
      (new addr mtu ping receive now) actions) :
    Run.Always step (fun w => ∀ side, w.Open side) (new addr mtu ping receive now) actions := by
  have hall : Run.Always step (fun w => (∃ b, w.exchange.Agrees b) ∧ w.exchange.Chronicled
      ∧ w.exchange.Peaceful ∧ (∀ side, w.Open side) ∧ w.Alive period shift)
      (new addr mtu ping receive now) actions := by
    refine Run.always_of_along (fun w a w' hw ha hs => ?_) ⟨⟨_, Exchange.agrees_new addr mtu ping
      receive hmtu⟩, fun side => ⟨[], Session.chronicle_new _ _ _ _ _⟩,
      Exchange.peaceful_new addr mtu ping receive, fun side => rfl, ?_⟩ hadmissible
    · obtain ⟨⟨b, hagrees⟩, hchronicled, hpeaceful, hopen, halive⟩ := hw
      obtain ⟨hadmitted, hparts⟩ := ha
      have halive' := halive.step hagrees hbound hopen hadmitted hs
      obtain ⟨t, c, op⟩ := a
      obtain ⟨hexchange, hreads, htimely⟩ := hadmitted
      obtain ⟨e', he, hs⟩ := bind_eq_ok.mp hs
      obtain rfl := Except.ok.inj hs
      obtain ⟨b', hagrees', -⟩ := hagrees.step hexchange he
      have hchronicled' := hagrees.chronicled hchronicled hexchange he
      have hpeaceful' := hpeaceful.step hagrees hexchange hparts
        (by rintro env rfl; exact halive.not_silent hbound htimely hopen hreads.1) he
      exact ⟨⟨b', hagrees'⟩, hchronicled', hpeaceful',
        hpeaceful'.stays_open hchronicled' hagrees hopen he, halive'⟩
    · exact ⟨fun side => Nat.lt_add_of_pos_right (by norm_num [pause]), hping, hreceive,
        fun side => .inl (hshift side)⟩
  exact hall.mono fun w hw => hw.2.2.2.1

/-- All clocks that matter show the time. -/
def showing (t : ℕ) : Session.Env :=
  { (default : Session.Env) with
    queue := ⟨fun _ => t, t⟩
    silence := t
    ping := t
    pinged := t
    receive := t }

/-- Both sides are updated. -/
def round (t : ℕ) : List (ℕ × Side × Session.Op) :=
  [(t, .left, .update (showing t)), (t, .right, .update (showing t))]

/-- The first ping of a side arrives at the other one. -/
def pinging (t : ℕ) (side : Side) : ℕ × Side × Session.Op :=
  (t, side, .handle (showing t)
    ⟨[132, 0, 0, 0, 0, 0, 72, 0, 0, 0, 0, 0, 0, 0, 0, 0], Exchange.here⟩)

/-- Twelve seconds in rounds of three: the pings of the second round are sent in the third. -/
theorem keeps_alive_sample :
    let start := new (fun _ => Exchange.here) (fun _ => 1400) (fun _ => 0) (fun _ => 0) 0
    let actions := round 3000000000 ++ round 6000000000 ++ round 9000000000
      ++ [pinging 9500000000 .left, pinging 9500000000 .right] ++ round 12000000000
    (Run.exec step start actions).map (fun w => (w.lastReceive .left, w.lastReceive .right))
        = .ok (9500000000, 9500000000)
      ∧ Run.Always step (fun w => ∀ side, w.Open side) start actions :=
  ⟨by decide +kernel, keeps_alive _ _ _ _ 0 3000000000 1000000000 0 (by decide) (fun _ => le_rfl)
    (fun _ => le_rfl) (fun _ => le_rfl) (by norm_num [pause]) _ (by decide +kernel)⟩

end World

end ActixRaknet
