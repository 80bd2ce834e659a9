import ActixRaknet.Packets.RoundTrip
import ActixRaknet.Queue.Sets
import ActixRaknet.Session.Fragments
import ActixRaknet.Session.Safety
import ActixRaknet.Session.Send

/-!
The size of the datagrams of a session.

* `PacketQueue.Within`: the sets in the queue, the open one included, stay within a limit;
* `PacketQueue.Leaves`: the set that a frame joins stays within it;
* `Session.Within`: besides, every datagram sent did;
* `Session.Modest`: the frames that a call queues leave the queue within the limit, `Within.step`;
* `modest_of_le`: for a session that uses its own size, 33 bytes less than its mtu are a limit that
  its calls keep to;
* `Session.Slim`: a session within that limit; all its calls keep it so (`Slim.turn`);
* `session_datagram_bound`: no datagram of a run is larger than 28 bytes less than the mtu.
-/

namespace ActixRaknet

open Fallible

/-- The bytes of a frame set. -/
def FrameSet.size (fs : FrameSet) : ℕ := 4 + (fs.datas.map Frame.length).sum

namespace PacketQueue

/-- No set of the queue is larger than `limit` bytes. -/
structure Within (limit : ℕ) (q : PacketQueue) : Prop where
  setSize : q.setSize = (q.setQueue.map Frame.length).sum
  open_le : 4 + q.setSize ≤ limit
  sets : ∀ n fs, q.queue.lookup n = some fs → fs.size ≤ limit

/-- The set that the frame joins, the open one or one of its own, is not larger than `limit`. -/
def Leaves (limit : ℕ) (q : PacketQueue) (f : Frame) : Prop :=
  4 + (if q.Fits f then q.setSize + f.length else f.length) ≤ limit

instance (limit : ℕ) (q : PacketQueue) (f : Frame) : Decidable (q.Leaves limit f) :=
  inferInstanceAs (Decidable (_ ≤ _))

variable {limit : ℕ} {q q' : PacketQueue} {clock : Clock}

lemma within_new (mtu : UInt16) (h : 4 ≤ limit) : Within limit (new mtu) :=
  ⟨rfl, h, fun n fs hn => by simp [new] at hn⟩

/-- Frames that take no more than `limit` bytes as a set. -/
def Sized (limit : ℕ) (datas : List Frame) : Prop := 4 + (datas.map Frame.length).sum ≤ limit

lemma Within.holding (h : q.Within limit) : q.Holding (Sized limit) :=
  ⟨(h.setSize ▸ h.open_le : 4 + (q.setQueue.map Frame.length).sum ≤ limit), h.sets⟩

lemma within_of_holding (hsize : q.setSize = (q.setQueue.map Frame.length).sum)
    (h : q.Holding (Sized limit)) : q.Within limit := ⟨hsize, hsize ▸ h.openSet, h.sets⟩

/-- What leaves the open set alone keeps to the limit if the numbered sets do. -/
lemma Within.of_sameOpen (h : q.Within limit) (hsame : SameOpen q q')
    (hq : q'.Holding (Sized limit)) : q'.Within limit ∧ q'.mtu = q.mtu :=
  ⟨within_of_holding (by rw [hsame.setSize, hsame.setQueue, h.setSize]) hq, hsame.mtu⟩

lemma Within.allocate (h : q.Within limit) (clock : Clock) (header : UInt8) {datas : List Frame}
    (hdatas : Sized limit datas) : Within limit (q.allocate clock header datas) :=
  within_of_holding h.setSize (h.holding.allocate clock header hdatas)

/-- A frame whose set stays within the limit is added. -/
lemma Within.addFrame (h : q.Within limit) {f : Frame} (hf : q.Leaves limit f)
    (hq : q.addFrame clock f = .ok q') : q'.Within limit ∧ q'.mtu = q.mtu := by
  have hsum : ((q.setQueue ++ [f]).map Frame.length).sum = q.setSize + f.length := by
    rw [List.map_append, List.sum_append, ← h.setSize, List.map_singleton, List.sum_singleton]
  rw [Leaves] at hf
  have hholding : q'.Holding (Sized limit) := by
    refine h.holding.addFrame (fun hfits => ?_) (fun hfits => ?_) hq
    · rw [Sized, hsum]
      rwa [if_pos hfits] at hf
    · rw [Sized, List.map_singleton, List.sum_singleton]
      rwa [if_neg hfits] at hf
  obtain ⟨-, ⟨-, rfl⟩ | ⟨-, -, rfl⟩⟩ := addFrame_eq_ok.mp hq
  · exact ⟨within_of_holding hsum.symm hholding, rfl⟩
  · exact ⟨within_of_holding h.setSize hholding, rfl⟩

lemma Within.received (h : q.Within limit) (n : ℕ) :
    (q.received n).Within limit ∧ (q.received n).mtu = q.mtu :=
  h.of_sameOpen (sameOpen_received q n) (h.holding.received n)

lemma Within.resend (h : q.Within limit) {n : ℕ} (hq : q.resend clock n = .ok q') :
    q'.Within limit ∧ q'.mtu = q.mtu :=
  h.of_sameOpen (sameOpen_resend hq) (h.holding.resend hq)

/-- **The sets of a flush** are within the limit, and the open set is empty after it. -/
lemma Within.getPacket (h : q.Within limit) (hlimit : 4 ≤ limit) {order : IterOrder ℕ}
    {ret : List FrameSet} (hq : q.getPacket clock order = .ok (ret, q')) :
    (∀ fs ∈ ret, fs.size ≤ limit) ∧ q'.Within limit ∧ q'.mtu = q.mtu ∧ q'.setSize = 0 := by
  obtain ⟨hret, hholding⟩ := h.holding.getPacket hlimit hq
  obtain ⟨q₁, hflush, hsame⟩ := sameOpen_getPacket hq
  have hopen : q₁.setQueue = [] ∧ q₁.setSize = 0 ∧ q₁.mtu = q.mtu := by
    rcases flush_eq_ok.mp hflush with ⟨hset, rfl⟩ | ⟨-, -, rfl⟩
    · refine ⟨hset, ?_, rfl⟩
      rw [h.setSize, hset]
      rfl
    · exact ⟨rfl, rfl, rfl⟩
  obtain ⟨hset, hsize, hmtu⟩ := hopen
  have hzero : q'.setSize = 0 := hsame.setSize.trans hsize
  refine ⟨hret, within_of_holding ?_ hholding, hsame.mtu.trans hmtu, hzero⟩
  rw [hzero, hsame.setQueue, hset]
  rfl

/-- `set_size` counts the bytes of the open set, and every set that `get_packet` may return encodes
to at most `limit` bytes. -/
structure Fitting (limit : ℕ) (q : PacketQueue) : Prop where
  setSize : q.setSize = (q.setQueue.map Frame.length).sum
  sets : ∀ clock order ret q', q.getPacket clock order = .ok (ret, q') →
    ∀ fs ∈ ret, ∀ bytes, fs.encode = .ok bytes → bytes.length ≤ limit

lemma Within.fitting (h : q.Within limit) (hlimit : 4 ≤ limit) :
    Fitting limit q where
  setSize := h.setSize
  sets _ _ _ _ hq fs hfs _ hbytes :=
    (FrameSet.length_of_encode hbytes).trans_le ((h.getPacket hlimit hq).1 fs hfs)

end PacketQueue

namespace Session

/-- A reachable session whose datagrams, sent and still to be sent, are not larger than `limit`. -/
structure Within (limit : ℕ) (s : Session) : Prop where
  ready : s.Ready
  queue : s.packetQueue.Within limit
  sent : ∀ p ∈ s.udp, p.bytes.length ≤ limit

/-- The session stays within the limit, and its sizes do not change. -/
def Stays (limit : ℕ) (s s' : Session) : Prop :=
  s'.Within limit ∧ s'.mtu = s.mtu ∧ s'.packetQueue.mtu = s.packetQueue.mtu

lemma within_new (addr : SocketAddr) (mtu : UInt16) (lastPing lastReceive : Instant) {limit : ℕ}
    (h : 4 ≤ limit) : Within limit (new addr mtu lastPing lastReceive) :=
  ⟨ready_new addr mtu lastPing lastReceive, PacketQueue.within_new mtu h,
    fun _ hp => absurd hp List.not_mem_nil⟩

variable {limit : ℕ} {s s' : Session} {env : Env}

lemma Stays.trans {s'' : Session} (h : Stays limit s s') (h' : Stays limit s' s'') :
    Stays limit s s'' := ⟨h'.1, h'.2.1.trans h.2.1, h'.2.2.trans h.2.2⟩

lemma Within.stays (h : s.Within limit) : Stays limit s s := ⟨h, rfl, rfl⟩

/-- Fields that no size depends on may change. -/
lemma Within.relabel (h : s.Within limit) {t : Session} (hready : t.Ready)
    (hqueue : t.packetQueue = s.packetQueue) (hudp : t.udp = s.udp) (hmtu : t.mtu = s.mtu) :
    Stays limit s t :=
  ⟨⟨hready, hqueue ▸ h.queue, hudp ▸ h.sent⟩, hmtu, by rw [hqueue]⟩

lemma Within.send (h : s.Within limit) {clock : PacketQueue.Clock} {f : Frame}
    (hs : s.send clock f = .ok s') (hf : s.packetQueue.Leaves limit f) : Stays limit s s' := by
  have hready := (passes_send hs).ready h.ready
  simp only [Session.send, bind_eq_ok, pure_eq_ok, Except.ok.injEq] at hs
  obtain ⟨q, hq, rfl⟩ := hs
  obtain ⟨hqueue, hmtu⟩ := h.queue.addFrame hf hq
  exact ⟨⟨hready, hqueue, h.sent⟩, rfl, hmtu⟩

/-- A datagram within the limit is sent. -/
lemma Within.sendUdp (h : s.Within limit) {bytes : Bytes} (hbytes : bytes.length ≤ limit) :
    Stays limit s (s.sendUdp bytes) := by
  refine ⟨⟨⟨h.ready.sane, h.ready.max_lt⟩, h.queue, fun p hp => ?_⟩, rfl, rfl⟩
  rcases List.mem_append.mp hp with hp | hp
  · exact h.sent p hp
  · rw [List.mem_singleton.mp hp]
    exact hbytes

lemma Within.flushQueue (h : s.Within limit) (hlimit : 4 ≤ limit) {clock : PacketQueue.Clock}
    {order : IterOrder ℕ} (hs : s.flushQueue clock order = .ok s') :
    Stays limit s s' ∧ s'.packetQueue.setSize = 0 := by
  have hready := (passes_flushQueue hs).ready h.ready
  obtain ⟨⟨sets, q⟩, hq, hsets⟩ := bind_eq_ok.mp hs
  obtain ⟨hsizes, hqueue, hmtu, hsize⟩ := h.queue.getPacket hlimit hq
  have hloop := foldlM_induction (P := fun t : Session => t.packetQueue = q ∧ t.mtu = s.mtu
      ∧ ∀ p ∈ t.udp, p.bytes.length ≤ limit) (fun t fs t' hfs ht hstep => ?_)
    (s := { s with packetQueue := q }) ⟨rfl, rfl, h.sent⟩ hsets
  · obtain ⟨hq', hmtu', hsent⟩ := hloop
    exact ⟨⟨⟨hready, hq' ▸ hqueue, hsent⟩, hmtu', hq' ▸ hmtu⟩, hq' ▸ hsize⟩
  · obtain ⟨bytes, hbytes, hstep⟩ := bind_eq_ok.mp hstep
    obtain rfl := Except.ok.inj hstep
    refine ⟨ht.1, ht.2.1, fun p hp => ?_⟩
    rcases List.mem_append.mp hp with hp | hp
    · exact ht.2.2 p hp
    · rw [List.mem_singleton.mp hp]
      exact (FrameSet.length_of_encode hbytes).trans_le (hsizes fs hfs)

/-- An acknowledgement takes at most ten bytes. -/
lemma Within.sendRecord (h : s.Within limit) (hlimit : 10 ≤ limit) {P : Type} [Packet P]
    {p : P} {record : SequenceRecord} (hwrite : Packet.write p = record.write)
    (hs : (do let bytes ← encode p; return s.sendUdp bytes : Except Panic Session) = .ok s') :
    Stays limit s s' ∧ s'.packetQueue = s.packetQueue := by
  obtain ⟨bytes, hbytes, hs⟩ := bind_eq_ok.mp hs
  obtain rfl := Except.ok.inj hs
  exact ⟨h.sendUdp ((length_of_encode_record hwrite hbytes).trans hlimit), rfl⟩

lemma Within.flushAck (h : s.Within limit) (hlimit : 10 ≤ limit) (hs : s.flushAck = .ok s') :
    Stays limit s s' ∧ s'.packetQueue = s.packetQueue := by
  obtain ⟨s₁, hacks, hnacks⟩ := bind_eq_ok.mp hs
  have hcleared := h.relabel (t := { s with ackQueue := s.ackQueue.clear.2 })
    ⟨h.ready.sane, h.ready.max_lt⟩ rfl rfl rfl
  have h₁ : Stays limit s s₁ ∧ s₁.packetQueue = s.packetQueue := by
    refine foldlM_induction (P := fun t => Stays limit s t ∧ t.packetQueue = s.packetQueue)
      (fun t r t' _ ht hstep => ?_) ⟨hcleared, rfl⟩ hacks
    obtain ⟨hstays, hqueue⟩ := ht.1.1.sendRecord hlimit (p := Ack.new r) rfl hstep
    exact ⟨ht.1.trans hstays, hqueue.trans ht.2⟩
  refine foldlM_induction (P := fun t => Stays limit s t ∧ t.packetQueue = s.packetQueue)
    (fun t n t' _ ht hstep => ?_) h₁ hnacks
  obtain ⟨hstays, hqueue⟩ := ht.1.1.sendRecord hlimit (p := Nack.new (n, n)) rfl hstep
  exact ⟨ht.1.trans hstays, hqueue.trans ht.2⟩

/-! ### What a call queues -/

/-- Whether a set stays within the limit depends on the length of the frame and its split bit. -/
lemma leaves_congr {q : PacketQueue} {f g : Frame} (hlength : f.length = g.length)
    (hsplit : f.split = g.split) : q.Leaves limit f ↔ q.Leaves limit g := by
  have hfits : q.Fits f ↔ q.Fits g := by rw [PacketQueue.Fits, PacketQueue.Fits, hlength, hsplit]
  rw [PacketQueue.Leaves, PacketQueue.Leaves, hlength]
  simp only [hfits]

/-- An unsplit frame leaves an empty open set, or a set of its own, within the limit. -/
lemma leaves_of_le {q : PacketQueue} {f : Frame} (h : 4 + q.setSize + f.length ≤ limit) :
    q.Leaves limit f := by
  rw [PacketQueue.Leaves]
  split_ifs <;> omega

/-- The pings among some frames are answered within the limit: the pongs that join the open set
leave it so. -/
def Pongs (limit : ℕ) (q : PacketQueue) (n : ℕ) : Prop :=
  ∀ i < n, q.setSize + 20 * (i + 1) < q.mtu - 42 → 4 + (q.setSize + 20 * (i + 1)) ≤ limit

instance (limit : ℕ) (q : PacketQueue) (n : ℕ) : Decidable (Pongs limit q n) :=
  inferInstanceAs (Decidable (∀ i < n, _ → _))

/-- The frames that a call queues leave the sets they join within the limit. -/
def Modest (limit : ℕ) (s : Session) : Op → Prop
  | .update _ | .forceFlush _ => True
  | .handle env msg =>
    Pongs limit s.packetQueue ((s.handledBy (.handle env msg)).countP asksPong)
  | .disconnect _ =>
    s.packetQueue.Leaves limit (Frame.new .reliableOrdered [Packet.ID Disconnected])
  | @Op.sendSystemPacket _ _ _ packet reliability => ∀ body, encode packet = .ok body →
    s.packetQueue.Leaves limit (Frame.new reliability body)
  | .sendTo _ buff =>
    if buff.length < s.mtu.toNat - 46 then s.packetQueue.Leaves limit (s.wholeFrame buff)
    else ∀ f ∈ s.splitFrames buff, 4 + f.length ≤ limit

instance (limit : ℕ) (s : Session) : DecidablePred (Modest limit s)
  | .update _ | .forceFlush _ => isTrue trivial
  | .handle _ _ => inferInstanceAs (Decidable (Pongs _ _ _))
  | .disconnect _ => inferInstanceAs (Decidable (PacketQueue.Leaves _ _ _))
  | @Op.sendSystemPacket _ _ _ packet reliability =>
    inferInstanceAs (Decidable (∀ body, encode packet = .ok body →
      s.packetQueue.Leaves limit (Frame.new reliability body)))
  | .sendTo _ buff => inferInstanceAs (Decidable (if buff.length < s.mtu.toNat - 46 then
      s.packetQueue.Leaves limit (s.wholeFrame buff) else ∀ f ∈ s.splitFrames buff, _ ≤ limit))

lemma Within.disconnect (h : s.Within limit) (hlimit : 4 ≤ limit)
    (hf : s.packetQueue.Leaves limit (Frame.new .reliableOrdered [Packet.ID Disconnected]))
    (hs : s.disconnect env = .ok s') : Stays limit s s' ∧ s'.packetQueue.setSize = 0 := by
  obtain ⟨-, -, q, hq, t, ht, rfl⟩ := disconnect_eq_ok.mp hs
  have hindexed := h.relabel
    (t := { s with messageIndex := s.messageIndex + 1, orderIndex := s.orderIndex + 1 })
    ⟨h.ready.sane, h.ready.max_lt⟩ rfl rfl rfl
  have hsent := hindexed.1.send (f := s.closingFrame) (bind_eq_ok.mpr ⟨q, hq, rfl⟩)
    ((leaves_congr rfl rfl).mp hf)
  obtain ⟨hflushed, hsize⟩ := hsent.1.flushQueue hlimit ht
  have hend := hflushed.1.relabel (t := t.end)
    ⟨hflushed.1.ready.sane, hflushed.1.ready.max_lt⟩ rfl rfl rfl
  exact ⟨hindexed.trans (hsent.trans (hflushed.trans hend)), hsize⟩

/-- **An update** stays within the limit: it queues frames behind a flush only. -/
lemma Within.update (h : s.Within limit) (hlimit : 16 ≤ limit) (hs : s.update env = .ok s') :
    Stays limit s s' := by
  rcases update_cases hs with ⟨-, rfl⟩ | ⟨-, s₁, s₂, s₃, hqueue, hack, hsilence, hping⟩
  · exact h.stays
  · obtain ⟨h₁, hsize₁⟩ := h.flushQueue (by omega) hqueue
    obtain ⟨h₂, hqueue₂⟩ := h₁.1.flushAck (by omega) hack
    have h₃ : Stays limit s₂ s₃ ∧ s₃.packetQueue.setSize = 0 := by
      rcases hsilence with ⟨-, hdisconnect⟩ | ⟨-, rfl⟩
      · refine h₂.1.disconnect (by omega) (leaves_of_le ?_) hdisconnect
        rw [hqueue₂, hsize₁]
        exact le_trans (by decide) hlimit
      · exact ⟨h₂.1.stays, hqueue₂ ▸ hsize₁⟩
    obtain ⟨h₃, hsize₃⟩ := h₃
    refine h₁.trans (h₂.trans (h₃.trans ?_))
    rw [checkPing] at hping
    split_ifs at hping
    · obtain ⟨body, hbody, hsend⟩ := bind_eq_ok.mp hping
      have hpinged := h₃.1.relabel (t := { s₃ with lastPing := env.pinged })
        ⟨h₃.1.ready.sane, h₃.1.ready.max_lt⟩ rfl rfl rfl
      obtain ⟨body', hbody', hlen⟩ :=
        encode_connectedPing (time { s₃ with lastPing := env.pinged } env)
      obtain rfl := Except.ok.inj (hbody'.symm.trans hbody)
      refine hpinged.trans (hpinged.1.send hsend (leaves_of_le ?_))
      rw [Frame.length_unreliable, hlen, hsize₃]
      exact le_trans (by decide) hlimit
    · exact Except.ok.inj hping ▸ h₃.1.stays

/-- A frame that is handled is answered within the limit. -/
lemma Within.handlePacket (h : s.Within limit) (hlimit : 24 ≤ limit) {f : Frame} {n : ℕ}
    (hpongs : Pongs limit s.packetQueue (n + if asksPong f then 1 else 0))
    (hs : handlePacket env s f = .ok s') : Stays limit s s' ∧ Pongs limit s'.packetQueue n := by
  cases hping : asksPong f with
  | false =>
      rw [hping] at hpongs
      by_cases hdata : f.data = []
      · rw [handlePacket_nil hdata] at hs
        cases hs
      · obtain ⟨_, _, -, -, heq⟩ := handlePacket_of_not_asksPong env s hdata hping
        rw [heq, Except.ok.injEq] at hs
        subst hs
        exact ⟨h.relabel ⟨h.ready.sane, h.ready.max_lt⟩ rfl rfl rfl, hpongs⟩
  | true =>
      rw [hping, if_pos rfl] at hpongs
      obtain ⟨body, hbody, heq⟩ := handlePacket_of_asksPong env s hping
      obtain ⟨q, hq, rfl⟩ := map_eq_ok.mp (heq.symm.trans hs)
      have hlen : (Frame.new .unreliable body).length = 20 := by
        rw [Frame.length_unreliable, hbody]
      have hfirst := hpongs 0 (Nat.succ_pos n)
      have hfits : s.packetQueue.Fits (Frame.new .unreliable body)
          ↔ s.packetQueue.setSize + 20 < s.packetQueue.mtu - 42 := by
        rw [PacketQueue.Fits, hlen]
        exact and_iff_left rfl
      have hleaves : s.packetQueue.Leaves limit (Frame.new .unreliable body) := by
        rw [PacketQueue.Leaves, hlen]
        split_ifs with hfit
        · have hroom := hfits.mp hfit
          omega
        · exact hlimit
      have hqueue := h.queue.addFrame hleaves hq
      refine ⟨⟨⟨⟨h.ready.sane, ?_⟩, hqueue.1, h.sent⟩, rfl, hqueue.2⟩, fun i hi hroom => ?_⟩
      · exact PacketQueue.step_max_lt (.addFrame env.queue _) h.ready.max_lt hq
      · -- a pong that does not fit leaves no room for the ones behind it
        have hnext := hpongs (i + 1) (by omega)
        obtain ⟨-, ⟨hfit, rfl⟩ | ⟨hfit, -, rfl⟩⟩ := PacketQueue.addFrame_eq_ok.mp hq
        · simp only [hlen] at hroom ⊢
          omega
        · rw [hfits] at hfit
          simp only [PacketQueue.allocate] at hroom
          omega

lemma Within.handlePackets (h : s.Within limit) (hlimit : 24 ≤ limit) {l : List Frame}
    (hpongs : Pongs limit s.packetQueue (l.countP asksPong))
    (hs : l.foldlM (Session.handlePacket env) s = .ok s') : Stays limit s s' := by
  induction l generalizing s with
  | nil => exact Except.ok.inj hs ▸ h.stays
  | cons f l ih =>
      obtain ⟨s₁, hf, hl⟩ := foldlM_cons_eq_ok.mp hs
      rw [List.countP_cons] at hpongs
      obtain ⟨hstays, hrest⟩ := h.handlePacket hlimit hpongs hf
      exact hstays.trans (ih hstays.1 hrest hl)

/-- A change of the packet queue alone. -/
lemma Within.withQueue (h : s.Within limit) {q : PacketQueue} (hq : q.Within limit)
    (hmtu : q.mtu = s.packetQueue.mtu) (hready : Ready { s with packetQueue := q }) :
    Stays limit s { s with packetQueue := q } := ⟨⟨hready, hq, h.sent⟩, rfl, hmtu⟩

lemma Within.handleAck (h : s.Within limit) {buff : Bytes} (hs : s.handleAck buff = .ok s') :
    Stays limit s s' := by
  have hready := (passes_handleAck hs).ready h.ready
  rcases unwrapOrReturn_eq_ok hs with rfl | ⟨ack, -, hack⟩
  · exact h.stays
  · simp only [bind_eq_ok, pure_eq_ok, Except.ok.injEq] at hack
    obtain ⟨sequences, -, rfl⟩ := hack
    obtain ⟨hq, hmtu⟩ := List.foldlRecOn sequences PacketQueue.received
      (motive := fun q => q.Within limit ∧ q.mtu = s.packetQueue.mtu) ⟨h.queue, rfl⟩
      fun q hq n _ => ⟨(hq.1.received n).1, (hq.1.received n).2.trans hq.2⟩
    exact h.withQueue hq hmtu hready

lemma Within.handleNack (h : s.Within limit) {buff : Bytes} (hs : s.handleNack env buff = .ok s') :
    Stays limit s s' := by
  have hready := (passes_handleNack hs).ready h.ready
  rcases unwrapOrReturn_eq_ok hs with rfl | ⟨nack, -, hnack⟩
  · exact h.stays
  · simp only [bind_eq_ok, pure_eq_ok, Except.ok.injEq] at hnack
    obtain ⟨sequences, -, q, hresend, rfl⟩ := hnack
    obtain ⟨hq, hmtu⟩ := foldlM_induction
      (P := fun q => q.Within limit ∧ q.mtu = s.packetQueue.mtu)
      (fun t n t' _ ht hstep => ⟨(ht.1.resend hstep).1, (ht.1.resend hstep).2.trans ht.2⟩)
      ⟨h.queue, rfl⟩ hresend
    exact h.withQueue hq hmtu hready

/-- **A datagram** is handled within the limit, if the pings it hands on are answered so. -/
lemma Within.handle (h : s.Within limit) (hlimit : 24 ≤ limit) {msg : UdpPacket}
    (hpongs : s.Modest limit (.handle env msg)) (hs : s.handle env msg = .ok s') :
    Stays limit s s' := by
  by_cases hrouted : Routed msg.bytes
  · rw [handle_of_routed hrouted] at hs
    cases hdecode : FrameSet.decode msg.bytes with
    | error e =>
        rw [handleDatagram, hdecode] at hs
        exact Except.ok.inj hs ▸ h.stays
    | ok frameSet =>
        obtain ⟨ackQueue, l, q, -, hhanded, hq, heq⟩ := h.ready.handleDatagram_eq env hdecode
        obtain ⟨t, hfold, rfl⟩ := map_eq_ok.mp (heq.symm.trans hs)
        have hby : s.handledBy (.handle env msg) = l := by
          rw [handledBy, arrives, if_pos hrouted, hdecode]
          simp only [hhanded]
        rw [Modest, hby] at hpongs
        have hnoted := h.relabel (t := { s with ackQueue := ackQueue })
          ⟨h.ready.sane, h.ready.max_lt⟩ rfl rfl rfl
        have hhandled := hnoted.trans (hnoted.1.handlePackets hlimit hpongs hfold)
        exact hhandled.trans (hhandled.1.relabel ⟨hq, hhandled.1.ready.max_lt⟩ rfl rfl rfl)
  · rcases handle_of_not_routed hrouted hs with hack | hnack | rfl
    · exact h.handleAck hack
    · exact h.handleNack hnack
    · exact h.stays

lemma Within.sendSystemPacket (h : s.Within limit) {P : Type} [Packet P] {packet : P}
    {reliability : Reliability}
    (hframe : s.Modest limit (.sendSystemPacket env P packet reliability))
    (hs : s.sendSystemPacket env packet reliability = .ok s') : Stays limit s s' := by
  simp only [Session.sendSystemPacket, bind_eq_ok] at hs
  obtain ⟨body, hbody, ⟨messageIndex, next⟩, -, ⟨orderIndex, next'⟩, -, hsend⟩ := hs
  have hindexed := h.relabel (t := { s with messageIndex := next, orderIndex := next' })
    ⟨h.ready.sane, h.ready.max_lt⟩ rfl rfl rfl
  exact hindexed.trans (hindexed.1.send hsend ((leaves_congr rfl rfl).mp (hframe body hbody)))

/-- Sets of one frame each are allocated. -/
lemma allocated_within {q : PacketQueue} (hq : q.Within limit) (clock : PacketQueue.Clock)
    {frames : List Frame} (hframes : ∀ f ∈ frames, 4 + f.length ≤ limit) :
    (q.allocated clock frames).Within limit := by
  induction frames generalizing q with
  | nil => exact hq
  | cons f frames ih =>
      obtain ⟨hf, hrest⟩ := List.forall_mem_cons.mp hframes
      exact ih (hq.allocate clock _ (by simpa [PacketQueue.Sized] using hf)) hrest

/-- **A buffer** is sent within the limit, if its frames are. -/
lemma Within.sendTo (h : s.Within limit) {buff : Bytes} (hbuff : s.Modest limit (.sendTo env buff))
    (hs : s.sendTo env buff = .ok s') : Stays limit s s' := by
  have hready := (passes_sendTo hs).ready h.ready
  rw [Modest] at hbuff
  split_ifs at hbuff with hlen
  · obtain ⟨q, hq, rfl⟩ := sendTo_whole hlen hs
    obtain ⟨hqueue, hmtu⟩ := h.queue.addFrame hbuff hq
    exact ⟨⟨hready, hqueue, h.sent⟩, rfl, hmtu⟩
  · simp only [Session.sendTo, bind_eq_ok, u16Sub_eq_ok] at hs
    obtain ⟨_, ⟨-, rfl⟩, _, ⟨-, rfl⟩, hs⟩ := hs
    rw [if_neg (by omega)] at hs
    obtain ⟨-, -, rfl⟩ := sendSplit_eq_ok.mp hs
    exact ⟨⟨hready, allocated_within h.queue env.queue hbuff, h.sent⟩, rfl,
      PacketQueue.allocated_mtu _ _ _⟩

/-- **Step lemma**: a modest call stays within the limit. -/
lemma Within.step (h : s.Within limit) (hlimit : 24 ≤ limit) {op : Op} (hop : s.Modest limit op)
    (hs : s.step op = .ok s') : Stays limit s s' := by
  cases op with
  | update env => exact h.update (by omega) hs
  | forceFlush env => exact (h.flushQueue (by omega) hs).1
  | handle env msg => exact h.handle hlimit hop hs
  | disconnect env => exact (h.disconnect (by omega) hop hs).1
  | sendSystemPacket env P packet reliability => exact h.sendSystemPacket hop hs
  | sendTo env buff => exact h.sendTo hop hs

lemma Stays.cleared (h : Stays limit s s') : Stays limit s { s' with parent := [] } :=
  h.trans (h.1.relabel ⟨h.1.ready.sane, h.1.ready.max_lt⟩ rfl rfl rfl)

lemma Within.turn (h : s.Within limit) (hlimit : 24 ≤ limit) {op : Op} (hop : s.Modest limit op)
    (hs : s.turn op = .ok s') : Stays limit s s' := by
  obtain ⟨t, ht, hs⟩ := bind_eq_ok.mp hs
  exact Except.ok.inj hs ▸ (h.step hlimit hop ht).cleared

/-! ### Sessions that use their own size -/

/-- A frame that is within the limit as a set of its own is so in the set it joins, if the limit is
no less than the room of the open set. -/
lemma leaves_of_own {q : PacketQueue} (hlimit : q.mtu - 39 ≤ limit) {f : Frame}
    (hf : 4 + f.length ≤ limit) : q.Leaves limit f := by
  rw [PacketQueue.Leaves]
  split_ifs with hfits
  · have hroom := hfits.1
    omega
  · exact hf

/-- The frames of a buffer in pieces carry at most 61 bytes less than the mtu. -/
lemma length_of_mem_splitFrames (hmtu : 61 < s.mtu.toNat) {buff : Bytes} {f : Frame}
    (hf : f ∈ s.splitFrames buff) : f.length ≤ s.mtu.toNat - 41 := by
  obtain ⟨i, -, rfl⟩ := List.mem_map.mp hf
  have hpiece : ∀ len n, pieceLength len (s.mtu.toNat - 61) n i ≤ s.mtu.toNat - 61 := by
    intro len n
    rw [pieceLength]
    split_ifs
    · exact (Nat.mod_lt _ (by omega)).le
    · exact le_rfl
  rw [Frame.length_reliableOrdered rfl, if_pos (by rfl)]
  have htake := List.length_take_le (pieceLength (buff.length % 2 ^ 16) (s.mtu.toNat - 61)
    (fragmentCount (buff.length % 2 ^ 16) (s.mtu.toNat - 61)) i)
    (buff.drop (i * (s.mtu.toNat - 61)))
  have hle := hpiece (buff.length % 2 ^ 16)
    (fragmentCount (buff.length % 2 ^ 16) (s.mtu.toNat - 61))
  change 10 + 10 + (List.take _ _).length ≤ _
  omega

/-- **The constants fit together**: for a session that uses its own size, 33 bytes less than its mtu
are a limit that every call keeps to whose system packet does. -/
lemma modest_of_le (hqueue : s.packetQueue.mtu = s.mtu.toNat) (hmtu : 61 < s.mtu.toNat)
    (hlimit : s.mtu.toNat - 33 ≤ limit) {op : Op}
    (hop : ∀ env P [Packet P] (packet : P) reliability,
      op = .sendSystemPacket env P packet reliability →
        ∀ body, encode packet = .ok body → 4 + (Frame.new reliability body).length ≤ limit) :
    s.Modest limit op := by
  have hroom : s.packetQueue.mtu - 39 ≤ limit := by omega
  cases op with
  | update env => trivial
  | forceFlush env => trivial
  | handle env msg =>
      intro i hi hpong
      omega
  | disconnect env =>
      refine leaves_of_own hroom ?_
      rw [Frame.length_reliableOrdered rfl]
      exact le_trans (by decide) (Nat.sub_le_sub_right hmtu 33 |>.trans hlimit)
  | sendSystemPacket env P packet reliability =>
      exact fun body hbody => leaves_of_own hroom (hop env P packet reliability rfl body hbody)
  | sendTo env buff =>
      rw [Modest]
      split_ifs with hlen
      · refine leaves_of_own hroom ?_
        rw [Frame.length_reliableOrdered rfl, if_neg (by exact Bool.false_ne_true)]
        change 4 + (10 + 0 + buff.length) ≤ _
        omega
      · intro f hf
        have hle := length_of_mem_splitFrames hmtu hf
        omega

/-- The session keeps to 33 bytes less than its mtu. -/
structure Slim (s : Session) : Prop where
  within : s.Within (s.mtu.toNat - 33)
  mtu_eq : s.packetQueue.mtu = s.mtu.toNat
  le_mtu : 200 ≤ s.mtu.toNat

lemma slim_new (addr : SocketAddr) {mtu : UInt16} (lastPing lastReceive : Instant)
    (h : 200 ≤ mtu.toNat) : Slim (new addr mtu lastPing lastReceive) :=
  ⟨within_new addr mtu lastPing lastReceive (by simp only [new]; omega), rfl, h⟩

/-- A system packet of the call has at most a hundred bytes. -/
def Short : Op → Prop
  | @Op.sendSystemPacket _ _ _ packet _ => ∀ body, encode packet = .ok body → body.length ≤ 100
  | _ => True

/-- Every call of such a session is modest. -/
lemma Slim.modest (h : s.Slim) {op : Op} (hop : Short op) : s.Modest (s.mtu.toNat - 33) op := by
  have hmtu := h.le_mtu
  refine modest_of_le h.mtu_eq (by omega) le_rfl ?_
  rintro env P _ packet reliability rfl body hbody
  have hlen := hop body hbody
  have hle := Frame.length_new_le reliability body
  omega

lemma Slim.turn (h : s.Slim) {op : Op} (hop : Short op) (hs : s.turn op = .ok s') :
    s'.Slim ∧ s'.mtu = s.mtu := by
  have hmtu := h.le_mtu
  obtain ⟨hwithin, hsame, hqueue⟩ := h.within.turn (by omega) (h.modest hop) hs
  refine ⟨⟨hsame ▸ hwithin, ?_, hsame ▸ hmtu⟩, hsame⟩
  rw [hqueue, hsame]
  exact h.mtu_eq

/-! ### The size of every datagram -/

/-- The calls whose system packet, if they have one, is of a type that the crate sends so: the
packets of the handshake and those of a session itself. -/
inductive Usual : Op → Prop
  | update (env : Env) : Usual (.update env)
  | forceFlush (env : Env) : Usual (.forceFlush env)
  | handle (env : Env) (msg : UdpPacket) : Usual (.handle env msg)
  | disconnect (env : Env) : Usual (.disconnect env)
  | sendTo (env : Env) (buff : Bytes) : Usual (.sendTo env buff)
  | connectionRequest (env : Env) (packet : ConnectionRequest) (reliability : Reliability) :
      Usual (.sendSystemPacket env ConnectionRequest packet reliability)
  | connectionRequestAccepted (env : Env) (packet : ConnectionRequestAccepted)
      (reliability : Reliability) :
      Usual (.sendSystemPacket env ConnectionRequestAccepted packet reliability)
  | newIncomingConnection (env : Env) (packet : NewIncomingConnection)
      (reliability : Reliability) :
      Usual (.sendSystemPacket env NewIncomingConnection packet reliability)
  | connectedPing (env : Env) (packet : ConnectedPing) (reliability : Reliability) :
      Usual (.sendSystemPacket env ConnectedPing packet reliability)
  | connectedPong (env : Env) (packet : ConnectedPong) (reliability : Reliability) :
      Usual (.sendSystemPacket env ConnectedPong packet reliability)
  | disconnected (env : Env) (packet : Disconnected) (reliability : Reliability) :
      Usual (.sendSystemPacket env Disconnected packet reliability)

/-- Such a packet has at most 57 bytes. -/
lemma Usual.length_le {op : Op} (h : Usual op) {P : Type} [Packet P] {packet : P}
    {reliability : Reliability} (hop : op = .sendSystemPacket env P packet reliability)
    {body : Bytes} (hbody : encode packet = .ok body) : body.length ≤ 57 := by
  cases h <;> cases hop
  · exact (length_connectionRequest _ hbody).trans_le (by decide)
  · exact length_accepted _ hbody
  · exact (length_incoming _ hbody).trans (by decide)
  · exact (length_connectedPing _ hbody).trans_le (by decide)
  · exact (length_connectedPong _ hbody).trans_le (by decide)
  · exact (length_disconnected _ hbody).trans_le (by decide)

/-- **Every datagram leaves room for the headers below it.**  With an mtu of at least 128, in every
state of every run whose system packets are those of the crate: `set_size` is right, every set that
`get_packet` returns, then or in the course of a disconnect, encodes to at most 28 bytes less than
the mtu, and no datagram sent was larger. -/
theorem session_datagram_bound (addr : SocketAddr) (mtu : UInt16) (lastPing lastReceive : Instant)
    (hmtu : 128 ≤ mtu.toNat) (ops : List Op) (hops : ∀ op ∈ ops, Usual op) :
    Run.Always step (fun s => s.packetQueue.Fitting (mtu.toNat - 28)
        ∧ (∀ clock q, s.packetQueue.addFrame clock s.closingFrame = .ok q →
          q.Fitting (mtu.toNat - 28))
        ∧ ∀ p ∈ s.udp, p.bytes.length ≤ mtu.toNat - 28)
      (new addr mtu lastPing lastReceive) ops := by
  have hstep : ∀ (s : Session) op s',
      s.Within (mtu.toNat - 28) ∧ s.mtu = mtu ∧ s.packetQueue.mtu = mtu.toNat → Usual op →
        s.step op = .ok s' →
        s'.Within (mtu.toNat - 28) ∧ s'.mtu = mtu ∧ s'.packetQueue.mtu = mtu.toNat := by
    rintro s op s' ⟨hwithin, hsame, hqueue⟩ hop hs
    have hmodest : s.Modest (mtu.toNat - 28) op := by
      refine modest_of_le (by rw [hqueue, hsame]) (by rw [hsame]; omega) (by rw [hsame]; omega) ?_
      intro env P _ packet reliability heq body hbody
      have hlen := hop.length_le heq hbody
      have hle := Frame.length_new_le reliability body
      omega
    obtain ⟨hwithin', hsame', hqueue'⟩ := hwithin.step (by omega) hmodest hs
    exact ⟨hwithin', hsame'.trans hsame, hqueue'.trans hqueue⟩
  have hnew : Within (mtu.toNat - 28) (new addr mtu lastPing lastReceive) :=
    within_new addr mtu lastPing lastReceive (by omega)
  refine (Run.always_of_along hstep ⟨hnew, rfl, rfl⟩ (Run.along_of_forall hops)).mono ?_
  rintro s ⟨hwithin, hsame, hqueue⟩
  refine ⟨hwithin.queue.fitting (by omega), fun clock q hq => ?_, hwithin.sent⟩
  have hlen : s.closingFrame.length = 11 := rfl
  have hleaves : s.packetQueue.Leaves (mtu.toNat - 28) s.closingFrame :=
    leaves_of_own (by omega) (by omega)
  exact (hwithin.queue.addFrame hleaves hq).1.fitting (by omega)

/-- A session with the smallest such mtu sends a buffer in four pieces, and flushes them. -/
theorem session_datagram_bound_pieces :
    Run.Always step (fun s => s.packetQueue.Fitting (UInt16.toNat 128 - 28)
        ∧ (∀ clock q, s.packetQueue.addFrame clock s.closingFrame = .ok q →
          q.Fitting (UInt16.toNat 128 - 28))
        ∧ ∀ p ∈ s.udp, p.bytes.length ≤ UInt16.toNat 128 - 28)
      (new (.v4 ⟨127, 0, 0, 1⟩ 19132) 128 0 0)
      [.sendTo default (List.replicate 250 0), .forceFlush default, .disconnect default] := by
  refine session_datagram_bound _ _ _ _ (by decide) _ fun op hop => ?_
  rw [List.mem_cons, List.mem_cons, List.mem_singleton] at hop
  rcases hop with rfl | rfl | rfl
  · exact .sendTo _ _
  · exact .forceFlush _
  · exact .disconnect _

end Session

end ActixRaknet
