import ActixRaknet.EndToEnd.Delivery
import ActixRaknet.Queue.Keeping
import ActixRaknet.Session.Counters
import ActixRaknet.Session.Listening
import ActixRaknet.Session.Stream
/-!
The books of a session's packet queue, over any call of the session.

* `FrameSet.Sendable`: a set that was encoded as it is, `Sendable.arrives`;
* `ACKQueue.Windowed`: the numbers that have arrived lie below the end of the window;
* `Session.Ledger`: the queue keeps what has not arrived, and every datagram sent is a set that was
  emitted or feedback that the peer may act on;
* `Session.uttered`: the frames of a call's messages, `arrived_uttered`;
* `Ledger.step`: every call keeps the ledger and queues the frames of its messages.
-/

namespace ActixRaknet

open Fallible ReceivedQueue

/-! ### Sets on the wire -/

/-- The set has been encoded, and its frames have no idle fields. -/
structure FrameSet.Sendable (fs : FrameSet) : Prop where
  encodable : fs.Encodable
  header : PacketQueue.IsHeader fs.header
  carried : ∀ f ∈ fs.datas, f.carried = f

namespace FrameSet

variable {fs : FrameSet} (h : fs.Sendable)
include h

lemma Sendable.routed : Session.Routed fs.layout := by
  obtain ⟨split, hsplit⟩ := h.header
  rw [layout, hsplit]
  cases split <;> exact ⟨by decide, by decide, by decide⟩

/-- The set is read back as it is. -/
lemma Sendable.decode : FrameSet.decode fs.layout = .ok fs := by
  rw [decode_layout h.encodable, List.map_congr_left h.carried, List.map_id']

lemma Sendable.arrives : Session.arrives fs.layout = fs.datas := by
  rw [Session.arrives, if_pos h.routed, h.decode]

end FrameSet

/-! ### The window of the arrivals -/

/-- The arrivals lie below the end of the window. -/
structure ACKQueue.Windowed (q : ACKQueue) : Prop where
  le : q.lowest ≤ q.highest
  lt : ∀ n ∈ q.storeSeq, n < q.highest

/-- A number that arrives is noted, unless the window has passed it. -/
lemma ACKQueue.add_eq_ok {q q' : ACKQueue} {n : ℕ} (h : q.Windowed) (hq : q.add n = .ok q') :
    q'.Windowed ∧ q'.lowest = q.lowest ∧ q.storeSeq ⊆ q'.storeSeq
      ∧ (q.lowest ≤ n → n ∈ q'.storeSeq) := by
  rw [add] at hq
  split_ifs at hq with hnew
  · obtain ⟨highest, hraised, hq⟩ := bind_eq_ok.mp hq
    obtain rfl := Except.ok.inj hq
    have hhigh : q.highest ≤ highest ∧ n < highest := by
      rw [raised] at hraised
      split_ifs at hraised with hle
      · obtain ⟨-, rfl⟩ := u32Add_eq_ok.mp hraised
        omega
      · obtain rfl := Except.ok.inj hraised
        omega
    refine ⟨⟨h.le.trans hhigh.1, fun m hm => ?_⟩, rfl, Finset.subset_insert _ _,
      fun _ => Finset.mem_insert_self _ _⟩
    rcases Finset.mem_insert.mp hm with rfl | hm
    · exact hhigh.2
    · exact (h.lt m hm).trans_le hhigh.1
  · obtain rfl := Except.ok.inj hq
    refine ⟨h, rfl, subset_rfl, fun hle => ?_⟩
    by_contra hmem
    exact hnew ⟨hle, hmem⟩

lemma ACKQueue.Windowed.clear {q : ACKQueue} (h : q.Windowed) : q.clear.2.Windowed := by
  rw [ACKQueue.clear_eq]
  exact ⟨le_rfl, fun n hn => h.lt n (Finset.mem_sdiff.mp hn).1⟩

namespace Session

open PacketQueue (Books Owes)

/-- The wire carries the frame as it is. -/
def Wired (f : Frame) : Prop := f.carried = f ∧ f.data.length ≤ 8191

/-- **The ledger of a session**: its queue keeps what has not arrived at the peer, and what it sends
or may send are sets of the queue and feedback on numbers that are settled. -/
structure Ledger (arrived : Frame → Prop) (settled : ℕ → Prop) (bound : ℕ) (s : Session)
    (b : Books) : Prop where
  bears : s.Bears Wired
  owes : s.packetQueue.Owes arrived b
  emitted : ∀ fs ∈ b.emitted, fs.Sendable
  acknowledges : Link.Acknowledges s.ackQueue bound settled
  window : s.ackQueue.Windowed
  sent : ∀ p ∈ s.udp, Link.Traffic b.emitted settled bound p.bytes

variable {arrived arrived' : Frame → Prop} {settled settled' : ℕ → Prop} {bound bound' : ℕ}
  {s s' : Session} {b b' : Books} {env : Env}

lemma ledger_new (arrived : Frame → Prop) (settled : ℕ → Prop) (addr : SocketAddr) (mtu : UInt16)
    (lastPing lastReceive : Instant) :
    Ledger arrived settled 0 (new addr mtu lastPing lastReceive) .blank where
  bears := bears_new _ addr mtu lastPing lastReceive
  owes := PacketQueue.owes_new arrived mtu
  emitted _ hfs := absurd hfs List.not_mem_nil
  acknowledges := ⟨le_rfl, fun _ hn => absurd hn (Finset.notMem_empty _)⟩
  window := ⟨le_rfl, fun _ hn => absurd hn (Finset.notMem_empty _)⟩
  sent _ hp := absurd hp List.not_mem_nil

/-- The peer has got on. -/
lemma Ledger.mono (h : Ledger arrived settled bound s b) (harrived : ∀ f, arrived f → arrived' f)
    (hsettled : ∀ n, settled n → settled' n) (hbound : bound ≤ bound') :
    Ledger arrived' settled' bound' s b where
  bears := h.bears
  owes := h.owes.mono harrived
  emitted := h.emitted
  acknowledges := h.acknowledges.mono hbound hsettled
  window := h.window
  sent p hp := (h.sent p hp).mono (fun _ hfs => hfs) hsettled hbound

/-- The numbers that a flush of the acknowledgements sends fit three bytes. -/
lemma flushAck_lt (hs : s.flushAck = .ok s') :
    (∀ r ∈ s.ackQueue.clear.1.1, r.1 < 2 ^ 24 ∧ r.2 < 2 ^ 24)
      ∧ ∀ n ∈ s.ackQueue.clear.1.2, n < 2 ^ 24 := by
  obtain ⟨s₁, hacks, hnacks⟩ := bind_eq_ok.mp hs
  constructor
  · intro r hr
    obtain ⟨_, _, hstep⟩ := exists_step_of_foldlM hacks hr
    obtain ⟨bytes, hbytes, -⟩ := bind_eq_ok.mp hstep
    exact lt_of_encode_record (p := Ack.new r) rfl hbytes
  · intro n hn
    obtain ⟨_, _, hstep⟩ := exists_step_of_foldlM hnacks hn
    obtain ⟨bytes, hbytes, -⟩ := bind_eq_ok.mp hstep
    exact (lt_of_encode_record (p := Nack.new (n, n)) rfl hbytes).1

/-! ### The parts of a call -/

section Parts

variable (h : Ledger arrived settled bound s b)
include h

/-- Only the packet queue changes, and nothing is emitted. -/
lemma Ledger.withQueue (hbears : s'.Bears Wired) (howes : s'.packetQueue.Owes arrived b')
    (hgrows : b.Grows b') (hemitted : b'.emitted = b.emitted) (hudp : s'.udp = s.udp)
    (hack : s'.ackQueue = s.ackQueue) : Ledger arrived settled bound s' b' where
  bears := hbears
  owes := howes
  emitted := by
    rw [hemitted]
    exact h.emitted
  acknowledges := by
    rw [hack]
    exact h.acknowledges
  window := by
    rw [hack]
    exact h.window
  sent p hp := by
    rw [hudp] at hp
    exact (h.sent p hp).mono (fun _ hfs => hgrows.emitted.subset hfs) (fun _ hn => hn) le_rfl

/-- A frame is queued. -/
lemma Ledger.addFrame (s' : Session) {clock : PacketQueue.Clock} {f : Frame} (hf : Wired f)
    (hq : s.packetQueue.addFrame clock f = .ok s'.packetQueue) (hudp : s'.udp = s.udp)
    (hack : s'.ackQueue = s.ackQueue) :
    ∃ b', Ledger arrived settled bound s' b' ∧ b.Grows b' ∧ f ∈ b'.added := by
  obtain ⟨b', howes, hgrows, hmem, hemitted⟩ := h.owes.addFrame hq
  have hbears : s'.Bears Wired := ⟨h.bears.addFrame hf hq, hudp ▸ h.bears.sent⟩
  exact ⟨b', h.withQueue hbears howes hgrows hemitted hudp hack, hgrows, hmem⟩

/-- A flush of the packet queue: the sets are encoded as they are. -/
lemma Ledger.flushQueue {clock : PacketQueue.Clock} {order : IterOrder ℕ}
    (hs : s.flushQueue clock order = .ok s') :
    ∃ sets q b', s.packetQueue.getPacket clock order = .ok (sets, q)
      ∧ s' = { s with packetQueue := q, udp := s.udp ++ s.packets (sets.map FrameSet.layout) }
      ∧ Ledger arrived settled bound s' b' ∧ b.Grows b' ∧ b'.emitted = b.emitted ++ sets := by
  obtain ⟨⟨sets, q⟩, hget, hsets⟩ := bind_eq_ok.mp hs
  obtain ⟨hret, -⟩ := h.bears.queue.getPacket (fun _ hf => absurd hf List.not_mem_nil) hget
  obtain ⟨b', howes, hgrows, hemitted⟩ := h.owes.getPacket hget
  have hsendable : ∀ fs ∈ sets, fs.Sendable := by
    intro fs hfs
    obtain ⟨t, t', hstep⟩ := exists_step_of_foldlM hsets hfs
    obtain ⟨bytes, hbytes, -⟩ := bind_eq_ok.mp hstep
    exact ⟨FrameSet.encodable_of_encode hbytes (hret fs hfs),
      howes.headers fs (hemitted ▸ List.mem_append_right _ hfs), fun f hf => (hret fs hfs f hf).1⟩
  have hbears := h.bears.flushQueue (fun _ hf => hf) hs
  obtain ⟨sets', q', hget', heq⟩ := flushQueue_eq hs
  obtain ⟨rfl, rfl⟩ := Prod.mk.inj (Except.ok.inj (hget.symm.trans hget'))
  obtain rfl := heq fun fs hfs => (hsendable fs hfs).encodable.frames
  refine ⟨sets, q, b', hget, rfl,
    ⟨hbears.toBears, howes, ?_, h.acknowledges, h.window, fun p hp => ?_⟩, hgrows, hemitted⟩
  · rw [hemitted]
    exact List.forall_mem_append.mpr ⟨h.emitted, hsendable⟩
  · rcases List.mem_append.mp hp with hp | hp
    · exact (h.sent p hp).mono (fun _ hfs => hgrows.emitted.subset hfs) (fun _ hn => hn) le_rfl
    · obtain ⟨bytes, hbytes, rfl⟩ := List.mem_map.mp hp
      obtain ⟨fs, hfs, rfl⟩ := List.mem_map.mp hbytes
      exact .frameSet fs (hemitted ▸ List.mem_append_right _ hfs)

/-- A flush of the acknowledgements: what it sends is settled. -/
lemma Ledger.flushAck (hs : s.flushAck = .ok s') :
    Ledger arrived settled bound s' b
      ∧ s' = { s with
        ackQueue := s.ackQueue.clear.2
        udp := s.udp ++ s.packets (feedback s.ackQueue.clear.1) } := by
  obtain ⟨hacks, hnacks⟩ := flushAck_lt hs
  have hbears := h.bears.flushAck hs
  obtain rfl := flushAck_eq hs hacks hnacks
  refine ⟨⟨hbears.toBears, h.owes, h.emitted, h.acknowledges.clear, h.window.clear, fun p hp => ?_⟩,
    rfl⟩
  rcases List.mem_append.mp hp with hp | hp
  · exact h.sent p hp
  · obtain ⟨bytes, hbytes, rfl⟩ := List.mem_map.mp hp
    rcases List.mem_append.mp hbytes with hbytes | hbytes
    · obtain ⟨r, hr, rfl⟩ := List.mem_map.mp hbytes
      exact .ack r (hacks r hr).1 (hacks r hr).2 (h.acknowledges.acked hr).2
    · obtain ⟨n, hn, rfl⟩ := List.mem_map.mp hbytes
      exact .nack n (hnacks n hn) (h.acknowledges.missing hn)

/-- Pings and pongs are queued. -/
lemma Ledger.queued (hq : Relation.ReflTransGen AddsUnordered s.packetQueue s'.packetQueue)
    (hbears : s'.Bears Wired) (hudp : s'.udp = s.udp) (hack : s'.ackQueue = s.ackQueue) :
    ∃ b', Ledger arrived settled bound s' b' ∧ b.Grows b' := by
  have hqueue : ∃ b', s'.packetQueue.Owes arrived b' ∧ b.Grows b' ∧ b'.emitted = b.emitted := by
    generalize s'.packetQueue = q at hq
    induction hq with
    | refl => exact ⟨b, h.owes, .refl b, rfl⟩
    | tail _ hadds ih =>
        obtain ⟨b₁, howes, hgrows, hemitted⟩ := ih
        obtain ⟨clock, body, -, hadd⟩ := hadds
        obtain ⟨b₂, howes₂, hgrows₂, -, hemitted₂⟩ := howes.addFrame hadd
        exact ⟨b₂, howes₂, hgrows.trans hgrows₂, hemitted₂.trans hemitted⟩
  obtain ⟨b', howes, hgrows, hemitted⟩ := hqueue
  exact ⟨b', h.withQueue hbears howes hgrows hemitted hudp hack, hgrows⟩

end Parts

/-- Pings and pongs are wired. -/
lemma wired_pong {body : Bytes} (h : body.length ≤ 17) : Wired (Frame.new .unreliable body) :=
  ⟨Frame.carried_new .unreliable body (fun _ => rfl) fun _ => rfl, by
    show body.length ≤ 8191
    omega⟩

lemma wired_closingFrame (s : Session) : Wired s.closingFrame :=
  ⟨Frame.carried_new .reliableOrdered _ (fun h => nomatch h) (fun h => nomatch h), by
    show 1 ≤ 8191
    omega⟩

/-! ### The frames of the messages of a call -/

/-- The frames that a call queues for its messages. -/
def uttered (s : Session) : Op → List Frame
  | .update env => if s.Silent env then [s.closingFrame] else []
  | .forceFlush _ => []
  | .handle _ _ => []
  | op => s.consigned op

/-- The frames of a split buffer are ordered. -/
lemma ordered_splitFrames {s : Session} {buff : Bytes} {f : Frame} (hf : f ∈ s.splitFrames buff) :
    f.reliability.sequencedOrOrdered = true := by
  obtain ⟨i, -, rfl⟩ := List.mem_map.mp hf
  rfl

/-- An unsplit message has arrived with a frame under its order index. -/
lemma arrived_unsplit {messages : ℕ → Carrier} {k : ℕ} {body : Bytes}
    (hk : messages k = .unsplit body) {l : List Frame} {f : Frame} (hf : f ∈ l)
    (horder : f.orderIndex = k) : Arrived messages l k := by
  rw [Arrived, hk]
  exact ⟨f, hf, horder⟩

/-- A fragmented one has arrived with the fragments that `send_to` cuts. -/
lemma arrived_splitFrames {messages : ℕ → Carrier} {s : Session} {buff : Bytes} {id : UInt16}
    {hne : (s.splitFrames buff).map Frame.data ≠ []}
    (hk : messages s.orderIndex = .fragments id ((s.splitFrames buff).map Frame.data) hne)
    {l : List Frame} (hl : ∀ f ∈ s.splitFrames buff, f ∈ l) : Arrived messages l s.orderIndex := by
  rw [Arrived, hk]
  intro i hi
  rw [List.length_map] at hi
  have hget := List.getElem_mem hi
  have hindex : ((s.splitFrames buff)[i]).splitIndex.toNat = i := by
    have hmap := List.getElem_of_eq (splitIndex_splitFrames s buff) (i := i) (by simpa using hi)
    simpa only [List.getElem_map, List.getElem_range] using hmap
  exact ⟨_, hl _ hget, (mem_splitFrames hget).2.1, hindex⟩

/-- **The frames of a call make up its messages**, unless a buffer is cut into no pieces. -/
lemma arrived_uttered (s : Session) {op : Op} (hop : Pieced s.mtu op) {said : List Message}
    (hsaid : s.orderIndex = said.length) {l : List Frame} (hl : ∀ f ∈ s.uttered op, f ∈ l) {k : ℕ}
    (hk : said.length ≤ k) (hlt : k < (said ++ s.messages op).length) :
    Arrived (carriers (said ++ s.messages op)) (ordered l) k := by
  have hone : ∀ m, s.messages op = [m] → k = s.orderIndex
      ∧ carriers (said ++ s.messages op) k = m.carrier := by
    intro m hm
    rw [hm, List.length_append, List.length_singleton] at hlt
    obtain rfl : k = said.length := by omega
    exact ⟨hsaid.symm, carriers_eq (by rw [hm, List.getElem?_concat_length])⟩
  have hnone : s.messages op ≠ [] := by
    intro hm
    rw [hm, List.append_nil] at hlt
    omega
  have hin : ∀ f ∈ s.uttered op, f.reliability.sequencedOrOrdered = true → f ∈ ordered l :=
    fun f hf hordered => List.mem_filter.mpr ⟨hl f hf, hordered⟩
  cases op with
  | forceFlush env => exact absurd rfl hnone
  | handle env msg => exact absurd rfl hnone
  | update env =>
      by_cases hsilent : s.Silent env
      · obtain ⟨rfl, hcarrier⟩ := hone .farewell (if_pos hsilent)
        exact arrived_unsplit hcarrier (hin s.closingFrame (by simp [uttered, hsilent]) rfl) rfl
      · exact absurd (if_neg hsilent) hnone
  | disconnect env =>
      obtain ⟨rfl, hcarrier⟩ := hone .farewell rfl
      exact arrived_unsplit hcarrier (hin s.closingFrame (by simp [uttered, consigned]) rfl) rfl
  | sendSystemPacket env P packet reliability =>
      cases hr : reliability.sequencedOrOrdered with
      | false => exact absurd (by simp [messages, hr]) hnone
      | true =>
          cases hbody : encode packet with
          | error e => exact absurd (by simp [messages, hr, hbody]) hnone
          | ok body =>
              obtain ⟨rfl, hcarrier⟩ := hone (.system body) (by simp [messages, hr, hbody])
              refine arrived_unsplit hcarrier (hin (s.systemFrame reliability body) ?_ hr) ?_
              · simp [uttered, consigned, hbody]
              · simp [systemFrame, Frame.new, hr]
  | sendTo env buff =>
      obtain ⟨rfl, hcarrier⟩ := hone ⟨true, buff, s.carrierOf buff⟩ rfl
      rw [show Message.carrier ⟨true, buff, s.carrierOf buff⟩ = s.carrierOf buff from rfl,
        carrierOf] at hcarrier
      by_cases hlen : buff.length < s.mtu.toNat - 46
      · rw [if_pos hlen] at hcarrier
        exact arrived_unsplit hcarrier
          (hin (s.wholeFrame buff) (by simp [uttered, consigned, hlen]) rfl) rfl
      · rw [if_neg hlen] at hcarrier
        have hpos : 0 < (s.splitFrames buff).length := by
          rw [splitFrames_length, fragmentCount_pos_iff]
          exact hop.resolve_left hlen
        have hne : (s.splitFrames buff).map Frame.data ≠ [] := by
          simpa using List.ne_nil_of_length_pos hpos
        rw [dif_neg hne] at hcarrier
        exact arrived_splitFrames hcarrier fun f hf =>
          hin f (by simpa [uttered, consigned, hlen]) (ordered_splitFrames hf)

/-! ### The calls -/

section Calls

variable (h : Ledger arrived settled bound s b)
include h

/-- Frames are queued one by one. -/
lemma Ledger.addFrames (s' : Session) {clock : PacketQueue.Clock} {frames : List Frame}
    (hframes : ∀ f ∈ frames, Wired f)
    (hq : Run.exec PacketQueue.step s.packetQueue (frames.map (.addFrame clock))
      = .ok s'.packetQueue) (hudp : s'.udp = s.udp) (hack : s'.ackQueue = s.ackQueue) :
    ∃ b', Ledger arrived settled bound s' b' ∧ b.Grows b' ∧ ∀ f ∈ frames, f ∈ b'.added := by
  induction frames generalizing s b with
  | nil =>
      have hsame : s.packetQueue = s'.packetQueue := Except.ok.inj hq
      refine ⟨b, h.withQueue ?_ (hsame ▸ h.owes) (.refl b) rfl hudp hack, .refl b, by simp⟩
      exact h.bears.relabel hsame.symm hudp
  | cons f frames ih =>
      obtain ⟨hf, hrest⟩ := List.forall_mem_cons.mp hframes
      obtain ⟨q, hadd, hexec⟩ := Run.exec_cons.mp hq
      obtain ⟨b₁, h₁, hgrows, hmem⟩ := h.addFrame { s with packetQueue := q } hf hadd rfl rfl
      obtain ⟨b₂, h₂, hgrows₂, hall⟩ := ih h₁ hrest hexec hudp hack
      exact ⟨b₂, h₂, hgrows.trans hgrows₂,
        List.forall_mem_cons.mpr ⟨hgrows₂.mem hmem, hall⟩⟩

lemma Ledger.disconnect (hs : s.disconnect env = .ok s') :
    ∃ b', Ledger arrived settled bound s' b' ∧ b.Grows b' ∧ s.closingFrame ∈ b'.added := by
  obtain ⟨-, -, q, hq, t, hflush, rfl⟩ := disconnect_eq_ok.mp hs
  obtain ⟨b₁, h₁, hgrows, hmem⟩ := h.addFrame { s with
    messageIndex := s.messageIndex + 1
    orderIndex := s.orderIndex + 1
    packetQueue := q } (wired_closingFrame s) hq rfl rfl
  obtain ⟨_, _, b₂, -, -, h₂, hgrows₂, -⟩ := h₁.flushQueue hflush
  refine ⟨b₂, ?_, hgrows.trans hgrows₂, hgrows₂.mem hmem⟩
  exact h₂.withQueue (h₂.bears.relabel rfl rfl) h₂.owes (.refl b₂) rfl rfl rfl

lemma Ledger.checkPing (hs : s.checkPing env = .ok s') :
    ∃ b', Ledger arrived settled bound s' b' ∧ b.Grows b' := by
  rcases checkPing_eq hs with rfl | ⟨body, q, hbody, hq, rfl⟩
  · exact ⟨b, h, .refl b⟩
  · obtain ⟨b', h', hgrows, -⟩ := h.addFrame
      { s with lastPing := env.pinged, packetQueue := q } (wired_pong (by omega)) hq rfl rfl
    exact ⟨b', h', hgrows⟩

lemma Ledger.update (hs : s.update env = .ok s') :
    ∃ b', Ledger arrived settled bound s' b' ∧ b.Grows b'
      ∧ ∀ f ∈ s.uttered (.update env), f ∈ b'.added := by
  rw [uttered]
  rcases update_cases hs with
    ⟨hdisconnected, rfl⟩ | ⟨hdisconnected, s₁, s₂, s₃, hqueue, hack, hsilence, hping⟩
  · have hnot : ¬s'.Silent env := fun hsilent => by simp [hsilent.1] at hdisconnected
    exact ⟨b, h, .refl b, by simp [hnot]⟩
  · have hreceive := lastReceive_flushes hqueue hack
    obtain ⟨sets, q, b₁, -, heq, h₁, hgrows, -⟩ := h.flushQueue hqueue
    obtain ⟨h₂, heq₂⟩ := h₁.flushAck hack
    have hclosing : s₂.closingFrame = s.closingFrame := by rw [heq₂, heq]; rfl
    have h₃ : ∃ b', Ledger arrived settled bound s₃ b' ∧ b₁.Grows b'
        ∧ ∀ f ∈ if s.Silent env then [s.closingFrame] else [], f ∈ b'.added := by
      rcases hsilence with ⟨hlong, hdisconnect⟩ | ⟨hshort, rfl⟩
      · obtain ⟨b₂, h₃, hgrows₂, hmem⟩ := h₂.disconnect hdisconnect
        rw [hclosing] at hmem
        rw [hreceive] at hlong
        rw [if_pos ⟨hdisconnected, hlong⟩]
        exact ⟨b₂, h₃, hgrows₂, by simpa using hmem⟩
      · rw [hreceive] at hshort
        rw [if_neg fun hsilent => hshort hsilent.2]
        exact ⟨b₁, h₂, .refl b₁, by simp⟩
    obtain ⟨b₂, h₃, hgrows₂, hmem⟩ := h₃
    obtain ⟨b₃, h₄, hgrows₃⟩ := h₃.checkPing hping
    exact ⟨b₃, h₄, (hgrows.trans hgrows₂).trans hgrows₃, fun f hf => hgrows₃.mem (hmem f hf)⟩

/-- **A datagram of the peer**: a set of its own, an acknowledgement of what has arrived there, or a
resend request. -/
lemma Ledger.handle (hready : s.Ready) {msg : UdpPacket} {emittedPeer : List FrameSet}
    (hpeer : ∀ fs ∈ emittedPeer, fs.Sendable)
    (hmsg : Link.Traffic emittedPeer (b.Confirmed arrived) b.emitted.length msg.bytes)
    (hset : ∀ fs ∈ emittedPeer, msg.bytes = fs.layout →
      fs.sequenceNumber < bound ∧ settled fs.sequenceNumber)
    (hs : s.handle env msg = .ok s') :
    ∃ b', Ledger arrived settled bound s' b' ∧ b.Grows b' := by
  have hbears := (h.bears.handle (fun _ => wired_pong) hready hs).toBears
  generalize hbytes : msg.bytes = bytes at hmsg
  cases hmsg with
  | frameSet fs hfs =>
      rw [handle_of_routed (hbytes ▸ (hpeer fs hfs).routed)] at hs
      obtain ⟨ackQueue, l, q, hadd, hhanded, -, heq⟩ :=
        hready.handleDatagram_eq env (hbytes ▸ (hpeer fs hfs).decode)
      obtain ⟨t, ht, rfl⟩ := map_eq_ok.mp (heq.symm.trans hs)
      obtain ⟨hlt, hsettled⟩ := hset fs hfs hbytes
      have hnoted : Ledger arrived settled bound { s with ackQueue := ackQueue } b :=
        ⟨h.bears.relabel rfl rfl, h.owes, h.emitted, h.acknowledges.add hlt hsettled hadd,
          (ACKQueue.add_eq_ok h.window hadd).1, h.sent⟩
      have hanswers : Answers { s with ackQueue := ackQueue } t := foldlM_induction
        (P := Answers { s with ackQueue := ackQueue })
        (fun u f u' _ hu hstep => hu.trans (handlePacket_answers hstep)) (.refl _) ht
      exact hnoted.queued hanswers.queued hbears hanswers.udp hanswers.ackQueue
  | ack r h₁ h₂ hr =>
      have heq : s.handle env msg = .ok _ := handle_ack hbytes h₁ h₂
      obtain rfl := Except.ok.inj (heq.symm.trans hs)
      obtain ⟨b', howes, hgrows, hemitted⟩ := h.owes.receivedAll hr
      exact ⟨b', h.withQueue hbears howes hgrows hemitted rfl rfl, hgrows⟩
  | nack n hn hb =>
      obtain ⟨q, hq, rfl⟩ := handle_nack hbytes hn hs
      rw [h.owes.length_emitted] at hb
      obtain ⟨b', howes, hgrows, hemitted⟩ := h.owes.resend hb hq
      exact ⟨b', h.withQueue hbears howes hgrows hemitted rfl rfl, hgrows⟩

lemma Ledger.sendSystemPacket {P : Type} [Packet P] {packet : P} {reliability : Reliability}
    (hshort : Short (.sendSystemPacket env P packet reliability))
    (hs : s.sendSystemPacket env packet reliability = .ok s') :
    ∃ b', Ledger arrived settled bound s' b' ∧ b.Grows b'
      ∧ ∀ f ∈ s.uttered (.sendSystemPacket env P packet reliability), f ∈ b'.added := by
  obtain ⟨body, hbody, -, -, q, hq, rfl⟩ := sendSystemPacket_eq_ok.mp hs
  have hwired : Wired (s.systemFrame reliability body) := by
    refine ⟨carried_systemFrame s reliability body, ?_⟩
    have hlen := hshort body hbody
    show body.length ≤ 8191
    omega
  obtain ⟨b', h', hgrows, hmem⟩ := h.addFrame { s with
    messageIndex := if reliability.isReliable then s.messageIndex + 1 else s.messageIndex
    orderIndex := if reliability.sequencedOrOrdered then s.orderIndex + 1 else s.orderIndex
    packetQueue := q } hwired hq rfl rfl
  exact ⟨b', h', hgrows, by simpa [uttered, consigned, hbody] using hmem⟩

lemma Ledger.sendTo {mtu : UInt16} {said : List Message} (hspeaks : s.Speaks mtu said)
    {buff : Bytes} (hs : s.sendTo env buff = .ok s') :
    ∃ b', Ledger arrived settled bound s' b' ∧ b.Grows b'
      ∧ ∀ f ∈ s.uttered (.sendTo env buff), f ∈ b'.added := by
  by_cases hlen : buff.length < s.mtu.toNat - 46
  · obtain ⟨q, hq, rfl⟩ := sendTo_whole hlen hs
    have hmtu := hspeaks.mtu_eq ▸ hspeaks.mtu_le
    have hwired : Wired (s.wholeFrame buff) :=
      Tells.wire (hspeaks.tells_frame true (show buff.length ≤ 8191 by omega))
    obtain ⟨b', h', hgrows, hmem⟩ := h.addFrame { s with
      messageIndex := s.messageIndex + 1
      orderIndex := s.orderIndex + 1
      packetQueue := q } hwired hq rfl rfl
    exact ⟨b', h', hgrows, by simpa [uttered, consigned, hlen] using hmem⟩
  · have hsplit := (sendTo_eq_ok.mp hs).2
    rw [if_neg hlen] at hsplit
    obtain ⟨hmtu, hroom, rfl⟩ := sendSplit_eq_ok.mp hsplit
    have hpos : s.splitFrames buff ≠ [] → 0 < (s.splitFrames buff).length :=
      List.length_pos_of_ne_nil
    have hexec : Run.exec PacketQueue.step s.packetQueue
        ((s.splitFrames buff).map (.addFrame env.queue))
        = .ok (s.packetQueue.allocated env.queue (s.splitFrames buff)) :=
      PacketQueue.exec_allocated (fun f hf => (mem_splitFrames hf).1)
        (fun hne => hroom.mtu (hpos hne)) fun hne => hroom.max_lt (hpos hne)
    obtain ⟨b', h', hgrows, hall⟩ := h.addFrames { s.withFragments env.queue
        (s.splitFrames buff) with
      splitId := s.splitId + 1
      orderIndex := s.orderIndex + 1 }
      (fun f hf => Tells.wire (hspeaks.tells_fragment hmtu hf hlen)) hexec rfl rfl
    exact ⟨b', h', hgrows, by simpa [uttered, consigned, hlen] using hall⟩

/-- **Step lemma**: every call keeps the ledger and queues the frames of its messages, as long as
the datagrams handled are what the peer may send. -/
lemma Ledger.step {mtu : UInt16} {said : List Message} (hspeaks : s.Speaks mtu said)
    (hready : s.Ready) {op : Op} (hshort : Short op) {emittedPeer : List FrameSet}
    (hpeer : ∀ fs ∈ emittedPeer, fs.Sendable)
    (hmsg : ∀ env msg, op = .handle env msg →
      Link.Traffic emittedPeer (b.Confirmed arrived) b.emitted.length msg.bytes
        ∧ ∀ fs ∈ emittedPeer, msg.bytes = fs.layout →
          fs.sequenceNumber < bound ∧ settled fs.sequenceNumber)
    (hs : s.step op = .ok s') :
    ∃ b', Ledger arrived settled bound s' b' ∧ b.Grows b' ∧ ∀ f ∈ s.uttered op, f ∈ b'.added := by
  cases op with
  | update env => exact h.update hs
  | forceFlush env =>
      obtain ⟨_, _, b', -, -, h', hgrows, -⟩ := h.flushQueue hs
      exact ⟨b', h', hgrows, by simp [uttered]⟩
  | handle env msg =>
      obtain ⟨htraffic, hset⟩ := hmsg env msg rfl
      obtain ⟨b', h', hgrows⟩ := h.handle hready hpeer htraffic hset hs
      exact ⟨b', h', hgrows, by simp [uttered]⟩
  | disconnect env =>
      obtain ⟨b', h', hgrows, hmem⟩ := h.disconnect hs
      exact ⟨b', h', hgrows, by simpa [uttered, consigned] using hmem⟩
  | sendSystemPacket env P packet reliability => exact h.sendSystemPacket hshort hs
  | sendTo env buff => exact h.sendTo hspeaks hs

end Calls

end Session

end ActixRaknet
