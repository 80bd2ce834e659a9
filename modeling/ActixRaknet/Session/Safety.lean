import ActixRaknet.Queue.Release
import ActixRaknet.Session.Send

/-!
Panic freedom of the receiving path.

* `ReceivedQueue.Sane.handed`: the receive queue takes in any frames off the wire;
* `Session.Passes`: what a call passes to the parent; apart from a datagram's frames, which go
  through the receive queue, a call leaves that queue alone and makes a run of the packet queue;
* `Session.Ready`: the invariant of every reachable session;
* `handle_datagram_iff`: a datagram is handled without a panic exactly when no frame that it hands
  on is empty and the pongs it asks for can be queued.
-/

namespace ActixRaknet

open Fallible

/-! ### The receive queue -/

namespace ReceivedQueue

lemma Sane.hand {q : ReceivedQueue} (h : q.Sane) {f : Frame} (hf : f.orderIndex < 2 ^ 24) :
    ∃ l q', q.hand f = .ok (l, q') ∧ q'.Sane := by
  rw [ReceivedQueue.hand]
  split_ifs
  · obtain ⟨q', hadd, hq'⟩ := h.add hf
    exact ⟨_, _, by rw [hadd]; rfl, hq'.getAll⟩
  · exact ⟨_, _, rfl, h⟩

/-- The receive queue takes in any frames off the wire without a panic. -/
lemma Sane.handed {q : ReceivedQueue} (h : q.Sane) {fs : List Frame}
    (hfs : ∀ f ∈ fs, f.orderIndex < 2 ^ 24) : ∃ l q', q.handed fs = .ok (l, q') ∧ q'.Sane := by
  induction fs generalizing q with
  | nil => exact ⟨[], q, rfl, h⟩
  | cons f fs ih =>
      obtain ⟨ret, q₁, hhand, h₁⟩ := h.hand (hfs f List.mem_cons_self)
      obtain ⟨rest, q', hrest, hq'⟩ := ih h₁ fun g hg => hfs g (List.mem_cons_of_mem _ hg)
      exact ⟨ret ++ rest, q', handed_cons_eq_ok.mpr ⟨ret, q₁, rest, hhand, hrest, rfl⟩, hq'⟩

end ReceivedQueue

namespace Session

/-! ### What a call passes on -/

/-- The receive queue is as before, the packet queue has made a run of its own, and `frames` have
gone to the parent. -/
structure Passes (s s' : Session) (frames : List Frame) : Prop where
  received : s'.received = s.received
  queue : ∃ ops, Run.exec PacketQueue.step s.packetQueue ops = .ok s'.packetQueue
  posted : s'.posted = s.posted ++ frames

lemma Passes.refl (s : Session) : Passes s s [] := ⟨rfl, ⟨[], rfl⟩, (List.append_nil _).symm⟩

lemma Passes.trans {s s' s'' : Session} {l l' : List Frame} (h : Passes s s' l)
    (h' : Passes s' s'' l') : Passes s s'' (l ++ l') := by
  obtain ⟨ops, hops⟩ := h.queue
  obtain ⟨ops', hops'⟩ := h'.queue
  refine ⟨h'.received.trans h.received, ⟨ops ++ ops', Run.exec_append.mpr ⟨_, hops, hops'⟩⟩, ?_⟩
  rw [h'.posted, h.posted, List.append_assoc]

/-- A session that differs in neither queue and has passed nothing on. -/
lemma Passes.of_eq {s s' : Session} (hr : s'.received = s.received)
    (hq : s'.packetQueue = s.packetQueue) (hp : s'.posted = s.posted) : Passes s s' [] :=
  ⟨hr, ⟨[], by rw [hq]; rfl⟩, by rw [hp, List.append_nil]⟩

/-- Such a session may stand in for the first. -/
lemma Passes.relabel {s t s' : Session} {l : List Frame} (h : Passes t s' l)
    (hr : t.received = s.received) (hq : t.packetQueue = s.packetQueue)
    (hp : t.posted = s.posted) : Passes s s' l := (Passes.of_eq hr hq hp).trans h

/-- One call of the packet queue. -/
lemma Passes.of_step {s s' : Session} (op : PacketQueue.Op) (hr : s'.received = s.received)
    (hq : PacketQueue.step s.packetQueue op = .ok s'.packetQueue) (hp : s'.posted = s.posted) :
    Passes s s' [] :=
  ⟨hr, ⟨[op], Run.exec_singleton.mpr hq⟩, by rw [hp, List.append_nil]⟩

lemma Passes.foldlM {α : Type} {f : Session → α → Except Panic Session}
    (h : ∀ s a s', f s a = .ok s' → Passes s s' []) {s s' : Session} {as : List α}
    (hs : as.foldlM f s = .ok s') : Passes s s' [] :=
  foldlM_induction (P := (Passes s · [])) (fun t a t' _ ht hstep => ht.trans (h t a t' hstep))
    (Passes.refl s) hs

section Sending

variable {s s' : Session} {env : Env}

lemma passes_send {clock : PacketQueue.Clock} {f : Frame} (h : s.send clock f = .ok s') :
    Passes s s' [] := by
  simp only [send, bind_eq_ok, pure_eq_ok, Except.ok.injEq] at h
  obtain ⟨q, hq, rfl⟩ := h
  exact .of_step (.addFrame clock f) rfl hq rfl

lemma passes_flushQueue {clock : PacketQueue.Clock} {order : IterOrder ℕ}
    (h : s.flushQueue clock order = .ok s') : Passes s s' [] := by
  obtain ⟨⟨sets, q⟩, hq, hsets⟩ := bind_eq_ok.mp h
  have hget : Passes s { s with packetQueue := q } [] :=
    .of_step (.getPacket clock order) rfl (map_eq_ok.mpr ⟨_, hq, rfl⟩) rfl
  refine hget.trans (Passes.foldlM (fun t fs t' ht => ?_) hsets)
  simp only [sendSet, bind_eq_ok, pure_eq_ok, Except.ok.injEq] at ht
  obtain ⟨bytes, -, rfl⟩ := ht
  exact .of_eq rfl rfl rfl

lemma passes_flushAck (h : s.flushAck = .ok s') : Passes s s' [] := by
  obtain ⟨s₁, hacks, hnacks⟩ := bind_eq_ok.mp h
  have hack : ∀ t a t', sendAck t a = .ok t' → Passes t t' [] := by
    intro t a t' ht
    simp only [sendAck, bind_eq_ok, pure_eq_ok, Except.ok.injEq] at ht
    obtain ⟨bytes, -, rfl⟩ := ht
    exact .of_eq rfl rfl rfl
  have hnack : ∀ t n t', sendNack t n = .ok t' → Passes t t' [] := by
    intro t n t' ht
    simp only [sendNack, bind_eq_ok, pure_eq_ok, Except.ok.injEq] at ht
    obtain ⟨bytes, -, rfl⟩ := ht
    exact .of_eq rfl rfl rfl
  have h₁ : Passes s s₁ [] := (Passes.foldlM hack hacks).relabel rfl rfl rfl
  exact h₁.trans (Passes.foldlM hnack hnacks)

lemma passes_sendPing (h : s.sendPing env = .ok s') : Passes s s' [] := by
  obtain ⟨bytes, -, hsend⟩ := bind_eq_ok.mp h
  exact passes_send hsend

lemma passes_disconnect (h : s.disconnect env = .ok s') : Passes s s' [] := by
  obtain ⟨-, -, q, hq, t, hflush, rfl⟩ := disconnect_eq_ok.mp h
  have h₁ : Passes s { s with
      messageIndex := s.messageIndex + 1
      orderIndex := s.orderIndex + 1
      packetQueue := q } [] := .of_step (.addFrame env.closing s.closingFrame) rfl hq rfl
  have h₂ : Passes t t.end [] := .of_eq rfl rfl (posted_end t)
  exact h₁.trans ((passes_flushQueue hflush).trans h₂)

lemma passes_update (h : s.update env = .ok s') : Passes s s' [] := by
  rcases update_cases h with ⟨-, rfl⟩ | ⟨-, s₁, s₂, s₃, hqueue, hack, hsilence, hping⟩
  · exact .refl s'
  · have h₁ := (passes_flushQueue hqueue).trans (passes_flushAck hack)
    have h₂ : Passes s₂ s₃ [] := by
      rcases hsilence with ⟨-, hdisconnect⟩ | ⟨-, rfl⟩
      · exact passes_disconnect hdisconnect
      · exact .refl s₃
    have h₃ : Passes s₃ s' [] := by
      rw [checkPing] at hping
      split_ifs at hping
      · exact (passes_sendPing hping).relabel rfl rfl rfl
      · exact Except.ok.inj hping ▸ .refl s₃
    exact h₁.trans (h₂.trans h₃)

lemma passes_sendSystemPacket {P : Type} [Packet P] {packet : P} {reliability : Reliability}
    (h : s.sendSystemPacket env packet reliability = .ok s') : Passes s s' [] := by
  obtain ⟨body, -, -, -, q, hq, rfl⟩ := sendSystemPacket_eq_ok.mp h
  exact .of_step (.addFrame env.queue (s.systemFrame reliability body)) rfl hq rfl

lemma passes_sendTo {buff : Bytes} (h : s.sendTo env buff = .ok s') : Passes s s' [] := by
  have h := (sendTo_eq_ok.mp h).2
  split_ifs at h
  · obtain ⟨-, -, q, hq, rfl⟩ := sendWhole_eq_ok.mp h
    exact .of_step (.addFrame env.queue (s.wholeFrame buff)) rfl hq rfl
  · simp only [sendSplit, bind_eq_ok, pure_eq_ok, Except.ok.injEq] at h
    obtain ⟨_, -, _, -, _, -, _, -, ⟨s₁, _⟩, hloop, _, -, _, -, rfl⟩ := h
    have hfragments : Passes s s₁ [] := by
      refine foldlM_induction (P := fun acc => Passes s acc.1 [])
        (fun acc i acc' _ hacc hstep => ?_)
        (Passes.refl s) hloop
      simp only [sendFragment, bind_eq_ok, pure_eq_ok, Except.ok.injEq] at hstep
      obtain ⟨_, -, _, -, s₂, hsend, _, -, rfl⟩ := hstep
      exact .trans hacc (.trans (passes_send hsend) (.of_eq rfl rfl rfl))
    exact hfragments.trans (.of_eq rfl rfl rfl)

lemma exec_received (l : List ℕ) (q : PacketQueue) :
    Run.exec PacketQueue.step q (l.map .received) = .ok (l.foldl PacketQueue.received q) := by
  induction l generalizing q with
  | nil => rfl
  | cons k l ih => exact ih (q.received k)

lemma exec_resend (clock : PacketQueue.Clock) (l : List ℕ) (q : PacketQueue) :
    Run.exec PacketQueue.step q (l.map (.resend clock))
      = l.foldlM (fun q k => q.resend clock k) q := by
  rw [Run.exec, List.foldlM_map]
  rfl

lemma passes_handleAck {buff : Bytes} (h : s.handleAck buff = .ok s') : Passes s s' [] := by
  rcases unwrapOrReturn_eq_ok h with rfl | ⟨ack, -, hack⟩
  · exact .refl s'
  · simp only [bind_eq_ok, pure_eq_ok, Except.ok.injEq] at hack
    obtain ⟨sequences, -, rfl⟩ := hack
    exact ⟨rfl, ⟨_, exec_received sequences s.packetQueue⟩, (List.append_nil _).symm⟩

lemma passes_handleNack {buff : Bytes} (h : s.handleNack env buff = .ok s') : Passes s s' [] := by
  rcases unwrapOrReturn_eq_ok h with rfl | ⟨nack, -, hnack⟩
  · exact .refl s'
  · simp only [bind_eq_ok, pure_eq_ok, Except.ok.injEq] at hnack
    obtain ⟨sequences, -, q, hresend, rfl⟩ := hnack
    exact ⟨rfl, ⟨_, (exec_resend env.queue sequences s.packetQueue).trans hresend⟩,
      (List.append_nil _).symm⟩

/-- A frame is passed on at most once. -/
lemma passes_handlePacket {f : Frame} (h : handlePacket env s f = .ok s') :
    ∃ frames, frames.Sublist [f] ∧ Passes s s' frames := by
  cases hping : asksPong f with
  | true =>
      obtain ⟨body, -, heq⟩ := handlePacket_of_asksPong env s hping
      obtain ⟨q, hq, rfl⟩ := map_eq_ok.mp (heq.symm.trans h)
      exact ⟨[], List.nil_sublist _, .of_step (.addFrame env.queue _) rfl hq rfl⟩
  | false =>
      by_cases hdata : f.data = []
      · rw [handlePacket_nil hdata] at h
        cases h
      · obtain ⟨_, _, -, ⟨frames, hsub, hposted⟩, heq⟩ :=
          handlePacket_of_not_asksPong env s hdata hping
        rw [heq, Except.ok.injEq] at h
        exact ⟨frames, hsub, h ▸ ⟨rfl, ⟨[], rfl⟩, hposted⟩⟩

lemma passes_handlePackets {l : List Frame} (h : l.foldlM (handlePacket env) s = .ok s') :
    ∃ frames, frames.Sublist l ∧ Passes s s' frames := by
  induction l generalizing s with
  | nil => exact ⟨[], List.nil_sublist _, Except.ok.inj h ▸ .refl s⟩
  | cons f l ih =>
      obtain ⟨s₁, hf, hl⟩ := foldlM_cons_eq_ok.mp h
      obtain ⟨frames, hsub, hpasses⟩ := passes_handlePacket hf
      obtain ⟨rest, hrest, hpasses'⟩ := ih hl
      exact ⟨frames ++ rest, hsub.append hrest, hpasses.trans hpasses'⟩

end Sending

/-! ### Reachable sessions -/

/-- The invariant of every reachable session. -/
structure Ready (s : Session) : Prop where
  sane : s.received.Sane
  max_lt : s.packetQueue.max < 2 ^ 32

lemma ready_new (addr : SocketAddr) (mtu : UInt16) (lastPing lastReceive : Instant) :
    Ready (new addr mtu lastPing lastReceive) := ⟨ReceivedQueue.sane_new, Nat.two_pow_pos 32⟩

lemma Passes.max_lt {s s' : Session} {l : List Frame} (h : Passes s s' l)
    (hs : s.packetQueue.max < 2 ^ 32) :
    s'.packetQueue.max < 2 ^ 32 := by
  obtain ⟨ops, hops⟩ := h.queue
  exact Run.invariant (P := fun q => q.max < 2 ^ 32)
    (fun _ op _ => PacketQueue.step_max_lt op) hs hops

lemma Passes.ready {s s' : Session} {l : List Frame} (h : Passes s s' l) (hs : s.Ready) :
    s'.Ready :=
  ⟨h.received ▸ hs.sane, h.max_lt hs.max_lt⟩

/-- The datagram is taken apart: the ACK queue notes the number, the receive queue hands on its
frames, and these are handled. -/
lemma Ready.handleDatagram_eq {s : Session} (hs : s.Ready) (env : Env) {buff : Bytes}
    {frameSet : FrameSet} (hdecode : FrameSet.decode buff = .ok frameSet) :
    ∃ ackQueue l q, s.ackQueue.add frameSet.sequenceNumber = .ok ackQueue
      ∧ s.received.handed frameSet.datas = .ok (l, q) ∧ q.Sane
      ∧ s.handleDatagram env buff
        = withReceived q <$> l.foldlM (handlePacket env) { s with ackQueue := ackQueue } := by
  obtain ⟨hseq, horder⟩ := FrameSet.lt_of_decode hdecode
  obtain ⟨ackQueue, hack⟩ : ∃ a, s.ackQueue.add frameSet.sequenceNumber = .ok a := by
    rw [ACKQueue.add]
    split_ifs
    · exact ⟨_, by rw [ACKQueue.raised_of_lt (by omega)]; rfl⟩
    · exact ⟨_, rfl⟩
  obtain ⟨l, q, hhanded, hq⟩ := hs.sane.handed horder
  refine ⟨ackQueue, l, q, hack, hhanded, hq, ?_⟩
  rw [handleDatagram, hdecode]
  simp only [hack, ok_bind]
  exact foldlM_receivePacket (s := { s with ackQueue := ackQueue }) hhanded

/-- **Step lemma**: every call that completes keeps the invariant. -/
lemma Ready.step {s s' : Session} {op : Op} (h : s.Ready) (hstep : s.step op = .ok s') :
    s'.Ready := by
  cases op with
  | update env => exact (passes_update hstep).ready h
  | forceFlush env => exact (passes_flushQueue hstep).ready h
  | disconnect env => exact (passes_disconnect hstep).ready h
  | sendSystemPacket env P packet reliability => exact (passes_sendSystemPacket hstep).ready h
  | sendTo env buff => exact (passes_sendTo hstep).ready h
  | handle env msg =>
      obtain ⟨header, -, hstep⟩ := bind_eq_ok.mp hstep
      split_ifs at hstep
      · exact (passes_handleAck hstep).ready h
      · exact (passes_handleNack hstep).ready h
      · cases hdecode : FrameSet.decode msg.bytes with
        | error e =>
            rw [handleDatagram, hdecode] at hstep
            exact Except.ok.inj hstep ▸ h
        | ok frameSet =>
            obtain ⟨ackQueue, l, q, -, -, hq, heq⟩ := h.handleDatagram_eq env hdecode
            obtain ⟨t, hfold, rfl⟩ := map_eq_ok.mp (heq.symm.trans hstep)
            obtain ⟨frames, -, hpasses⟩ := passes_handlePackets hfold
            exact ⟨hq, hpasses.max_lt h.max_lt⟩
      · exact Except.ok.inj hstep ▸ h

/-! ### Pongs -/

/-- How many of the next `n` pongs, of twenty bytes each, do not fit the open set any more and take
a number of their own. -/
def pongSets (q : PacketQueue) (n : ℕ) : ℕ :=
  (List.range n).countP fun i => q.mtu - 42 ≤ q.setSize + 20 * (i + 1)

/-- The packet queue has room for `n` pongs: the room of a datagram does not underflow, and the
numbers do not run out. -/
def CanAnswer (q : PacketQueue) (n : ℕ) : Prop :=
  n = 0 ∨ 42 ≤ q.mtu ∧ q.max + pongSets q n < 2 ^ 32

lemma pongSets_succ (q : PacketQueue) (n : ℕ) :
    pongSets q (n + 1) = (if q.mtu - 42 ≤ q.setSize + 20 then 1 else 0)
      + (List.range n).countP fun i => q.mtu - 42 ≤ q.setSize + 20 + 20 * (i + 1) := by
  rw [pongSets, List.range_succ_eq_map, List.countP_cons, List.countP_map, Nat.add_comm]
  simp only [Function.comp_def, Nat.mul_add, Nat.mul_one, Nat.zero_add, decide_eq_true_eq,
    Nat.succ_eq_add_one, Nat.add_assoc, Nat.add_comm, Nat.add_left_comm]

/-- Once a pong does not fit, none does. -/
lemma pongSets_eq {q : PacketQueue} (h : q.mtu - 42 ≤ q.setSize + 20) (n : ℕ) :
    pongSets q n = n := by
  rw [pongSets, List.countP_eq_length.mpr, List.length_range]
  intro i _
  rw [decide_eq_true_eq]
  omega

lemma length_pong {body : Bytes} (h : body.length = 17) :
    (Frame.new .unreliable body).length = 20 := by
  simp [Frame.length, Frame.new, Reliability.isReliable, Reliability.sequenced,
    Reliability.sequencedOrOrdered, h]

/-- A pong is queued, and there is room for the others behind it. -/
lemma canAnswer_succ {q : PacketQueue} (hmax : q.max < 2 ^ 32) {n : ℕ} {body : Bytes}
    (hbody : body.length = 17) (clock : PacketQueue.Clock) :
    CanAnswer q (n + 1)
      ↔ ∃ q', q.addFrame clock (Frame.new .unreliable body) = .ok q' ∧ CanAnswer q' n := by
  have hlen := length_pong hbody
  have hfits : q.Fits (Frame.new .unreliable body) ↔ ¬ q.mtu - 42 ≤ q.setSize + 20 := by
    rw [PacketQueue.Fits, hlen, not_le]
    exact and_iff_left rfl
  simp only [PacketQueue.addFrame_eq_ok, hfits, hlen, CanAnswer, Nat.add_one_ne_zero, false_or]
  by_cases hfit : q.mtu - 42 ≤ q.setSize + 20
  · -- this pong and all behind it take numbers of their own
    have hrest : ∀ header frames, pongSets (q.allocate clock header frames) n = n := fun _ _ =>
      pongSets_eq (q := q.allocate clock _ _) hfit n
    rw [pongSets_eq hfit]
    constructor
    · rintro ⟨hmtu, hlt⟩
      refine ⟨_, ⟨hmtu, Or.inr ⟨not_not.mpr hfit, by omega, rfl⟩⟩, Or.inr ⟨hmtu, ?_⟩⟩
      rw [hrest]
      show q.max + 1 + n < _
      omega
    · rintro ⟨q', ⟨hmtu, ⟨hno, -⟩ | ⟨-, hlt, rfl⟩⟩, h⟩
      · exact absurd hfit hno
      · refine ⟨hmtu, ?_⟩
        rw [hrest] at h
        rcases h with rfl | ⟨-, h⟩
        · exact hlt
        · have h : q.max + 1 + n < 2 ^ 32 := h
          omega
  · rw [pongSets_succ, if_neg hfit, Nat.zero_add]
    constructor
    · rintro ⟨hmtu, hlt⟩
      exact ⟨_, ⟨hmtu, Or.inl ⟨hfit, rfl⟩⟩, Or.inr ⟨hmtu, hlt⟩⟩
    · rintro ⟨q', ⟨hmtu, ⟨-, rfl⟩ | ⟨hno, -⟩⟩, h⟩
      · refine ⟨hmtu, ?_⟩
        rcases h with rfl | ⟨-, h⟩
        · exact hmax
        · exact h
      · exact absurd hno (not_not.mpr hfit)

/-- **When the frames handed on are handled without a panic**: none is empty, and there is room for
the pongs they ask for. -/
lemma foldlM_handlePacket_iff (env : Env) {s : Session} (hmax : s.packetQueue.max < 2 ^ 32)
    (l : List Frame) : (∃ s', l.foldlM (handlePacket env) s = .ok s')
      ↔ (∀ f ∈ l, f.data ≠ []) ∧ CanAnswer s.packetQueue (l.countP asksPong) := by
  induction l generalizing s with
  | nil => simp [CanAnswer]
  | cons f l ih =>
      simp only [foldlM_cons_eq_ok, List.forall_mem_cons, List.countP_cons]
      cases hping : asksPong f with
      | true =>
          have hdata : f.data ≠ [] := fun h => by simp [asksPong, h] at hping
          obtain ⟨body, hbody, heq⟩ := handlePacket_of_asksPong env s hping
          simp only [heq, map_eq_ok, if_true, canAnswer_succ hmax hbody env.queue]
          constructor
          · rintro ⟨s', _, ⟨q, hq, rfl⟩, hfold⟩
            have hq' := PacketQueue.step_max_lt (.addFrame env.queue _) hmax hq
            obtain ⟨hl, hcan⟩ := (ih hq').mp ⟨s', hfold⟩
            exact ⟨⟨hdata, hl⟩, q, hq, hcan⟩
          · rintro ⟨⟨-, hl⟩, q, hq, hcan⟩
            have hq' := PacketQueue.step_max_lt (.addFrame env.queue _) hmax hq
            obtain ⟨s', hfold⟩ := (ih (s := { s with lastReceive := env.receive, packetQueue := q })
              hq').mpr ⟨hl, hcan⟩
            exact ⟨s', _, ⟨q, hq, rfl⟩, hfold⟩
      | false =>
          by_cases hdata : f.data = []
          · simp [handlePacket_nil hdata, hdata]
          · obtain ⟨parent, disconnected, -, -, heq⟩ :=
              handlePacket_of_not_asksPong env s hdata hping
            simp only [heq, Except.ok.injEq, exists_eq_left', Bool.false_eq_true, if_false,
              Nat.add_zero, ne_eq, hdata, not_false_eq_true, true_and]
            exact ih hmax

/-! ### Datagrams -/

/-- What a datagram must not do: hand an empty frame to `handle_packet`, or ask for pongs that the
packet queue has no room for. -/
def Harmless (s : Session) (bytes : Bytes) : Prop :=
  ∀ frameSet l q, FrameSet.decode bytes = .ok frameSet →
    s.received.handed frameSet.datas = .ok (l, q) →
    (∀ f ∈ l, f.data ≠ []) ∧ CanAnswer s.packetQueue (l.countP asksPong)

/-- **Panic freedom of the receiving path.**  In every reachable session a datagram is handled
without a panic exactly when it is harmless: whatever else it contains, no read is out of range, no
unwrap fails and no addition overflows. -/
theorem handle_datagram_iff (addr : SocketAddr) (mtu : UInt16) (lastPing lastReceive : Instant)
    (ops : List Op) {s : Session}
    (hs : Run.exec step (new addr mtu lastPing lastReceive) ops = .ok s) (env : Env)
    {msg : UdpPacket} (hmsg : Routed msg.bytes) :
    (∃ s', s.handle env msg = .ok s') ↔ s.Harmless msg.bytes := by
  have hready : s.Ready := Run.invariant (fun _ _ _ => Ready.step)
    (ready_new addr mtu lastPing lastReceive) hs
  rw [handle_of_routed hmsg]
  cases hdecode : FrameSet.decode msg.bytes with
  | error e =>
      refine ⟨fun _ frameSet l q h => ?_, fun _ => ⟨s, by rw [handleDatagram, hdecode]⟩⟩
      cases hdecode.symm.trans h
  | ok frameSet =>
      obtain ⟨ackQueue, l, q, -, hhanded, -, heq⟩ := hready.handleDatagram_eq env hdecode
      have hiff := foldlM_handlePacket_iff env (s := { s with ackQueue := ackQueue })
        hready.max_lt l
      have hharmless : s.Harmless msg.bytes
          ↔ (∀ f ∈ l, f.data ≠ []) ∧ CanAnswer s.packetQueue (l.countP asksPong) := by
        refine ⟨fun h => h frameSet l q hdecode hhanded, fun h fs l' q' hfs hl' => ?_⟩
        obtain rfl := Except.ok.inj (hdecode.symm.trans hfs)
        obtain ⟨rfl, -⟩ := Prod.mk.inj (Except.ok.inj (hhanded.symm.trans hl'))
        exact h
      rw [hharmless, ← hiff, heq]
      simp only [map_eq_ok]
      constructor
      · rintro ⟨_, t, ht, -⟩
        exact ⟨t, ht⟩
      · rintro ⟨t, ht⟩
        exact ⟨_, t, ht, rfl⟩

/-- The theorem at a session that has sent a packet and holds a frame whose predecessor is missing.
Two datagrams bring the predecessor: one with a ping is harmless, one with an empty frame is not. -/
theorem handle_datagram_iff_sample :
    let addr : SocketAddr := .v4 ⟨127, 0, 0, 1⟩ 19132
    let later : UdpPacket := ⟨[0x84, 0, 0, 0, 0x60, 0, 0x10, 0, 0, 0, 1, 0, 0, 0, 254, 1], addr⟩
    let first : Bytes := [0x84, 1, 0, 0, 0x60, 0, 0x10, 1, 0, 0, 0, 0, 0, 0, 254, 2]
    let ping : UdpPacket := ⟨first ++ [0, 0, 0x48, 0, 0, 0, 0, 0, 0, 0, 0, 9], addr⟩
    let empty : UdpPacket := ⟨first ++ [0, 0, 0], addr⟩
    ∃ s, Run.exec step (new addr 1400 0 0)
        [.sendTo default [254, 3], .handle default later, .update default] = .ok s
      ∧ s.Harmless ping.bytes ∧ ¬s.Harmless empty.bytes := by
  intro addr later first ping empty
  have hrun : (fun s => ((fun t : Session => t.posted.map Frame.data) <$> s.handle default ping,
        (fun t : Session => t.posted.map Frame.data) <$> s.handle default empty))
      <$> Run.exec step (new addr 1400 0 0)
        [.sendTo default [254, 3], .handle default later, .update default]
      = .ok (.ok [[254, 2], [254, 1]], .error .outOfBounds) := by
    decide +kernel
  obtain ⟨s, hs, heq⟩ := map_eq_ok.mp hrun
  obtain ⟨hping, hempty⟩ := Prod.mk.inj heq
  refine ⟨s, hs, ?_, fun hharmless => ?_⟩
  · obtain ⟨s', hs', -⟩ := map_eq_ok.mp hping
    exact (handle_datagram_iff addr 1400 0 0 _ hs default (by decide)).mp ⟨s', hs'⟩
  · have hrouted : Routed empty.bytes := by decide
    obtain ⟨s', hs'⟩ := (handle_datagram_iff addr 1400 0 0 _ hs default hrouted).mpr hharmless
    rw [hs'] at hempty
    cases hempty

/-- A datagram of seven bytes, one unreliable frame without a body, and a new session panics on
`frame.data[0]`. -/
theorem handle_datagram_counterexample :
    let addr : SocketAddr := .v4 ⟨127, 0, 0, 1⟩ 19132
    let msg : UdpPacket := ⟨[0x84, 0, 0, 0, 0x00, 0x00, 0x00], addr⟩
    Routed msg.bytes ∧ (new addr 1400 0 0).handle default msg = .error .outOfBounds :=
  ⟨by decide, rfl⟩

end Session

end ActixRaknet
