import ActixRaknet.Session.Receive

/-!
What arriving frame sets do to a session that receives whole messages.

* `ReceivedQueue.receiveAll`: the ordered frames of a datagram, received one by one, with
  everything `get_all` returns collected;
* `ReceivedQueue.Taken`: the messages that have been released or are held for release, and
  `Reassembled.receiveAll`: genuine frames complete and become taken;
* `Session.Answers`, `receivePackets_answers`: besides that, a datagram only queues pongs.
-/

namespace ActixRaknet

open Fallible

namespace ReceivedQueue

/-- The ordered frames of a datagram, received in order. -/
def receiveAll (s : List Frame × ReceivedQueue) (frames : List Frame) :
    Except Panic (List Frame × ReceivedQueue) :=
  (frames.filter fun f => f.reliability.sequencedOrOrdered).foldlM receive s

/-- The message has been released, or its frame is held. -/
def Taken (q : ReceivedQueue) (k : ℕ) : Prop := k < q.min ∨ k ∈ q.packetQueue

variable {payload : ℕ → Bytes} {arrived : ℕ → Prop}

/-- What has arrived is what has been taken. -/
lemma Window.taken_iff {q : ReceivedQueue} (h : Window payload arrived q) {k : ℕ} :
    q.Taken k ↔ k < q.min ∨ arrived k := by
  rw [Taken]
  by_cases hk : k < q.min
  · simp [hk]
  · rw [h.mem_iff k (not_lt.mp hk)]

lemma Window.arrived_iff {q : ReceivedQueue} (h : Window payload arrived q) {k : ℕ} :
    q.Taken k ↔ arrived k := by
  rw [h.taken_iff]
  exact ⟨fun hk => hk.elim (h.below k) id, Or.inr⟩

/-- The arrival of a whole message. -/
lemma Reassembled.receive {s : List Frame × ReceivedQueue} (h : Reassembled payload arrived s)
    {f : Frame} (hsplit : f.split = false) (hlt : f.orderIndex + 1 < 2 ^ 32)
    (hdata : f.data = payload f.orderIndex) :
    ∃ s', ReceivedQueue.receive s f = .ok s'
      ∧ Reassembled payload (fun k => arrived k ∨ k = f.orderIndex) s' := by
  obtain ⟨q, hadd, hmin, -, hwindow⟩ := h.window.add_unsplit hsplit hlt hdata
  refine ⟨(s.1 ++ q.getAll.1, q.getAll.2), ?_, h.getAll hwindow hmin⟩
  rw [ReceivedQueue.receive, hadd, ok_bind]
  rfl

/-- **The arrival of a frame set** of whole messages: all of them are taken. -/
lemma Reassembled.receiveAll {s : List Frame × ReceivedQueue} (h : Reassembled payload arrived s)
    {fs : List Frame} (hsplit : ∀ f ∈ fs, f.split = false)
    (hmessage : ∀ f ∈ fs, ∀ k, f.message = some k → k + 1 < 2 ^ 32 ∧ f.data = payload k) :
    ∃ s', ReceivedQueue.receiveAll s fs = .ok s'
      ∧ Reassembled payload (fun k => arrived k ∨ ∃ f ∈ fs, f.message = some k) s' := by
  induction fs generalizing s arrived with
  | nil => exact ⟨s, rfl, h.congr (fun k => by simp) fun _ _ => rfl⟩
  | cons f fs ih =>
      have hsplit' := fun g hg => hsplit g (List.mem_cons_of_mem f hg)
      have hmessage' := fun g hg => hmessage g (List.mem_cons_of_mem f hg)
      cases hordered : f.reliability.sequencedOrOrdered with
      | false =>
          have hnone : f.message = none := by rw [Frame.message, hordered]; rfl
          obtain ⟨s', hrun, hs'⟩ := ih h hsplit' hmessage'
          refine ⟨s', ?_, hs'.congr (fun k => by simp [hnone]) fun _ _ => rfl⟩
          rw [ReceivedQueue.receiveAll, List.filter_cons_of_neg (by simp [hordered])]
          exact hrun
      | true =>
          have hsome : f.message = some f.orderIndex := by rw [Frame.message, hordered]; rfl
          obtain ⟨hlt, hdata⟩ := hmessage f List.mem_cons_self _ hsome
          obtain ⟨s₁, hstep, hs₁⟩ := h.receive (hsplit f List.mem_cons_self) hlt hdata
          obtain ⟨s', hrun, hs'⟩ := ih hs₁ hsplit' hmessage'
          refine ⟨s', ?_, hs'.congr (fun k => ?_) fun _ _ => rfl⟩
          · rw [ReceivedQueue.receiveAll, List.filter_cons_of_pos (by simp [hordered]),
              List.foldlM_cons, hstep, ok_bind]
            exact hrun
          · simp only [List.mem_cons, exists_eq_or_imp, hsome, Option.some.injEq, or_assoc,
              eq_comm (a := k)]

/-- If the ordered frames of a datagram are received, its frames are handed on, and the queue is
the same. -/
lemma handed_of_receiveAll {released released' : List Frame} {q q' : ReceivedQueue}
    {fs : List Frame} (h : receiveAll (released, q) fs = .ok (released', q')) :
    ∃ l, q.handed fs = .ok (l, q') := by
  induction fs generalizing released q with
  | nil =>
      obtain ⟨-, rfl⟩ := Prod.mk.inj (Except.ok.inj h)
      exact ⟨[], rfl⟩
  | cons f fs ih =>
      cases hordered : f.reliability.sequencedOrOrdered with
      | false =>
          rw [receiveAll, List.filter_cons_of_neg (by simp [hordered])] at h
          obtain ⟨l, hl⟩ := ih h
          refine ⟨[f] ++ l, handed_cons_eq_ok.mpr ⟨[f], q, l, ?_, hl, rfl⟩⟩
          rw [hand, hordered]
          rfl
      | true =>
          rw [receiveAll, List.filter_cons_of_pos (by simp [hordered])] at h
          obtain ⟨s₁, hstep, hrun⟩ := foldlM_cons_eq_ok.mp h
          obtain ⟨q₁, hadd, hall⟩ := bind_eq_ok.mp hstep
          obtain rfl := Except.ok.inj hall
          obtain ⟨l, hl⟩ := ih hrun
          refine ⟨_ ++ l, handed_cons_eq_ok.mpr ⟨q₁.getAll.1, q₁.getAll.2, l, ?_, hl, rfl⟩⟩
          rw [hand, hordered, if_pos rfl, hadd]
          rfl

end ReceivedQueue

namespace Session

open ReceivedQueue

/-- A ping or a pong is queued. -/
def AddsUnordered (q q' : PacketQueue) : Prop :=
  ∃ clock body, body.length ≤ 17 ∧ q.addFrame clock (Frame.new .unreliable body) = .ok q'

/-- Pings and pongs have been queued, and nothing else has changed that concerns the peer. -/
structure Answers (s t : Session) : Prop where
  ackQueue : t.ackQueue = s.ackQueue
  received : t.received = s.received
  udp : t.udp = s.udp
  mtu : t.mtu = s.mtu
  orderIndex : t.orderIndex = s.orderIndex
  queued : Relation.ReflTransGen AddsUnordered s.packetQueue t.packetQueue

lemma Answers.refl (s : Session) : Answers s s := ⟨rfl, rfl, rfl, rfl, rfl, .refl⟩

lemma Answers.trans {s t u : Session} (h : Answers s t) (h' : Answers t u) : Answers s u :=
  ⟨h'.ackQueue.trans h.ackQueue, h'.received.trans h.received, h'.udp.trans h.udp,
    h'.mtu.trans h.mtu, h'.orderIndex.trans h.orderIndex, h.queued.trans h'.queued⟩

lemma handlePacket_answers {env : Env} {s t : Session} {f : Frame}
    (h : handlePacket env s f = .ok t) : Answers s t := by
  cases hping : asksPong f with
  | true =>
      obtain ⟨body, hbody, heq⟩ := handlePacket_of_asksPong env s hping
      obtain ⟨q, hq, rfl⟩ := map_eq_ok.mp (heq.symm.trans h)
      exact ⟨rfl, rfl, rfl, rfl, rfl, .single ⟨env.queue, body, hbody.le, hq⟩⟩
  | false =>
      by_cases hdata : f.data = []
      · rw [handlePacket_nil hdata] at h
        cases h
      · obtain ⟨_, _, -, -, heq⟩ := handlePacket_of_not_asksPong env s hdata hping
        obtain rfl := Except.ok.inj (heq.symm.trans h)
        exact ⟨rfl, rfl, rfl, rfl, rfl, .refl⟩

/-- **What a frame set does to a session**: the receive queue takes in its ordered frames, and
pongs are queued. -/
lemma receivePackets_answers {env : Env} {s s' : Session} {fs released released' : List Frame}
    {q : ReceivedQueue} (hreceive : receiveAll (released, s.received) fs = .ok (released', q))
    (h : fs.foldlM (receivePacket env) s = .ok s') : Answers (withReceived q s) s' := by
  obtain ⟨l, hl⟩ := handed_of_receiveAll hreceive
  obtain ⟨t, ht, rfl⟩ := map_eq_ok.mp ((foldlM_receivePacket hl).symm.trans h)
  have hanswers : Answers s t := foldlM_induction (P := Answers s)
    (fun u f u' _ hu hstep => hu.trans (handlePacket_answers hstep)) (Answers.refl s) ht
  exact ⟨hanswers.ackQueue, rfl, hanswers.udp, hanswers.mtu, hanswers.orderIndex, hanswers.queued⟩

end Session

end ActixRaknet
