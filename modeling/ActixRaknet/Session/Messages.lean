import ActixRaknet.Queue.Reassembly
import ActixRaknet.Session.Bounds

/-!
What a session sends, as the messages it gives order indices to.

* `Message`, `Session.messages`: a message, by whom it was given and how it travels, and the
  messages of a call;
* `Frame.Tells`: the frame carries the message of its order index, or none;
* `Session.Bears`: the frames in the queue, and those of the datagrams sent, satisfy a predicate;
* `Session.Speaks`: every frame in the queue or sent tells one of the messages, `Speaks.step`.
-/

namespace ActixRaknet

open Fallible

/-- A message under an order index: whether the user of the session gave it, its bytes, and how it
travels. -/
structure Message where
  user : Bool
  body : Bytes
  carrier : Carrier

namespace Message

/-- The payload that the frames of the message make up. -/
def payload (m : Message) : Bytes := m.carrier.payload

/-- The id of its fragments. -/
def splitId? (m : Message) : Option UInt16 :=
  match m.carrier with
  | .unsplit _ => none
  | .fragments splitId _ _ => some splitId

/-- The length is one for which `send_to` queues the whole of a buffer. -/
def Whole (mtu : UInt16) (body : Bytes) : Prop :=
  body.length < mtu.toNat - 46
    ∨ body.length ≤ 65535 ∧ body.length % (mtu.toNat - 61) ≠ 0

instance (mtu : UInt16) (body : Bytes) : Decidable (Whole mtu body) :=
  inferInstanceAs (Decidable (_ ∨ _))

/-- The payload is the front of the bytes, and all of them if the session itself gave the message or
the length is right. -/
structure Faithful (mtu : UInt16) (m : Message) : Prop where
  payload_front : m.payload <+: m.body
  whole : m.user = false ∨ Whole mtu m.body → m.payload = m.body

/-- A message of the session itself. -/
def system (body : Bytes) : Message := ⟨false, body, .unsplit body⟩

/-- The message of `Session::disconnect`. -/
def farewell : Message := system [Packet.ID Disconnected]

/-- A payload that is not empty begins like the bytes. -/
lemma Faithful.head?_body {mtu : UInt16} {m : Message} (h : m.Faithful mtu) {id : UInt8}
    (hid : m.payload.head? = some id) : m.body.head? = some id := by
  obtain ⟨rest, hrest⟩ := h.payload_front
  rw [← hrest, List.head?_append, hid]
  rfl

lemma faithful_unsplit (mtu : UInt16) (user : Bool) (body : Bytes) :
    Faithful mtu ⟨user, body, .unsplit body⟩ := ⟨List.prefix_rfl, fun _ => rfl⟩

end Message

/-- Each fragmented message has a split id of its own. -/
def Apart (said : List Message) : Prop :=
  said.Pairwise fun m m' => ∀ id, m.splitId? = some id → m'.splitId? ≠ some id

/-- How the messages travel, by order index. -/
def carriers (said : List Message) (k : ℕ) : Carrier :=
  (said[k]?.map Message.carrier).getD (.unsplit [])

lemma carriers_eq {said : List Message} {k : ℕ} {m : Message} (h : said[k]? = some m) :
    carriers said k = m.carrier := by
  rw [carriers, h]
  rfl

lemma carriers_append {said : List Message} {k : ℕ} (h : k < said.length) (more : List Message) :
    carriers (said ++ more) k = carriers said k := by
  rw [carriers, carriers, List.getElem?_append_left h]

/-- The frame can be sent, and it carries the message of its order index, or none. -/
structure Frame.Tells (said : List Message) (f : Frame) : Prop where
  carried : f.carried = f
  data_le : f.data.length ≤ 8191
  message : ∀ k, f.message = some k → k < said.length ∧ ReceivedQueue.Carries (carriers said) f

lemma Frame.message_eq_some {f : Frame} {k : ℕ} :
    f.message = some k ↔ f.reliability.sequencedOrOrdered = true ∧ f.orderIndex = k := by
  rw [Frame.message]
  split_ifs with h <;> simp [h]

lemma Frame.Tells.mono {said : List Message} {f : Frame} (h : f.Tells said) (more : List Message) :
    f.Tells (said ++ more) := by
  refine ⟨h.carried, h.data_le, fun k hk => ?_⟩
  obtain ⟨hlt, hcarries⟩ := h.message k hk
  obtain ⟨-, rfl⟩ := Frame.message_eq_some.mp hk
  refine ⟨by rw [List.length_append]; omega, ?_⟩
  rwa [ReceivedQueue.Carries, carriers_append hlt]

/-- A frame that is not split has no idle fields if the indices it does not carry are zero. -/
lemma Frame.carried_new (reliability : Reliability) (body : Bytes) {messageIndex orderIndex : ℕ}
    (hmessage : reliability.isReliable = false → messageIndex = 0)
    (horder : reliability.sequencedOrOrdered = false → orderIndex = 0) :
    Frame.carried { Frame.new reliability body with
        messageIndex := messageIndex, orderIndex := orderIndex }
      = { Frame.new reliability body with
        messageIndex := messageIndex, orderIndex := orderIndex } := by
  cases reliability <;> simp_all [Frame.carried, Frame.new, Reliability.isReliable,
    Reliability.sequenced, Reliability.sequencedOrOrdered]

/-- A frame without a message. -/
lemma Frame.tells_unordered (said : List Message) {f : Frame} (hcarried : f.carried = f)
    (hdata : f.data.length ≤ 8191) (h : f.reliability.sequencedOrOrdered = false) :
    f.Tells said := by
  refine ⟨hcarried, hdata, fun k hk => ?_⟩
  rw [(Frame.message_eq_some.mp hk).1] at h
  cases h

/-- A frame that carries the whole of the last message. -/
lemma Frame.tells_unsplit {said : List Message} {f : Frame} {user : Bool} {body : Bytes}
    (hcarried : f.carried = f) (hdata : f.data.length ≤ 8191) (hsplit : f.split = false)
    (horder : f.orderIndex = said.length) :
    f.Tells (said ++ [⟨user, body, .unsplit f.data⟩]) := by
  refine ⟨hcarried, hdata, fun k hk => ?_⟩
  obtain ⟨-, rfl⟩ := Frame.message_eq_some.mp hk
  refine ⟨by simp [horder], ?_⟩
  rw [ReceivedQueue.Carries, carriers_eq (m := ⟨user, body, .unsplit f.data⟩) (by simp [horder])]
  exact ⟨hsplit, rfl⟩

/-- The frames of a datagram that an encoded set arrives as. -/
lemma Session.mem_arrives_of_encode {fs : FrameSet} {bytes : Bytes} (h : fs.encode = .ok bytes)
    (hframes : ∀ f ∈ fs.datas, f.carried = f ∧ f.data.length ≤ 8191) {f : Frame}
    (hf : f ∈ arrives bytes) : f ∈ fs.datas := by
  have hencodable := FrameSet.encodable_of_encode h hframes
  obtain rfl := Except.ok.inj ((FrameSet.encode_eq_layout hencodable).symm.trans h)
  rw [arrives] at hf
  split_ifs at hf with hrouted
  · rw [FrameSet.decode_layout hencodable] at hf
    obtain ⟨g, hg, rfl⟩ := List.mem_map.mp hf
    rwa [(hframes g hg).1]
  · cases hf

lemma Session.arrives_ack (r : ℕ × ℕ) : arrives (Ack.datagram r) = [] :=
  if_neg fun h => absurd h.1 (by decide)

lemma Session.arrives_nack (r : ℕ × ℕ) : arrives (Nack.datagram r) = [] :=
  if_neg fun h => absurd h.2.1 (by decide)

lemma PacketQueue.Holding.allocated {S : List Frame → Prop} {q : PacketQueue} (h : q.Holding S)
    (clock : PacketQueue.Clock) (frames : List Frame) (hframes : ∀ f ∈ frames, S [f]) :
    (q.allocated clock frames).Holding S := by
  induction frames generalizing q with
  | nil => exact h
  | cons f frames ih =>
      obtain ⟨hf, hrest⟩ := List.forall_mem_cons.mp hframes
      exact ih (h.allocate clock _ hf) hrest

namespace Session

/-! ### The frames in the queue and on the wire -/

/-- The frames in the packet queue, and those of the datagrams sent, satisfy `P`. -/
structure Bears (P : Frame → Prop) (s : Session) : Prop where
  queue : s.packetQueue.Holding fun l => ∀ f ∈ l, P f
  sent : ∀ p ∈ s.udp, ∀ f ∈ arrives p.bytes, P f

/-- The session bears such frames, and its counters for messages are the same. -/
structure Bearing (P : Frame → Prop) (s s' : Session) : Prop extends Bears P s' where
  orderIndex : s'.orderIndex = s.orderIndex
  splitId : s'.splitId = s.splitId
  mtu : s'.mtu = s.mtu

lemma bears_new (P : Frame → Prop) (addr : SocketAddr) (mtu : UInt16)
    (lastPing lastReceive : Instant) : Bears P (new addr mtu lastPing lastReceive) :=
  ⟨PacketQueue.holding_new mtu fun _ hf => absurd hf List.not_mem_nil,
    fun _ hp => absurd hp List.not_mem_nil⟩

section Bears

variable {P Q : Frame → Prop} {s s' s'' : Session} {env : Env}

lemma Bears.mono (h : s.Bears P) (hPQ : ∀ f, P f → Q f) : s.Bears Q :=
  ⟨h.queue.mono fun _ hl f hf => hPQ f (hl f hf), fun p hp f hf => hPQ f (h.sent p hp f hf)⟩

lemma Bears.relabel (h : s.Bears P) {t : Session} (hqueue : t.packetQueue = s.packetQueue)
    (hudp : t.udp = s.udp) : t.Bears P := ⟨hqueue ▸ h.queue, hudp ▸ h.sent⟩

lemma Bears.bearing (h : s.Bears P) : Bearing P s s := ⟨h, rfl, rfl, rfl⟩

lemma Bearing.trans (h : Bearing P s s') (h' : Bearing P s' s'') : Bearing P s s'' :=
  ⟨h'.toBears, h'.orderIndex.trans h.orderIndex, h'.splitId.trans h.splitId, h'.mtu.trans h.mtu⟩

lemma Bears.withQueue (h : s.Bears P) {q : PacketQueue}
    (hq : q.Holding fun l => ∀ f ∈ l, P f) : Bearing P s { s with packetQueue := q } :=
  ⟨⟨hq, h.sent⟩, rfl, rfl, rfl⟩

lemma Bears.addFrame (h : s.Bears P) {clock : PacketQueue.Clock} {f : Frame} {q : PacketQueue}
    (hf : P f) (hq : s.packetQueue.addFrame clock f = .ok q) :
    q.Holding fun l => ∀ f ∈ l, P f := by
  refine h.queue.addFrame (fun _ g hg => ?_) (fun _ g hg => ?_) hq
  · rcases List.mem_append.mp hg with hg | hg
    · exact h.queue.openSet g hg
    · exact List.mem_singleton.mp hg ▸ hf
  · exact List.mem_singleton.mp hg ▸ hf

lemma Bears.send (h : s.Bears P) {clock : PacketQueue.Clock} {f : Frame} (hf : P f)
    (hs : s.send clock f = .ok s') : Bearing P s s' := by
  simp only [Session.send, bind_eq_ok, pure_eq_ok, Except.ok.injEq] at hs
  obtain ⟨q, hq, rfl⟩ := hs
  exact h.withQueue (h.addFrame hf hq)

lemma Bears.sendUdp (h : s.Bears P) {bytes : Bytes} (hbytes : ∀ f ∈ arrives bytes, P f) :
    Bearing P s (s.sendUdp bytes) := by
  refine ⟨⟨h.queue, fun p hp => ?_⟩, rfl, rfl, rfl⟩
  rcases List.mem_append.mp hp with hp | hp
  · exact h.sent p hp
  · rw [List.mem_singleton.mp hp]
    exact hbytes

/-- A loop that only sends. -/
lemma Bears.foldlM {α : Type} {g : Session → α → Except Panic Session} {l : List α}
    (hg : ∀ t a t', a ∈ l → t.Bears P → g t a = .ok t' → Bearing P t t') (h : s.Bears P)
    (hs : l.foldlM g s = .ok s') : Bearing P s s' :=
  foldlM_induction (P := Bearing P s)
    (fun t a t' ha ht hstep => ht.trans (hg t a t' ha ht.toBears hstep))
    h.bearing hs

lemma Bears.flushAck (h : s.Bears P) (hs : s.flushAck = .ok s') : Bearing P s s' := by
  obtain ⟨s₁, hacks, hnacks⟩ := bind_eq_ok.mp hs
  have hcleared : Bearing P s { s with ackQueue := s.ackQueue.clear.2 } :=
    ⟨h.relabel rfl rfl, rfl, rfl, rfl⟩
  have h₁ := hcleared.toBears.foldlM (fun t r t' _ ht hstep => ?_) hacks
  · have h₂ := h₁.toBears.foldlM (fun t n t' _ ht hstep => ?_) hnacks
    · exact hcleared.trans (h₁.trans h₂)
    · obtain ⟨bytes, hbytes, hstep⟩ := bind_eq_ok.mp hstep
      obtain rfl := Except.ok.inj hstep
      obtain ⟨hfirst, hsecond⟩ := lt_of_encode_record (p := Nack.new (n, n)) rfl hbytes
      obtain rfl := Except.ok.inj ((encode_nack hfirst hsecond).symm.trans hbytes)
      refine ht.sendUdp fun f hf => ?_
      rw [arrives_nack] at hf
      cases hf
  · obtain ⟨bytes, hbytes, hstep⟩ := bind_eq_ok.mp hstep
    obtain rfl := Except.ok.inj hstep
    obtain ⟨hfirst, hsecond⟩ := lt_of_encode_record (p := Ack.new r) rfl hbytes
    obtain rfl := Except.ok.inj ((encode_ack hfirst hsecond).symm.trans hbytes)
    refine ht.sendUdp fun f hf => ?_
    rw [arrives_ack] at hf
    cases hf

lemma Bears.handleAck (h : s.Bears P) {buff : Bytes} (hs : s.handleAck buff = .ok s') :
    Bearing P s s' := by
  rcases unwrapOrReturn_eq_ok hs with rfl | ⟨ack, -, hack⟩
  · exact h.bearing
  · simp only [bind_eq_ok, pure_eq_ok, Except.ok.injEq] at hack
    obtain ⟨sequences, -, rfl⟩ := hack
    exact h.withQueue (List.foldlRecOn sequences PacketQueue.received h.queue
      fun q hq n _ => hq.received n)

lemma Bears.handleNack (h : s.Bears P) {buff : Bytes} (hs : s.handleNack env buff = .ok s') :
    Bearing P s s' := by
  rcases unwrapOrReturn_eq_ok hs with rfl | ⟨nack, -, hnack⟩
  · exact h.bearing
  · simp only [bind_eq_ok, pure_eq_ok, Except.ok.injEq] at hnack
    obtain ⟨sequences, -, q, hresend, rfl⟩ := hnack
    exact h.withQueue (foldlM_induction (fun t n t' _ ht hstep => ht.resend hstep) h.queue hresend)

section Wire

variable (hwire : ∀ f, P f → f.carried = f ∧ f.data.length ≤ 8191)
  (hpong : ∀ body : Bytes, body.length ≤ 17 → P (Frame.new .unreliable body))

include hwire in
lemma Bears.flushQueue (h : s.Bears P) {clock : PacketQueue.Clock} {order : IterOrder ℕ}
    (hs : s.flushQueue clock order = .ok s') : Bearing P s s' := by
  obtain ⟨⟨sets, q⟩, hq, hsets⟩ := bind_eq_ok.mp hs
  obtain ⟨hret, hqueue⟩ := h.queue.getPacket (fun _ hf => absurd hf List.not_mem_nil) hq
  have hbears := h.withQueue hqueue
  refine hbears.trans (hbears.toBears.foldlM (fun t fs t' hfs ht hstep => ?_)
    hsets)
  obtain ⟨bytes, hbytes, hstep⟩ := bind_eq_ok.mp hstep
  obtain rfl := Except.ok.inj hstep
  exact ht.sendUdp fun f hf => hret fs hfs f
    (mem_arrives_of_encode hbytes (fun g hg => hwire g (hret fs hfs g hg)) hf)

include hpong

lemma Bears.checkPing (h : s.Bears P) (hs : s.checkPing env = .ok s') : Bearing P s s' := by
  rcases checkPing_eq hs with rfl | ⟨body, q, hbody, hq, rfl⟩
  · exact h.bearing
  · exact ⟨⟨h.addFrame (hpong body (by omega)) hq, h.sent⟩, rfl, rfl, rfl⟩

lemma Bears.handlePacket (h : s.Bears P) {f : Frame} (hs : handlePacket env s f = .ok s') :
    Bearing P s s' := by
  cases hping : asksPong f with
  | true =>
      obtain ⟨body, hbody, heq⟩ := handlePacket_of_asksPong env s hping
      obtain ⟨q, hq, rfl⟩ := map_eq_ok.mp (heq.symm.trans hs)
      exact ⟨⟨h.addFrame (hpong body hbody.le) hq, h.sent⟩, rfl, rfl, rfl⟩
  | false =>
      by_cases hdata : f.data = []
      · rw [handlePacket_nil hdata] at hs
        cases hs
      · obtain ⟨_, _, -, -, heq⟩ := handlePacket_of_not_asksPong env s hdata hping
        rw [heq, Except.ok.injEq] at hs
        exact hs ▸ ⟨h.relabel rfl rfl, rfl, rfl, rfl⟩

lemma Bears.handle (h : s.Bears P) (hready : s.Ready) {msg : UdpPacket}
    (hs : s.handle env msg = .ok s') : Bearing P s s' := by
  by_cases hrouted : Routed msg.bytes
  · rw [handle_of_routed hrouted] at hs
    cases hdecode : FrameSet.decode msg.bytes with
    | error e =>
        rw [handleDatagram, hdecode] at hs
        exact Except.ok.inj hs ▸ h.bearing
    | ok frameSet =>
        obtain ⟨ackQueue, l, q, -, -, -, heq⟩ := hready.handleDatagram_eq env hdecode
        obtain ⟨t, hfold, rfl⟩ := map_eq_ok.mp (heq.symm.trans hs)
        have hnoted : Bearing P s { s with ackQueue := ackQueue } :=
          ⟨h.relabel rfl rfl, rfl, rfl, rfl⟩
        have hhandled := hnoted.trans (hnoted.toBears.foldlM
          (fun t f t' _ ht hstep => ht.handlePacket hpong hstep) hfold)
        exact ⟨hhandled.toBears.relabel rfl rfl, hhandled.orderIndex, hhandled.splitId,
          hhandled.mtu⟩
  · rcases handle_of_not_routed hrouted hs with hack | hnack | rfl
    · exact h.handleAck hack
    · exact h.handleNack hnack
    · exact h.bearing

end Wire

end Bears

/-! ### The messages of a call -/

/-- How a buffer travels.  A length of a multiple of `65536` counts as none, and such a buffer is in
no frame. -/
def carrierOf (s : Session) (buff : Bytes) : Carrier :=
  if buff.length < s.mtu.toNat - 46 then .unsplit buff
  else if h : (s.splitFrames buff).map Frame.data = [] then .unsplit []
  else .fragments (UInt16.ofNat s.splitId) ((s.splitFrames buff).map Frame.data) h

/-- The peer has been silent for too long when the session is updated. -/
def Silent (s : Session) (env : Env) : Prop :=
  s.disconnected = false ∧ 10 < env.silence.secsSince s.lastReceive

instance (s : Session) (env : Env) : Decidable (s.Silent env) :=
  inferInstanceAs (Decidable (_ ∧ _))

/-- The messages that a call gives order indices to. -/
def messages (s : Session) : Op → List Message
  | .update env => if s.Silent env then [.farewell] else []
  | .forceFlush _ => []
  | .handle _ _ => []
  | .disconnect _ => [.farewell]
  | @Op.sendSystemPacket _ _ _ packet reliability =>
    match reliability.sequencedOrOrdered, encode packet with
    | true, .ok body => [.system body]
    | _, _ => []
  | .sendTo _ buff => [⟨true, buff, s.carrierOf buff⟩]

/-- The messages of the calls that an actor makes. -/
def spoken (s : Session) : List Op → List Message
  | [] => []
  | op :: ops => s.messages op ++
    match s.turn op with
    | .error _ => []
    | .ok t => t.spoken ops

lemma spoken_singleton (s : Session) (op : Op) : s.spoken [op] = s.messages op := by
  rw [spoken]
  cases s.turn op <;> exact List.append_nil _

/-- A message of the user is what `send_to` was called with. -/
lemma user_messages {s : Session} {op : Op} {m : Message} (hm : m ∈ s.messages op)
    (huser : m.user = true) : ∃ env, op = .sendTo env m.body := by
  have hsystem : ∀ body, m ∈ [Message.system body] → False := fun body hm => by
    rw [List.mem_singleton.mp hm] at huser
    cases huser
  cases op with
  | update env =>
      rw [messages] at hm
      split_ifs at hm
      · exact (hsystem _ hm).elim
      · cases hm
  | disconnect env => exact (hsystem _ hm).elim
  | sendSystemPacket env P packet reliability =>
      rw [messages] at hm
      split at hm
      · exact (hsystem _ hm).elim
      · cases hm
  | sendTo env buff =>
      rw [List.mem_singleton.mp hm]
      exact ⟨env, rfl⟩
  | _ => cases hm

/-- A message of the calls is a message of one of them, in some state of the session. -/
lemma mem_spoken {s : Session} {ops : List Op} {m : Message} (hm : m ∈ s.spoken ops) :
    ∃ t : Session, ∃ op ∈ ops, m ∈ t.messages op := by
  induction ops generalizing s with
  | nil => cases hm
  | cons op ops ih =>
      rw [spoken] at hm
      rcases List.mem_append.mp hm with hm | hm
      · exact ⟨s, op, List.mem_cons_self, hm⟩
      · cases hturn : s.turn op with
        | error e =>
            rw [hturn] at hm
            cases hm
        | ok t =>
            rw [hturn] at hm
            obtain ⟨u, op', hop', hmessages⟩ := ih hm
            exact ⟨u, op', List.mem_cons_of_mem _ hop', hmessages⟩

lemma user_spoken {s : Session} {ops : List Op} {m : Message} (hm : m ∈ s.spoken ops)
    (huser : m.user = true) : ∃ env, Op.sendTo env m.body ∈ ops := by
  obtain ⟨t, op, hop, hm⟩ := mem_spoken hm
  obtain ⟨env, rfl⟩ := user_messages hm huser
  exact ⟨env, hop⟩

/-- **The session speaks the messages**: they have its order indices, each fragmented one a split id
of its own, and every frame in the queue or sent tells one of them or none. -/
structure Speaks (mtu : UInt16) (said : List Message) (s : Session) : Prop where
  mtu_eq : s.mtu = mtu
  mtu_le : mtu.toNat ≤ 8191
  orderIndex : s.orderIndex = said.length
  bears : s.Bears (Frame.Tells said)
  splitId_lt : ∀ m ∈ said, ∀ id, m.splitId? = some id → id.toNat < s.splitId
  apart : Apart said
  faithful : ∀ m ∈ said, m.Faithful mtu

lemma speaks_new (addr : SocketAddr) {mtu : UInt16} (lastPing lastReceive : Instant)
    (h : mtu.toNat ≤ 8191) : Speaks mtu [] (new addr mtu lastPing lastReceive) where
  mtu_eq := rfl
  mtu_le := h
  orderIndex := rfl
  bears := bears_new _ addr mtu lastPing lastReceive
  splitId_lt _ hm := absurd hm List.not_mem_nil
  apart := .nil
  faithful _ hm := absurd hm List.not_mem_nil

section Speaks

variable {mtu : UInt16} {said : List Message} {s s' : Session} {env : Env}

lemma Speaks.of_bearing (h : s.Speaks mtu said) (hs : Bearing (Frame.Tells said) s s') :
    s'.Speaks mtu said where
  mtu_eq := hs.mtu.trans h.mtu_eq
  mtu_le := h.mtu_le
  orderIndex := hs.orderIndex.trans h.orderIndex
  bears := hs.toBears
  splitId_lt := hs.splitId ▸ h.splitId_lt
  apart := h.apart
  faithful := h.faithful

/-- A message takes the next order index, and its fragments the next split id. -/
lemma Speaks.push (h : s.Speaks mtu said) {m : Message} (hm : m.Faithful s.mtu)
    (hbears : s'.Bears (Frame.Tells (said ++ [m]))) (horder : s'.orderIndex = s.orderIndex + 1)
    (hmtu : s'.mtu = s.mtu) (hsplit : s.splitId ≤ s'.splitId)
    (hid : ∀ id, m.splitId? = some id → id.toNat = s.splitId ∧ s.splitId < s'.splitId) :
    s'.Speaks mtu (said ++ [m]) where
  mtu_eq := hmtu.trans h.mtu_eq
  mtu_le := h.mtu_le
  orderIndex := by rw [horder, h.orderIndex, List.length_append, List.length_singleton]
  bears := hbears
  splitId_lt m' hm' id hid' := by
    rcases List.mem_append.mp hm' with hm' | hm'
    · exact (h.splitId_lt m' hm' id hid').trans_le hsplit
    · obtain ⟨heq, hlt⟩ := hid id (List.mem_singleton.mp hm' ▸ hid')
      exact heq ▸ hlt
  apart := by
    refine List.pairwise_append.mpr ⟨h.apart, List.pairwise_singleton _ _, ?_⟩
    intro m' hm' m'' hm'' id hid' hid''
    obtain ⟨heq, -⟩ := hid id (List.mem_singleton.mp hm'' ▸ hid'')
    exact (h.splitId_lt m' hm' id hid').ne heq
  faithful m' hm' := by
    rcases List.mem_append.mp hm' with hm' | hm'
    · exact h.faithful m' hm'
    · exact List.mem_singleton.mp hm' ▸ h.mtu_eq ▸ hm

/-- A frame of a session that carries a whole message. -/
lemma Speaks.tells_frame (h : s.Speaks mtu said) (user : Bool) {body : Bytes} {messageIndex : ℕ}
    (hbody : body.length ≤ 8191) :
    Frame.Tells (said ++ [⟨user, body, .unsplit body⟩]) { Frame.new .reliableOrdered body with
      messageIndex := messageIndex, orderIndex := s.orderIndex } :=
  Frame.tells_unsplit (f := { Frame.new .reliableOrdered body with
      messageIndex := messageIndex, orderIndex := s.orderIndex }) rfl hbody rfl h.orderIndex

lemma Tells.wire {f : Frame} (h : f.Tells said) : f.carried = f ∧ f.data.length ≤ 8191 :=
  ⟨h.carried, h.data_le⟩

/-- Pings and pongs carry no message. -/
lemma tells_pong {body : Bytes} (h : body.length ≤ 17) : (Frame.new .unreliable body).Tells said :=
  Frame.tells_unordered said rfl (h.trans (by decide)) rfl

lemma Speaks.flushQueue (h : s.Speaks mtu said) {clock : PacketQueue.Clock} {order : IterOrder ℕ}
    (hs : s.flushQueue clock order = .ok s') : s'.Speaks mtu said :=
  h.of_bearing (h.bears.flushQueue (fun _ => Tells.wire) hs)

lemma Speaks.disconnect (h : s.Speaks mtu said) (hs : s.disconnect env = .ok s') :
    s'.Speaks mtu (said ++ [.farewell]) := by
  obtain ⟨-, -, q, hq, t, hflush, rfl⟩ := disconnect_eq_ok.mp hs
  have hmono : s.Bears (Frame.Tells (said ++ [.farewell])) := h.bears.mono fun f hf => hf.mono _
  have hadded : Bears (Frame.Tells (said ++ [.farewell])) { s with
      messageIndex := s.messageIndex + 1, orderIndex := s.orderIndex + 1, packetQueue := q } :=
    ⟨hmono.addFrame (h.tells_frame false (by decide)) hq, hmono.sent⟩
  have hflushed := hadded.flushQueue (fun _ => Tells.wire) hflush
  exact h.push (Message.faithful_unsplit _ _ _) (hflushed.toBears.relabel rfl rfl)
    hflushed.orderIndex hflushed.mtu hflushed.splitId.ge (by rintro _ ⟨⟩)

lemma lastReceive_flushes {s₁ s₂ : Session} (hqueue : s.flushQueue env.queue env.order = .ok s₁)
    (hack : s₁.flushAck = .ok s₂) : s₂.lastReceive = s.lastReceive := by
  obtain ⟨_, _, _, -, rfl⟩ := flushQueue_queue hqueue
  obtain ⟨_, rfl⟩ := flushAck_queue hack
  rfl

lemma Speaks.update (h : s.Speaks mtu said) (hs : s.update env = .ok s') :
    s'.Speaks mtu (said ++ s.messages (.update env)) := by
  rw [messages]
  rcases update_cases hs with
    ⟨hdisconnected, rfl⟩ | ⟨hdisconnected, s₁, s₂, s₃, hqueue, hack, hsilence, hping⟩
  · have hnot : ¬s'.Silent env := fun hsilent => by
      rw [hsilent.1] at hdisconnected
      cases hdisconnected
    rwa [if_neg hnot, List.append_nil]
  · have h₁ := h.flushQueue hqueue
    have h₂ := h₁.of_bearing (h₁.bears.flushAck hack)
    have hiff : s.Silent env ↔ 10 < env.silence.secsSince s₂.lastReceive := by
      rw [Silent, lastReceive_flushes hqueue hack,
        and_iff_right hdisconnected]
    have h₃ : s₃.Speaks mtu (said ++ if s.Silent env then [.farewell] else []) := by
      rcases hsilence with ⟨hlong, hdisconnect⟩ | ⟨hshort, rfl⟩
      · rw [if_pos (hiff.mpr hlong)]
        exact h₂.disconnect hdisconnect
      · rwa [if_neg (mt hiff.mp hshort), List.append_nil]
    exact h₃.of_bearing (h₃.bears.checkPing (fun _ => tells_pong) hping)

/-- The frame of a system packet has no idle fields. -/
lemma carried_systemFrame (s : Session) (reliability : Reliability) (body : Bytes) :
    (s.systemFrame reliability body).carried = s.systemFrame reliability body :=
  Frame.carried_new reliability body
    (fun hnot => if_neg (by rw [hnot]; exact Bool.false_ne_true))
    fun hnot => if_neg (by rw [hnot]; exact Bool.false_ne_true)

lemma Speaks.sendSystemPacket (h : s.Speaks mtu said) {P : Type} [Packet P] {packet : P}
    {reliability : Reliability} (hshort : Short (.sendSystemPacket env P packet reliability))
    (hs : s.sendSystemPacket env packet reliability = .ok s') :
    s'.Speaks mtu (said ++ s.messages (.sendSystemPacket env P packet reliability)) := by
  obtain ⟨body, hbody, -, -, q, hq, rfl⟩ := sendSystemPacket_eq_ok.mp hs
  have hlen : body.length ≤ 8191 := (hshort body hbody).trans (by decide)
  have hcarried := s.carried_systemFrame reliability body
  rw [messages, hbody]
  cases hordered : reliability.sequencedOrOrdered with
  | false =>
      have hframe := Frame.tells_unordered said hcarried hlen hordered
      rw [List.append_nil]
      exact h.of_bearing ⟨⟨h.bears.addFrame hframe hq, h.bears.sent⟩, rfl, rfl, rfl⟩
  | true =>
      have hindex : (s.systemFrame reliability body).orderIndex = said.length :=
        (if_pos hordered).trans h.orderIndex
      have hframe : (s.systemFrame reliability body).Tells (said ++ [.system body]) :=
        Frame.tells_unsplit hcarried hlen rfl hindex
      have hmono : s.Bears (Frame.Tells (said ++ [.system body])) :=
        h.bears.mono fun f hf => hf.mono _
      exact h.push (Message.faithful_unsplit _ _ _) ⟨hmono.addFrame hframe hq, hmono.sent⟩ rfl rfl
        le_rfl (by rintro _ ⟨⟩)

/-- The frames of a split buffer tell it. -/
lemma Speaks.tells_fragment (h : s.Speaks mtu said) {buff : Bytes} (hmtu : 61 < s.mtu.toNat)
    {f : Frame} (hf : f ∈ s.splitFrames buff)
    (hlen : ¬buff.length < s.mtu.toNat - 46) :
    f.Tells (said ++ [⟨true, buff, s.carrierOf buff⟩]) := by
  have hmtu_le : s.mtu.toNat ≤ 8191 := h.mtu_eq ▸ h.mtu_le
  have hsize := length_of_mem_splitFrames hmtu hf
  have hne : (s.splitFrames buff).map Frame.data ≠ [] :=
    List.ne_nil_of_mem (List.mem_map_of_mem hf)
  have hcarrier : s.carrierOf buff = .fragments (UInt16.ofNat s.splitId)
      ((s.splitFrames buff).map Frame.data) hne := by
    rw [carrierOf, if_neg hlen, dif_neg hne]
  have hcount : (s.splitFrames buff).length < 2 ^ 32 := by
    rw [splitFrames_length]
    exact fragmentCount_lt (Nat.mod_lt _ (Nat.two_pow_pos 16))
  obtain ⟨i, hi, rfl⟩ := List.mem_map.mp hf
  rw [List.mem_range, ← splitFrames_length] at hi
  rw [Frame.length_reliableOrdered rfl] at hsize
  refine ⟨rfl, by omega, fun k hk => ?_⟩
  obtain ⟨-, rfl⟩ := Frame.message_eq_some.mp hk
  refine ⟨by rw [List.length_append, ← h.orderIndex]; exact Nat.lt_succ_self _, ?_⟩
  have hlast : (said ++ [⟨true, buff, s.carrierOf buff⟩])[s.orderIndex]?
      = some (⟨true, buff, s.carrierOf buff⟩ : Message) := by
    rw [h.orderIndex, List.getElem?_append_right le_rfl, Nat.sub_self]
    rfl
  have hindex : (UInt32.ofNat i).toNat = i := UInt32.toNat_ofNat_of_lt' (hi.trans hcount)
  rw [ReceivedQueue.Carries]
  change match carriers _ s.orderIndex with
    | .unsplit _ => _
    | .fragments _ _ _ => _
  rw [carriers_eq hlast, hcarrier]
  refine ⟨rfl, rfl, ?_, ?_⟩
  · rw [List.length_map, splitFrames_length]
    rw [splitFrames_length] at hcount
    exact UInt32.toNat_ofNat_of_lt' hcount
  · change ((s.splitFrames buff).map Frame.data)[(UInt32.ofNat i).toNat]? = _
    rw [hindex, splitFrames_data, pieces, List.getElem?_map, List.getElem?_range
      (by rwa [splitFrames_length] at hi)]
    rfl

/-- The frames of a split buffer make up its front, or all of it if the length is right. -/
lemma faithful_carrierOf (s : Session) (buff : Bytes)
    (hmtu : s.mtu.toNat - 46 ≤ buff.length → 61 < s.mtu.toNat) :
    Message.Faithful s.mtu ⟨true, buff, s.carrierOf buff⟩ := by
  have hfront : ((s.splitFrames buff).map Frame.data).flatten <+: buff := by
    rw [splitFrames_data]
    cases fragmentCount (buff.length % 2 ^ 16) (s.mtu.toNat - 61) with
    | zero => exact List.nil_prefix
    | succ n =>
        rw [flatten_pieces]
        exact List.take_prefix _ _
  have hwhole : ¬buff.length < s.mtu.toNat - 46 → true = false ∨ Message.Whole s.mtu buff →
      ((s.splitFrames buff).map Frame.data).flatten = buff := by
    rintro hlen (huser | hshort | ⟨hle, hrest⟩)
    · cases huser
    · exact absurd hshort hlen
    · have hroom := hmtu (not_lt.mp hlen)
      exact (flatten_splitFrames s hroom (by omega) (by omega)).mpr hrest
  rw [carrierOf]
  split_ifs with hlen hnil
  · exact Message.faithful_unsplit _ _ _
  · rw [hnil] at hwhole
    exact ⟨List.nil_prefix, hwhole hlen⟩
  · exact ⟨hfront, hwhole hlen⟩

lemma Speaks.sendTo (h : s.Speaks mtu said) {buff : Bytes} (hs : s.sendTo env buff = .ok s') :
    s'.Speaks mtu (said ++ s.messages (.sendTo env buff)) := by
  have hmtu_le : s.mtu.toNat ≤ 8191 := h.mtu_eq ▸ h.mtu_le
  rw [messages]
  by_cases hlen : buff.length < s.mtu.toNat - 46
  · obtain ⟨q, hq, rfl⟩ := sendTo_whole hlen hs
    have hmono : s.Bears (Frame.Tells (said ++ [⟨true, buff, .unsplit buff⟩])) :=
      h.bears.mono fun f hf => hf.mono _
    have hqueue := hmono.addFrame (h.tells_frame true (by omega)) hq
    rw [carrierOf, if_pos hlen]
    exact h.push (Message.faithful_unsplit _ _ _) ⟨hqueue, hmono.sent⟩ rfl rfl le_rfl
      (by rintro _ ⟨⟩)
  · have hsplit := (sendTo_eq_ok.mp hs).2
    rw [if_neg hlen] at hsplit
    obtain ⟨hmtu, hroom, rfl⟩ := sendSplit_eq_ok.mp hsplit
    have hsplitId := hroom.splitId_lt
    have hmono : s.Bears (Frame.Tells (said ++ [⟨true, buff, s.carrierOf buff⟩])) :=
      h.bears.mono fun f hf => hf.mono _
    have hqueue := hmono.queue.allocated env.queue (s.splitFrames buff)
      fun f hf g hg => List.mem_singleton.mp hg ▸ h.tells_fragment hmtu hf hlen
    refine h.push (faithful_carrierOf s buff fun _ => hmtu) ⟨hqueue, hmono.sent⟩ rfl rfl
      (Nat.le_succ _) fun id hid => ?_
    have heq : id = UInt16.ofNat s.splitId := by
      rw [Message.splitId?, carrierOf, if_neg hlen] at hid
      split_ifs at hid
      exact (Option.some.inj hid).symm
    rw [heq, UInt16.toNat_ofNat_of_lt' (Nat.lt_of_succ_lt hsplitId)]
    exact ⟨rfl, Nat.lt_succ_self _⟩

/-- **Step lemma**: a call adds its messages. -/
lemma Speaks.step (h : s.Speaks mtu said) (hready : s.Ready) {op : Op} (hop : Short op)
    (hs : s.step op = .ok s') : s'.Speaks mtu (said ++ s.messages op) := by
  cases op with
  | update env => exact h.update hs
  | forceFlush env =>
      rw [messages, List.append_nil]
      exact h.flushQueue hs
  | handle env msg =>
      rw [messages, List.append_nil]
      exact h.of_bearing (h.bears.handle (fun _ => tells_pong) hready hs)
  | disconnect env => exact h.disconnect hs
  | sendSystemPacket env P packet reliability => exact h.sendSystemPacket hop hs
  | sendTo env buff => exact h.sendTo hs

/-- **Run lemma**: the calls that an actor makes add their messages. -/
lemma Speaks.exec (h : s.Speaks mtu said) (hready : s.Ready) (ops : List Op)
    (hops : ∀ op ∈ ops, Short op) (hs : Run.exec turn s ops = .ok s') :
    s'.Speaks mtu (said ++ s.spoken ops) := by
  induction ops generalizing said s with
  | nil =>
      obtain rfl := Except.ok.inj hs
      rwa [spoken, List.append_nil]
  | cons op ops ih =>
      obtain ⟨t, hturn, hrest⟩ := Run.exec_cons.mp hs
      obtain ⟨u, hstep, ht⟩ := bind_eq_ok.mp hturn
      obtain ⟨hop, hrestOps⟩ := List.forall_mem_cons.mp hops
      have hu := h.step hready hop hstep
      have ht' : t.Speaks mtu (said ++ s.messages op) :=
        Except.ok.inj ht ▸ hu.of_bearing ⟨hu.bears.relabel rfl rfl, rfl, rfl, rfl⟩
      have hready' := hready.step hstep
      have hnext := ih ht' (Except.ok.inj ht ▸ ⟨hready'.sane, hready'.max_lt⟩) hrestOps hrest
      rwa [spoken, hturn, ← List.append_assoc]

end Speaks

end Session

end ActixRaknet
