import ActixRaknet.Client.Basic
import ActixRaknet.Handshake.Basic
import ActixRaknet.Session.Counters

/-!
The arithmetic that `send_to`, `send_system_packet` and `disconnect` do with the mtu of a session,
and the mtu that the open handshake gives to sessions.

* `Session.Unspent`: the counters are far from the ends of their types, so that a panic of a call is
  due to the mtu;
* `Session.Sturdy`: no run of a session makes one of the three calls panic so; `sturdy_iff`: a new
  session is sturdy exactly when its mtu is at least 62;
* `negotiated_mtu_iff`: which mtu of an `OpenConnectionRequest2` or an `OpenConnectionReply2` gives
  a sturdy session.
-/

namespace ActixRaknet

open Fallible

namespace PacketQueue

variable {q q' : PacketQueue} {clock : Clock}

/-- The open set is one set at most. -/
lemma length_batch_le (q : PacketQueue) : q.batch.length ≤ 1 := by
  rw [batch]
  split_ifs <;> simp

/-- A frame that is added adds at most one number to those of the next flush. -/
lemma reach_addFrame {f : Frame} (hq : q.addFrame clock f = .ok q') (tick : Clock) :
    q'.reach tick ≤ q.reach tick + 1 := by
  obtain ⟨-, ⟨-, rfl⟩ | ⟨-, -, rfl⟩⟩ := addFrame_eq_ok.mp hq
  · have hopen := length_batch_le { q with
      setSize := q.setSize + f.length
      setQueue := q.setQueue ++ [f] }
    rw [reach, reach]
    change q.max + _ + (q.overdue tick).length ≤ _
    omega
  · have hdue : ((q.allocate clock (setHeader f.split) [f]).overdue tick).length
        ≤ (q.overdue tick).length :=
      HashMap.length_keysWhere_insert_le q.timePassed q.max
        (p := fun _ elem => due tick elem) (v := (clock.stamp q.max, false)) rfl
    rw [reach, reach]
    change q.max + 1 + q.batch.length + _ ≤ _
    omega

end PacketQueue

namespace Session

variable {s s' : Session} {env : Env}

/-- The counters of the session, and the numbers of the next flush, are further from the ends of
their types than one call can take them. -/
structure Unspent (s : Session) (clock : PacketQueue.Clock) : Prop where
  messageIndex_lt : s.messageIndex + 2 ^ 16 < 2 ^ 32
  orderIndex_lt : s.orderIndex + 1 < 2 ^ 32
  splitId_lt : s.splitId + 1 < 2 ^ 16
  reach_lt : s.packetQueue.reach clock + 2 ^ 16 < 2 ^ 32

/-- The call neither overflows nor underflows, and it divides by no zero. -/
def Computes (x : Except Panic Session) : Prop := x ≠ .error .overflow ∧ x ≠ .error .divByZero

/-- The three calls compute with the mtu: while the counters are unspent, and the packet can be
encoded, nothing overflows, underflows or is divided by zero. -/
def Steady (s : Session) : Op → Prop
  | .sendTo env buff => s.Unspent env.queue → Computes (s.sendTo env buff)
  | @Op.sendSystemPacket env _ _ packet reliability => s.Unspent env.queue →
    (∃ body, encode packet = .ok body) → Computes (s.sendSystemPacket env packet reliability)
  | .disconnect env => s.Unspent env.closing → Computes (s.disconnect env)
  | .update _ | .forceFlush _ | .handle _ _ => True

/-- **A sturdy session**: in every run, whatever calls it mixes, the three calls compute with the
mtu. -/
def Sturdy (s : Session) : Prop := ∀ ops, Run.Attempted step Steady s ops

/-- What has completed has computed. -/
lemma computes_of_ok {x : Except Panic Session} (h : x = .ok s) : Computes x := by
  rw [h]
  exact ⟨by simp, by simp⟩

/-- How many fragments a buffer can have. -/
lemma length_splitFrames_le (s : Session) (buff : Bytes) :
    (s.splitFrames buff).length ≤ 2 ^ 16 := by
  rw [splitFrames_length, fragmentCount]
  have hlen : buff.length % 2 ^ 16 < 2 ^ 16 := Nat.mod_lt _ (Nat.two_pow_pos 16)
  have hdiv := Nat.div_le_self (buff.length % 2 ^ 16) (s.mtu.toNat - 61)
  split_ifs <;> omega

/-- A flush that is not short of numbers neither overflows nor divides. -/
lemma Counted.computes_flushQueue (h : s.Counted) {clock : PacketQueue.Clock}
    (order : IterOrder ℕ) (hreach : s.packetQueue.reach clock < 2 ^ 32) :
    Computes (s.flushQueue clock order) := by
  have hget : Ends (fun _ => True) (fun e => e = .unwrapNone ∨ e = .assertion)
      (s.packetQueue.getPacket clock order) := by
    refine ((h.tidy.getPacket clock order).weaken fun e he => ?_).mono fun _ _ _ => trivial
    rcases he with he | ⟨-, hover⟩
    · exact Or.inl he
    · exact absurd hover (not_le.mpr hreach)
  have hflush : Ends (fun _ => True) (fun e => e = .unwrapNone ∨ e = .assertion)
      (s.flushQueue clock order) := by
    refine hget.bind fun r _ _ => Ends.foldlM (I := fun _ _ => True) (n := 0) (Nat.zero_add _)
      (fun _ t fs _ _ _ => ends_iff.mpr ⟨fun _ _ => trivial, fun e he => Or.inr ?_⟩) trivial
    rcases bind_eq_error.mp he with he | ⟨bytes, -, he⟩
    · exact FrameSet.encode_eq_error he
    · cases he
  exact ⟨hflush.ne_error (by simp), hflush.ne_error (by simp)⟩

/-- A disconnect whose frame is queued fails only in its flush. -/
lemma disconnect_eq_error {e : Panic} {q : PacketQueue} (hmessage : s.messageIndex + 1 < 2 ^ 32)
    (horder : s.orderIndex + 1 < 2 ^ 32)
    (hq : s.packetQueue.addFrame env.closing s.closingFrame = .ok q)
    (h : s.disconnect env = .error e) : flushQueue { s with
        messageIndex := s.messageIndex + 1
        orderIndex := s.orderIndex + 1
        packetQueue := q } env.closing env.closingOrder = .error e := by
  have hbody : encode Disconnected.mk = .ok [Packet.ID Disconnected] := encode_eq writes_pure
  rw [closingFrame] at hq
  rw [disconnect, hbody, ok_bind, u32Add_of_lt hmessage, ok_bind, u32Add_of_lt horder, ok_bind,
    send, hq, ok_bind, pure_eq_ok, ok_bind] at h
  rcases bind_eq_error.mp h with h | ⟨t, -, ht⟩
  · exact h
  · cases ht

/-- With an mtu of at least 62 the three calls compute. -/
lemma Counted.steady (h : s.Counted) (hmtu : 62 ≤ s.mtu.toNat) (op : Op) : s.Steady op := by
  have hadmits : ∀ clock, s.Unspent clock → s.Admits := by
    intro clock hs
    have hmessage := hs.messageIndex_lt
    have hreach := hs.reach_lt
    rw [PacketQueue.reach] at hreach
    exact ⟨by omega, by omega, hs.orderIndex_lt, by omega⟩
  cases op with
  | sendTo env buff =>
      intro hs
      obtain ⟨s', hs'⟩ : ∃ s', s.sendTo env buff = .ok s' := by
        refine h.exists_sendTo ?_
        rw [Affords]
        split_ifs
        · exact ⟨by omega, hadmits env.queue hs⟩
        · have hmessage := hs.messageIndex_lt
          have hreach := hs.reach_lt
          have hcount := s.length_splitFrames_le buff
          rw [PacketQueue.reach] at hreach
          exact ⟨by omega, fun _ => by rw [h.mtu]; omega, fun _ => by omega, fun _ => by omega,
            hs.splitId_lt, hs.orderIndex_lt⟩
      exact computes_of_ok hs'
  | sendSystemPacket env P packet reliability =>
      intro hs hbody
      obtain ⟨s', hs'⟩ : ∃ s', s.sendSystemPacket env packet reliability = .ok s' :=
        h.exists_sendSystemPacket ⟨hbody, hadmits env.queue hs⟩
      exact computes_of_ok hs'
  | disconnect env =>
      intro hs
      have hadmit := hadmits env.closing hs
      obtain ⟨q, hq⟩ := h.exists_addFrame hadmit env.closing s.closingFrame
      have hreach := PacketQueue.reach_addFrame hq env.closing
      have hroom := hs.reach_lt
      have hflush := (h.closing hq).computes_flushQueue env.closingOrder
        (hreach.trans_lt (by omega))
      have herror := fun e => disconnect_eq_error (e := e) hadmit.messageIndex_lt
        hadmit.orderIndex_lt hq
      exact ⟨fun he => hflush.1 (herror _ he), fun he => hflush.2 (herror _ he)⟩
  | update env => trivial
  | forceFlush env => trivial
  | handle env msg => trivial

/-- In every run of a session with an mtu of at least 62 the three calls compute. -/
lemma Counted.sturdy (h : s.Counted) (hmtu : 62 ≤ s.mtu.toNat) : s.Sturdy := fun _ =>
  Run.attempted_of_invariant (I := fun s => s.Counted ∧ 62 ≤ s.mtu.toNat)
    (fun _ _ _ hI hs => (hI.1.step hs).imp_right fun heq => heq ▸ hI.2)
    (fun _ op hI => hI.1.steady hI.2 op) ⟨h, hmtu⟩

/-- With a smaller mtu a buffer of a few bytes is enough: the room of a fragment underflows, or no
byte is left for it. -/
lemma not_computes_sendTo (hmtu : s.mtu.toNat < 62) {buff : Bytes} (hlen : 16 ≤ buff.length) :
    ¬Computes (s.sendTo env buff) := by
  have hsub : ∀ {a b : ℕ}, ¬b ≤ a → u16Sub a b = .error .overflow := fun h => if_neg h
  rintro ⟨hover, hzero⟩
  rw [sendTo] at hover hzero
  by_cases h14 : 14 ≤ s.mtu.toNat
  swap
  · exact hover (by rw [hsub h14]; rfl)
  rw [u16Sub_of_le h14, ok_bind] at hover hzero
  by_cases h46 : 32 ≤ s.mtu.toNat - 14
  swap
  · exact hover (by rw [hsub h46]; rfl)
  rw [u16Sub_of_le h46, ok_bind, if_neg (by omega), sendSplit, u16Sub_of_le (by omega), ok_bind]
    at hover hzero
  by_cases h56 : 32 ≤ s.mtu.toNat - 24
  swap
  · exact hover (by rw [hsub h56]; rfl)
  rw [u16Sub_of_le h56, ok_bind] at hover hzero
  by_cases h61 : 5 ≤ s.mtu.toNat - 24 - 32
  swap
  · exact hover (by rw [hsub h61]; rfl)
  have hmax : s.mtu.toNat - 24 - 32 - 5 = 0 := by omega
  rw [u16Sub_of_le h61, ok_bind, hmax] at hzero
  exact hzero rfl

/-- **The smallest mtu**: a new session is sturdy exactly when its mtu is at least 62. -/
lemma sturdy_new_iff {addr : SocketAddr} {mtu : UInt16} {lastPing lastReceive : Instant} :
    Sturdy (new addr mtu lastPing lastReceive) ↔ 62 ≤ mtu.toNat := by
  constructor
  · intro h
    by_contra hmtu
    have hreach : 0 + 2 ^ 16 < 2 ^ 32 := by decide
    have hone : 0 + 1 < 2 ^ 32 := by decide
    have hunspent : Unspent (new addr mtu lastPing lastReceive) (default : Env).queue :=
      ⟨hreach, hone, by show 0 + 1 < 2 ^ 16; decide, hreach⟩
    exact not_computes_sendTo (not_le.mp hmtu) (List.length_replicate (n := 16) (a := 0)).ge
      ((h [.sendTo default (List.replicate 16 0)]).1 hunspent)
  · exact (counted_new addr mtu lastPing lastReceive).sturdy

end Session

/-! ### The handshake -/

namespace RakServer

variable {s s' : RakServer} {env : Env}

/-- The connection that an `OpenConnectionRequest2` creates has a new session with the mtu of the
request. -/
lemma session_of_request2 {msg : UdpPacket} {request2 : OpenConnectionRequest2} {c : ServerConn}
    (hid : msg.bytes.head? = some (Packet.ID OpenConnectionRequest2))
    (hdecode : decode OpenConnectionRequest2 msg.bytes = .ok (.ok request2))
    (hs : s.handleReceivedUdp env msg = .ok s') (hc : s'.connections = s.connections ++ [c]) :
    c.session = .new msg.addr request2.mtu env.lastPing env.lastReceive := by
  have hgrown : s.connections.length + 1 = s'.connections.length := by
    rw [hc, List.length_append, List.length_singleton]
  rw [handleReceivedUdp] at hs
  split at hs
  · -- a registered address is passed on
    obtain rfl := Except.ok.inj hs
    rw [sendConn, List.length_modify] at hgrown
    omega
  · rw [index_zero_eq_ok.mpr hid, ok_bind, if_neg (by decide), if_neg (by decide), if_pos rfl,
      unwrapOrReturn, hdecode] at hs
    change s.handleRequest2 env msg.addr request2 = .ok s' at hs
    rw [handleRequest2] at hs
    split_ifs at hs
    · obtain ⟨bytes, rfl⟩ := reply_eq_ok hs
      exact absurd hgrown (Nat.succ_ne_self _)
    · obtain ⟨t, ht, hs⟩ := bind_eq_ok.mp hs
      obtain ⟨bytes, rfl⟩ := reply_eq_ok ht
      obtain ⟨w, -, hs⟩ := bind_eq_ok.mp hs
      obtain rfl := Except.ok.inj hs
      obtain rfl := List.singleton_inj.mp (List.append_cancel_left hc)
      rfl

end RakServer

namespace RakClient

/-- A success is handled, and its session is sturdy, if the mtu is large enough. -/
lemma exists_handleSuccess {c : RakClient} {remote : SocketAddr} (hremote : c.remote = some remote)
    (env : Env) (attempt : ℕ) {mtu : UInt16} (hmtu : 62 ≤ mtu.toNat) :
    ∃ c' session, c.handleSuccess env attempt mtu = .ok c' ∧ c'.session = some session
      ∧ session.Sturdy := by
  have hnew := Session.counted_new remote mtu env.lastPing env.lastReceive
  have hbody : encode (ConnectionRequest.new c.guid env.requestTime false) = .ok _ :=
    encode_eq (writes_connectionRequest _)
  have hone : 0 + 1 < 2 ^ 32 := by decide
  have hadmits : (Session.new remote mtu env.lastPing env.lastReceive).Admits :=
    ⟨by show 42 ≤ mtu.toNat; omega, hone, hone, hone⟩
  obtain ⟨s, hs⟩ : ∃ s, (Session.new remote mtu env.lastPing env.lastReceive).sendSystemPacket
      env.session (ConnectionRequest.new c.guid env.requestTime false) .reliable = .ok s :=
    hnew.exists_sendSystemPacket ⟨⟨_, hbody⟩, hadmits⟩
  have hstep : (Session.new remote mtu env.lastPing env.lastReceive).step (.sendSystemPacket
      env.session ConnectionRequest (.new c.guid env.requestTime false) .reliable) = .ok s := hs
  obtain ⟨hcounted, heq⟩ := hnew.step hstep
  have hput : Session.Counted { s with parent := [] } :=
    ⟨⟨hcounted.ready.sane, hcounted.ready.max_lt⟩, hcounted.mtu, hcounted.tidy, hcounted.frames,
      hcounted.highest⟩
  have hmtu' : 62 ≤ s.mtu.toNat := by
    rw [heq]
    exact hmtu
  refine ⟨(putSession { c with attempt := attempt } s).startTimers, { s with parent := [] }, ?_,
    rfl, hput.sturdy hmtu'⟩
  refine bind_eq_ok.mpr ⟨remote, by rw [hremote]; rfl, bind_eq_ok.mpr ⟨s, ?_, rfl⟩⟩
  rw [hs]
  rfl

end RakClient

/-- **The negotiated mtu.**  A connection that the server creates for an `OpenConnectionRequest2` is
sturdy exactly when the mtu of the request is at least 62.  An `OpenConnectionReply2` that a client
accepts leads to a sturdy session, whatever the client that handles the success, exactly when its
mtu leaves room for the 96 bytes that the mediator adds. -/
theorem negotiated_mtu_iff (mtu : UInt16) :
    (∀ (s s' : RakServer) (env : RakServer.Env) (msg : UdpPacket)
        (request2 : OpenConnectionRequest2) (c : ServerConn),
      msg.bytes.head? = some (Packet.ID OpenConnectionRequest2) →
      decode OpenConnectionRequest2 msg.bytes = .ok (.ok request2) → request2.mtu = mtu →
      s.handleReceivedUdp env msg = .ok s' → s'.connections = s.connections ++ [c] →
      (c.session.Sturdy ↔ 62 ≤ mtu.toNat))
    ∧ ∀ (m : ClientMediator) (msg : UdpPacket) (reply2 : OpenConnectionReply2),
      m.nextRequest1Handle.isSome → m.disconnectTimer.isSome →
      msg.bytes.head? = some (Packet.ID OpenConnectionReply2) →
      decode OpenConnectionReply2 msg.bytes = .ok (.ok reply2) → reply2.mtu = mtu →
      ((∃ m' raised, m.handleReceivedUdp msg = .ok m'
          ∧ m'.parent = m.parent ++ [.success raised]
          ∧ ∀ (c : RakClient) env attempt, c.remote.isSome →
            ∃ c' session, c.handleSuccess env attempt raised = .ok c' ∧ c'.session = some session
              ∧ session.Sturdy)
        ↔ mtu.toNat + 96 < 2 ^ 16) := by
  constructor
  · rintro s s' env msg request2 c hid hdecode rfl hs hc
    rw [RakServer.session_of_request2 hid hdecode hs hc]
    exact Session.sturdy_new_iff
  · rintro m msg reply2 hhandle htimer hid hdecode rfl
    obtain ⟨handle, hhandle⟩ := Option.isSome_iff_exists.mp hhandle
    obtain ⟨timer, htimer⟩ := Option.isSome_iff_exists.mp htimer
    rw [ClientMediator.handleReceivedUdp, index_zero_eq_ok.mpr hid, ok_bind, if_neg (by decide),
      if_pos rfl, ClientMediator.onReply, hhandle]
    simp only [unwrapOrReturn, hdecode, u16Add]
    split_ifs with hroom
    · refine iff_of_true ⟨_, .ofNat (reply2.mtu.toNat + 96), rfl, ?_,
        fun c env attempt hremote => ?_⟩ hroom
      · rw [ClientMediator.success, htimer]
        rfl
      · obtain ⟨remote, hremote⟩ := Option.isSome_iff_exists.mp hremote
        refine RakClient.exists_handleSuccess hremote env attempt ?_
        rw [UInt16.toNat_ofNat_of_lt' hroom]
        omega
    · exact iff_of_false (by rintro ⟨_, _, ⟨⟩, -⟩) hroom

/-- A second request makes a fresh server create a connection with the mtu of the request. -/
lemma RakServer.exists_register (mtu : UInt16) : ∃ s',
    (new 9 "motd" 1).handleReceivedUdp default
        ⟨request2Bytes (.v4 ⟨127, 0, 0, 1⟩ 19132) mtu 7, .v4 ⟨127, 0, 0, 1⟩ 50000⟩ = .ok s'
      ∧ s'.connections = [.new mtu 7 (.v4 ⟨127, 0, 0, 1⟩ 50000) 0 0] := by
  rw [handle_request2 rfl]
  exact ⟨_, rfl, rfl⟩

/-- A mediator that has asked and waits for a reply. -/
def ClientMediator.waiting : ClientMediator :=
  { new 7 (.v4 ⟨127, 0, 0, 1⟩ 19132) with
    disconnectTimer := some 0
    nextRequest1Handle := some 1 }

/-- The theorem for a request with the smallest mtu and a reply with the largest. -/
theorem negotiated_mtu_iff_sample :
    (∃ c : ServerConn, c.session.mtu = 62 ∧ c.session.Sturdy)
      ∧ ∃ m' mtu, ClientMediator.waiting.handleReceivedUdp
          ⟨reply2Bytes 9 (.v4 ⟨127, 0, 0, 1⟩ 50000) 65439, .v4 ⟨127, 0, 0, 1⟩ 19132⟩ = .ok m'
        ∧ m'.parent = ClientMediator.waiting.parent ++ [.success mtu] := by
  obtain ⟨s', hs', hc⟩ := RakServer.exists_register 62
  have hsturdy := ((negotiated_mtu_iff 62).1 _ s' default _ _ _ rfl
    (decode_request2_v4 _ _ 62 7) rfl hs' hc).mpr (by decide)
  obtain ⟨m', mtu, hm', hparent, -⟩ := ((negotiated_mtu_iff 65439).2 ClientMediator.waiting
    ⟨reply2Bytes 9 (.v4 ⟨127, 0, 0, 1⟩ 50000) 65439, .v4 ⟨127, 0, 0, 1⟩ 19132⟩ _ rfl rfl rfl
    ((roundTrips_reply2 (p := .new 9 (.v4 ⟨127, 0, 0, 1⟩ 50000) 65439 false) rfl rfl).read_eq
      (writes_reply2 _)) rfl).mpr (by decide)
  exact ⟨⟨_, rfl, hsturdy⟩, m', mtu, hm', hparent⟩

/-- With an mtu of 61 the divisor is zero, with 41 no frame is queued and a disconnect overflows as
well, and an mtu of 65440 has no room for the 96 bytes. -/
theorem negotiated_mtu_counterexample :
    (∃ s' c, (RakServer.new 9 "motd" 1).handleReceivedUdp default
          ⟨request2Bytes (.v4 ⟨127, 0, 0, 1⟩ 19132) 61 7, .v4 ⟨127, 0, 0, 1⟩ 50000⟩ = .ok s'
        ∧ s'.connections = [c]
        ∧ c.session.sendTo default (List.replicate 16 0) = .error .divByZero)
      ∧ (∃ s' c, (RakServer.new 9 "motd" 1).handleReceivedUdp default
          ⟨request2Bytes (.v4 ⟨127, 0, 0, 1⟩ 19132) 41 7, .v4 ⟨127, 0, 0, 1⟩ 50000⟩ = .ok s'
        ∧ s'.connections = [c] ∧ c.session.disconnect default = .error .overflow)
      ∧ ClientMediator.waiting.handleReceivedUdp
        ⟨reply2Bytes 9 (.v4 ⟨127, 0, 0, 1⟩ 50000) 65440, .v4 ⟨127, 0, 0, 1⟩ 19132⟩
          = .error .overflow := by
  obtain ⟨s₁, hs₁, hc₁⟩ := RakServer.exists_register 61
  obtain ⟨s₂, hs₂, hc₂⟩ := RakServer.exists_register 41
  refine ⟨⟨s₁, _, hs₁, hc₁, ?_⟩, ⟨s₂, _, hs₂, hc₂, ?_⟩, ?_⟩
  · decide +kernel
  · decide +kernel
  · decide +kernel

end ActixRaknet
