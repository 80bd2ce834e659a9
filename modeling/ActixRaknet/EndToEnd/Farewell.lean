import Mathlib.Data.List.ReduceOption
import ActixRaknet.EndToEnd.Exchange
import ActixRaknet.Session.Goodbyes
/-!
How an exchange ends.

* `Session.posting`: what `handle_packet` posts for a frame, `handlePackets_posts`;
* `Session.Chronicle`: what has been posted, entry by entry: the frames that were handled, in order,
  and the ends that the session itself has made;
* `closes_in_order`: a session that is ended by a goodbye of the other side has first passed on
  everything that was said before it.
-/

namespace ActixRaknet

open Fallible ReceivedQueue
open PacketQueue (Books)

namespace Session

variable {s s' : Session} {env : Env}

/-! ### What is posted -/

/-- What `handle_packet` posts for a frame. -/
def posting (f : Frame) : Option ParentMsg :=
  if Plain f.data then some (.receivedDatagram f)
  else if Ends f.data then some .sessionEnd
  else none

/-- **A frame that is handled** is posted as it is, or as the end of the session, or not at all. -/
lemma handlePacket_posts {f : Frame} (h : handlePacket env s f = .ok s') :
    s'.parent = s.parent ++ (posting f).toList := by
  rw [handlePacket, dispatch] at h
  obtain ⟨id, hid, h⟩ := bind_eq_ok.mp h
  obtain ⟨b, rest, hf⟩ : ∃ b rest, f.data = b :: rest := by
    cases hdata : f.data with
    | nil => simp [hdata, index] at hid
    | cons b rest => exact ⟨b, rest, rfl⟩
  obtain rfl : b = id := by simpa [hf, index] using hid
  have hplain : Plain f.data ↔ b ≠ Packet.ID ConnectedPing ∧ b ≠ Packet.ID ConnectedPong
      ∧ b ≠ Packet.ID Disconnected := by simp [Plain, hf]
  have hends : Ends f.data ↔ b = Packet.ID Disconnected := by simp [Ends, hf]
  rw [posting]
  split_ifs at h with hping hpong hdis
  · have hnot : ¬Ends f.data := fun he => absurd (hping.symm.trans (hends.mp he)) (by decide)
    rw [if_neg (fun hp => (hplain.mp hp).1 hping), if_neg hnot, Option.toList_none,
      List.append_nil]
    rcases unwrapOrReturn_eq_ok h with rfl | ⟨ping, -, h⟩
    · rfl
    · obtain ⟨bytes, -, hsend⟩ := bind_eq_ok.mp h
      obtain ⟨q, -, hs⟩ := bind_eq_ok.mp hsend
      exact (Except.ok.inj hs) ▸ rfl
  · have hnot : ¬Ends f.data := fun he => absurd (hpong.symm.trans (hends.mp he)) (by decide)
    rw [if_neg (fun hp => (hplain.mp hp).2.1 hpong), if_neg hnot, Option.toList_none,
      List.append_nil]
    rcases unwrapOrReturn_eq_ok h with rfl | ⟨pong, -, h⟩
    · rfl
    · exact (Except.ok.inj h) ▸ rfl
  · rw [if_neg (fun hp => (hplain.mp hp).2.2 hdis), if_pos (hends.mpr hdis)]
    -- there is nothing to read, so it always decodes
    rw [hf] at h
    exact (Except.ok.inj h) ▸ rfl
  · rw [if_pos (hplain.mpr ⟨hping, hpong, hdis⟩)]
    exact (Except.ok.inj h) ▸ rfl

lemma handlePackets_posts {l : List Frame} (h : l.foldlM (handlePacket env) s = .ok s') :
    s'.parent = s.parent ++ l.filterMap posting := by
  induction l generalizing s with
  | nil => simp [← Except.ok.inj h]
  | cons f l ih =>
      obtain ⟨s₁, hf, hl⟩ := foldlM_cons_eq_ok.mp h
      rw [ih hl, handlePacket_posts hf, List.append_assoc, List.filterMap_cons]
      cases posting f <;> rfl

lemma disconnect_posts (h : s.disconnect env = .ok s') :
    s'.parent = s.parent ++ [.sessionEnd] := by
  obtain ⟨-, -, q, -, t, hflush, rfl⟩ := disconnect_eq_ok.mp h
  obtain ⟨sets, q', sent, -, rfl⟩ := flushQueue_queue hflush
  rfl

/-- A call that takes in no frame set posts nothing, or the end of a session that says farewell. -/
lemma step_posts {op : Op} (h : s.step op = .ok s')
    (hop : ∀ env msg, op = .handle env msg → ¬Routed msg.bytes) :
    s'.parent = s.parent
      ∨ s'.parent = s.parent ++ [.sessionEnd] ∧ .farewell ∈ s.messages op := by
  cases op with
  | update env =>
      rcases update_cases h with
        ⟨-, rfl⟩ | ⟨hopen, s₁, s₂, s₃, hqueue, hack, hsilence, hping⟩
      · exact .inl rfl
      · have hreceive := lastReceive_flushes hqueue hack
        obtain ⟨sets, q, sent, -, rfl⟩ := flushQueue_queue hqueue
        obtain ⟨sent', rfl⟩ := flushAck_queue hack
        have hlast : s'.parent = s₃.parent := by
          rcases checkPing_eq hping with rfl | ⟨body, q', -, -, rfl⟩ <;> rfl
        rcases hsilence with ⟨hlong, hdisconnect⟩ | ⟨-, rfl⟩
        · right
          have hposts := disconnect_posts hdisconnect
          rw [hreceive] at hlong
          exact ⟨hlast.trans hposts, by simp [messages, Silent, hopen, hlong]⟩
        · exact .inl hlast
  | forceFlush env =>
      obtain ⟨sets, q, sent, -, rfl⟩ := flushQueue_queue h
      exact .inl rfl
  | handle env msg =>
      left
      rcases handle_of_not_routed (hop env msg rfl) h with hack | hnack | rfl
      · rcases unwrapOrReturn_eq_ok hack with rfl | ⟨ack, -, hack⟩
        · rfl
        · obtain ⟨sequences, -, hs⟩ := bind_eq_ok.mp hack
          exact (Except.ok.inj hs) ▸ rfl
      · rcases unwrapOrReturn_eq_ok hnack with rfl | ⟨nack, -, hnack⟩
        · rfl
        · simp only [bind_eq_ok, pure_eq_ok, Except.ok.injEq] at hnack
          obtain ⟨sequences, -, q, -, rfl⟩ := hnack
          rfl
      · rfl
  | disconnect env => exact .inr ⟨disconnect_posts h, by simp [messages]⟩
  | sendSystemPacket env P packet reliability =>
      obtain ⟨body, -, -, -, q, -, rfl⟩ := sendSystemPacket_eq_ok.mp h
      exact .inl rfl
  | sendTo env buff =>
      left
      by_cases hlen : buff.length < s.mtu.toNat - 46
      · obtain ⟨q, -, rfl⟩ := sendTo_whole hlen h
        rfl
      · have hsplit := (sendTo_eq_ok.mp h).2
        rw [if_neg hlen] at hsplit
        obtain ⟨-, -, rfl⟩ := sendSplit_eq_ok.mp hsplit
        rfl

/-- A frame that is handled ends the session only if it says goodbye. -/
lemma handlePacket_ends {f : Frame} (h : handlePacket env s f = .ok s')
    (hs : s'.disconnected = true) : s.disconnected = true ∨ Ends f.data := by
  rw [handlePacket, dispatch] at h
  obtain ⟨id, hid, h⟩ := bind_eq_ok.mp h
  rw [index_zero_eq_ok] at hid
  split_ifs at h with hping hpong hdis
  · left
    rcases unwrapOrReturn_eq_ok h with rfl | ⟨ping, -, h⟩
    · exact hs
    · obtain ⟨bytes, -, hsend⟩ := bind_eq_ok.mp h
      exact (send_posted hsend).2.symm.trans hs
  · left
    rcases unwrapOrReturn_eq_ok h with rfl | ⟨pong, -, h⟩
    · exact hs
    · obtain rfl := Except.ok.inj h
      exact hs
  · exact .inr (hid.trans (congrArg some hdis))
  · obtain rfl := Except.ok.inj h
    exact .inl hs

lemma handlePackets_ends {l : List Frame} (h : l.foldlM (handlePacket env) s = .ok s')
    (hs : s'.disconnected = true) : s.disconnected = true ∨ ∃ f ∈ l, Ends f.data := by
  induction l generalizing s with
  | nil => exact .inl (Except.ok.inj h ▸ hs)
  | cons f l ih =>
      obtain ⟨s₁, hf, hl⟩ := foldlM_cons_eq_ok.mp h
      rcases ih hl with hs₁ | ⟨g, hg, hends⟩
      · exact (handlePacket_ends hf hs₁).imp_right fun hends => ⟨f, List.mem_cons_self, hends⟩
      · exact .inr ⟨g, List.mem_cons_of_mem f hg, hends⟩

/-- **A call that ends a session** tells its owner. -/
lemma step_ends (hready : s.Ready) {op : Op} (h : s.step op = .ok s')
    (hopen : s.disconnected = false) (hs : s'.disconnected = true) : .sessionEnd ∈ s'.parent := by
  have hsame : s'.disconnected = s.disconnected → ParentMsg.sessionEnd ∈ s'.parent := fun heq => by
    rw [heq, hopen] at hs
    cases hs
  cases op with
  | update env =>
      rcases update_cases h with
        ⟨-, rfl⟩ | ⟨-, s₁, s₂, s₃, hqueue, hack, hsilence, hping⟩
      · exact hsame rfl
      · obtain ⟨sets, q, sent, -, rfl⟩ := flushQueue_queue hqueue
        obtain ⟨sent', rfl⟩ := flushAck_queue hack
        have hlast : s'.parent = s₃.parent ∧ s'.disconnected = s₃.disconnected := by
          rcases checkPing_eq hping with rfl | ⟨body, q', -, -, rfl⟩ <;> exact ⟨rfl, rfl⟩
        rcases hsilence with ⟨-, hdisconnect⟩ | ⟨-, rfl⟩
        · rw [hlast.1, disconnect_posts hdisconnect]
          exact List.mem_append_right _ (List.mem_singleton_self _)
        · exact hsame hlast.2
  | forceFlush env =>
      obtain ⟨sets, q, sent, -, rfl⟩ := flushQueue_queue h
      exact hsame rfl
  | handle env msg =>
      by_cases hrouted : Routed msg.bytes
      · have hs' : s.handle env msg = .ok s' := h
        rw [handle_of_routed hrouted] at hs'
        cases hdecode : FrameSet.decode msg.bytes with
        | error e =>
            rw [handleDatagram, hdecode] at hs'
            exact hsame (Except.ok.inj hs' ▸ rfl)
        | ok frameSet =>
            obtain ⟨ackQueue, l, q, -, -, -, heq⟩ := hready.handleDatagram_eq env hdecode
            obtain ⟨t, hfold, rfl⟩ := map_eq_ok.mp (heq.symm.trans hs')
            rcases handlePackets_ends hfold hs with hclosed | ⟨f, hf, hends⟩
            · exact hsame (hs.trans hclosed.symm)
            · have hnot : ¬Plain f.data := fun hplain => hplain.2.2 hends
              show _ ∈ t.parent
              rw [handlePackets_posts hfold]
              refine List.mem_append_right _ (List.mem_filterMap.mpr ⟨f, hf, ?_⟩)
              rw [posting, if_neg hnot, if_pos hends]
      · refine hsame ?_
        rcases handle_of_not_routed hrouted h with hack | hnack | rfl
        · rcases unwrapOrReturn_eq_ok hack with rfl | ⟨ack, -, hack⟩
          · rfl
          · obtain ⟨sequences, -, hs⟩ := bind_eq_ok.mp hack
            exact (Except.ok.inj hs) ▸ rfl
        · rcases unwrapOrReturn_eq_ok hnack with rfl | ⟨nack, -, hnack⟩
          · rfl
          · simp only [bind_eq_ok, pure_eq_ok, Except.ok.injEq] at hnack
            obtain ⟨sequences, -, q, -, rfl⟩ := hnack
            rfl
        · rfl
  | disconnect env =>
      rw [disconnect_posts h]
      exact List.mem_append_right _ (List.mem_singleton_self _)
  | sendSystemPacket env P packet reliability =>
      obtain ⟨body, -, -, -, q, -, rfl⟩ := sendSystemPacket_eq_ok.mp h
      exact hsame rfl
  | sendTo env buff =>
      by_cases hlen : buff.length < s.mtu.toNat - 46
      · obtain ⟨q, -, rfl⟩ := sendTo_whole hlen h
        exact hsame rfl
      · have hsplit := (sendTo_eq_ok.mp h).2
        rw [if_neg hlen] at hsplit
        obtain ⟨-, -, rfl⟩ := sendSplit_eq_ok.mp hsplit
        exact hsame rfl

/-! ### The chronicle -/

/-- What an entry of the chronicle posts: a frame that was handled, or an end that the session
itself has made. -/
def entry : Option Frame → Option ParentMsg
  | some f => posting f
  | none => some .sessionEnd

/-- **The chronicle** of a session that listens to the messages `said` and says `own`: what it has
posted, entry by entry, and of the frames handled the ordered ones carry the messages released. -/
structure Chronicle (said own : List Message) (arrived : Frame → Prop) (s : Session)
    (told : List ParentMsg) (entries : List (Option Frame)) : Prop where
  told_eq : told = entries.filterMap entry
  ended : none ∈ entries → .farewell ∈ own
  handled : (ordered entries.reduceOption).map Frame.data = payloads said s.received.min
  others : ∀ f, some f ∈ entries → f.reliability.sequencedOrOrdered = false → arrived f

variable {said own : List Message} {arrived arrived' : Frame → Prop} {told : List ParentMsg}
  {entries : List (Option Frame)}

lemma chronicle_new (arrived : Frame → Prop) (addr : SocketAddr) (mtu : UInt16)
    (lastPing lastReceive : Instant) :
    Chronicle [] [] arrived (new addr mtu lastPing lastReceive) [] [] where
  told_eq := rfl
  ended h := absurd h List.not_mem_nil
  handled := rfl
  others _ h := absurd h List.not_mem_nil

/-- The peer goes on speaking. -/
lemma Chronicle.extend (h : Chronicle said own arrived s told entries)
    (hmin : s.received.min ≤ said.length) (more : List Message) :
    Chronicle (said ++ more) own arrived s told entries where
  told_eq := h.told_eq
  ended := h.ended
  handled := by rw [h.handled, payloads, payloads, List.take_append_of_le_length hmin]
  others := h.others

/-- **A call** writes the chronicle on. -/
lemma Chronicle.step (h : Chronicle said own arrived s told entries)
    {arrivals log log' : List Frame} (hl : s.Listens said arrivals log)
    {Enters : Frame → Prop} (hr : s.Recites Enters said log') {op : Op}
    (hincoming : ∀ f ∈ op.incoming, f.Tells said)
    (harrived : ∀ f, arrived f ∨ f ∈ op.incoming → arrived' f) (hs : s.step op = .ok s') :
    ∃ entries', Chronicle said (own ++ s.messages op) arrived' { s' with parent := [] }
      (told ++ s'.parent) entries' := by
  have hgrow : ∀ f, some f ∈ entries → f.reliability.sequencedOrOrdered = false → arrived' f :=
    fun f hf hf' => harrived f (.inl (h.others f hf hf'))
  have hown : none ∈ entries → .farewell ∈ own ++ s.messages op := fun hnone =>
    List.mem_append_left _ (h.ended hnone)
  by_cases hset : ∃ env msg, op = .handle env msg ∧ Routed msg.bytes
  · obtain ⟨env, msg, rfl, hrouted⟩ := hset
    have hdatagram : s.handleDatagram env msg.bytes = .ok s' := handle_of_routed hrouted ▸ hs
    rw [Op.incoming, arrives, if_pos hrouted] at hincoming harrived
    cases hdecode : FrameSet.decode msg.bytes with
    | error e =>
        rw [handleDatagram, hdecode] at hdatagram
        obtain rfl := Except.ok.inj hdatagram
        rw [hr.parent, List.append_nil]
        exact ⟨entries, h.told_eq, hown, h.handled, hgrow⟩
    | ok fs =>
        rw [hdecode] at hincoming harrived
        obtain ⟨-, horder⟩ := FrameSet.lt_of_decode hdecode
        obtain ⟨ackQueue, l, q, -, hhanded, -, heq⟩ := hl.ready.handleDatagram_eq env hdecode
        obtain ⟨t, hfold, rfl⟩ := map_eq_ok.mp (heq.symm.trans hdatagram)
        have hposts : t.parent = l.filterMap posting := by
          have hposts := handlePackets_posts hfold
          rwa [show ({ s with ackQueue := ackQueue } : Session).parent = [] from hr.parent,
            List.nil_append] at hposts
        refine ⟨entries ++ l.map some, ?_, fun hnone => hown ?_, ?_, fun f hf hf' => ?_⟩
        · show told ++ t.parent = _
          rw [hposts, h.told_eq, List.filterMap_append, List.filterMap_map]
          rfl
        · simpa using hnone
        · have hsome : (l.map some).reduceOption = l := by simp [List.reduceOption]
          show _ = payloads said q.min
          rw [hl.payloads_handed hr.filtering hdecode hincoming hhanded, List.reduceOption_append,
            hsome, ordered_append, List.map_append, h.handled]
        · rcases List.mem_append.mp hf with hf | hf
          · exact hgrow f hf hf'
          · obtain ⟨g, hg, hgf⟩ := List.mem_map.mp hf
            obtain rfl := Option.some.inj hgf
            exact harrived g (.inr (hr.filtering.mem_of_handed hl.ready.sane horder hhanded hg hf'))
  · have hnot : ∀ env msg, op = .handle env msg → ¬Routed msg.bytes :=
      fun env msg hop hrouted => hset ⟨env, msg, hop, hrouted⟩
    have hhandled : (ordered entries.reduceOption).map Frame.data
        = payloads said s'.received.min := by
      rw [(step_of_not_routed hs hnot).1, h.handled]
    rcases step_posts hs hnot with hparent | ⟨hparent, hfarewell⟩
    · rw [hparent, hr.parent, List.append_nil]
      exact ⟨entries, h.told_eq, hown, hhandled, hgrow⟩
    · rw [hparent, hr.parent, List.nil_append, h.told_eq]
      refine ⟨entries ++ [none], by simp [entry], fun _ => List.mem_append_right _ hfarewell, ?_,
        ?_⟩
      · rw [List.reduceOption_append]
        simpa [List.reduceOption] using hhandled
      · simpa using hgrow

/-- The frames that entries have posted. -/
lemma frames_of_entries (entries : List (Option Frame)) :
    (entries.filterMap entry).filterMap ParentMsg.frame?
      = entries.reduceOption.filter fun f => Plain f.data := by
  induction entries with
  | nil => rfl
  | cons x entries ih =>
      cases x with
      | none => exact ih
      | some f =>
          rw [List.reduceOption_cons_of_some, List.filter_cons, ← ih, List.filterMap_cons, entry,
            posting]
          by_cases hplain : Plain f.data
          · simp [hplain, ParentMsg.frame?]
          · by_cases hends : Ends f.data
            · simp only [hplain, hends, if_true, if_false, decide_false]
              rfl
            · simp [hplain, hends]

/-- What comes before an item of a list of payloads are the payloads of the messages before its
message. -/
lemma payloads_split {said : List Message} {min : ℕ} {bodies rest : List Bytes} {body : Bytes}
    (h : bodies ++ body :: rest = payloads said min) :
    ∃ m, said[bodies.length]? = some m ∧ m.payload = body
      ∧ bodies = payloads said bodies.length := by
  have hlt : bodies.length < min := by
    have hlen := congrArg List.length h
    rw [payloads, List.length_map, List.length_take] at hlen
    simp only [List.length_append, List.length_cons] at hlen
    omega
  have hget := congrArg (fun l => l[bodies.length]?) h
  simp only [List.getElem?_append_right le_rfl, Nat.sub_self, List.getElem?_cons_zero, payloads,
    List.getElem?_map, List.getElem?_take_of_lt hlt] at hget
  obtain ⟨m, hm, hpayload⟩ := Option.map_eq_some_iff.mp hget.symm
  refine ⟨m, hm, hpayload, ?_⟩
  calc bodies
      = (bodies ++ body :: rest).take bodies.length := List.take_left.symm
    _ = payloads said bodies.length := by
        rw [h, payloads, payloads, ← List.map_take, List.take_take, min_eq_left hlt.le]

/-- **Where a chronicle ends**: the session has said farewell itself, or a goodbye has come in, and
if it is an ordered one, all that was said before it has been posted. -/
lemma Chronicle.of_end (h : Chronicle said own arrived s told entries)
    {before after : List ParentMsg} (htold : told = before ++ .sessionEnd :: after) :
    .farewell ∈ own
      ∨ (∃ f, arrived f ∧ f.reliability.sequencedOrOrdered = false ∧ Ends f.data)
      ∨ ∃ n m, said[n]? = some m ∧ Ends m.payload
        ∧ (ordered (before.filterMap ParentMsg.frame?)).map Frame.data
          = (payloads said n).filter (Plain ·) := by
  obtain ⟨early, late, rfl, hearly, hlate⟩ :=
    List.filterMap_eq_append_iff.mp (h.told_eq.symm.trans htold)
  obtain ⟨silent, last, rest, rfl, hsilent, hlast, -⟩ := List.filterMap_eq_cons_iff.mp hlate
  cases last with
  | none => exact .inl (h.ended (by simp))
  | some f =>
      have hends : Ends f.data := by
        by_contra hnot
        by_cases hplain : Plain f.data <;> simp [entry, posting, hplain, hnot] at hlast
      by_cases hf : f.reliability.sequencedOrOrdered = true
      · obtain ⟨R, hR⟩ : ∃ R, (ordered (early ++ silent).reduceOption).map Frame.data ++ f.data :: R
            = payloads said s.received.min := by
          refine ⟨(ordered rest.reduceOption).map Frame.data, ?_⟩
          rw [← h.handled, ← List.append_assoc, List.reduceOption_append (early ++ silent),
            List.reduceOption_cons_of_some, ordered_append, List.map_append, ordered,
            ordered, ordered, List.filter_cons_of_pos (by simpa using hf), List.map_cons]
        obtain ⟨m, hm, hpayload, hbodies⟩ := payloads_split hR
        refine .inr (.inr ⟨_, m, hm, hpayload ▸ hends, ?_⟩)
        have hbefore : (early ++ silent).filterMap entry = before := by
          rw [List.filterMap_append, hearly, List.filterMap_eq_nil_iff.mpr hsilent, List.append_nil]
        rw [← hbodies, ← hbefore, frames_of_entries,
          ordered_filter_data fun body => decide (Plain body)]
      · rw [Bool.not_eq_true] at hf
        exact .inr (.inl ⟨f, h.others f (by simp) hf, hf, hends⟩)

end Session

namespace Exchange

variable {e e' : Exchange} {b : Side → Books}

/-- What each side has told its owner has a chronicle. -/
def Chronicled (e : Exchange) : Prop :=
  ∀ side : Side, ∃ entries, Session.Chronicle (e side).said (e side.peer).said
    (Arrives (e side.peer)) (e side.peer).session (e side.peer).told entries

/-- **Step lemma**: an admissible call writes the chronicles on. -/
lemma Agrees.chronicled (h : e.Agrees b) (hc : e.Chronicled) {a : Side × Session.Op}
    (ha : e.Admissible a) (hs : Exchange.step e a = .ok e') : e'.Chronicled := by
  obtain ⟨c, op⟩ := a
  obtain ⟨-, -, hsent⟩ := ha
  obtain ⟨p, hp, rfl⟩ := map_eq_ok.mp hs
  obtain ⟨s, hstep, hsession, hsaid, harrived, htold⟩ := party_step hp
  intro side
  obtain ⟨entries, hentries⟩ := hc side
  rcases Side.eq_or_eq_peer side c with rfl | rfl
  · rw [Function.update_self, Function.update_of_ne (Side.peer_ne c), hsaid]
    exact ⟨entries, hentries.extend (h c).listens.min_le _⟩
  · have hflow := h side
    rw [Side.peer_peer] at hsent
    rw [Function.update_self, Function.update_of_ne (Side.peer_ne side).symm, hsession, htold,
      hsaid]
    refine hentries.step hflow.listens hflow.recites (hflow.tells hsent) (fun f hf => ?_) hstep
    rw [Arrives, harrived]
    exact List.mem_append.mpr hf

/-- **A goodbye comes last.**  In every state of every run, whenever a side has been told the end of
the session: the session has said farewell itself, or an unordered goodbye has come in, or a message
of the other side says goodbye, and all plain messages before it have been passed on by then. -/
theorem closes_in_order (addr : Side → SocketAddr) (mtu : Side → UInt16)
    (ping receive : Side → Instant) (hmtu : ∀ side, (mtu side).toNat ≤ 8191)
    (actions : List (Side × Session.Op))
    (hadmissible : Run.Along step Admissible (new addr mtu ping receive) actions) :
    Run.Always step (fun e => ∀ (side : Side) (before after : List ParentMsg),
        (e side.peer).told = before ++ .sessionEnd :: after →
          .farewell ∈ (e side.peer).said
            ∨ (∃ f ∈ (e side.peer).arrived, f.reliability.sequencedOrOrdered = false
              ∧ Session.Ends f.data)
            ∨ ∃ n m, (e side).said[n]? = some m ∧ Session.Ends m.payload
              ∧ (ordered (before.filterMap ParentMsg.frame?)).map Frame.data
                = (payloads (e side).said n).filter (Session.Plain ·))
      (new addr mtu ping receive) actions := by
  have hall : Run.Always step (fun e => (∃ b, e.Agrees b) ∧ e.Chronicled)
      (new addr mtu ping receive) actions := by
    refine Run.always_of_along (fun t a t' ht ha hs => ?_)
      ⟨⟨_, agrees_new addr mtu ping receive hmtu⟩,
        fun side => ⟨[], Session.chronicle_new _ _ _ _ _⟩⟩ hadmissible
    obtain ⟨⟨b, hb⟩, hc⟩ := ht
    obtain ⟨b', hb', -⟩ := hb.step ha hs
    exact ⟨⟨b', hb'⟩, hb.chronicled hc ha hs⟩
  refine hall.mono fun t ht side before after htold => ?_
  obtain ⟨entries, hentries⟩ := ht.2 side
  exact hentries.of_end htold

/-- The goodbye overtakes the message on the way: the session waits for the message. -/
theorem closes_in_order_sample :
    let addr : SocketAddr := .v4 ⟨127, 0, 0, 1⟩ 19132
    let message : UdpPacket := ⟨[132, 0, 0, 0, 96, 0, 16, 0, 0, 0, 0, 0, 0, 0, 7, 1], addr⟩
    let goodbye : UdpPacket := ⟨[132, 1, 0, 0, 96, 0, 8, 1, 0, 0, 1, 0, 0, 0, 21], addr⟩
    let actions := [(Side.left, .sendTo default [7, 1]), (.left, .update default),
      (.left, .disconnect default), (.right, .handle default goodbye),
      (.right, .handle default message)]
    let start := new (fun _ => addr) (fun _ => 1400) (fun _ => 0) fun _ => 0
    (Run.exec step start actions).map (fun e => ((e .right).told.length, (e .right).told.getLast?))
        = .ok (2, some .sessionEnd)
      ∧ Run.Always step (fun e => ∀ (side : Side) (before after : List ParentMsg),
          (e side.peer).told = before ++ .sessionEnd :: after →
            .farewell ∈ (e side.peer).said
              ∨ (∃ f ∈ (e side.peer).arrived, f.reliability.sequencedOrOrdered = false
                ∧ Session.Ends f.data)
              ∨ ∃ n m, (e side).said[n]? = some m ∧ Session.Ends m.payload
                ∧ (ordered (before.filterMap ParentMsg.frame?)).map Frame.data
                  = (payloads (e side).said n).filter (Session.Plain ·)) start actions :=
  ⟨by decide +kernel, closes_in_order _ _ _ _ (by decide) _ (by decide +kernel)⟩

end Exchange

end ActixRaknet
