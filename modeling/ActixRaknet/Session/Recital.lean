import ActixRaknet.Session.Duplicates
import ActixRaknet.Session.Listening

/-!
What a session passes on, frame by frame.

* `OrderedOnly.exec_receive`: of the frames that are handed on, the ordered ones are those that the
  receive queue releases;
* `Session.Recites`: of the frames passed on, the ordered ones carry the plain ones of the messages
  that have been released, no more, and the others have come in; `Recites.step`, `Recites.exec`.
-/

namespace ActixRaknet

open Fallible ReceivedQueue

namespace ReceivedQueue

lemma ordered_append (fs gs : List Frame) : ordered (fs ++ gs) = ordered fs ++ ordered gs :=
  List.filter_append ..

/-- The ordered ones among the frames whose bytes satisfy `P`. -/
lemma ordered_filter_data (P : Bytes → Bool) (fs : List Frame) :
    (ordered (fs.filter fun f => P f.data)).map Frame.data
      = ((ordered fs).map Frame.data).filter P := by
  rw [ordered, ordered, List.filter_map, List.filter_filter, List.filter_filter]
  exact congrArg _ (List.filter_congr fun f _ => Bool.and_comm _ _)

/-- A frame that is not ordered is handed on itself, and for an ordered one what the queue releases.
-/
lemma OrderedOnly.hand_cases {q q' : ReceivedQueue} {f : Frame} {l : List Frame}
    (h : q.OrderedOnly) (hq : q.splits.Draining) (hhand : q.hand f = .ok (l, q')) :
    (f.reliability.sequencedOrOrdered = false ∧ l = [f] ∧ q' = q)
      ∨ (f.reliability.sequencedOrOrdered = true ∧ ordered l = l
        ∧ ∀ released, receive (released, q) f = .ok (released ++ l, q')) := by
  cases hordered : f.reliability.sequencedOrOrdered with
  | false =>
      rw [ReceivedQueue.hand, hordered, if_neg Bool.false_ne_true] at hhand
      obtain ⟨rfl, rfl⟩ := Prod.mk.inj (Except.ok.inj hhand)
      exact Or.inl ⟨rfl, rfl, rfl⟩
  | true =>
      rw [ReceivedQueue.hand, if_pos hordered] at hhand
      obtain ⟨q₁, hadd, hall⟩ := bind_eq_ok.mp hhand
      have hall' : q₁.getAll = (l, q') := Except.ok.inj hall
      have hreleased := (h.add hq hordered hadd).getAll.1
      rw [hall'] at hreleased
      refine Or.inr ⟨rfl, List.filter_eq_self.mpr hreleased, fun released => ?_⟩
      rw [receive, hadd, ok_bind, hall']
      rfl

section Handed

variable {q q' : ReceivedQueue} {fs l : List Frame}

/-- **What is handed on of the frames of a datagram**: the ordered ones are what the queue releases.
-/
lemma OrderedOnly.exec_receive (h : q.OrderedOnly) (hq : q.Sane)
    (hfs : ∀ f ∈ fs, f.orderIndex < 2 ^ 24) (hhanded : q.handed fs = .ok (l, q'))
    (released : List Frame) :
    Run.exec receive (released, q) (ordered fs) = .ok (released ++ ordered l, q') := by
  induction fs generalizing q l released with
  | nil =>
      obtain ⟨rfl, rfl⟩ := Prod.mk.inj (Except.ok.inj hhanded)
      rw [ordered, List.filter_nil, List.append_nil, Run.exec_nil]
  | cons f fs ih =>
      obtain ⟨hf, hrest⟩ := List.forall_mem_cons.mp hfs
      obtain ⟨ret, q₁, tail, hhand, hhanded₁, rfl⟩ := handed_cons_eq_ok.mp hhanded
      obtain ⟨-, h₁⟩ := h.hand hq.draining hhand
      obtain ⟨_, _, hhand', hsane⟩ := hq.hand hf
      obtain ⟨-, rfl⟩ := Prod.mk.inj (Except.ok.inj (hhand.symm.trans hhand'))
      have hnext := ih h₁ hsane hrest hhanded₁ (released ++ ordered ret)
      rw [List.append_assoc, ← ordered_append] at hnext
      rcases h.hand_cases hq.draining hhand with ⟨hordered, rfl, rfl⟩ | ⟨hordered, hret, hreceive⟩
      · have hskip : ∀ gs, ordered (f :: gs) = ordered gs := fun gs =>
          List.filter_cons_of_neg (by rw [hordered]; exact Bool.false_ne_true)
        have hnil : ordered [f] = [] := hskip []
        rw [hnil, List.append_nil] at hnext
        rwa [hskip fs]
      · have htake : ordered (f :: fs) = f :: ordered fs := List.filter_cons_of_pos hordered
        rw [hret] at hnext
        rw [htake, Run.exec_cons]
        exact ⟨_, hreceive released, hnext⟩

/-- The others are frames of the datagram. -/
lemma OrderedOnly.mem_of_handed (h : q.OrderedOnly) (hq : q.Sane)
    (hfs : ∀ f ∈ fs, f.orderIndex < 2 ^ 24) (hhanded : q.handed fs = .ok (l, q')) {g : Frame}
    (hg : g ∈ l) (hordered : g.reliability.sequencedOrOrdered = false) : g ∈ fs := by
  induction fs generalizing q l with
  | nil =>
      obtain ⟨rfl, rfl⟩ := Prod.mk.inj (Except.ok.inj hhanded)
      exact hg
  | cons f fs ih =>
      obtain ⟨hf, hrest⟩ := List.forall_mem_cons.mp hfs
      obtain ⟨ret, q₁, tail, hhand, hhanded₁, rfl⟩ := handed_cons_eq_ok.mp hhanded
      obtain ⟨-, h₁⟩ := h.hand hq.draining hhand
      obtain ⟨_, _, hhand', hsane⟩ := hq.hand hf
      obtain ⟨-, rfl⟩ := Prod.mk.inj (Except.ok.inj (hhand.symm.trans hhand'))
      rcases List.mem_append.mp hg with hg | hg
      · rcases h.hand_cases hq.draining hhand with ⟨-, rfl, -⟩ | ⟨-, hret, -⟩
        · exact List.mem_cons.mpr (Or.inl (List.mem_singleton.mp hg))
        · rw [← hret] at hg
          exact absurd (List.mem_filter.mp hg).2 (by rw [hordered]; exact Bool.false_ne_true)
      · exact List.mem_cons_of_mem f (ih h₁ hsane hrest hhanded₁ hg)

end Handed

/-- Arrivals, one after the other, keep the queue in step with them. -/
lemma Reassembled.exec_receive {messages : ℕ → Carrier} {arrivals fs : List Frame}
    {s s' : List Frame × ReceivedQueue} (hd : Drawn messages (arrivals ++ fs))
    (hs : Reassembled (payloadOf messages) (Arrived messages arrivals) s)
    (hp : Fragments messages arrivals s.2.splits)
    (h : Run.exec ReceivedQueue.receive s fs = .ok s') :
    Reassembled (payloadOf messages) (Arrived messages (arrivals ++ fs)) s' := by
  induction fs generalizing arrivals s with
  | nil =>
      obtain rfl := Except.ok.inj h
      rwa [List.append_nil]
  | cons f fs ih =>
      rw [List.append_cons] at hd ⊢
      obtain ⟨t, hreceive, hrest⟩ := Run.exec_cons.mp h
      obtain ⟨t', hreceive', hs', hp'⟩ := receive_step hd.left hs hp
      obtain rfl := Except.ok.inj (hreceive'.symm.trans hreceive)
      exact ih hd hs' hp' hrest

end ReceivedQueue

namespace Session

/-- **What is passed on is recited**: the ordered frames of the log carry the plain ones of the
messages that have been released, in order and no others, and every other frame is one that may come
in. -/
structure Recites (Enters : Frame → Prop) (said : List Message) (s : Session) (log : List Frame) :
    Prop where
  parent : s.parent = []
  filtering : s.received.OrderedOnly
  recited : (ordered log).map Frame.data = (payloads said s.received.min).filter (Plain ·)
  others : ∀ f ∈ log, f.reliability.sequencedOrOrdered = false → Enters f

lemma recites_new (Enters : Frame → Prop) (said : List Message) (addr : SocketAddr) (mtu : UInt16)
    (lastPing lastReceive : Instant) :
    Recites Enters said (new addr mtu lastPing lastReceive) [] where
  parent := rfl
  filtering := orderedOnly_new
  recited := rfl
  others _ hf := absurd hf List.not_mem_nil

section Recites

variable {Enters Enters' : Frame → Prop} {said : List Message} {s s' : Session}
  {arrivals log log' : List Frame}

lemma Recites.mono (h : s.Recites Enters said log) (himp : ∀ f, Enters f → Enters' f) :
    s.Recites Enters' said log :=
  ⟨h.parent, h.filtering, h.recited, fun f hf hordered => himp f (h.others f hf hordered)⟩

/-- An ordered frame of the log carries one of the messages. -/
lemma Recites.exists_message (h : s.Recites Enters said log) {f : Frame} (hf : f ∈ log)
    (hordered : f.reliability.sequencedOrOrdered = true) : ∃ m ∈ said, m.payload = f.data := by
  have hmem : f.data ∈ (ordered log).map Frame.data :=
    List.mem_map_of_mem (List.mem_filter.mpr ⟨hf, hordered⟩)
  rw [h.recited] at hmem
  obtain ⟨m, hm, hpayload⟩ := List.mem_map.mp (List.mem_of_mem_filter hmem)
  exact ⟨m, List.mem_of_mem_take hm, hpayload⟩

/-- The peer goes on speaking. -/
lemma Recites.extend (h : s.Recites Enters said log) (hmin : s.received.min ≤ said.length)
    (more : List Message) : s.Recites Enters (said ++ more) log where
  parent := h.parent
  filtering := h.filtering
  recited := by
    rw [h.recited, payloads, payloads, List.take_append_of_le_length hmin]
  others := h.others

/-- A call that takes in no frames. -/
lemma Recites.quiet (h : s.Recites Enters said log) (hreceived : s'.received = s.received)
    (hposted : s'.posted = s.posted) :
    Recites Enters said { s' with parent := [] } (log ++ s'.posted) := by
  rw [hposted, posted, h.parent, List.filterMap_nil, List.append_nil]
  exact ⟨rfl, hreceived ▸ h.filtering, hreceived ▸ h.recited, h.others⟩

/-- **What is handed on of a datagram** with frames of the messages: its ordered frames carry the
messages that are released now. -/
lemma Listens.payloads_handed (hl : s.Listens said arrivals log')
    (hfiltering : s.received.OrderedOnly) {buff : Bytes} {frameSet : FrameSet}
    (hdecode : FrameSet.decode buff = .ok frameSet) (hincoming : ∀ f ∈ frameSet.datas, f.Tells said)
    {l : List Frame} {q : ReceivedQueue} (hhanded : s.received.handed frameSet.datas = .ok (l, q)) :
    payloads said q.min = payloads said s.received.min ++ (ordered l).map Frame.data := by
  obtain ⟨released, hassembled⟩ := hl.assembled
  obtain ⟨-, horder⟩ := FrameSet.lt_of_decode hdecode
  have hknown : ∀ f ∈ arrivals ++ ordered frameSet.datas,
      f.Tells said ∧ f.reliability.sequencedOrOrdered = true ∧ f.orderIndex < 2 ^ 24 := by
    intro f hf
    rcases List.mem_append.mp hf with hf | hf
    · exact hl.known f hf
    · obtain ⟨hf, hordered⟩ := List.mem_filter.mp hf
      exact ⟨hincoming f hf, hordered, horder f hf⟩
  have hassembled' := hassembled.exec_receive (drawn_of_known hl.apart hknown) hl.pool
    (hfiltering.exec_receive hl.ready.sane horder hhanded released)
  have hmin := min_le_of_known hknown hassembled'
  calc payloads said q.min
      = (released ++ ordered l).map Frame.data := (bodies_of_assembled hassembled' hmin).symm
    _ = released.map Frame.data ++ (ordered l).map Frame.data := List.map_append
    _ = payloads said s.received.min ++ (ordered l).map Frame.data := by
        rw [bodies_of_assembled hassembled hl.min_le]

/-- A datagram with frames of the messages is handled. -/
lemma Recites.handleDatagram (h : s.Recites Enters said log) (hl : s.Listens said arrivals log')
    {env : Env} {buff : Bytes} {frameSet : FrameSet} (hdecode : FrameSet.decode buff = .ok frameSet)
    (hincoming : ∀ f ∈ frameSet.datas, f.Tells said) (henters : ∀ f ∈ frameSet.datas, Enters f)
    (hs : s.handleDatagram env buff = .ok s') :
    Recites Enters said { s' with parent := [] } (log ++ s'.posted) := by
  obtain ⟨-, horder⟩ := FrameSet.lt_of_decode hdecode
  obtain ⟨ackQueue, l, q, -, hhanded, -, heq⟩ := hl.ready.handleDatagram_eq env hdecode
  obtain ⟨t, hfold, rfl⟩ := map_eq_ok.mp (heq.symm.trans hs)
  have hsane := hl.ready.sane
  -- the bodies released before, and those released now
  have hbodies := hl.payloads_handed h.filtering hdecode hincoming hhanded
  have hposted : t.posted = l.filter fun f => Plain f.data := by
    have hnone : ({ s with ackQueue := ackQueue } : Session).posted = [] := by
      rw [posted, h.parent, List.filterMap_nil]
    have hposted := (handlePackets_spec hfold).2.1
    rwa [hnone, List.nil_append] at hposted
  refine ⟨rfl, (h.filtering.handed hsane horder hhanded).2, ?_, fun f hf hordered => ?_⟩
  · change (ordered (log ++ t.posted)).map Frame.data = (payloads said q.min).filter (Plain ·)
    calc (ordered (log ++ t.posted)).map Frame.data
        = (ordered log).map Frame.data ++ (ordered t.posted).map Frame.data := by
          rw [ordered_append, List.map_append]
      _ = (payloads said s.received.min).filter (Plain ·)
            ++ ((ordered l).map Frame.data).filter (Plain ·) := by
          rw [h.recited, hposted, ordered_filter_data fun body => decide (Plain body)]
      _ = (payloads said q.min).filter (Plain ·) := by rw [hbodies, List.filter_append]
  · rcases List.mem_append.mp hf with hf | hf
    · exact h.others f hf hordered
    · change f ∈ t.posted at hf
      rw [hposted] at hf
      exact henters f
        (h.filtering.mem_of_handed hsane horder hhanded (List.mem_of_mem_filter hf) hordered)

/-- **Step lemma**: the session goes on reciting, whatever it is called for, as long as the frames
that come in are frames of the messages. -/
lemma Recites.step (h : s.Recites Enters said log) (hl : s.Listens said arrivals log') {op : Op}
    (hincoming : ∀ f ∈ op.incoming, f.Tells said) (henters : ∀ f ∈ op.incoming, Enters f)
    (hstep : s.step op = .ok s') :
    Recites Enters said { s' with parent := [] } (log ++ s'.posted) := by
  by_cases hrouted : ∃ env msg, op = .handle env msg ∧ Routed msg.bytes
  · obtain ⟨env, msg, rfl, hmsg⟩ := hrouted
    have hhandle : s.handleDatagram env msg.bytes = .ok s' :=
      (handle_of_routed hmsg).symm.trans hstep
    rw [Op.incoming, arrives, if_pos hmsg] at hincoming henters
    cases hdecode : FrameSet.decode msg.bytes with
    | error e =>
        rw [Session.handleDatagram, hdecode] at hhandle
        obtain rfl := Except.ok.inj hhandle
        exact h.quiet rfl rfl
    | ok frameSet =>
        rw [hdecode] at hincoming henters
        exact h.handleDatagram hl hdecode hincoming henters hhandle
  · obtain ⟨hreceived, hposted, -⟩ := step_of_not_routed hstep fun env msg hop hmsg =>
      hrouted ⟨env, msg, hop, hmsg⟩
    exact h.quiet hreceived hposted

/-- **Run lemma**: so it does over the calls that an actor makes. -/
lemma Recites.exec (h : s.Recites Enters said log) (hl : s.Listens said arrivals log')
    {ops : List Op} (hincoming : ∀ op ∈ ops, ∀ f ∈ op.incoming, f.Tells said)
    (henters : ∀ op ∈ ops, ∀ f ∈ op.incoming, Enters f) (hs : Run.exec turn s ops = .ok s') :
    Recites Enters said s' (log ++ (s.reports ops).filterMap ParentMsg.frame?) := by
  induction ops generalizing arrivals log log' s with
  | nil =>
      obtain rfl := Except.ok.inj hs
      rwa [reports, List.filterMap_nil, List.append_nil]
  | cons op ops ih =>
      obtain ⟨t, hturn, hrest⟩ := Run.exec_cons.mp hs
      obtain ⟨u, hstep, ht⟩ := bind_eq_ok.mp hturn
      obtain rfl := Except.ok.inj ht
      obtain ⟨hop, hops⟩ := List.forall_mem_cons.mp hincoming
      obtain ⟨henter, henters⟩ := List.forall_mem_cons.mp henters
      have hnext := ih (h.step hl hop henter hstep) (hl.step hop hstep) hops henters hrest
      rwa [reports, hstep, List.filterMap_append, ← List.append_assoc]

end Recites

end Session

end ActixRaknet
