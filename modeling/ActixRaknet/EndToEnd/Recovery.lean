import ActixRaknet.EndToEnd.Exchange
import ActixRaknet.Queue.Feedback

/-!
How an exchange catches up.

* `PacketQueue.Stale`: every timer has run for more than a second, `Emission.mem_of_held`: the next
  `get_packet` returns all that the queue holds;
* `Exchange.Hears`: the datagrams are handled, in any order and amid other calls;
* `recovers`: once the datagrams of one such update are handled, all that was said before it has
  been released;
* `settles`: once their acknowledgements are handled too, no number given out by then is tracked.
-/

namespace ActixRaknet

open Fallible ReceivedQueue
open PacketQueue (Books Clock)

namespace PacketQueue

variable {q q' : PacketQueue} {clock : Clock} {ret : List FrameSet}

/-- Every timer has run for more than a second when the queue ticks. -/
def Stale (q : PacketQueue) (clock : Clock) : Prop :=
  ∀ n elem, q.timePassed.lookup n = some elem → 1000 < clock.tick.millisSince elem.1

instance (q : PacketQueue) (clock : Clock) : Decidable (q.Stale clock) :=
  decidable_of_iff (∀ e ∈ q.timePassed.entries, 1000 < clock.tick.millisSince e.2.1)
    ⟨fun h n elem he => h ⟨n, elem⟩ (AList.mem_lookup_iff.mp he),
      fun h e he => h e.1 e.2 (AList.mem_lookup_iff.mpr he)⟩

lemma Keys.overdue_of_stale (h : q.Keys) (hstale : q.Stale clock) {n : ℕ} (hn : n ∈ q.queue)
    (hlt : n < q.sendMin) : q.Overdue clock n := by
  obtain ⟨elem, helem⟩ := HashMap.exists_lookup_of_mem ((h.same n).mp hn)
  exact ⟨hlt, hn, elem, helem, hstale n elem helem⟩

/-- What is tracked when all timers have run out is what has just been returned. -/
lemma Emission.lookup_of_stale (h : Emission q clock ret q') (hkeys : q.Keys)
    (hstale : q.Stale clock) {n : ℕ} {fs : FrameSet} (hfs : q'.queue.lookup n = some fs) :
    q.sendMin ≤ n ∧ ret[n - q.sendMin]? = some fs := by
  by_cases hn : q.sendMin ≤ n
  · rw [h.tracked n hn] at hfs
    exact ⟨hn, hfs⟩
  · exfalso
    rw [not_le] at hn
    by_cases hdue : q.Overdue clock n
    · rw [h.forgotten n hdue] at hfs
      cases hfs
    · rw [h.kept n hn hdue] at hfs
      exact hdue (hkeys.overdue_of_stale hstale (HashMap.mem_of_lookup hfs) hn)

/-- What is returned at a place has the number of that place. -/
lemma Emission.sequenceNumber_eq (h : Emission q clock ret q') {i : ℕ} {fs : FrameSet}
    (hfs : ret[i]? = some fs) : fs.sequenceNumber = q.sendMin + i := by
  obtain ⟨hi, rfl⟩ := List.getElem?_eq_some_iff.mp hfs
  have hmap := List.getElem_of_eq h.numbers (i := i) (by simpa using hi)
  simpa using hmap

/-- A frame that is taken in changes nothing of what was sent. -/
lemma mem_of_addFrame (h : q.sendMin ≤ q.max) {f : Frame} (hq : q.addFrame clock f = .ok q') {n : ℕ}
    (hlt : n < q'.sendMin) (hn : n ∈ q'.queue) : n < q.sendMin ∧ n ∈ q.queue := by
  obtain ⟨-, ⟨-, rfl⟩ | ⟨-, -, rfl⟩⟩ := addFrame_eq_ok.mp hq
  · exact ⟨hlt, hn⟩
  · have hlt' : n < q.sendMin := hlt
    have hne : n ≠ q.max := by omega
    exact ⟨hlt', by simpa [PacketQueue.allocate, hne] using hn⟩

/-- **All that is held is returned** once all timers have run out. -/
lemma Emission.mem_of_held (h : Emission q clock ret q') (hkeys : q.Keys) (hstale : q.Stale clock)
    {f : Frame} (hf : f ∈ q.held) : ∃ fs ∈ ret, f ∈ fs.datas := by
  rw [← h.held_eq, held, h.setQueue_eq] at hf
  have hstored : f ∈ q'.queue.entries.flatMap fun e => e.2.datas := by simpa [stored] using hf
  obtain ⟨⟨n, fs⟩, hentry, hmem⟩ := List.mem_flatMap.mp hstored
  have hfs : q'.queue.lookup n = some fs := AList.mem_lookup_iff.mpr hentry
  exact ⟨fs, List.mem_of_getElem? (h.lookup_of_stale hkeys hstale hfs).2, hmem⟩

end PacketQueue

namespace Session

/-- An update of an open session sends what its first flush sends, then the acknowledgements, and
perhaps more behind them. -/
lemma update_flushes {s s' : Session} {env : Env} (h : s.update env = .ok s')
    (hopen : s.disconnected = false) :
    ∃ s₁ s₂, s.flushQueue env.queue env.order = .ok s₁ ∧ s₁.flushAck = .ok s₂
      ∧ s₁.udp <+: s₂.udp ∧ s₂.udp <+: s'.udp := by
  rcases update_cases h with
    ⟨hclosed, -⟩ | ⟨-, s₁, s₂, s₃, hqueue, hack, hsilence, hping⟩
  · rw [hopen] at hclosed
    cases hclosed
  · refine ⟨s₁, s₂, hqueue, hack, ?_, ?_⟩
    · obtain ⟨sent, rfl⟩ := flushAck_queue hack
      exact List.prefix_append _ _
    have h₃ : s₂.udp <+: s₃.udp := by
      rcases hsilence with ⟨-, hdisconnect⟩ | ⟨-, rfl⟩
      · obtain ⟨-, -, q, -, t, hflush, rfl⟩ := disconnect_eq_ok.mp hdisconnect
        obtain ⟨sets, q', sent, -, rfl⟩ := flushQueue_queue hflush
        exact List.prefix_append _ _
      · exact List.prefix_rfl
    refine h₃.trans ?_
    rcases checkPing_eq hping with rfl | ⟨body, q, -, -, rfl⟩ <;> exact List.prefix_rfl

/-! ### What is noted for acknowledgement -/

/-- A frame set that is handled is noted. -/
lemma handle_notes {s s' : Session} {env : Env} (hready : s.Ready) {msg : UdpPacket}
    {fs : FrameSet} (hrouted : Routed msg.bytes) (hdecode : FrameSet.decode msg.bytes = .ok fs)
    (h : s.handle env msg = .ok s') : s.ackQueue.add fs.sequenceNumber = .ok s'.ackQueue := by
  rw [handle_of_routed hrouted] at h
  obtain ⟨ackQueue, l, q, hadd, -, -, heq⟩ := hready.handleDatagram_eq env hdecode
  obtain ⟨t, ht, rfl⟩ := map_eq_ok.mp (heq.symm.trans h)
  have hanswers : Answers { s with ackQueue := ackQueue } t := foldlM_induction
    (P := Answers { s with ackQueue := ackQueue })
    (fun u f u' _ hu hstep => hu.trans (handlePacket_answers hstep)) (.refl _) ht
  show _ = Except.ok t.ackQueue
  rw [hanswers.ackQueue]
  exact hadd

/-- A call that is no update notes a number, or none. -/
lemma step_notes {s s' : Session} (hready : s.Ready) {op : Op} (hop : ∀ env, op ≠ .update env)
    (h : s.step op = .ok s') :
    s'.ackQueue = s.ackQueue ∨ ∃ n, s.ackQueue.add n = .ok s'.ackQueue := by
  cases op with
  | update env => exact absurd rfl (hop env)
  | forceFlush env =>
      obtain ⟨sets, q, sent, -, rfl⟩ := flushQueue_queue h
      exact .inl rfl
  | handle env msg =>
      by_cases hrouted : Routed msg.bytes
      · cases hdecode : FrameSet.decode msg.bytes with
        | ok fs => exact .inr ⟨_, handle_notes hready hrouted hdecode h⟩
        | error e =>
            have hs : s.handle env msg = .ok s' := h
            rw [handle_of_routed hrouted, handleDatagram, hdecode] at hs
            exact .inl (congrArg _ (Except.ok.inj hs).symm)
      · left
        rcases handle_of_not_routed hrouted h with hack | hnack | rfl
        · rcases unwrapOrReturn_eq_ok hack with rfl | ⟨ack, -, hack⟩
          · rfl
          · obtain ⟨sequences, -, hs⟩ := bind_eq_ok.mp hack
            exact (Except.ok.inj hs) ▸ rfl
        · rcases unwrapOrReturn_eq_ok hnack with rfl | ⟨nack, -, hnack⟩
          · rfl
          · simp only [bind_eq_ok, pure_eq_ok, Except.ok.injEq] at hnack
            obtain ⟨sequences, -, q, -, rfl⟩ := hnack
            rfl
        · rfl
  | disconnect env =>
      obtain ⟨-, -, q, -, t, hflush, rfl⟩ := disconnect_eq_ok.mp h
      obtain ⟨sets, q', sent, -, rfl⟩ := flushQueue_queue hflush
      exact .inl rfl
  | sendSystemPacket env P packet reliability =>
      obtain ⟨body, -, -, -, q, -, rfl⟩ := sendSystemPacket_eq_ok.mp h
      exact .inl rfl
  | sendTo env buff =>
      by_cases hlen : buff.length < s.mtu.toNat - 46
      · obtain ⟨q, -, rfl⟩ := sendTo_whole hlen h
        exact .inl rfl
      · have hsplit := (sendTo_eq_ok.mp h).2
        rw [if_neg hlen] at hsplit
        obtain ⟨-, -, rfl⟩ := sendSplit_eq_ok.mp hsplit
        exact .inl rfl

/-- The numbers that a session has noted and not acknowledged. -/
def Notes (s : Session) (n : ℕ) : Prop := n ∈ s.ackQueue.storeSeq ∧ s.ackQueue.lowest ≤ n

/-- **What is noted is acknowledged** by the next update of an open session. -/
lemma Notes.update {s s' : Session} {env : Env} {n : ℕ} (h : s.Notes n)
    (hw : s.ackQueue.Windowed) (hs : s.update env = .ok s') (hopen : s.disconnected = false) :
    ∃ r, r.1 < 2 ^ 24 ∧ r.2 < 2 ^ 24 ∧ n ∈ Ranges.numbers r
      ∧ ⟨Ack.datagram r, s.addr⟩ ∈ s'.udp.drop s.udp.length := by
  obtain ⟨s₁, s₂, hqueue, hack, -, hfront⟩ := update_flushes hs hopen
  obtain ⟨sets, q, sent, -, rfl⟩ := flushQueue_queue hqueue
  obtain ⟨hacks, hnacks⟩ := flushAck_lt hack
  obtain rfl := flushAck_eq hack hacks hnacks
  have hpending : n ∈ s.ackQueue.pending := ACKQueue.mem_pending.mpr ⟨h.2, hw.lt n h.1⟩
  have hexpand : n ∈ Ranges.expand s.ackQueue.clear.1.1 := by
    rw [ACKQueue.expand_clear]
    exact List.mem_filter.mpr ⟨hpending, decide_eq_true h.1⟩
  obtain ⟨r, hr, hn⟩ := List.mem_flatMap.mp hexpand
  refine ⟨r, (hacks r hr).1, (hacks r hr).2, hn, ?_⟩
  obtain ⟨more, hmore⟩ := hfront
  rw [← hmore, List.append_assoc, List.append_assoc, List.drop_left]
  refine List.mem_append_right _ (List.mem_append_left _ (List.mem_map_of_mem ?_))
  exact List.mem_append_left _ (List.mem_map_of_mem hr)

end Session

namespace Exchange

variable {e e' : Exchange} {side : Side} {actions : List (Side × Session.Op)}

/-- What is new behind a prefix. -/
lemma mem_drop_of_prefix {α : Type*} {l new l' : List α} (h : l ++ new <+: l') {a : α}
    (ha : a ∈ new) : a ∈ l'.drop l.length := by
  obtain ⟨more, rfl⟩ := h
  rw [List.append_assoc, List.drop_left]
  exact List.mem_append_left _ ha

/-- What has been said and what has arrived stays so. -/
lemma exec_grows (h : Run.exec step e actions = .ok e') (side : Side) :
    (e side).said <+: (e' side).said ∧ (e side).arrived <+: (e' side).arrived := by
  refine Run.invariant (P := fun t : Exchange => (e side).said <+: (t side).said
    ∧ (e side).arrived <+: (t side).arrived) (fun t a t' ht hs => ?_)
    ⟨List.prefix_rfl, List.prefix_rfl⟩ h
  obtain ⟨p, hp, rfl⟩ := map_eq_ok.mp hs
  obtain ⟨s, -, -, hsaid, harrived, -⟩ := party_step hp
  by_cases hside : side = a.1
  · subst hside
    rw [Function.update_self, hsaid, harrived]
    exact ⟨ht.1.trans (List.prefix_append _ _), ht.2.trans (List.prefix_append _ _)⟩
  · rwa [Function.update_of_ne hside]

/-- What comes in with one of the calls has arrived. -/
lemma arrived_of_mem (h : Run.exec step e actions = .ok e') {op : Session.Op}
    (hop : (side, op) ∈ actions) : ∀ f ∈ op.incoming, f ∈ (e' side).arrived := by
  intro f hf
  obtain ⟨before, after, rfl⟩ := List.append_of_mem hop
  obtain ⟨e₁, -, hrest⟩ := Run.exec_append.mp h
  obtain ⟨e₂, hstep, hafter⟩ := Run.exec_cons.mp hrest
  refine (exec_grows hafter side).2.subset ?_
  obtain ⟨p, hp, rfl⟩ := map_eq_ok.mp hstep
  obtain ⟨s, -, -, -, harrived, -⟩ := party_step hp
  rw [Function.update_self, harrived]
  exact List.mem_append_right _ hf

/-- The call handles these bytes. -/
def Handles (bytes : Bytes) : Session.Op → Prop
  | .handle _ msg => msg.bytes = bytes
  | _ => False

instance (bytes : Bytes) : DecidablePred (Handles bytes)
  | .handle _ _ => inferInstanceAs (Decidable (_ = _))
  | @Session.Op.sendSystemPacket _ _ _ _ _ => isFalse id
  | .update _ => isFalse id
  | .forceFlush _ => isFalse id
  | .disconnect _ => isFalse id
  | .sendTo _ _ => isFalse id

/-- The datagrams are handled on this side, in any order and amid other calls. -/
def Hears (side : Side) (packets : List UdpPacket) (actions : List (Side × Session.Op)) : Prop :=
  ∀ packet ∈ packets, ∃ a ∈ actions, a.1 = side ∧ Handles packet.bytes a.2

instance (side : Side) (packets : List UdpPacket) (actions : List (Side × Session.Op)) :
    Decidable (Hears side packets actions) :=
  inferInstanceAs (Decidable (∀ _ ∈ _, ∃ _ ∈ _, _))

lemma Hears.exists_handle {packets : List UdpPacket} (h : Hears side packets actions)
    {packet : UdpPacket} (hpacket : packet ∈ packets) :
    ∃ env msg, (side, .handle env msg) ∈ actions ∧ msg.bytes = packet.bytes := by
  obtain ⟨⟨c, op⟩, hmem, rfl, hop⟩ := h packet hpacket
  cases op with
  | handle env msg => exact ⟨env, msg, hmem, hop⟩
  | _ => cases hop

/-- What one party has sent and another has not. -/
def Party.sentSince (p p' : Party) : List UdpPacket := p'.session.udp.drop p.session.udp.length

section Recovery

variable {b : Side → Books} {e₁ : Exchange} {env : Session.Env}

/-- **All that is held reaches the other side** with the datagrams of one update, once all timers
have run out. -/
lemma Agrees.arrived_of_hears (h : e.Agrees b) (hopen : (e side).session.disconnected = false)
    (hstale : (e side).queue.Stale env.queue)
    (hupdate : Exchange.step e (side, .update env) = .ok e₁)
    (hactions : Run.exec Exchange.step e₁ actions = .ok e')
    (hheard : Hears side.peer (Party.sentSince (e side) (e₁ side)) actions) :
    ∀ f ∈ (e side).queue.held, f ∈ (e' side.peer).arrived := by
  intro f hf
  obtain ⟨p, hp, rfl⟩ := map_eq_ok.mp hupdate
  obtain ⟨s, hstep, hsession, -⟩ := party_step hp
  obtain ⟨s₁, s₂, hflush, -, hfront, hfront₂⟩ := Session.update_flushes hstep hopen
  have hflow := h side
  obtain ⟨sets, q, b', hget, rfl, hledger, -, hemitted⟩ := hflow.ledger.flushQueue hflush
  have hemission := hflow.ledger.owes.orderly.getPacket hflow.ledger.owes.resends_eq hget
  obtain ⟨fs, hfs, hmem⟩ := hemission.mem_of_held hflow.ledger.owes.orderly.toKeys hstale hf
  have hsent : (⟨fs.layout, (e side).session.addr⟩ : UdpPacket)
      ∈ Party.sentSince (e side) (Function.update e side p side) := by
    rw [Function.update_self, Party.sentSince, hsession]
    exact mem_drop_of_prefix (hfront.trans hfront₂)
      (List.mem_map_of_mem (List.mem_map_of_mem hfs))
  obtain ⟨env', msg, hmsg, hbytes⟩ := hheard.exists_handle hsent
  refine arrived_of_mem hactions hmsg f ?_
  rw [Session.Op.incoming, hbytes,
    (hledger.emitted fs (hemitted ▸ List.mem_append_right _ hfs)).arrives]
  exact hmem

/-- The bodies of the plain messages. -/
def plainPayloads (said : List Message) : List Bytes :=
  (said.map Message.payload).filter (Session.Plain ·)

/-- **Recovery.**  Whatever was lost before: once all timers of a side have run out and while its
session is open, the datagrams of its next update let the other side release, and pass on in order,
all that it has said so far.  They may be handled in any order, repeatedly and amid any other
calls. -/
theorem recovers (addr : Side → SocketAddr) (mtu : Side → UInt16) (ping receive : Side → Instant)
    (hmtu : ∀ side, (mtu side).toNat ≤ 8191) (before after : List (Side × Session.Op))
    (side : Side) (env : Session.Env) (e e₁ e' : Exchange)
    (hbefore : Run.exec step (new addr mtu ping receive) before = .ok e)
    (hupdate : step e (side, .update env) = .ok e₁) (hafter : Run.exec step e₁ after = .ok e')
    (hadmissible : Run.Along step Admissible (new addr mtu ping receive)
      (before ++ (side, .update env) :: after))
    (hopen : (e side).session.disconnected = false) (hstale : (e side).queue.Stale env.queue)
    (hheard : Hears side.peer (Party.sentSince (e side) (e₁ side)) after) :
    (e side).said.length ≤ (e' side.peer).released
      ∧ plainPayloads (e side).said <+: (ordered (e' side.peer).frames).map Frame.data := by
  obtain ⟨hadm, hrest⟩ := Run.along_append.mp hadmissible
  obtain ⟨b, hb, -⟩ := (agrees_new addr mtu ping receive hmtu).exec hadm hbefore
  have hall := Run.exec_cons.mpr ⟨e₁, hupdate, hafter⟩
  obtain ⟨b', hb', -⟩ := Agrees.exec hb (hrest e hbefore) hall
  obtain ⟨more, hmore⟩ := (exec_grows hall side).1
  have harrived : ∀ k < (e side).said.length,
      Arrived (carriers (e' side).said) (ordered (e' side.peer).arrived) k := by
    intro k hk
    rw [← hmore]
    refine arrived_grown hk ((hb side).conveyed.held k hk _ ?_ ?_)
    · exact fun f hf => (exec_grows hall side.peer).2.subset hf
    · exact Agrees.arrived_of_hears hb hopen hstale hupdate hafter hheard
  have hreleased := (hb' side).listens.le_min harrived
  refine ⟨hreleased, ?_⟩
  rw [(hb' side).conveyed.passed, plainPayloads, payloads, List.map_take, ← hmore, List.map_append]
  refine List.IsPrefix.filter _ (List.prefix_take_iff.mpr ⟨List.prefix_append _ _, ?_⟩)
  rwa [List.length_map]

/-! ### A lost datagram -/

/-- The address of both sides, in the sample. -/
def here : SocketAddr := .v4 ⟨127, 0, 0, 1⟩ 19132

/-- Two sessions of the size 1400. -/
def opened : Exchange := new (fun _ => here) (fun _ => 1400) (fun _ => 0) fun _ => 0

/-- Two seconds later. -/
def late : Session.Env :=
  { (default : Session.Env) with queue := ⟨fun _ => 2000000000, 2000000000⟩ }

/-- A message is sent and its datagram is lost; another message waits. -/
def losing : List (Side × Session.Op) :=
  [(.left, .sendTo default [7, 1]), (.left, .update default), (.left, .sendTo default [8, 2])]

/-- The datagrams of the update two seconds later arrive, in the other order. -/
def catching : List (Side × Session.Op) :=
  [(.right, .handle default ⟨[132, 2, 0, 0, 96, 0, 16, 0, 0, 0, 0, 0, 0, 0, 7, 1], here⟩),
    (.right, .handle default ⟨[132, 1, 0, 0, 96, 0, 16, 1, 0, 0, 1, 0, 0, 0, 8, 2], here⟩)]

/-- Both messages are released in the end. -/
theorem recovers_sample : ∃ e e₁ e', Run.exec step opened losing = .ok e
    ∧ step e (.left, .update late) = .ok e₁ ∧ Run.exec step e₁ catching = .ok e'
    ∧ (e .left).said.length = 2 ∧ 2 ≤ (e' .right).released := by
  have hrun : (do
      let e ← Run.exec step opened losing
      let e₁ ← step e (.left, .update late)
      let _ ← Run.exec step e₁ catching
      return decide ((e .left).session.disconnected = false ∧ (e .left).queue.Stale late.queue
        ∧ Hears .right (Party.sentSince (e .left) (e₁ .left)) catching
        ∧ (e .left).said.length = 2)) = .ok true := by
    decide +kernel
  obtain ⟨e, he, hrun⟩ := bind_eq_ok.mp hrun
  obtain ⟨e₁, he₁, hrun⟩ := bind_eq_ok.mp hrun
  obtain ⟨e', he', hrun⟩ := bind_eq_ok.mp hrun
  obtain ⟨hopen, hstale, hheard, hsaid⟩ := of_decide_eq_true (Except.ok.inj hrun)
  refine ⟨e, e₁, e', he, he₁, he', hsaid, hsaid ▸ ?_⟩
  exact (recovers (fun _ => here) (fun _ => 1400) (fun _ => 0) (fun _ => 0) (by decide) losing
    catching .left late e e₁ e' he he₁ he' (by decide +kernel) hopen hstale hheard).1

end Recovery

/-! ### Acknowledgement -/

section Settling

variable {b : Side → Books} {e₁ : Exchange} {env : Session.Env} {n : ℕ}

/-- The window and the notes of a side stay, unless it is updated. -/
lemma Agrees.notes_step (h : e.Agrees b) {a : Side × Session.Op}
    (ha : ∀ env, a ≠ (side, .update env)) (hs : Exchange.step e a = .ok e') :
    (e' side).session.ackQueue.lowest = (e side).session.ackQueue.lowest
      ∧ ((e side).session.Notes n → (e' side).session.Notes n) := by
  obtain ⟨c, op⟩ := a
  obtain ⟨p, hp, rfl⟩ := map_eq_ok.mp hs
  by_cases hside : side = c
  · subst hside
    rw [Function.update_self]
    obtain ⟨s, hstep, hsession, -⟩ := party_step hp
    have hop : ∀ env, op ≠ .update env := fun env heq => ha env (by rw [heq])
    rw [hsession, Session.Notes, Session.Notes]
    rcases Session.step_notes (h.ready side) hop hstep with heq | ⟨m, hadd⟩
    · rw [heq]
      exact ⟨rfl, id⟩
    · obtain ⟨-, hlow, hsubset, -⟩ := ACKQueue.add_eq_ok (h side).ledger.window hadd
      exact ⟨hlow, fun hn => ⟨hsubset hn.1, hlow.trans_le hn.2⟩⟩
  · rw [Function.update_of_ne hside]
    exact ⟨rfl, id⟩

/-- So they do over the calls of a run. -/
lemma Agrees.notes_exec (h : e.Agrees b)
    (hadmissible : Run.Along Exchange.step Admissible e actions)
    (hquiet : ∀ env, (side, .update env) ∉ actions) (hs : Run.exec Exchange.step e actions = .ok e')
    (hn : (e side).session.Notes n) : (e' side).session.Notes n := by
  induction actions generalizing e b with
  | nil => exact Except.ok.inj hs ▸ hn
  | cons a as ih =>
      obtain ⟨e₁, hstep, hrest⟩ := Run.exec_cons.mp hs
      obtain ⟨ha, has⟩ := hadmissible e₁ hstep
      obtain ⟨b₁, h₁, -⟩ := h.step ha hstep
      have hne : ∀ env, a ≠ (side, .update env) := fun env heq =>
        hquiet env (heq ▸ List.mem_cons_self)
      exact ih h₁ has (fun env hmem => hquiet env (List.mem_cons_of_mem _ hmem)) hrest
        ((h.notes_step hne hstep).2 hn)

/-- **A set that is handled is noted**, unless the window has passed it. -/
lemma Agrees.notes_of_mem (h : e.Agrees b)
    (hadmissible : Run.Along Exchange.step Admissible e actions)
    (hquiet : ∀ env, (side, .update env) ∉ actions) (hs : Run.exec Exchange.step e actions = .ok e')
    {fs : FrameSet} (hfs : fs.Sendable)
    (hlow : (e side).session.ackQueue.lowest ≤ fs.sequenceNumber) {msg : UdpPacket}
    (hmsg : (side, .handle env msg) ∈ actions) (hbytes : msg.bytes = fs.layout) :
    (e' side).session.Notes fs.sequenceNumber := by
  induction actions generalizing e b with
  | nil => cases hmsg
  | cons a as ih =>
      obtain ⟨e₁, hstep, hrest⟩ := Run.exec_cons.mp hs
      obtain ⟨ha, has⟩ := hadmissible e₁ hstep
      obtain ⟨b₁, h₁, -⟩ := h.step ha hstep
      have hquiet' : ∀ env, (side, .update env) ∉ as := fun env hmem =>
        hquiet env (List.mem_cons_of_mem _ hmem)
      have hne : ∀ env, a ≠ (side, .update env) := fun env heq =>
        hquiet env (heq ▸ List.mem_cons_self)
      have hlow₁ := (h.notes_step (n := 0) hne hstep).1
      rcases List.mem_cons.mp hmsg with rfl | hmem
      · refine h₁.notes_exec has hquiet' hrest ?_
        obtain ⟨p, hp, rfl⟩ := map_eq_ok.mp hstep
        rw [Function.update_self] at hlow₁ ⊢
        obtain ⟨s, hhandle, hsession, -⟩ := party_step hp
        have hadd := Session.handle_notes (h.ready side) (hbytes ▸ hfs.routed)
          (hbytes ▸ hfs.decode) hhandle
        obtain ⟨-, -, -, hnoted⟩ := ACKQueue.add_eq_ok (h side).ledger.window hadd
        rw [hsession] at hlow₁ ⊢
        exact ⟨hnoted hlow, hlow₁.trans_le hlow⟩
      · exact ih h₁ has hquiet' hrest (hlow₁.trans_le hlow) hmem

/-- An acknowledgement that is handled takes its numbers out of the queue. -/
lemma Agrees.notMem_of_ack (h : e.Agrees b) {msg : UdpPacket} {r : ℕ × ℕ}
    (hbytes : msg.bytes = Ack.datagram r) (h₁ : r.1 < 2 ^ 24) (h₂ : r.2 < 2 ^ 24)
    (hs : Exchange.step e (side, .handle env msg) = .ok e') (hn : n ∈ Ranges.numbers r) :
    n ∉ (e' side).queue.queue := by
  obtain ⟨p, hp, rfl⟩ := map_eq_ok.mp hs
  obtain ⟨s, hhandle, hsession, -⟩ := party_step hp
  obtain rfl := Except.ok.inj ((Session.handle_ack hbytes h₁ h₂).symm.trans hhandle)
  rw [Function.update_self, Party.queue, hsession]
  have hkeys := (h side).ledger.owes.orderly.toKeys
  exact ((PacketQueue.Matched.mk hkeys.same hkeys.lt_max).without_received _).removed n hn |>.1

/-- What has been sent and is tracked no more stays so. -/
lemma Agrees.notMem_exec (h : e.Agrees b)
    (hadmissible : Run.Along Exchange.step Admissible e actions)
    (hs : Run.exec Exchange.step e actions = .ok e') (hlt : n < (e side).queue.sendMin)
    (hn : n ∉ (e side).queue.queue) : n ∉ (e' side).queue.queue := by
  obtain ⟨b', h', hgrows⟩ := h.exec hadmissible hs
  exact (h side).ledger.owes.notMem_of_grows (hgrows side) (h' side).ledger.owes hlt hn

/-- So is a number whose acknowledgement is among the datagrams handled. -/
lemma Agrees.notMem_of_mem (h : e.Agrees b)
    (hadmissible : Run.Along Exchange.step Admissible e actions)
    (hs : Run.exec Exchange.step e actions = .ok e') (hlt : n < (e side).queue.sendMin)
    {msg : UdpPacket} {r : ℕ × ℕ} (hmsg : (side, .handle env msg) ∈ actions)
    (hbytes : msg.bytes = Ack.datagram r) (h₁ : r.1 < 2 ^ 24) (h₂ : r.2 < 2 ^ 24)
    (hn : n ∈ Ranges.numbers r) : n ∉ (e' side).queue.queue := by
  obtain ⟨earlier, later, rfl⟩ := List.append_of_mem hmsg
  obtain ⟨t, hearlier, hrest⟩ := Run.exec_append.mp hs
  obtain ⟨t', hstep, hlater⟩ := Run.exec_cons.mp hrest
  obtain ⟨hadm, hadm'⟩ := Run.along_append.mp hadmissible
  obtain ⟨ha, hadm''⟩ := hadm' t hearlier t' hstep
  obtain ⟨bt, ht, hgrows⟩ := h.exec hadm hearlier
  obtain ⟨bt', ht', hgrows'⟩ := ht.step ha hstep
  refine ht'.notMem_exec hadm'' hlater ?_ (ht.notMem_of_ack hbytes h₁ h₂ hstep hn)
  rw [Party.queue, ← (h side).ledger.owes.length_emitted] at hlt
  rw [Party.queue, ← (ht' side).ledger.owes.length_emitted]
  exact hlt.trans_le ((hgrows side).trans (hgrows' side)).emitted.length_le

/-- What is tracked after an update that finds all timers run out is what that update has sent. -/
lemma Agrees.tracked_of_update (h : e.Agrees b) (hopen : (e side).session.disconnected = false)
    (hopen₁ : (e₁ side).session.disconnected = false) (hstale : (e side).queue.Stale env.queue)
    (hupdate : Exchange.step e (side, .update env) = .ok e₁) (hlt : n < (e₁ side).queue.sendMin)
    (hn : n ∈ (e₁ side).queue.queue) :
    (e side).queue.sendMin ≤ n ∧ ∃ fs : FrameSet, fs.Sendable ∧ fs.sequenceNumber = n
      ∧ ∃ packet ∈ Party.sentSince (e side) (e₁ side), packet.bytes = fs.layout := by
  obtain ⟨p, hp, rfl⟩ := map_eq_ok.mp hupdate
  rw [Function.update_self] at hopen₁ hlt hn ⊢
  obtain ⟨s, hstep, hsession, -⟩ := party_step hp
  rw [Party.queue, hsession] at hlt hn
  rw [hsession] at hopen₁
  obtain ⟨s₁, s₂, hflush, hack, hping⟩ := Session.update_eq hopen hstep hopen₁
  have hflow := h side
  obtain ⟨sets, q, b', hget, rfl, hledger, -, hemitted⟩ := hflow.ledger.flushQueue hflush
  obtain ⟨-, rfl⟩ := hledger.flushAck hack
  have hemission := hflow.ledger.owes.orderly.getPacket hflow.ledger.owes.resends_eq hget
  obtain ⟨hsent, hheld⟩ : n < q.sendMin ∧ n ∈ q.queue := by
    rcases hping with rfl | ⟨body, q', -, hadd, rfl⟩
    · exact ⟨hlt, hn⟩
    · exact PacketQueue.mem_of_addFrame hemission.max_eq.ge hadd hlt hn
  obtain ⟨fs, hfs⟩ := HashMap.exists_lookup_of_mem hheld
  obtain ⟨hle, hget⟩ := hemission.lookup_of_stale hflow.ledger.owes.orderly.toKeys hstale hfs
  have hmem := List.mem_of_getElem? hget
  refine ⟨hle, fs, hledger.emitted fs (hemitted ▸ List.mem_append_right _ hmem), ?_,
    ⟨fs.layout, (e side).session.addr⟩, ?_, rfl⟩
  · rw [hemission.sequenceNumber_eq hget]
    omega
  · obtain ⟨t₁, t₂, hflush', -, hfront, hfront₂⟩ := Session.update_flushes hstep hopen
    obtain rfl := Except.ok.inj (hflush.symm.trans hflush')
    rw [Party.sentSince, hsession]
    exact mem_drop_of_prefix (hfront.trans hfront₂)
      (List.mem_map_of_mem (List.mem_map_of_mem hmem))

/-- **Settling.**  Once all timers of a side have run out, let the datagrams of its next update be
handled before the other side is updated, and then those of that update.  While the sessions are
open, no number that had been given out by the first update is tracked any more then.  Each datagram
may be handled in any order, repeatedly and amid other calls. -/
theorem settles (addr : Side → SocketAddr) (mtu : Side → UInt16) (ping receive : Side → Instant)
    (hmtu : ∀ side, (mtu side).toNat ≤ 8191) (before during after : List (Side × Session.Op))
    (side : Side) (env env' : Session.Env) (e e₁ e₂ e₃ e' : Exchange)
    (hbefore : Run.exec step (new addr mtu ping receive) before = .ok e)
    (hupdate : step e (side, .update env) = .ok e₁) (hduring : Run.exec step e₁ during = .ok e₂)
    (hreply : step e₂ (side.peer, .update env') = .ok e₃)
    (hafter : Run.exec step e₃ after = .ok e')
    (hadmissible : Run.Along step Admissible (new addr mtu ping receive)
      (before ++ (side, .update env) :: (during ++ (side.peer, .update env') :: after)))
    (hopen : (e side).session.disconnected = false)
    (hopen₁ : (e₁ side).session.disconnected = false)
    (hopen₂ : (e₂ side.peer).session.disconnected = false)
    (hstale : (e side).queue.Stale env.queue)
    (hquiet : ∀ env, (side.peer, .update env) ∉ during)
    (hheard : Hears side.peer (Party.sentSince (e side) (e₁ side)) during)
    (hanswer : Hears side (Party.sentSince (e₂ side.peer) (e₃ side.peer)) after) :
    ∀ n < (e₁ side).queue.sendMin, n ∉ (e' side).queue.queue := by
  intro n hlt
  obtain ⟨hadm, hrest⟩ := Run.along_append.mp hadmissible
  obtain ⟨ha, hrest₁⟩ := hrest e hbefore e₁ hupdate
  obtain ⟨hadm₁, hrest₂⟩ := Run.along_append.mp hrest₁
  obtain ⟨ha₂, hadm₃⟩ := hrest₂ e₂ hduring e₃ hreply
  obtain ⟨b, h, -⟩ := (agrees_new addr mtu ping receive hmtu).exec hadm hbefore
  obtain ⟨b₁, h₁, -⟩ := Agrees.step h ha hupdate
  obtain ⟨b₂, h₂, hgrows₂⟩ := Agrees.exec h₁ hadm₁ hduring
  obtain ⟨b₃, h₃, hgrows₃⟩ := Agrees.step h₂ ha₂ hreply
  by_cases hn : n ∈ (e₁ side).queue.queue
  · obtain ⟨hle, fs, hfs, rfl, packet, hpacket, hbytes⟩ :=
      Agrees.tracked_of_update h hopen hopen₁ hstale hupdate hlt hn
    obtain ⟨envH, msg, hmsg, hmsgBytes⟩ := hheard.exists_handle hpacket
    have hlow : (e₁ side.peer).session.ackQueue.lowest ≤ fs.sequenceNumber := by
      have hback := h side.peer
      rw [Side.peer_peer] at hback
      have hhighest := hback.ledger.acknowledges.highest_le
      rw [(h side).ledger.owes.length_emitted] at hhighest
      obtain ⟨p, -, rfl⟩ := map_eq_ok.mp hupdate
      rw [Function.update_of_ne (Side.peer_ne side)]
      exact hback.ledger.window.le.trans (hhighest.trans hle)
    have hnotes := Agrees.notes_of_mem h₁ hadm₁ hquiet hduring hfs hlow hmsg
      (hmsgBytes.trans hbytes)
    obtain ⟨p, hp, hp₃⟩ := map_eq_ok.mp hreply
    obtain ⟨s, hstep, hsession, -⟩ := party_step hp
    obtain ⟨r, hr₁, hr₂, hin, hack⟩ := hnotes.update (h₂ side.peer).ledger.window hstep hopen₂
    obtain ⟨envA, ack, hmem, hackBytes⟩ := hanswer.exists_handle (by
      rw [← hp₃, Function.update_self, Party.sentSince, hsession]
      exact hack)
    refine Agrees.notMem_of_mem h₃ hadm₃ hafter ?_ hmem hackBytes hr₁ hr₂ hin
    rw [Party.queue, ← (h₁ side).ledger.owes.length_emitted] at hlt
    rw [Party.queue, ← (h₃ side).ledger.owes.length_emitted]
    exact hlt.trans_le ((hgrows₂ side).trans (hgrows₃ side)).emitted.length_le
  · obtain ⟨b', h', hgrows'⟩ := Agrees.exec h₃ hadm₃ hafter
    exact (h₁ side).ledger.owes.notMem_of_grows
      (((hgrows₂ side).trans (hgrows₃ side)).trans (hgrows' side)) (h' side).ledger.owes hlt hn

/-- The feedback of the other side arrives. -/
def answering : List (Side × Session.Op) :=
  [(.left, .handle default ⟨[192, 0, 1, 0, 1, 0, 0, 2, 0, 0], here⟩),
    (.left, .handle default ⟨[160, 0, 1, 1, 0, 0, 0], here⟩)]

/-- None of the three sets sent is tracked in the end. -/
theorem settles_sample : ∃ e e₁ e₂ e₃ e', Run.exec step opened losing = .ok e
    ∧ step e (.left, .update late) = .ok e₁ ∧ Run.exec step e₁ catching = .ok e₂
    ∧ step e₂ (.right, .update default) = .ok e₃ ∧ Run.exec step e₃ answering = .ok e'
    ∧ (e₁ .left).queue.sendMin = 3 ∧ ∀ n < 3, n ∉ (e' .left).queue.queue := by
  have hrun : (do
      let e ← Run.exec step opened losing
      let e₁ ← step e (.left, .update late)
      let e₂ ← Run.exec step e₁ catching
      let e₃ ← step e₂ (.right, .update default)
      let _ ← Run.exec step e₃ answering
      return decide ((e .left).session.disconnected = false
        ∧ (e₁ .left).session.disconnected = false ∧ (e₂ .right).session.disconnected = false
        ∧ (e .left).queue.Stale late.queue
        ∧ Hears .right (Party.sentSince (e .left) (e₁ .left)) catching
        ∧ Hears .left (Party.sentSince (e₂ .right) (e₃ .right)) answering
        ∧ (e₁ .left).queue.sendMin = 3)) = .ok true := by
    decide +kernel
  obtain ⟨e, he, hrun⟩ := bind_eq_ok.mp hrun
  obtain ⟨e₁, he₁, hrun⟩ := bind_eq_ok.mp hrun
  obtain ⟨e₂, he₂, hrun⟩ := bind_eq_ok.mp hrun
  obtain ⟨e₃, he₃, hrun⟩ := bind_eq_ok.mp hrun
  obtain ⟨e', he', hrun⟩ := bind_eq_ok.mp hrun
  obtain ⟨hopen, hopen₁, hopen₂, hstale, hheard, hanswer, hmin⟩ :=
    of_decide_eq_true (Except.ok.inj hrun)
  refine ⟨e, e₁, e₂, e₃, e', he, he₁, he₂, he₃, he', hmin, hmin ▸ ?_⟩
  exact settles (fun _ => here) (fun _ => 1400) (fun _ => 0) (fun _ => 0) (by decide) losing
    catching answering .left late default e e₁ e₂ e₃ e' he he₁ he₂ he₃ he' (by decide +kernel) hopen
    hopen₁ hopen₂ hstale (fun env hmem => by simp [catching, Side.peer] at hmem) hheard hanswer

end Settling

end Exchange

end ActixRaknet
