import ActixRaknet.Session.Safety
import Mathlib.Data.List.Perm.Subperm

/-!
How often a frame of reliability Reliable reaches `handle_packet`.

* `ReceivedQueue.OrderedOnly`: the receive queue holds ordered frames only, so of a datagram's
  Reliable frames it hands on every one (`Sane.reliables_handed`);
* `Session.handledBy`, `arrivals`: the frames a call passes to `handle_packet`, and the frames of
  the datagrams of a run;
* `reliable_once_iff`: a Reliable frame is handled once exactly if it arrives once: neither its
  message index nor the number of its datagram is looked at.
-/

namespace ActixRaknet

open Fallible

/-- The frames of reliability Reliable. -/
def reliables (frames : List Frame) : List Frame := frames.filter (·.reliability = .reliable)

/-- No message index occurs twice among the frames of reliability Reliable. -/
def AtMostOnce (frames : List Frame) : Prop := ((reliables frames).map Frame.messageIndex).Nodup

instance : DecidablePred AtMostOnce := fun _ => inferInstanceAs (Decidable (List.Nodup _))

@[simp] lemma reliables_append (l l' : List Frame) :
    reliables (l ++ l') = reliables l ++ reliables l' := List.filter_append ..

lemma reliables_eq_nil {l : List Frame}
    (h : ∀ f ∈ l, f.reliability.sequencedOrOrdered = true) : reliables l = [] := by
  refine List.filter_eq_nil_iff.mpr fun f hf hreliable => ?_
  have := h f hf
  rw [of_decide_eq_true hreliable] at this
  cases this

lemma AtMostOnce.of_subperm {l l' : List Frame} (h : AtMostOnce l) (hsub : l'.Subperm l) :
    AtMostOnce l' := by
  obtain ⟨m, hperm, hm⟩ := hsub.filter fun f => f.reliability = .reliable
  exact ((hperm.map _).nodup_iff).mp (List.Nodup.sublist (hm.map _) h)

lemma atMostOnce_congr {l l' : List Frame} (h : (reliables l').Perm (reliables l)) :
    AtMostOnce l' ↔ AtMostOnce l := (h.map _).nodup_iff

/-! ### The receive queue -/

namespace ReceivedQueue

/-- The frames and the packets that are held are ordered. -/
structure OrderedOnly (q : ReceivedQueue) : Prop where
  frames : ∀ k f, q.packetQueue.lookup k = some f → f.reliability.sequencedOrOrdered = true
  packets : ∀ id p, q.splits.pool.lookup id = some p → p.reliability.sequencedOrOrdered = true

lemma orderedOnly_new : OrderedOnly new :=
  ⟨fun k f h => by simp [new] at h, fun id p h => by simp [new, SplitPacketQueue.new] at h⟩

lemma OrderedOnly.store {q q' : ReceivedQueue} (h : q.OrderedOnly) {f : Frame}
    (hf : f.reliability.sequencedOrOrdered = true) (hstore : q.store f = .ok q') :
    q'.OrderedOnly := by
  simp only [ReceivedQueue.store, bind_eq_ok, pure_eq_ok, Except.ok.injEq] at hstore
  obtain ⟨max, -, rfl⟩ := hstore
  refine ⟨fun k g hg => ?_, h.packets⟩
  rw [HashMap.lookup_insert_eq_ite] at hg
  split_ifs at hg
  · exact Option.some.inj hg ▸ hf
  · exact h.frames k g hg

/-- The packet of an ordered fragment is ordered. -/
lemma OrderedOnly.grown {q : ReceivedQueue} (h : q.OrderedOnly) {f : Frame}
    (hf : f.reliability.sequencedOrOrdered = true) :
    (q.splits.grown f).reliability.sequencedOrOrdered = true := by
  rw [SplitPacketQueue.grown, SplitPacket.reliability_add, SplitPacketQueue.packetOf]
  cases hp : q.splits.pool.lookup f.splitId with
  | none => exact hf
  | some p => exact h.packets _ p hp

lemma OrderedOnly.storePacket {q q' : ReceivedQueue} (h : q.OrderedOnly) {p : SplitPacket}
    (hp : p.reliability.sequencedOrOrdered = true) (hstore : q.storePacket p = .ok q') :
    q'.OrderedOnly := by
  cases hdata : p.getAll with
  | error e =>
      rw [ReceivedQueue.storePacket, SplitPacket.getFrame, hdata] at hstore
      cases hstore
  | ok data =>
      rw [storePacket_eq hdata] at hstore
      exact h.store hp hstore

lemma OrderedOnly.add {q q' : ReceivedQueue} (h : q.OrderedOnly) (hq : q.splits.Draining)
    {f : Frame} (hf : f.reliability.sequencedOrOrdered = true) (hadd : q.add f = .ok q') :
    q'.OrderedOnly := by
  cases hsplit : f.split with
  | false =>
      rw [ReceivedQueue.add, if_neg (by rw [hsplit]; exact Bool.false_ne_true)] at hadd
      split_ifs at hadd
      · exact Except.ok.inj hadd ▸ h
      · exact Except.ok.inj hadd ▸ h
      · exact h.store hf hadd
  | true =>
      obtain ⟨pool, hpool, heq⟩ := add_split hq hsplit
      have hgrown : OrderedOnly { q with splits := ⟨pool, q.splits.cleared f⟩ } := by
        refine ⟨h.frames, fun id p hp => ?_⟩
        rw [hpool] at hp
        split_ifs at hp
        · exact Option.some.inj hp ▸ h.grown hf
        · exact h.packets id p hp
      rw [heq] at hadd
      split_ifs at hadd
      · exact hgrown.storePacket (h.grown hf) hadd
      · exact Except.ok.inj hadd ▸ hgrown

/-- What every frame of the queue satisfies, the released and the remaining ones do. -/
lemma release_forall {P : Frame → Prop} (n : ℕ) {pq : HashMap ℕ Frame} {i : ℕ}
    (h : ∀ k f, pq.lookup k = some f → P f) : (∀ f ∈ (release pq i n).1, P f)
      ∧ ∀ k f, (release pq i n).2.2.lookup k = some f → P f := by
  induction n generalizing pq i with
  | zero => exact ⟨fun f hf => absurd hf List.not_mem_nil, h⟩
  | succ n ih =>
      cases hlookup : pq.lookup i with
      | none =>
          rw [release, hlookup]
          exact ⟨fun f hf => absurd hf List.not_mem_nil, h⟩
      | some f =>
          have herase : ∀ k g, (pq.erase i).lookup k = some g → P g := by
            intro k g hg
            exact h k g (HashMap.lookup_of_lookup_erase hg)
          obtain ⟨hreleased, hrest⟩ := ih (i := i + 1) herase
          rw [release, hlookup]
          exact ⟨List.forall_mem_cons.mpr ⟨h i f hlookup, hreleased⟩, hrest⟩

lemma OrderedOnly.getAll {q : ReceivedQueue} (h : q.OrderedOnly) :
    (∀ f ∈ q.getAll.1, f.reliability.sequencedOrOrdered = true) ∧ q.getAll.2.OrderedOnly := by
  obtain ⟨hreleased, hrest⟩ := release_forall (q.max - q.min) (i := q.min) h.frames
  exact ⟨hreleased, hrest, h.packets⟩

/-- A frame hands on itself if it is not ordered, and ordered frames otherwise. -/
lemma OrderedOnly.hand {q q' : ReceivedQueue} (h : q.OrderedOnly) (hq : q.splits.Draining)
    {f : Frame} {l : List Frame} (hhand : q.hand f = .ok (l, q')) :
    reliables l = reliables [f] ∧ q'.OrderedOnly := by
  rw [ReceivedQueue.hand] at hhand
  split_ifs at hhand with hf
  · obtain ⟨q₁, hadd, hall⟩ := bind_eq_ok.mp hhand
    obtain ⟨hreleased, hq'⟩ := (h.add hq hf hadd).getAll
    rw [pure_eq_ok, Except.ok.injEq] at hall
    rw [hall] at hreleased hq'
    rw [reliables_eq_nil hreleased, reliables_eq_nil (by simpa using hf)]
    exact ⟨rfl, hq'⟩
  · obtain ⟨rfl, rfl⟩ := Prod.mk.inj (Except.ok.inj hhand)
    exact ⟨rfl, h⟩

/-- **Of the Reliable frames of a datagram** every one is handed on, whatever was before. -/
lemma OrderedOnly.handed {q q' : ReceivedQueue} (h : q.OrderedOnly) (hq : q.Sane)
    {fs l : List Frame} (hfs : ∀ f ∈ fs, f.orderIndex < 2 ^ 24)
    (hhanded : q.handed fs = .ok (l, q')) :
    reliables l = reliables fs ∧ q'.OrderedOnly := by
  induction fs generalizing q l with
  | nil =>
      obtain ⟨rfl, rfl⟩ := Prod.mk.inj (Except.ok.inj hhanded)
      exact ⟨rfl, h⟩
  | cons f fs ih =>
      obtain ⟨hf, hrest⟩ := List.forall_mem_cons.mp hfs
      obtain ⟨ret, q₁, tail, hhand, hhanded₁, rfl⟩ := handed_cons_eq_ok.mp hhanded
      obtain ⟨hret, h₁⟩ := h.hand hq.draining hhand
      obtain ⟨ret', q₁', hhand', hsane⟩ := hq.hand hf
      obtain ⟨-, rfl⟩ := Prod.mk.inj (Except.ok.inj (hhand.symm.trans hhand'))
      obtain ⟨htail, hq'⟩ := ih h₁ hsane hrest hhanded₁
      refine ⟨?_, hq'⟩
      rw [reliables_append, hret, htail, ← reliables_append, List.singleton_append]

end ReceivedQueue

/-! ### Runs of a session -/

namespace Session

/-- The frames that arrive in a run. -/
def arrivals (ops : List Op) : List Frame :=
  ops.flatMap fun
    | .handle _ msg => arrives msg.bytes
    | _ => []

/-- The session takes its datagrams apart, and its receive queue holds ordered frames only. -/
structure Filtering (s : Session) : Prop where
  ready : s.Ready
  ordered : s.received.OrderedOnly

lemma filtering_new (addr : SocketAddr) (mtu : UInt16) (lastPing lastReceive : Instant) :
    Filtering (new addr mtu lastPing lastReceive) :=
  ⟨ready_new addr mtu lastPing lastReceive, ReceivedQueue.orderedOnly_new⟩

lemma Passes.filtering {s s' : Session} {l : List Frame} (h : Passes s s' l)
    (hs : s.Filtering) : s'.Filtering := ⟨h.ready hs.ready, h.received ▸ hs.ordered⟩

/-- A datagram is handled as the frames that `handledBy` names. -/
lemma Filtering.handle_eq {s s' : Session} {env : Env} {msg : UdpPacket} (h : s.Filtering)
    (hstep : s.handle env msg = .ok s') :
    s'.Filtering ∧ reliables (s.handledBy (.handle env msg)) = reliables (arrives msg.bytes)
      ∧ ∃ frames, frames.Sublist (s.handledBy (.handle env msg))
        ∧ s'.posted = s.posted ++ frames := by
  have hquiet : Passes s s' [] → arrives msg.bytes = [] → s'.Filtering
      ∧ reliables (s.handledBy (.handle env msg)) = reliables (arrives msg.bytes)
      ∧ ∃ frames, frames.Sublist (s.handledBy (.handle env msg))
        ∧ s'.posted = s.posted ++ frames := by
    intro hp ha
    rw [handledBy, ha]
    exact ⟨hp.filtering h, rfl, [], List.Sublist.refl _, hp.posted⟩
  by_cases hrouted : Routed msg.bytes
  · rw [handle_of_routed hrouted] at hstep
    cases hdecode : FrameSet.decode msg.bytes with
    | error e =>
        rw [handleDatagram, hdecode] at hstep
        exact hquiet (Except.ok.inj hstep ▸ .refl s) (by rw [arrives, if_pos hrouted, hdecode])
    | ok frameSet =>
        have harrives : arrives msg.bytes = frameSet.datas := by
          rw [arrives, if_pos hrouted, hdecode]
        obtain ⟨ackQueue, l, q, -, hhanded, hq, heq⟩ := h.ready.handleDatagram_eq env hdecode
        obtain ⟨hreliables, hordered⟩ := h.ordered.handed h.ready.sane
          (FrameSet.lt_of_decode hdecode).2 hhanded
        obtain ⟨t, hfold, rfl⟩ := map_eq_ok.mp (heq.symm.trans hstep)
        obtain ⟨frames, hsub, hpasses⟩ := passes_handlePackets hfold
        rw [handledBy, harrives, hhanded]
        exact ⟨⟨⟨hq, hpasses.max_lt h.ready.max_lt⟩, hordered⟩, hreliables, frames, hsub,
          hpasses.posted⟩
  · refine hquiet ?_ (if_neg hrouted)
    rcases handle_of_not_routed hrouted hstep with hack | hnack | rfl
    · exact passes_handleAck hack
    · exact passes_handleNack hnack
    · exact .refl s'

/-- **Step lemma**: a call handles the Reliable frames that arrive with it, and passes on some of
the frames it handles, in their order. -/
lemma Filtering.step {s s' : Session} {op : Op} (h : s.Filtering) (hstep : s.step op = .ok s') :
    s'.Filtering ∧ reliables (s.handledBy op) = reliables (arrivals [op])
      ∧ ∃ frames, frames.Sublist (s.handledBy op) ∧ s'.posted = s.posted ++ frames := by
  have hquiet : Passes s s' [] → arrivals [op] = [] → s.handledBy op = [] →
      s'.Filtering ∧ reliables (s.handledBy op) = reliables (arrivals [op])
        ∧ ∃ frames, frames.Sublist (s.handledBy op) ∧ s'.posted = s.posted ++ frames :=
    fun hp ha hh => ⟨hp.filtering h, by rw [ha, hh], [], List.nil_sublist _, hp.posted⟩
  cases op with
  | update env => exact hquiet (passes_update hstep) rfl rfl
  | forceFlush env => exact hquiet (passes_flushQueue hstep) rfl rfl
  | disconnect env => exact hquiet (passes_disconnect hstep) rfl rfl
  | sendSystemPacket env P packet reliability =>
      exact hquiet (passes_sendSystemPacket hstep) rfl rfl
  | sendTo env buff => exact hquiet (passes_sendTo hstep) rfl rfl
  | handle env msg =>
      rw [show arrivals [.handle env msg] = arrives msg.bytes from List.append_nil _]
      exact h.handle_eq hstep

/-- **Run lemma**: the Reliable frames handled are those that arrived, in another order, and what
was passed on was handled. -/
lemma handled_of_exec {ops : List Op} {s t : Session × List Frame} (hs : s.1.Filtering)
    (hsub : s.1.posted.Subperm s.2) (h : Run.exec (Run.logged step handledBy) s ops = .ok t) :
    (reliables t.2).Perm (reliables (arrivals ops) ++ reliables s.2)
      ∧ t.1.posted.Subperm t.2 := by
  induction ops generalizing s with
  | nil =>
      obtain rfl := Except.ok.inj h
      exact ⟨List.Perm.refl _, hsub⟩
  | cons op ops ih =>
      obtain ⟨s₁, hstep, hrest⟩ := Run.exec_cons.mp h
      obtain ⟨hstep, hlog⟩ := Run.logged_eq_ok.mp hstep
      obtain ⟨hfiltering, hreliables, frames, hframes, hposted⟩ := hs.step hstep
      have hsub₁ : s₁.1.posted.Subperm s₁.2 := by
        rw [hposted, hlog]
        exact (hsub.append hframes.subperm).trans List.perm_append_comm.subperm
      obtain ⟨hperm, hsub'⟩ := ih hfiltering hsub₁ hrest
      refine ⟨hperm.trans ?_, hsub'⟩
      have harrivals : arrivals ([op] ++ ops) = arrivals [op] ++ arrivals ops :=
        List.flatMap_append
      rw [List.singleton_append] at harrivals
      rw [hlog, reliables_append, hreliables, harrivals, reliables_append, ← List.append_assoc]
      exact List.perm_append_comm.append_right _

/-- **Reliable frames are handled as often as they arrive.**  In every run of a session, no frame of
reliability Reliable reaches `handle_packet`, or the parent, twice under one message index exactly
if none arrives twice. -/
theorem reliable_once_iff (addr : SocketAddr) (mtu : UInt16) (lastPing lastReceive : Instant)
    (ops : List Op) {s : Session × List Frame}
    (hs : Run.exec (Run.logged step handledBy) (new addr mtu lastPing lastReceive, []) ops
      = .ok s) :
    AtMostOnce s.2 ∧ AtMostOnce s.1.posted ↔ AtMostOnce (arrivals ops) := by
  obtain ⟨hperm, hsub⟩ := handled_of_exec (filtering_new addr mtu lastPing lastReceive)
    (List.Subperm.refl _) hs
  have hall : (reliables s.2).Perm (reliables (arrivals ops)) :=
    hperm.trans (.of_eq (List.append_nil _))
  rw [← atMostOnce_congr hall, and_iff_left_iff_imp]
  exact fun h => h.of_subperm hsub

/-- The theorem at a session that sends a packet and takes Reliable frames from datagrams in the
wrong order, with ordered frames between them, one of which waits for the other. -/
theorem reliable_once_iff_sample :
    let addr : SocketAddr := .v4 ⟨127, 0, 0, 1⟩ 19132
    let reliable (index body : UInt8) : Bytes := [0x40, 0, 0x10, index, 0, 0, 254, body]
    let ordered (index order : UInt8) : Bytes := [0x60, 0, 8, index, 0, 0, order, 0, 0, 0, 254]
    let datagram (number : UInt8) (frames : Bytes) : UdpPacket :=
      ⟨[0x84, number, 0, 0] ++ frames, addr⟩
    let ops := [.sendTo default [254], .handle default (datagram 1 (reliable 3 7 ++ ordered 4 1)),
      .update default, .handle default (datagram 0 (reliable 0 7 ++ ordered 1 0 ++ reliable 2 8))]
    ∃ s, Run.exec (Run.logged step handledBy) (new addr 1400 0 0, []) ops = .ok s
      ∧ s.2.map Frame.messageIndex = [0, 1, 4, 2, 3]
      ∧ AtMostOnce s.2 ∧ AtMostOnce s.1.posted := by
  intro addr reliable ordered datagram ops
  have hrun : (fun s => s.2.map Frame.messageIndex)
      <$> Run.exec (Run.logged step handledBy) (new addr 1400 0 0, []) ops
        = .ok [0, 1, 4, 2, 3] := by
    decide +kernel
  have harrivals : AtMostOnce (arrivals ops) := by decide +kernel
  obtain ⟨s, hs, hlog⟩ := map_eq_ok.mp hrun
  exact ⟨s, hs, hlog, (reliable_once_iff addr 1400 0 0 ops hs).mpr harrivals⟩

/-- The datagram with which a new session of a client sends its `ConnectionRequest`. -/
def requestDatagram : UdpPacket :=
  ⟨[0x84, 0, 0, 0, 0x40, 0x00, 0x90, 0, 0, 0,
    0x09, 0, 0, 0, 0, 0, 0, 0, 7, 0, 0, 0, 0, 0, 0, 0, 0, 0], .v4 ⟨127, 0, 0, 1⟩ 19132⟩

/-- A session sends a `ConnectionRequest`, and the network delivers its datagram twice: the request
is handled twice and passed to the parent twice. -/
theorem reliable_once_counterexample :
    (∃ sender, Run.exec step (new (.v4 ⟨127, 0, 0, 1⟩ 19132) 1400 0 0)
          [@Op.sendSystemPacket default ConnectionRequest _ (ConnectionRequest.new 7 0 false)
            .reliable, .update default] = .ok sender
        ∧ sender.udp = [requestDatagram])
      ∧ ∃ s, Run.exec (Run.logged step handledBy) (new (.v4 ⟨127, 0, 0, 1⟩ 19132) 1400 0 0, [])
          [.handle default requestDatagram, .handle default requestDatagram] = .ok s
        ∧ ¬AtMostOnce s.2 ∧ ¬AtMostOnce s.1.posted := by
  have hsent : Session.udp <$> Run.exec step (new (.v4 ⟨127, 0, 0, 1⟩ 19132) 1400 0 0)
      [@Op.sendSystemPacket default ConnectionRequest _ (ConnectionRequest.new 7 0 false)
        .reliable, .update default] = .ok [requestDatagram] := by decide +kernel
  have htaken : (fun s => (decide (AtMostOnce s.2), decide (AtMostOnce s.1.posted)))
      <$> Run.exec (Run.logged step handledBy) (new (.v4 ⟨127, 0, 0, 1⟩ 19132) 1400 0 0, [])
        [.handle default requestDatagram, .handle default requestDatagram]
      = .ok (false, false) := by decide +kernel
  obtain ⟨s, hs, hfalse⟩ := map_eq_ok.mp htaken
  obtain ⟨hhandled, hposted⟩ := Prod.mk.inj hfalse
  exact ⟨map_eq_ok.mp hsent, s, hs, of_decide_eq_false hhandled, of_decide_eq_false hposted⟩

end Session

end ActixRaknet
