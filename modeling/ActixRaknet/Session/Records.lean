import ActixRaknet.Queue.Feedback
import ActixRaknet.Session.Counters

/-!
ACKs and NACKs of several records, as a peer may write them.

* `Record`: a record on the wire, a single number or a range; `Record.payload`: a record count and
  the records;
* `Session.handleAck_payload`, `Session.handleNack_payload`: what a session makes of such a
  payload, which is to take in the first record;
* `Session.Acknowledged`, `Session.Resent`: the effect of all records;
* `Session.matched_of_exec`: the two maps of the packet queue match in every reachable session;
* `feedback_records_iff`: the exact conditions for the records to take effect.
-/

namespace ActixRaknet

open Fallible Reader

/-- A record of an ACK or a NACK: a single number behind a flag that is not zero, or a range of
numbers behind a zero. -/
inductive Record
  | single (flag : UInt8) (hflag : flag ≠ 0) (number : Fin (2 ^ 24))
  | range (first last : Fin (2 ^ 24))
  deriving DecidableEq

namespace Record

/-- The bytes of a record. -/
def bytes : Record → Bytes
  | single flag _ number => flag :: Endian.little.toBytes 3 number
  | range first last => 0 :: (Endian.little.toBytes 3 first ++ Endian.little.toBytes 3 last)

/-- The first and the last number of a record. -/
def sequences : Record → ℕ × ℕ
  | single _ _ number => (number, number)
  | range first last => (first, last)

/-- The record covers the number. -/
def Covers (record : Record) (n : ℕ) : Prop := record.sequences.1 ≤ n ∧ n ≤ record.sequences.2

instance (record : Record) (n : ℕ) : Decidable (record.Covers n) :=
  inferInstanceAs (Decidable (_ ∧ _))

/-- A payload: the number of records and the records. -/
def payload (records : List Record) : Bytes :=
  Endian.big.toBytes 2 records.length ++ records.flatMap bytes

lemma mem_numbers {record : Record} {n : ℕ} :
    n ∈ Ranges.numbers record.sequences ↔ record.Covers n := Ranges.mem_numbers

lemma sequences_lt (record : Record) : record.sequences.2 < 2 ^ 24 := by
  cases record with
  | single flag hflag number => exact number.isLt
  | range first last => exact last.isLt

lemma getAll_eq {record : Record} {p : SequenceRecord} (hp : p.sequences = record.sequences) :
    p.getAll = .ok (Ranges.numbers record.sequences) := by
  have hlt := record.sequences_lt
  rw [SequenceRecord.getAll, hp, u32Add_of_lt (by omega), ok_bind, pure_eq_ok, Ranges.numbers]

/-- Of several records the first one is read. -/
lemma read_payload (record : Record) (records : List Record)
    (hcount : (record :: records).length < 2 ^ 16) :
    ∃ p r, SequenceRecord.read.run (facing [] (payload (record :: records))) = .ok (p, r)
      ∧ p.sequences = record.sequences := by
  have htoNat : (UInt16.ofNat (record :: records).length).toNat = (record :: records).length :=
    UInt16.toNat_ofNat_of_lt' hcount
  rw [payload, ← htoNat, List.flatMap_cons]
  generalize UInt16.ofNat (record :: records).length = count
  cases record with
  | single flag hflag number =>
      have hone : decide (flag ≠ 0) = true := decide_eq_true hflag
      refine ⟨⟨count, true, (number, number)⟩, facing (Endian.big.toBytes 2 count.toNat ++ [flag]
        ++ Endian.little.toBytes 3 number) (records.flatMap bytes), ?_, rfl⟩
      simp only [SequenceRecord.read, bytes, List.cons_append, StateT.run_bind, readU16_facing,
        ok_bind, readU8_facing, hone, readU24_facing _ _ _ number.isLt, Bool.not_true, readIf,
        Bool.false_eq_true, if_false, StateT.run_pure, pure_eq_ok, List.nil_append]
  | range first last =>
      have hzero : decide ((0 : UInt8) ≠ 0) = false := rfl
      refine ⟨⟨count, false, (first, last)⟩, facing (Endian.big.toBytes 2 count.toNat ++ [0]
        ++ Endian.little.toBytes 3 first ++ Endian.little.toBytes 3 last)
        (records.flatMap bytes), ?_, rfl⟩
      simp only [SequenceRecord.read, bytes, List.cons_append, List.append_assoc, StateT.run_bind,
        readU16_facing, ok_bind, readU8_facing, hzero, readU24_facing _ _ _ first.isLt,
        readU24_facing _ _ _ last.isLt, Bool.not_false, readIf, if_true, StateT.run_pure,
        pure_eq_ok, List.nil_append]

end Record

namespace Session

variable {s s' : Session} {env : Env}

/-! ### What a session reads -/

section Payload

variable (s env) (header : UInt8) (record : Record) (records : List Record)
  (hcount : (record :: records).length < 2 ^ 16)

include hcount

/-- An ACK takes the numbers of its first record out of the queue. -/
lemma handleAck_payload : s.handleAck (header :: Record.payload (record :: records))
    = .ok { s with packetQueue :=
        (Ranges.numbers record.sequences).foldl PacketQueue.received s.packetQueue } := by
  obtain ⟨p, r, hread, hp⟩ := Record.read_payload record records hcount
  have hdecode : decode Ack (header :: Record.payload (record :: records)) = .ok (.ok ⟨p⟩) :=
    readWith_eq (by rw [StateT.run_map, hread, map_ok])
  rw [handleAck, unwrapOrReturn, hdecode]
  simp only [Ack.getAll, Record.getAll_eq hp, ok_bind, pure_eq_ok]

/-- A NACK has the numbers of its first record sent again. -/
lemma handleNack_payload : s.handleNack env (header :: Record.payload (record :: records))
    = (fun q => { s with packetQueue := q })
        <$> s.packetQueue.resendAll env.queue (Ranges.numbers record.sequences) := by
  obtain ⟨p, r, hread, hp⟩ := Record.read_payload record records hcount
  have hdecode : decode Nack (header :: Record.payload (record :: records)) = .ok (.ok ⟨p⟩) :=
    readWith_eq (by rw [StateT.run_map, hread, map_ok])
  rw [handleNack, unwrapOrReturn, hdecode]
  simp only [Nack.getAll, Record.getAll_eq hp, ok_bind]
  rfl

end Payload

/-! ### Reachable sessions -/

/-- **Step lemma**: a call is a run of the packet queue. -/
lemma Ready.queue_step (h : s.Ready) {op : Op} (hs : s.step op = .ok s') :
    ∃ ops, Run.exec PacketQueue.step s.packetQueue ops = .ok s'.packetQueue := by
  rcases counts_step h hs with hc | ⟨env, msg, ops, q, -, -, hq, rfl⟩
  · obtain ⟨ops, hops, -⟩ := hc.queue
    exact ⟨ops, hops⟩
  · exact ⟨ops, hq⟩

/-- What every operation of the packet queue keeps holds in every reachable session. -/
lemma queue_invariant {P : PacketQueue → Prop}
    (hstep : ∀ q op q', P q → PacketQueue.step q op = .ok q' → P q') (addr : SocketAddr)
    (mtu : UInt16) (lastPing lastReceive : Instant) {ops : List Op} (hnew : P (.new mtu))
    (hs : Run.exec step (new addr mtu lastPing lastReceive) ops = .ok s) : P s.packetQueue := by
  have hinv := Run.invariant (P := fun s : Session => s.Ready ∧ P s.packetQueue)
    (fun t op t' ht hstep' => ?_) ⟨ready_new addr mtu lastPing lastReceive, hnew⟩ hs
  · exact hinv.2
  · obtain ⟨ops, hops⟩ := ht.1.queue_step hstep'
    exact ⟨ht.1.step hstep', Run.invariant hstep ht.2 hops⟩

/-! ### The effect of all records -/

/-- Every emitted number that a record covers is removed from the packet queue, and no other. -/
def Acknowledged (s : Session) (records : List Record) (s' : Session) : Prop :=
  s.packetQueue.Without
    (fun n => n < s.packetQueue.sendMin ∧ ∃ r ∈ records, r.Covers n) s'.packetQueue

/-- Every held number that a record covers is renumbered, exactly once, and no other. -/
def Resent (s : Session) (records : List Record) (s' : Session) : Prop :=
  ∃ ks : List ℕ, (∀ k, k ∈ ks ↔ k ∈ s.packetQueue.queue ∧ ∃ r ∈ records, r.Covers k)
    ∧ s.packetQueue.Renumbered ks s'.packetQueue

/-- Of the numbers held, the first record covers none that was not emitted, and all emitted ones
that a record covers. -/
def AckSuffices (s : Session) (record : Record) (records : List Record) : Prop :=
  ∀ n ∈ s.packetQueue.queue, record.Covers n
    ↔ n < s.packetQueue.sendMin ∧ ∃ r ∈ record :: records, r.Covers n

/-- The first record covers all held numbers that a record covers; it ends below `max` if it covers
any; and there are numbers left for their sets. -/
structure NackSuffices (s : Session) (record : Record) (records : List Record) : Prop where
  first : ∀ n ∈ s.packetQueue.queue, (∃ r ∈ records, r.Covers n) → record.Covers n
  below : ∀ n ∈ s.packetQueue.queue, record.Covers n → record.sequences.2 < s.packetQueue.max
  room : s.packetQueue.max
    + ((Ranges.numbers record.sequences).filter (· ∈ s.packetQueue.queue)).length < 2 ^ 32

section Effect

variable {header : UInt8} {record : Record} {records : List Record}
  (hcount : (record :: records).length < 2 ^ 16)

include hcount

lemma acknowledged_iff (h : s.packetQueue.Matched) :
    (∃ s', s.handleAck (header :: Record.payload (record :: records)) = .ok s'
        ∧ s.Acknowledged (record :: records) s')
      ↔ s.AckSuffices record records := by
  rw [handleAck_payload s header record records hcount]
  simp only [Except.ok.injEq, exists_eq_left']
  rw [Acknowledged, h.without_iff (h.without_received _)]
  simp only [Record.mem_numbers]
  exact Iff.rfl

/-- A NACK whose records take effect meets the condition. -/
lemma nackSuffices_of_resent (h : s.packetQueue.Matched) (hmax : s.packetQueue.max < 2 ^ 32)
    (hs : s.handleNack env (header :: Record.payload (record :: records)) = .ok s')
    (hresent : s.Resent (record :: records) s') : s.NackSuffices record records := by
  rw [handleNack_payload s env header record records hcount] at hs
  obtain ⟨q, hq, rfl⟩ := map_eq_ok.mp hs
  obtain ⟨ks, hks, hmoved⟩ := hresent
  have hcovers : ∀ n, n ∈ s.packetQueue.queue → n ∈ ks → record.Covers n := by
    intro n hn hmem
    by_contra hnot
    have hkept := (h.lookup_resendAll hq (h.lt_max n hn) fun hmem' =>
      hnot (Record.mem_numbers.mp hmem')).2
    have hgone := AList.lookup_eq_none.mpr (hmoved.gone n hmem)
    rw [hkept, AList.lookup_eq_none] at hgone
    exact hgone hn
  refine ⟨fun n hn hcov => ?_, fun n hn hcov => ?_, ?_⟩
  · obtain ⟨r, hr, hcov⟩ := hcov
    exact hcovers n hn ((hks n).mpr ⟨hn, r, List.mem_cons_of_mem _ hr, hcov⟩)
  · by_contra hle
    have hnot := h.max_notMem_resendAll hq (not_lt.mp hle) hn hcov.1
    have hmem : n ∈ ks := (hks n).mpr ⟨hn, record, List.mem_cons_self, hcov⟩
    have hpos := List.length_pos_of_mem hmem
    obtain ⟨fs, -, hfs⟩ := hmoved.moved 0 ks[0] (List.getElem?_eq_getElem hpos)
    exact hnot (HashMap.mem_of_lookup hfs)
  · -- the moved numbers are those of the first record that are held
    have hnodup : (Ranges.numbers record.sequences).Nodup := List.nodup_range'
    have hperm : ks.Perm ((Ranges.numbers record.sequences).filter (· ∈ s.packetQueue.queue)) := by
      refine (List.perm_ext_iff_of_nodup hmoved.nodup (hnodup.filter _)).mpr fun n => ?_
      rw [List.mem_filter, decide_eq_true_iff, Record.mem_numbers]
      constructor
      · exact fun hmem => ⟨hcovers n ((hks n).mp hmem).1 hmem, ((hks n).mp hmem).1⟩
      · exact fun hn => (hks n).mpr ⟨hn.2, record, List.mem_cons_self, hn.1⟩
    have hlt : q.max < 2 ^ 32 := Run.invariant (P := fun q => q.max < 2 ^ 32)
      (fun _ op _ => PacketQueue.step_max_lt op) hmax
      ((exec_resend env.queue _ s.packetQueue).trans hq)
    rw [← hperm.length_eq, ← hmoved.max_eq]
    exact hlt

/-- Under the condition the records of a NACK take effect. -/
lemma resent_of_nackSuffices (h : s.packetQueue.Matched) (hsuff : s.NackSuffices record records) :
    ∃ s', s.handleNack env (header :: Record.payload (record :: records)) = .ok s'
      ∧ s.Resent (record :: records) s' := by
  rw [handleNack_payload s env header record records hcount]
  have hmem : ∀ n, (n ∈ s.packetQueue.queue ∧ ∃ r ∈ record :: records, r.Covers n)
      ↔ n ∈ s.packetQueue.queue ∧ record.Covers n := by
    intro n
    refine and_congr_right fun hn => ⟨?_, fun hcov => ⟨record, List.mem_cons_self, hcov⟩⟩
    rintro ⟨r, hr, hcov⟩
    rcases List.mem_cons.mp hr with rfl | hr
    · exact hcov
    · exact hsuff.first n hn ⟨r, hr, hcov⟩
  by_cases hnone : ∀ n ∈ s.packetQueue.queue, ¬ record.Covers n
  · rw [h.resendAll_of_notMem env.queue fun n hn hq => hnone n hq (Record.mem_numbers.mp hn)]
    refine ⟨_, rfl, [], fun n => ?_, PacketQueue.renumbered_nil _⟩
    rw [hmem]
    exact iff_of_false List.not_mem_nil fun hn => hnone n hn.1 hn.2
  · simp only [not_forall, not_not] at hnone
    obtain ⟨k, hk, hcov⟩ := hnone
    have hlt : ∀ n ∈ Ranges.numbers record.sequences, n < s.packetQueue.max := fun n hn =>
      (Record.mem_numbers.mp hn).2.trans_lt (hsuff.below k hk hcov)
    have hnodup : (Ranges.numbers record.sequences).Nodup := List.nodup_range'
    obtain ⟨q, hq⟩ := h.exists_resendAll env.queue hnodup hlt hsuff.room
    rw [hq]
    refine ⟨_, rfl, _, fun n => ?_, h.renumbered_resendAll hnodup hlt hq⟩
    rw [hmem, List.mem_filter, decide_eq_true_iff, Record.mem_numbers, and_comm]

end Effect

/-- **Every acknowledgement record takes effect** exactly when the first one suffices: of an ACK
every emitted number that a record covers is removed and no other exactly when, among the numbers
held, these are the ones the first record covers; of a NACK every held number that a record covers
is renumbered once and no other exactly when the first record covers them all and ends below the
next number, of which enough are left. -/
theorem feedback_records_iff (addr : SocketAddr) (mtu : UInt16) (lastPing lastReceive : Instant)
    (ops : List Op) {s : Session}
    (hs : Run.exec step (new addr mtu lastPing lastReceive) ops = .ok s) (env : Env)
    (header : UInt8) (record : Record) (records : List Record)
    (hcount : (record :: records).length < 2 ^ 16) :
    ((∃ s', s.handleAck (header :: Record.payload (record :: records)) = .ok s'
          ∧ s.Acknowledged (record :: records) s')
        ↔ s.AckSuffices record records)
      ∧ ((∃ s', s.handleNack env (header :: Record.payload (record :: records)) = .ok s'
          ∧ s.Resent (record :: records) s')
        ↔ s.NackSuffices record records) := by
  have hmatched : s.packetQueue.Matched := queue_invariant
    (fun _ _ _ hq hstep => PacketQueue.step_matched hq hstep) addr mtu lastPing lastReceive
    (PacketQueue.matched_new mtu) hs
  have hmax : s.packetQueue.max < 2 ^ 32 := queue_invariant (P := fun q => q.max < 2 ^ 32)
    (fun _ op _ => PacketQueue.step_max_lt op) addr mtu lastPing lastReceive
    (Nat.two_pow_pos 32) hs
  refine ⟨acknowledged_iff hcount hmatched, ?_, resent_of_nackSuffices hcount hmatched⟩
  rintro ⟨s', hs', hresent⟩
  exact nackSuffices_of_resent hcount hmatched hmax hs' hresent

/-- The theorem after three sets have been sent, for a range of the first two and a record within
it: an ACK takes the two out of the queue, and a NACK moves them behind the third. -/
theorem feedback_records_iff_sample :
    let ops := [Op.sendTo default [1], .forceFlush default, .sendTo default [2],
      .forceFlush default, .sendTo default [3], .forceFlush default]
    let record := Record.range 0 1
    let records := [Record.single 1 (by decide) 1]
    let payload := Record.payload (record :: records)
    ∃ s, Run.exec step (new (.v4 ⟨127, 0, 0, 1⟩ 19132) 1400 0 0) ops = .ok s
      ∧ s.packetQueue.sendMin = 3 ∧ s.packetQueue.queue.keys = [2, 1, 0]
      ∧ (∃ s', s.handleAck (0xc0 :: payload) = .ok s' ∧ s.Acknowledged (record :: records) s'
        ∧ s'.packetQueue.queue.keys = [2])
      ∧ ∃ s', s.handleNack default (0xa0 :: payload) = .ok s' ∧ s.Resent (record :: records) s'
        ∧ s'.packetQueue.queue.keys = [4, 3, 2] := by
  intro ops record records payload
  have hrun : (fun r : Session × Session × Session => (r.1.packetQueue.sendMin,
        r.1.packetQueue.max, r.1.packetQueue.queue.keys, r.2.1.packetQueue.queue.keys,
        r.2.2.packetQueue.queue.keys))
      <$> (do
        let s ← Run.exec step (new (.v4 ⟨127, 0, 0, 1⟩ 19132) 1400 0 0) ops
        let acked ← s.handleAck (0xc0 :: payload)
        let resent ← s.handleNack default (0xa0 :: payload)
        return (s, acked, resent))
      = .ok (3, 3, [2, 1, 0], [2], [4, 3, 2]) := by
    decide +kernel
  obtain ⟨⟨s, acked, resent⟩, hs, heq⟩ := map_eq_ok.mp hrun
  simp only [bind_eq_ok, pure_eq_ok, Except.ok.injEq, Prod.mk.injEq] at hs heq
  obtain ⟨s, hs, acked, hacked, resent, hresent, rfl, rfl, rfl⟩ := hs
  obtain ⟨hmin, hmax, hkeys, hackedKeys, hresentKeys⟩ := heq
  have hmem : ∀ n, n ∈ s.packetQueue.queue ↔ n ∈ [2, 1, 0] := fun n => by
    rw [AList.mem_keys, hkeys]
  obtain ⟨hack, -⟩ := feedback_records_iff (.v4 ⟨127, 0, 0, 1⟩ 19132) 1400 0 0 ops hs default 0xc0
    record records (by decide)
  obtain ⟨-, hnack⟩ := feedback_records_iff (.v4 ⟨127, 0, 0, 1⟩ 19132) 1400 0 0 ops hs default 0xa0
    record records (by decide)
  refine ⟨s, hs, hmin, hkeys, ?_, ?_⟩
  · obtain ⟨s', hs', hacknowledged⟩ := hack.mpr fun n hn => by
      rw [hmem] at hn
      rw [hmin]
      revert n
      decide
    obtain rfl := Except.ok.inj (hacked.symm.trans hs')
    exact ⟨_, hacked, hacknowledged, hackedKeys⟩
  · have hsuffices : s.NackSuffices record records := by
      refine ⟨fun n hn => ?_, fun n hn => ?_, ?_⟩
      · rw [hmem] at hn
        revert n
        decide
      · rw [hmem] at hn
        rw [hmax]
        revert n
        decide
      · rw [hmax]
        exact (Nat.add_le_add_left (List.length_filter_le _ _) 3).trans_lt (by decide)
    obtain ⟨s', hs', hresent'⟩ := hnack.mpr hsuffices
    obtain rfl := Except.ok.inj (hresent.symm.trans hs')
    exact ⟨_, hresent, hresent', hresentKeys⟩

/-- Two sets are sent, and an ACK announces two records and carries both: the set 1 stays held. -/
theorem feedback_records_counterexample :
    let ops := [Op.sendTo default [1], .forceFlush default, .sendTo default [2],
      .forceFlush default]
    let records := [Record.single 1 (by decide) 0, Record.single 1 (by decide) 1]
    ∃ s s', Run.exec step (new (.v4 ⟨127, 0, 0, 1⟩ 19132) 1400 0 0) ops = .ok s
      ∧ s.handleAck (0xc0 :: Record.payload records) = .ok s' ∧ 1 < s.packetQueue.sendMin
      ∧ (∃ r ∈ records, r.Covers 1) ∧ 1 ∈ s'.packetQueue.queue ∧ ¬ s.Acknowledged records s' := by
  intro ops records
  have hrun : (fun r : Session × Session => decide (1 < r.1.packetQueue.sendMin
        ∧ 1 ∈ r.2.packetQueue.queue))
      <$> (do
        let s ← Run.exec step (new (.v4 ⟨127, 0, 0, 1⟩ 19132) 1400 0 0) ops
        let s' ← s.handleAck (0xc0 :: Record.payload records)
        return (s, s'))
      = .ok true := by
    decide +kernel
  obtain ⟨⟨s, s'⟩, hs, heq⟩ := map_eq_ok.mp hrun
  simp only [bind_eq_ok, pure_eq_ok, Except.ok.injEq, Prod.mk.injEq] at hs
  obtain ⟨s, hs, s', hs', rfl, rfl⟩ := hs
  obtain ⟨hmin, hheld⟩ := of_decide_eq_true heq
  have hcovered : ∃ r ∈ records, r.Covers 1 :=
    ⟨.single 1 (by decide) 1, List.mem_cons_of_mem _ (List.mem_singleton_self _), by decide⟩
  exact ⟨s, s', hs, hs', hmin, hcovered, hheld, fun h => (h.removed 1 ⟨hmin, hcovered⟩).1 hheld⟩

end Session

end ActixRaknet
