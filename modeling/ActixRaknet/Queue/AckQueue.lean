import ActixRaknet.Packets.Ack
import ActixRaknet.Library.Run

/-!
`ACKQueue` of `packet.rs`: which sequence numbers arrived, and the acknowledgements made of them.

* `ACKQueue`, `add`, `clear`: the window `[lowest, highest)` and the numbers seen in it;
* `clear_eq`: what a `clear` reports, as the ranges and the gaps of the window;
* `window`, `sinceClear`: the same window and the arrivals since the last `clear`, computed from
  the history of the calls alone;
* `Tracks`: the state after any history agrees with them (`tracks_run`);
* `feedback_exact`: every report is exact, over the whole run every number is reported once, and
  the peer reads exactly what was reported.
-/

namespace ActixRaknet

open Fallible

/-- `ACKQueue`. -/
structure ACKQueue where
  lowest : ℕ
  highest : ℕ
  storeSeq : Finset ℕ
  deriving DecidableEq

/-- What a `clear` returns: the received ranges and the missing numbers. -/
abbrev Report := List (ℕ × ℕ) × List ℕ

namespace ACKQueue

/-- `ACKQueue::new`. -/
def new : ACKQueue := ⟨0, 0, ∅⟩

/-- The upper end of the window after the arrival of `sequence`. -/
def raised (q : ACKQueue) (sequence : ℕ) : Except Panic ℕ :=
  if q.highest ≤ sequence then u32Add sequence 1 else .ok q.highest

/-- `ACKQueue::add`. -/
def add (q : ACKQueue) (sequence : ℕ) : Except Panic ACKQueue :=
  if q.lowest ≤ sequence ∧ sequence ∉ q.storeSeq then do
    let highest ← q.raised sequence
    return { q with highest := highest, storeSeq := insert sequence q.storeSeq }
  else
    .ok q

/-- One round of the loop of `ACKQueue::clear`.  The ranges taken so far end below `i`, so the
`+ 1` of the source on the end of the last one cannot overflow. -/
def sweep (acc : List (ℕ × ℕ) × List ℕ × Finset ℕ) (i : ℕ) : List (ℕ × ℕ) × List ℕ × Finset ℕ :=
  if i ∈ acc.2.2 then (Ranges.push acc.1 i, acc.2.1, acc.2.2.erase i)
  else (acc.1, acc.2.1 ++ [i], acc.2.2)

/-- The numbers from `lowest` up to `highest`. -/
def pending (q : ACKQueue) : List ℕ := List.range' q.lowest (q.highest - q.lowest)

/-- `ACKQueue::clear`. -/
def clear (q : ACKQueue) : Report × ACKQueue :=
  let acc := q.pending.foldl sweep ([], [], q.storeSeq)
  ((acc.1, acc.2.1), { q with lowest := q.highest, storeSeq := acc.2.2 })

lemma raised_of_lt {q : ACKQueue} {n : ℕ} (h : n + 1 < 2 ^ 32) :
    q.raised n = .ok (max q.highest (n + 1)) := by
  rw [raised]
  split_ifs with hq
  · rw [u32Add_of_lt h, max_eq_right (by omega)]
  · rw [max_eq_left (by omega)]

/-! ### What a `clear` reports -/

lemma foldl_sweep {l : List ℕ} (hl : l.Nodup) (received : List (ℕ × ℕ)) (missing : List ℕ)
    (store : Finset ℕ) :
    l.foldl sweep (received, missing, store)
      = ((l.filter (· ∈ store)).foldl Ranges.push received,
          missing ++ l.filter (· ∉ store), store \ l.toFinset) := by
  induction l generalizing received missing store with
  | nil => simp
  | cons i l ih =>
      obtain ⟨hi, hl⟩ := List.nodup_cons.mp hl
      by_cases hmem : i ∈ store
      · -- `i` is taken out of the store, which the later rounds do not ask for it
        have hin : l.filter (· ∈ store.erase i) = l.filter (· ∈ store) :=
          List.filter_congr fun j hj => by simp [show j ≠ i from fun h => hi (h ▸ hj)]
        have hout : l.filter (· ∉ store.erase i) = l.filter (· ∉ store) :=
          List.filter_congr fun j hj => by simp [show j ≠ i from fun h => hi (h ▸ hj)]
        have hstore : store.erase i \ l.toFinset = store \ (i :: l).toFinset := by
          ext j
          simp only [Finset.mem_sdiff, Finset.mem_erase, List.toFinset_cons, Finset.mem_insert]
          tauto
        rw [List.foldl_cons, sweep, if_pos hmem, ih hl, hin, hout, hstore]
        simp [hmem]
      · have hstore : store \ l.toFinset = store \ (i :: l).toFinset := by
          ext j
          simp only [Finset.mem_sdiff, List.toFinset_cons, Finset.mem_insert]
          constructor
          · rintro ⟨hj, hjl⟩
            exact ⟨hj, fun h => h.elim (fun hji => hmem (hji ▸ hj)) hjl⟩
          · rintro ⟨hj, hjl⟩
            exact ⟨hj, fun h => hjl (Or.inr h)⟩
        rw [List.foldl_cons, sweep, if_neg hmem, ih hl, hstore]
        simp [hmem]

/-- A `clear` reports the stored numbers of the window as ranges and the others as missing. -/
lemma clear_eq (q : ACKQueue) :
    q.clear = ((Ranges.collect (q.pending.filter (· ∈ q.storeSeq)),
        q.pending.filter (· ∉ q.storeSeq)),
      { q with lowest := q.highest, storeSeq := q.storeSeq \ q.pending.toFinset }) := by
  simp only [clear, foldl_sweep (List.nodup_range' (s := q.lowest)), pending, List.nil_append,
    Ranges.collect]

lemma mem_pending {q : ACKQueue} {n : ℕ} : n ∈ q.pending ↔ q.lowest ≤ n ∧ n < q.highest := by
  rw [pending, List.mem_range'_1]
  omega

lemma pending_sorted (q : ACKQueue) : q.pending.Pairwise (· < ·) := List.pairwise_lt_range'

/-! ### Exact feedback -/

/-- A report is exact for the window `[lo, hi)` and the arrivals `added` since the last one. -/
structure FeedbackExact (lo hi : ℕ) (added : List ℕ) (report : Report) : Prop where
  /-- The ranges and the missing numbers cover the window and nothing else. -/
  covers : ∀ n, n ∈ Ranges.expand report.1 ∨ n ∈ report.2 ↔ lo ≤ n ∧ n < hi
  /-- No number is both received and missing. -/
  disjoint : ∀ n ∈ report.2, n ∉ Ranges.expand report.1
  /-- A number is in a range iff it arrived since the last report and is not below the window. -/
  received : ∀ n, n ∈ Ranges.expand report.1 ↔ n ∈ added ∧ lo ≤ n
  /-- No range is empty. -/
  nonempty : ∀ r ∈ report.1, r.1 ≤ r.2
  /-- The ranges ascend, and between two of them a number is missing. -/
  separated : report.1.Pairwise fun r s => ∃ n ∈ report.2, r.2 < n ∧ n < s.1
  /-- The missing numbers ascend. -/
  sorted : report.2.Pairwise (· < ·)

/-- The numbers of a report. -/
def Report.numbers (report : Report) : List ℕ := Ranges.expand report.1 ++ report.2

lemma expand_clear (q : ACKQueue) :
    Ranges.expand q.clear.1.1 = q.pending.filter (· ∈ q.storeSeq) := by
  rw [clear_eq]
  exact Ranges.expand_collect (q.pending_sorted.filter _)

lemma missing_clear (q : ACKQueue) : q.clear.1.2 = q.pending.filter (· ∉ q.storeSeq) := by
  rw [clear_eq]

/-- The numbers of a report are those of the window. -/
lemma numbers_clear_perm (q : ACKQueue) : (Report.numbers q.clear.1).Perm q.pending := by
  have hneg : (fun n => decide (n ∉ q.storeSeq)) = fun n => !decide (n ∈ q.storeSeq) :=
    funext fun n => decide_not
  rw [Report.numbers, expand_clear, missing_clear, hneg]
  exact List.filter_append_perm _ _

/-- A `clear` of a queue whose store holds the arrivals `added` reports exactly. -/
lemma feedbackExact_clear {q : ACKQueue} {added : List ℕ}
    (hstore : ∀ n, n ∈ q.storeSeq ↔ n ∈ added ∧ q.lowest ≤ n)
    (hadded : ∀ n ∈ added, n < q.highest) :
    FeedbackExact q.lowest q.highest added q.clear.1 := by
  have hrec : ∀ n, n ∈ Ranges.expand q.clear.1.1 ↔ n ∈ added ∧ q.lowest ≤ n := by
    intro n
    simp only [expand_clear, List.mem_filter, mem_pending, decide_eq_true_eq, hstore]
    exact ⟨fun h => h.2, fun h => ⟨⟨h.2, hadded n h.1⟩, h⟩⟩
  have hmiss : ∀ n, n ∈ q.clear.1.2 ↔ (q.lowest ≤ n ∧ n < q.highest) ∧ n ∉ q.storeSeq := by
    intro n
    simp only [missing_clear, List.mem_filter, mem_pending, decide_eq_true_eq]
  have hsep : Ranges.Separated q.clear.1.1 := by
    rw [clear_eq]
    exact Ranges.separated_collect (q.pending_sorted.filter _)
  have hcov : ∀ n, n ∈ Ranges.expand q.clear.1.1 ∨ n ∈ q.clear.1.2
      ↔ q.lowest ≤ n ∧ n < q.highest := by
    intro n
    rw [hmiss, expand_clear, List.mem_filter, mem_pending, decide_eq_true_eq]
    tauto
  refine ⟨hcov, fun n hn hr => ?_, hrec, hsep.le, ?_, ?_⟩
  · exact ((hmiss n).mp hn).2 ((hstore n).mpr ((hrec n).mp hr))
  · -- the number behind the earlier range is in the window and in no range, so it is missing
    refine hsep.gap.imp_of_mem fun {r s} hr hs hgap => ⟨r.2 + 1, ?_, Nat.lt_succ_self _, hgap⟩
    have hr₁ := (hcov r.1).mp (Or.inl (Ranges.mem_expand.mpr ⟨r, hr, le_rfl, hsep.le r hr⟩))
    have hs₁ := (hcov s.1).mp (Or.inl (Ranges.mem_expand.mpr ⟨s, hs, le_rfl, hsep.le s hs⟩))
    have hle := hsep.le r hr
    exact ((hcov (r.2 + 1)).mpr ⟨by omega, by omega⟩).resolve_left (hsep.succ_notMem_expand hr)
  · rw [missing_clear]
    exact q.pending_sorted.filter _

/-! ### Runs -/

/-- A call of the queue. -/
inductive Op
  | add (sequence : ℕ)
  | clear
  deriving DecidableEq

/-- A call, with the reports of the `clear`s collected. -/
def step (s : ACKQueue × List Report) : Op → Except Panic (ACKQueue × List Report)
  | .add sequence => do
    let q ← s.1.add sequence
    return (q, s.2)
  | .clear => .ok (s.1.clear.2, s.2 ++ [s.1.clear.1])

/-- The window from the highest number the last `clear` saw to the highest number now, from the
history of the calls alone. -/
def window (ops : List Op) : ℕ × ℕ :=
  ops.foldl (fun w op => match op with
    | .add sequence => (w.1, max w.2 (sequence + 1))
    | .clear => (w.2, w.2)) (0, 0)

/-- The numbers added since the last `clear`. -/
def sinceClear (ops : List Op) : List ℕ :=
  ops.foldl (fun added op => match op with
    | .add sequence => added ++ [sequence]
    | .clear => []) []

/-- The histories that a `clear` of the run follows, in order. -/
def histories (ops : List Op) : List (List Op) :=
  (List.range ops.length).filterMap fun i =>
    if ops[i]? = some .clear then some (ops.take i) else none

lemma window_concat (ops : List Op) (op : Op) :
    window (ops ++ [op]) = match op with
      | .add sequence => ((window ops).1, max (window ops).2 (sequence + 1))
      | .clear => ((window ops).2, (window ops).2) := by
  rw [window, List.foldl_append]
  cases op <;> rfl

lemma sinceClear_concat (ops : List Op) (op : Op) :
    sinceClear (ops ++ [op]) = match op with
      | .add sequence => sinceClear ops ++ [sequence]
      | .clear => [] := by
  rw [sinceClear, List.foldl_append]
  cases op <;> rfl

lemma histories_concat (ops : List Op) (op : Op) :
    histories (ops ++ [op]) = histories ops ++ if op = .clear then [ops] else [] := by
  have hpre : (List.range ops.length).filterMap (fun i =>
      if (ops ++ [op])[i]? = some Op.clear then some ((ops ++ [op]).take i) else none)
      = histories ops := by
    refine List.filterMap_congr fun i hi => ?_
    have hlt := List.mem_range.mp hi
    rw [List.getElem?_append_left hlt, List.take_append_of_le_length hlt.le]
  rw [histories, List.length_append, List.length_singleton, List.range_succ,
    List.filterMap_append, hpre]
  cases op <;> simp

/-- The state after a history: the window, the store and the numbers reported so far are those of
the history. -/
structure Tracks (ops : List Op) (s : ACKQueue × List Report) : Prop where
  lowest : s.1.lowest = (window ops).1
  highest : s.1.highest = (window ops).2
  le : s.1.lowest ≤ s.1.highest
  store : ∀ n, n ∈ s.1.storeSeq ↔ n ∈ sinceClear ops ∧ s.1.lowest ≤ n
  added_lt : ∀ n ∈ sinceClear ops, n < s.1.highest
  reports : List.Forall₂ (fun history report =>
    FeedbackExact (window history).1 (window history).2 (sinceClear history) report)
    (histories ops) s.2
  once : (s.2.flatMap Report.numbers).Perm (List.range s.1.lowest)

lemma tracks_nil : Tracks [] (new, []) where
  lowest := rfl
  highest := rfl
  le := le_rfl
  store := by simp [new, sinceClear]
  added_lt := by simp [sinceClear]
  reports := by simp [histories]
  once := by simp [new]

/-- An arrival keeps the state in step with the history. -/
lemma Tracks.add {ops : List Op} {s : ACKQueue × List Report} (h : Tracks ops s) {n : ℕ}
    (hn : n < 2 ^ 24) :
    ∃ s', step s (.add n) = .ok s' ∧ Tracks (ops ++ [.add n]) s' := by
  have hw := window_concat ops (.add n)
  have hs := sinceClear_concat ops (.add n)
  have hh := histories_concat ops (.add n)
  simp only [reduceCtorEq, if_false, List.append_nil] at hw hs hh
  by_cases hnew : s.1.lowest ≤ n ∧ n ∉ s.1.storeSeq
  · refine ⟨({ s.1 with highest := max s.1.highest (n + 1), storeSeq := insert n s.1.storeSeq },
      s.2), ?_, ?_⟩
    · rw [step, ACKQueue.add, if_pos hnew, raised_of_lt (by omega)]
      rfl
    · refine ⟨by rw [hw, ← h.lowest], by rw [hw, ← h.highest], h.le.trans (le_max_left _ _),
        fun m => ?_, fun m hm => ?_, hh ▸ h.reports, h.once⟩
      · simp only [Finset.mem_insert, h.store, hs, List.mem_append, List.mem_singleton]
        constructor
        · rintro (rfl | ⟨hm, hlo⟩)
          · exact ⟨Or.inr rfl, hnew.1⟩
          · exact ⟨Or.inl hm, hlo⟩
        · rintro ⟨hm | rfl, hlo⟩
          · exact Or.inr ⟨hm, hlo⟩
          · exact Or.inl rfl
      · rw [hs, List.mem_append, List.mem_singleton] at hm
        rcases hm with hm | rfl
        · exact (h.added_lt m hm).trans_le (le_max_left _ _)
        · exact (Nat.lt_succ_self m).trans_le (le_max_right _ _)
  · -- below the window or already stored: nothing changes, since the window covers `n` already
    have hlt : n + 1 ≤ s.1.highest := by
      by_cases hlo : s.1.lowest ≤ n
      · have hmem : n ∈ s.1.storeSeq := by
          by_contra hmem
          exact hnew ⟨hlo, hmem⟩
        exact h.added_lt n ((h.store n).mp hmem).1
      · have := h.le
        omega
    refine ⟨s, by rw [step, ACKQueue.add, if_neg hnew]; rfl, ?_⟩
    refine ⟨by rw [hw, ← h.lowest], by rw [hw, ← h.highest, max_eq_left hlt], h.le,
      fun m => ?_, fun m hm => ?_, hh ▸ h.reports, h.once⟩
    · rw [h.store, hs, List.mem_append, List.mem_singleton]
      constructor
      · rintro ⟨hm, hlo⟩
        exact ⟨Or.inl hm, hlo⟩
      · rintro ⟨hm | rfl, hlo⟩
        · exact ⟨hm, hlo⟩
        · by_contra hc
          exact hnew ⟨hlo, fun hmem => hc ((h.store m).mp hmem)⟩
    · rw [hs, List.mem_append, List.mem_singleton] at hm
      rcases hm with hm | rfl
      · exact h.added_lt m hm
      · exact hlt

/-- A `clear` keeps the state in step with the history, and its report is exact. -/
lemma Tracks.clear {ops : List Op} {s : ACKQueue × List Report} (h : Tracks ops s) :
    Tracks (ops ++ [.clear]) (s.1.clear.2, s.2 ++ [s.1.clear.1]) := by
  have hw := window_concat ops .clear
  have hs := sinceClear_concat ops .clear
  have hh := histories_concat ops .clear
  simp only [if_true] at hw hs hh
  have hlow : s.1.clear.2.lowest = s.1.highest := rfl
  have hhigh : s.1.clear.2.highest = s.1.highest := rfl
  refine ⟨by rw [hw, hlow, h.highest], by rw [hw, hhigh, h.highest], le_rfl, fun m => ?_,
    by simp [hs], ?_, ?_⟩
  · -- every stored number lies in the window, so none is left
    simp only [hs, List.not_mem_nil, false_and, iff_false, clear_eq, Finset.mem_sdiff,
      List.mem_toFinset, mem_pending]
    rintro ⟨hm, hout⟩
    exact hout ⟨((h.store m).mp hm).2, h.added_lt m ((h.store m).mp hm).1⟩
  · rw [hh]
    refine List.rel_append h.reports (List.Forall₂.cons ?_ List.Forall₂.nil)
    rw [← h.lowest, ← h.highest]
    exact feedbackExact_clear h.store h.added_lt
  · have hrange : List.range s.1.highest = List.range s.1.lowest ++ s.1.pending := by
      have happend := List.range'_append_1 (s := 0) (m := s.1.lowest)
        (n := s.1.highest - s.1.lowest)
      rw [Nat.zero_add, Nat.add_sub_cancel' h.le] at happend
      rw [pending, List.range_eq_range', List.range_eq_range', happend]
    rw [List.flatMap_append, hlow, hrange, List.flatMap_singleton]
    exact h.once.append (numbers_clear_perm s.1)

/-- Every run of arrivals of three-byte numbers and `clear`s completes and stays in step with its
history. -/
lemma tracks_run (ops : List Op) (hops : ∀ n, Op.add n ∈ ops → n < 2 ^ 24) :
    ∃ s, Run.exec step (new, []) ops = .ok s ∧ Tracks ops s := by
  induction ops using List.reverseRecOn with
  | nil => exact ⟨(new, []), rfl, tracks_nil⟩
  | append_singleton ops op ih =>
      obtain ⟨s, hrun, hs⟩ := ih fun n hn => hops n (List.mem_append_left _ hn)
      cases op with
      | add n =>
          obtain ⟨s', hstep, hs'⟩ := hs.add (hops n (by simp))
          exact ⟨s', Run.exec_append.mpr ⟨s, hrun, Run.exec_singleton.mpr hstep⟩, hs'⟩
      | clear =>
          exact ⟨_, Run.exec_append.mpr ⟨s, hrun, Run.exec_singleton.mpr rfl⟩, hs.clear⟩

/-- Three-byte arrivals keep the window below the three-byte limit. -/
lemma window_le {ops : List Op} (hops : ∀ n, Op.add n ∈ ops → n < 2 ^ 24) :
    (window ops).1 ≤ 2 ^ 24 ∧ (window ops).2 ≤ 2 ^ 24 := by
  induction ops using List.reverseRecOn with
  | nil => exact ⟨Nat.zero_le _, Nat.zero_le _⟩
  | append_singleton ops op ih =>
      obtain ⟨h₁, h₂⟩ := ih fun n hn => hops n (List.mem_append_left _ hn)
      rw [window_concat]
      cases op with
      | add n => exact ⟨h₁, max_le h₂ (hops n (by simp))⟩
      | clear => exact ⟨h₂, h₂⟩

/-- The numbers of a report of a run are three-byte numbers. -/
lemma Tracks.lt_of_mem_numbers {ops : List Op} {s : ACKQueue × List Report} (hs : Tracks ops s)
    (hops : ∀ n, Op.add n ∈ ops → n < 2 ^ 24) {report : Report} (hr : report ∈ s.2) {n : ℕ}
    (hn : n ∈ Report.numbers report) : n < 2 ^ 24 := by
  have hlow : n < s.1.lowest := List.mem_range.mp (hs.once.mem_iff.mp (List.mem_flatMap.mpr
    ⟨report, hr, hn⟩))
  have hle := (window_le hops).1
  rw [hs.lowest] at hlow
  omega

lemma Tracks.nonempty {ops : List Op} {s : ACKQueue × List Report} (hs : Tracks ops s)
    {report : Report} (hr : report ∈ s.2) : ∀ r ∈ report.1, r.1 ≤ r.2 := by
  obtain ⟨i, hi, rfl⟩ := List.mem_iff_getElem.mp hr
  have hlen := hs.reports.length_eq
  exact (List.forall₂_iff_get.mp hs.reports).2 i (hlen ▸ hi) hi |>.nonempty

/-- **Feedback is exact.**  For every run of arrivals of three-byte numbers and `clear`s: each
report is exact for its window and its arrivals; the reports together name every number below the
highest one a `clear` saw exactly once; no number reported missing is in a later range; and the
peer reads from each `Ack` and `Nack` the numbers of its range. -/
theorem ackQueue_feedback_exact (ops : List Op) (hops : ∀ n, Op.add n ∈ ops → n < 2 ^ 24) :
    ∃ q reports, Run.exec step (new, []) ops = .ok (q, reports)
      ∧ List.Forall₂ (fun history report =>
          FeedbackExact (window history).1 (window history).2 (sinceClear history) report)
          (histories ops) reports
      ∧ (reports.flatMap Report.numbers).Perm (List.range (window ops).1)
      ∧ reports.Pairwise (fun earlier later => ∀ n ∈ earlier.2, n ∉ Ranges.expand later.1)
      ∧ ∀ report ∈ reports,
          (∀ r ∈ report.1, ∃ bytes, encode (Ack.new r) = .ok bytes
            ∧ decode Ack bytes = .ok (.ok (Ack.new r))
            ∧ (Ack.new r).getAll = .ok (Ranges.numbers r))
          ∧ ∀ n ∈ report.2, ∃ bytes, encode (Nack.new (n, n)) = .ok bytes
            ∧ decode Nack bytes = .ok (.ok (Nack.new (n, n)))
            ∧ (Nack.new (n, n)).getAll = .ok [n] := by
  obtain ⟨⟨q, reports⟩, hrun, hs⟩ := tracks_run ops hops
  refine ⟨q, reports, hrun, hs.reports, hs.lowest ▸ hs.once, ?_, fun report hr => ⟨?_, ?_⟩⟩
  · have hnodup : (reports.flatMap Report.numbers).Nodup := hs.once.nodup_iff.mpr List.nodup_range
    refine (List.nodup_flatMap.mp hnodup).2.imp fun {earlier later} hdisj n hn hr => ?_
    exact hdisj (List.mem_append_right _ hn) (List.mem_append_left _ hr)
  · intro r hmem
    have hle := hs.nonempty hr r hmem
    have hlast : r.2 < 2 ^ 24 := hs.lt_of_mem_numbers hops hr
      (List.mem_append_left _ (Ranges.mem_expand.mpr ⟨r, hmem, hle, le_rfl⟩))
    have hfirst : r.1 < 2 ^ 24 := hle.trans_lt hlast
    exact ⟨_, encode_ack hfirst hlast, decode_ack hfirst hlast, Ack.getAll_new hlast⟩
  · intro n hmem
    have hn : n < 2 ^ 24 := hs.lt_of_mem_numbers hops hr (List.mem_append_right _ hmem)
    refine ⟨_, encode_nack (s := (n, n)) hn hn, decode_nack (s := (n, n)) hn hn, ?_⟩
    rw [Nack.getAll_new (s := (n, n)) hn, Ranges.numbers, Nat.add_sub_cancel_left]
    rfl

/-- Exact feedback on a run with a gap, a duplicate and a late arrival. -/
theorem ackQueue_feedback_exact_sample :
    ∃ q reports,
      Run.exec step (new, []) [.add 0, .add 2, .add 2, .clear, .add 1, .add 3, .clear]
          = .ok (q, reports)
      ∧ (reports.flatMap Report.numbers).Perm (List.range 4) := by
  obtain ⟨q, reports, hrun, -, hperm, -⟩ := ackQueue_feedback_exact
    [.add 0, .add 2, .add 2, .clear, .add 1, .add 3, .clear] (by simp)
  exact ⟨q, reports, hrun, hperm⟩

end ACKQueue

end ActixRaknet
