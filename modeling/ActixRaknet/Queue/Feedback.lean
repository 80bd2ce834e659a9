import ActixRaknet.Library.Ranges
import ActixRaknet.Queue.PacketQueue

/-!
Whole lists of acknowledged and missing numbers, as the packet queue takes them in.

* `PacketQueue.Matched`: both maps have the same keys, all below `max`; every operation keeps it,
  whatever the feedback names (`step_matched`);
* `PacketQueue.Without`: the sets of some numbers are gone, and all others are as before;
  `without_received`: that is what a list of acknowledged numbers does;
* `PacketQueue.Renumbered`: the sets of some numbers have moved to the next numbers, each once;
  `renumbered_resendAll`: that is what a list of missing numbers does, as long as it stays below
  `max`, and it completes while numbers last (`exists_resendAll`);
* `max_notMem_resendAll`: a list that goes on to `max` moves a set twice.
-/

namespace ActixRaknet

open Fallible

namespace PacketQueue

variable {q q' : PacketQueue} {clock : Clock}

/-! ### Any feedback -/

/-- Both maps have the same keys, all below `max`. -/
structure Matched (q : PacketQueue) : Prop where
  same : ∀ n, n ∈ q.queue ↔ n ∈ q.timePassed
  lt_max : ∀ n ∈ q.queue, n < q.max

lemma matched_new (mtu : UInt16) : Matched (new mtu) where
  same n := Iff.rfl
  lt_max n h := absurd h (by simp [new])

lemma Matched.allocate (h : q.Matched) (clock : Clock) (header : UInt8) (datas : List Frame) :
    (q.allocate clock header datas).Matched where
  same n := by simp only [PacketQueue.allocate, AList.mem_insert, h.same]
  lt_max n hn := by
    simp only [PacketQueue.allocate, AList.mem_insert] at hn ⊢
    rcases hn with rfl | hn
    · exact Nat.lt_succ_self _
    · exact (h.lt_max n hn).trans (Nat.lt_succ_self _)

lemma Matched.received (h : q.Matched) (k : ℕ) : (q.received k).Matched := by
  rw [PacketQueue.received]
  split_ifs
  · refine ⟨fun n => ?_, fun n hn => h.lt_max n (AList.mem_erase.mp hn).2⟩
    simp only [AList.mem_erase, h.same]
  · exact h

/-- A number that is held is below `max`, so the set moves to a number of its own. -/
lemma Matched.moved (h : q.Matched) (clock : Clock) {k : ℕ} (hk : k ∈ q.queue) (fs : FrameSet) :
    (q.moved clock k fs).Matched := by
  have hne : q.max ≠ k := (h.lt_max k hk).ne'
  refine ⟨fun n => ?_, fun n hn => ?_⟩
  · simp only [PacketQueue.moved, AList.mem_erase, AList.mem_insert, h.same]
    constructor
    · rintro ⟨hnk, hn | hn⟩
      · exact Or.inl hn
      · exact Or.inr ⟨hnk, hn⟩
    · rintro (rfl | ⟨hnk, hn⟩)
      · exact ⟨hne, Or.inl rfl⟩
      · exact ⟨hnk, Or.inr hn⟩
  · simp only [PacketQueue.moved, AList.mem_erase, AList.mem_insert] at hn ⊢
    rcases hn with ⟨-, rfl | hn⟩
    · exact Nat.lt_succ_self _
    · exact (h.lt_max n hn).trans (Nat.lt_succ_self _)

lemma Matched.renumber (h : q.Matched) {k : ℕ} (hq : q.renumber clock k = .ok q') :
    q'.Matched := by
  obtain ⟨fs, hfs, -, rfl⟩ := renumber_eq_ok.mp hq
  exact h.moved clock (HashMap.mem_of_lookup hfs) fs

lemma Matched.resend (h : q.Matched) {k : ℕ} (hq : q.resend clock k = .ok q') : q'.Matched := by
  rw [PacketQueue.resend] at hq
  split_ifs at hq
  · exact h.renumber hq
  · exact Except.ok.inj hq ▸ h

/-- **Step lemma**: every operation keeps the maps matched. -/
lemma step_matched {op : Op} (h : q.Matched) (hq : step q op = .ok q') : q'.Matched := by
  cases op with
  | addFrame clock f =>
      obtain ⟨-, ⟨-, rfl⟩ | ⟨-, -, rfl⟩⟩ := addFrame_eq_ok.mp hq
      · exact ⟨h.same, h.lt_max⟩
      · exact h.allocate clock _ _
  | received k => exact Except.ok.inj hq ▸ h.received k
  | resend clock k => exact h.resend hq
  | getPacket clock order =>
      obtain ⟨⟨ret, q''⟩, hget, rfl⟩ := map_eq_ok.mp hq
      refine (getPacket_induction (P := Matched) (R := fun _ => True) hget (fun t ht => ?_)
        (fun t timers _ _ hkeys ht => ⟨fun n => (ht.same n).trans (hkeys n).symm, ht.lt_max⟩)
        (fun _ _ _ ht => ht.renumber) fun _ _ _ _ _ => trivial).2
      rcases flush_eq_ok.mp ht with ⟨-, rfl⟩ | ⟨-, -, rfl⟩
      · exact h
      · exact ⟨(h.allocate clock _ _).same, (h.allocate clock _ _).lt_max⟩

/-! ### Acknowledged numbers -/

/-- The sets under the numbers in `gone` are removed with their timers, and every other number is
as before. -/
structure Without (q : PacketQueue) (gone : ℕ → Prop) (q' : PacketQueue) : Prop where
  removed : ∀ n, gone n → n ∉ q'.queue ∧ n ∉ q'.timePassed
  kept : ∀ n, ¬ gone n → q'.queue.lookup n = q.queue.lookup n
    ∧ q'.timePassed.lookup n = q.timePassed.lookup n

lemma Matched.timePassed_received (h : q.Matched) (k n : ℕ) :
    (q.received k).timePassed.lookup n = if n = k then none else q.timePassed.lookup n := by
  rw [PacketQueue.received]
  split_ifs with hmem hn hn
  · rw [hn, AList.lookup_erase]
  · rw [AList.lookup_erase_ne hn]
  · rw [hn, AList.lookup_eq_none.mpr fun hk => hmem ((h.same k).mpr hk)]
  · rfl

/-- **A list of acknowledged numbers** takes out exactly what it names. -/
lemma Matched.without_received (h : q.Matched) (l : List ℕ) :
    Without q (· ∈ l) (l.foldl PacketQueue.received q) := by
  induction l generalizing q with
  | nil => exact ⟨fun n hn => absurd hn List.not_mem_nil, fun n _ => ⟨rfl, rfl⟩⟩
  | cons k l ih =>
      have hrest := ih (h.received k)
      rw [List.foldl_cons]
      have hlookup : ∀ n, n ∉ l →
          (l.foldl PacketQueue.received (q.received k)).queue.lookup n
              = (if n = k then none else q.queue.lookup n)
            ∧ (l.foldl PacketQueue.received (q.received k)).timePassed.lookup n
              = (if n = k then none else q.timePassed.lookup n) := by
        intro n hn
        rw [(hrest.kept n hn).1, (hrest.kept n hn).2, lookup_received, h.timePassed_received]
        exact ⟨rfl, rfl⟩
      refine ⟨fun n hn => ?_, fun n hn => ?_⟩
      · by_cases hl : n ∈ l
        · exact hrest.removed n hl
        · have hnk : n = k := (List.mem_cons.mp hn).resolve_right hl
          rw [← AList.lookup_eq_none, ← AList.lookup_eq_none, (hlookup n hl).1, (hlookup n hl).2,
            if_pos hnk, if_pos hnk]
          exact ⟨rfl, rfl⟩
      · obtain ⟨hnk, hl⟩ := not_or.mp fun hor => hn (List.mem_cons.mpr hor)
        rw [(hlookup n hl).1, (hlookup n hl).2, if_neg hnk, if_neg hnk]
        exact ⟨rfl, rfl⟩

/-- Two sets of numbers have the same effect exactly when they hold the same numbers of the
queue. -/
lemma Matched.without_iff (h : q.Matched) {gone gone' : ℕ → Prop} (hgone : Without q gone q') :
    Without q gone' q' ↔ ∀ n ∈ q.queue, gone n ↔ gone' n := by
  constructor
  · intro hgone' n hn
    constructor
    · intro hg
      by_contra hg'
      have hlookup := (hgone'.kept n hg').1
      rw [AList.lookup_eq_none.mpr (hgone.removed n hg).1] at hlookup
      exact AList.lookup_eq_none.mp hlookup.symm hn
    · intro hg'
      by_contra hg
      have hlookup := (hgone.kept n hg).1
      rw [AList.lookup_eq_none.mpr (hgone'.removed n hg').1] at hlookup
      exact AList.lookup_eq_none.mp hlookup.symm hn
  · intro hiff
    -- a number that is not held is missing in both maps before and after
    have habsent : ∀ n, n ∉ q.queue → q.queue.lookup n = none ∧ q.timePassed.lookup n = none
        ∧ n ∉ q'.queue ∧ n ∉ q'.timePassed := by
      intro n hn
      have hqueue := AList.lookup_eq_none.mpr hn
      have htime := AList.lookup_eq_none.mpr fun hk => hn ((h.same n).mpr hk)
      refine ⟨hqueue, htime, ?_⟩
      by_cases hg : gone n
      · exact hgone.removed n hg
      · rw [← AList.lookup_eq_none, ← AList.lookup_eq_none, (hgone.kept n hg).1,
          (hgone.kept n hg).2]
        exact ⟨hqueue, htime⟩
    refine ⟨fun n hg' => ?_, fun n hg' => ?_⟩
    · by_cases hn : n ∈ q.queue
      · exact hgone.removed n ((hiff n hn).mpr hg')
      · exact (habsent n hn).2.2
    · by_cases hn : n ∈ q.queue
      · exact hgone.kept n fun hg => hg' ((hiff n hn).mp hg)
      · obtain ⟨hqueue, htime, hqueue', htime'⟩ := habsent n hn
        rw [hqueue, htime, AList.lookup_eq_none, AList.lookup_eq_none]
        exact ⟨hqueue', htime'⟩

/-! ### Missing numbers -/

/-- The sets under the numbers `ks` have moved to the next numbers, in this order and each once,
and every other number is as before. -/
structure Renumbered (q : PacketQueue) (ks : List ℕ) (q' : PacketQueue) : Prop where
  nodup : ks.Nodup
  max_eq : q'.max = q.max + ks.length
  gone : ∀ k ∈ ks, k ∉ q'.queue
  moved : ∀ i k, ks[i]? = some k → ∃ fs, q.queue.lookup k = some fs
    ∧ q'.queue.lookup (q.max + i) = some { fs with sequenceNumber := q.max + i }
  kept : ∀ n < q.max, n ∉ ks → q'.queue.lookup n = q.queue.lookup n

lemma renumbered_nil (q : PacketQueue) : Renumbered q [] q where
  nodup := List.nodup_nil
  max_eq := rfl
  gone k hk := absurd hk List.not_mem_nil
  moved i k h := absurd h (by simp)
  kept n _ _ := rfl

/-- One more set moves. -/
lemma Renumbered.concat {ks : List ℕ} (h : Renumbered q ks q') {k : ℕ} {fs : FrameSet}
    (hks : ∀ n ∈ ks, n < q.max) (hk : k < q.max) (hnot : k ∉ ks)
    (hfs : q.queue.lookup k = some fs) : Renumbered q (ks ++ [k]) (q'.moved clock k fs) where
  nodup := List.nodup_append.mpr ⟨h.nodup, List.nodup_singleton k, fun a ha b hb hab => by
    rw [List.mem_singleton.mp hb] at hab
    exact hnot (hab ▸ ha)⟩
  max_eq := by
    rw [List.length_append, List.length_singleton, ← Nat.add_assoc, ← h.max_eq]
    rfl
  gone n hn := by
    rw [← AList.lookup_eq_none, lookup_moved]
    rcases List.mem_append.mp hn with hn | hn
    · have hlt : n ≠ q'.max := ((hks n hn).trans_le (h.max_eq ▸ Nat.le_add_right _ _)).ne
      rw [if_neg hlt, AList.lookup_eq_none.mpr (h.gone n hn), ite_self]
    · rw [if_pos (List.mem_singleton.mp hn)]
  moved i n hi := by
    have hne : q.max + i ≠ k := (hk.trans_le (Nat.le_add_right _ _)).ne'
    rw [lookup_moved, if_neg hne, h.max_eq]
    rcases Nat.lt_or_ge i ks.length with hlt | hge
    · rw [List.getElem?_append_left hlt] at hi
      rw [if_neg (by omega)]
      exact h.moved i n hi
    · rw [List.getElem?_append_right hge] at hi
      have hlast : i = ks.length := by
        by_contra hi'
        rw [List.getElem?_eq_none (by rw [List.length_singleton]; omega)] at hi
        cases hi
      subst hlast
      rw [Nat.sub_self] at hi
      obtain rfl := Option.some.inj hi
      rw [if_pos rfl]
      exact ⟨fs, hfs, rfl⟩
  kept n hn hnks := by
    obtain ⟨hmem, hne⟩ := not_or.mp fun hor => hnks (List.mem_append.mpr hor)
    have hlt : n ≠ q'.max := (hn.trans_le (h.max_eq ▸ Nat.le_add_right _ _)).ne
    rw [lookup_moved, if_neg (fun heq => hne (List.mem_singleton.mpr heq)), if_neg hlt,
      h.kept n hn hmem]

/-- The call of a list of missing numbers. -/
def resendAll (q : PacketQueue) (clock : Clock) (l : List ℕ) : Except Panic PacketQueue :=
  l.foldlM (fun q k => q.resend clock k) q

lemma resendAll_concat {l : List ℕ} {k : ℕ} : q.resendAll clock (l ++ [k]) = .ok q'
    ↔ ∃ t, q.resendAll clock l = .ok t ∧ t.resend clock k = .ok q' := by
  rw [resendAll, foldlM_append_eq_ok]
  simp only [List.foldlM_cons, List.foldlM_nil, bind_pure]
  rfl

/-- A resend moves the set, or names none. -/
lemma Matched.resend_eq_ok (h : q.Matched) {k : ℕ} : q.resend clock k = .ok q'
    ↔ (k ∉ q.queue ∧ q' = q)
      ∨ ∃ fs, q.queue.lookup k = some fs ∧ q.max + 1 < 2 ^ 32 ∧ q' = q.moved clock k fs := by
  rw [PacketQueue.resend]
  split_ifs with hmem
  · have hq := (h.same k).mpr hmem
    rw [renumber_eq_ok, or_iff_right fun hnot => hnot.1 hq]
  · have hq : k ∉ q.queue := fun hk => hmem ((h.same k).mp hk)
    constructor
    · exact fun heq => Or.inl ⟨hq, (Except.ok.inj heq).symm⟩
    · rintro (⟨-, rfl⟩ | ⟨fs, hfs, -, -⟩)
      · rfl
      · exact absurd (HashMap.mem_of_lookup hfs) hq

lemma Matched.resendAll (h : q.Matched) {l : List ℕ} (hq : q.resendAll clock l = .ok q') :
    q'.Matched :=
  foldlM_induction (P := Matched) (fun _ _ _ _ ht hstep => ht.resend hstep) h hq

/-- **A list of missing numbers below `max`** moves the sets it names, each once. -/
lemma Matched.renumbered_resendAll (h : q.Matched) {l : List ℕ} (hnodup : l.Nodup)
    (hl : ∀ n ∈ l, n < q.max) (hq : q.resendAll clock l = .ok q') :
    Renumbered q (l.filter (· ∈ q.queue)) q' := by
  induction l using List.reverseRecOn generalizing q' with
  | nil =>
      obtain rfl := Except.ok.inj hq
      exact renumbered_nil q
  | append_singleton l k ih =>
      obtain ⟨hnodup, -, hdisjoint⟩ := List.nodup_append.mp hnodup
      have hlt : ∀ n ∈ l, n < q.max := fun n hn => hl n (List.mem_append_left _ hn)
      have hk : k < q.max := hl k (List.mem_append_right _ (List.mem_singleton_self k))
      have hnot : k ∉ l := fun hmem => hdisjoint k hmem k (List.mem_singleton_self k) rfl
      obtain ⟨t, ht, hstep⟩ := resendAll_concat.mp hq
      have hmoved := ih hnodup hlt ht
      -- the number has not been touched by the moves before
      have hsame : t.queue.lookup k = q.queue.lookup k :=
        hmoved.kept k hk fun hmem => hnot (List.mem_of_mem_filter hmem)
      rw [List.filter_append, List.filter_singleton]
      rcases (h.resendAll ht).resend_eq_ok.mp hstep with ⟨hmem, rfl⟩ | ⟨fs, hfs, -, rfl⟩
      · rw [← AList.lookup_eq_none, hsame, AList.lookup_eq_none] at hmem
        simpa [hmem] using hmoved
      · rw [hsame] at hfs
        have hmem : k ∈ q.queue := HashMap.mem_of_lookup hfs
        simp only [hmem, decide_true]
        exact hmoved.concat (fun n hn => hlt n (List.mem_of_mem_filter hn)) hk
          (fun hmem => hnot (List.mem_of_mem_filter hmem)) hfs

/-- While the numbers last, such a list is taken in. -/
lemma Matched.exists_resendAll (h : q.Matched) (clock : Clock) {l : List ℕ} (hnodup : l.Nodup)
    (hl : ∀ n ∈ l, n < q.max) (hroom : q.max + (l.filter (· ∈ q.queue)).length < 2 ^ 32) :
    ∃ q', q.resendAll clock l = .ok q' := by
  induction l using List.reverseRecOn with
  | nil => exact ⟨q, rfl⟩
  | append_singleton l k ih =>
      have hlt : ∀ n ∈ l, n < q.max := fun n hn => hl n (List.mem_append_left _ hn)
      obtain ⟨hnodup, -, hdisjoint⟩ := List.nodup_append.mp hnodup
      have hnot : k ∉ l := fun hmem => hdisjoint k hmem k (List.mem_singleton_self k) rfl
      rw [List.filter_append, List.length_append] at hroom
      obtain ⟨t, ht⟩ := ih hnodup hlt (by omega)
      have hmoved := h.renumbered_resendAll hnodup hlt ht
      have hsame : t.queue.lookup k = q.queue.lookup k :=
        hmoved.kept k (hl k (by simp)) fun hmem => hnot (List.mem_of_mem_filter hmem)
      by_cases hmem : k ∈ q.queue
      · obtain ⟨fs, hfs⟩ := HashMap.exists_lookup_of_mem hmem
        have hone : ([k].filter (· ∈ q.queue)).length = 1 := by
          rw [List.filter_singleton, decide_eq_true hmem]
          rfl
        have hmax : t.max + 1 < 2 ^ 32 := by
          have := hmoved.max_eq
          omega
        exact ⟨_, resendAll_concat.mpr ⟨t, ht, (h.resendAll ht).resend_eq_ok.mpr
          (Or.inr ⟨fs, hsame.trans hfs, hmax, rfl⟩)⟩⟩
      · rw [← AList.lookup_eq_none, ← hsame, AList.lookup_eq_none] at hmem
        exact ⟨t, resendAll_concat.mpr ⟨t, ht,
          (h.resendAll ht).resend_eq_ok.mpr (Or.inl ⟨hmem, rfl⟩)⟩⟩

/-- A list that names no set does nothing. -/
lemma Matched.resendAll_of_notMem (h : q.Matched) (clock : Clock) {l : List ℕ}
    (hl : ∀ n ∈ l, n ∉ q.queue) : q.resendAll clock l = .ok q := by
  induction l with
  | nil => rfl
  | cons k l ih =>
      have hk : q.resend clock k = .ok q :=
        h.resend_eq_ok.mpr (Or.inl ⟨hl k List.mem_cons_self, rfl⟩)
      exact foldlM_cons_eq_ok.mpr ⟨q, hk, ih fun n hn => hl n (List.mem_cons_of_mem _ hn)⟩

/-- A number below `max` that the list does not name is not touched. -/
lemma Matched.lookup_resendAll (h : q.Matched) {l : List ℕ} (hq : q.resendAll clock l = .ok q')
    {n : ℕ} (hn : n < q.max) (hnot : n ∉ l) :
    n < q'.max ∧ q'.queue.lookup n = q.queue.lookup n := by
  have hall := foldlM_induction
    (P := fun t => t.Matched ∧ n < t.max ∧ t.queue.lookup n = q.queue.lookup n)
    (fun t k t' hk ht hstep => ?_) ⟨h, hn, rfl⟩ hq
  · exact hall.2
  · have ht' := ht.1.resend hstep
    rcases ht.1.resend_eq_ok.mp hstep with ⟨-, rfl⟩ | ⟨fs, -, -, rfl⟩
    · exact ht
    · have hne : n ≠ k := fun heq => hnot (heq ▸ hk)
      refine ⟨ht', ht.2.1.trans (Nat.lt_succ_self _), ?_⟩
      rw [lookup_moved, if_neg hne, if_neg ht.2.1.ne, ht.2.2]

/-- A number that is resent is not held afterwards. -/
lemma Matched.notMem_resend (h : q.Matched) {k : ℕ} (hq : q.resend clock k = .ok q') :
    k ∉ q'.queue := by
  rcases h.resend_eq_ok.mp hq with ⟨hmem, rfl⟩ | ⟨fs, -, -, rfl⟩
  · exact hmem
  · rw [← AList.lookup_eq_none, lookup_moved, if_pos rfl]

/-- **A list of missing numbers that goes on to `max`** moves a set and then moves it again: the
first number it moved a set to is not held afterwards. -/
lemma Matched.max_notMem_resendAll (h : q.Matched) {first last : ℕ}
    (hq : q.resendAll clock (Ranges.numbers (first, last)) = .ok q') (hlast : q.max ≤ last) {k : ℕ}
    (hk : k ∈ q.queue) (hfirst : first ≤ k) : q.max ∉ q'.queue := by
  have hkmax := h.lt_max k hk
  have hsplit : Ranges.numbers (first, last)
      = List.range' first (q.max - first) ++ q.max :: List.range' (q.max + 1) (last - q.max) := by
    have hsum : last + 1 - first = (q.max - first) + (last - q.max + 1) := by omega
    have hmax : first + (q.max - first) = q.max := by omega
    rw [Ranges.numbers, hsum, ← List.range'_append_1, List.range'_succ, hmax]
  rw [hsplit, PacketQueue.resendAll, foldlM_append_eq_ok] at hq
  obtain ⟨t, ht, hrest⟩ := hq
  obtain ⟨u, hu, hrest⟩ := foldlM_cons_eq_ok.mp hrest
  -- the sets below `max` move first, `k` among them
  have hlt : ∀ n ∈ List.range' first (q.max - first), n < q.max := fun n hn => by
    have := List.mem_range'_1.mp hn
    omega
  have hmoved := h.renumbered_resendAll List.nodup_range' hlt ht
  have hks : k ∈ (List.range' first (q.max - first)).filter (· ∈ q.queue) :=
    List.mem_filter.mpr ⟨List.mem_range'_1.mpr (by omega), decide_eq_true hk⟩
  have hmax : q.max < t.max := by
    rw [hmoved.max_eq]
    exact Nat.lt_add_of_pos_right (List.length_pos_of_mem hks)
  have ht' := h.resendAll ht
  have hu' := ht'.resend hu
  have humax : q.max < u.max := by
    rcases ht'.resend_eq_ok.mp hu with ⟨-, rfl⟩ | ⟨fs, -, -, rfl⟩
    · exact hmax
    · exact hmax.trans (Nat.lt_succ_self _)
  have hkept := (hu'.lookup_resendAll hrest humax fun hmem => by
    have := List.mem_range'_1.mp hmem
    omega).2
  rw [← AList.lookup_eq_none, hkept, AList.lookup_eq_none]
  exact ht'.notMem_resend hu

end PacketQueue

end ActixRaknet
