import ActixRaknet.Queue.Emission
import ActixRaknet.Queue.Sets

/-!
How many numbers the packet queue uses up, whatever the feedback is.

* `PacketQueue.Filed`: the sets in the queue have numbers below `max`;
* `PacketQueue.reach`: the number behind those that a flush may give out;
* `Tidy.getPacket`: a flush gives out numbers below its reach, and it fails only for lack of a set
  or of numbers;
* `step_tidy`: every operation keeps the invariant.
-/

namespace ActixRaknet

open Fallible

namespace PacketQueue

variable {q q' : PacketQueue} {clock : Clock}

/-- The sets in the queue have numbers below `max`. -/
def Filed (q : PacketQueue) : Prop :=
  ∀ n fs, q.queue.lookup n = some fs → fs.sequenceNumber < q.max

/-- Besides, no resend is pending. -/
structure Tidy (q : PacketQueue) : Prop where
  filed : q.Filed
  resends_eq : q.resends = []

lemma tidy_new (mtu : UInt16) : Tidy (new mtu) := ⟨fun n fs h => by simp [new] at h, rfl⟩

lemma Filed.allocate (h : q.Filed) (clock : Clock) (header : UInt8) (datas : List Frame) :
    (q.allocate clock header datas).Filed := by
  intro n fs hn
  rw [lookup_allocate] at hn
  split_ifs at hn
  · exact Option.some.inj hn ▸ Nat.lt_succ_self q.max
  · exact (h n fs hn).trans (Nat.lt_succ_self _)

lemma Filed.moved (h : q.Filed) (clock : Clock) (k : ℕ) (fs : FrameSet) :
    (q.moved clock k fs).Filed := by
  intro n gs hn
  rw [lookup_moved] at hn
  split_ifs at hn
  · exact Option.some.inj hn ▸ Nat.lt_succ_self q.max
  · exact (h n gs hn).trans (Nat.lt_succ_self _)

lemma Tidy.addFrame (h : q.Tidy) {f : Frame} (hq : q.addFrame clock f = .ok q') : q'.Tidy := by
  obtain ⟨-, ⟨-, rfl⟩ | ⟨-, -, rfl⟩⟩ := addFrame_eq_ok.mp hq
  · exact ⟨h.filed, h.resends_eq⟩
  · exact ⟨h.filed.allocate clock _ _, h.resends_eq⟩

lemma Tidy.received (h : q.Tidy) (k : ℕ) : (q.received k).Tidy where
  filed n fs hn := by
    rw [lookup_received] at hn
    split_ifs at hn
    rw [received_max]
    exact h.filed n fs hn
  resends_eq := by
    rw [PacketQueue.received]
    split_ifs <;> exact h.resends_eq

lemma Tidy.resend (h : q.Tidy) {k : ℕ} (hq : q.resend clock k = .ok q') : q'.Tidy := by
  rw [PacketQueue.resend] at hq
  split_ifs at hq
  · obtain ⟨fs, -, -, rfl⟩ := renumber_eq_ok.mp hq
    exact ⟨h.filed.moved clock k fs, h.resends_eq⟩
  · exact Except.ok.inj hq ▸ h

/-! ### Flushes -/

/-- The number behind those that a flush may give out: the open set takes one, and so does each set
whose timer has run out. -/
def reach (q : PacketQueue) (clock : Clock) : ℕ :=
  q.max + q.batch.length + (q.overdue clock).length

/-- Closing the open set takes a number for it, and starts no timer. -/
lemma Tidy.flush (h : q.Tidy) (clock : Clock) :
    Ends (fun q' => q'.Tidy ∧ q'.max + (q'.overdue clock).length ≤ q.reach clock)
      (fun e => e = .overflow ∧ 2 ^ 32 ≤ q.reach clock) (q.flush clock) := by
  by_cases hopen : q.setQueue = []
  · rw [PacketQueue.flush, if_neg (not_not.mpr hopen)]
    refine ends_ok ⟨h, ?_⟩
    rw [reach, batch, if_pos hopen, List.length_nil, Nat.add_zero]
  · have hreach : q.reach clock = q.max + 1 + (q.overdue clock).length := by
      rw [reach, batch, if_neg hopen, List.length_singleton]
    rw [PacketQueue.flush, if_pos hopen, add_max]
    split_ifs with hlt
    · refine ends_ok ⟨⟨h.filed.allocate clock _ q.setQueue, h.resends_eq⟩, ?_⟩
      have hdue := HashMap.length_keysWhere_insert_le q.timePassed q.max
        (p := fun _ elem => due clock elem) (v := (clock.stamp q.max, false)) rfl
      rw [hreach]
      exact Nat.add_le_add_left hdue _
    · exact ⟨rfl, by omega⟩

/-- A renumbering takes one number. -/
lemma Filed.readdOne (h : q.Filed) (clock : Clock) (k : ℕ) {bound : ℕ} (hmax : q.max + 1 ≤ bound) :
    Ends (fun q' => q'.Filed ∧ q'.max ≤ q.max + 1)
      (fun e => e = .overflow ∧ 2 ^ 32 ≤ bound) (readdOne clock q k) := by
  rw [PacketQueue.readdOne]
  split_ifs with hmem
  · obtain ⟨fs, hfs⟩ := HashMap.exists_lookup_of_mem hmem
    by_cases hlt : q.max + 1 < 2 ^ 32
    · rw [renumber_eq_ok.mpr ⟨fs, hfs, hlt, rfl⟩]
      exact ends_ok ⟨h.moved clock k fs, le_rfl⟩
    · rw [renumber, hfs, u32Add, if_neg hlt]
      exact ⟨rfl, (not_lt.mp hlt).trans hmax⟩
  · exact ends_ok ⟨h, Nat.le_succ _⟩

/-- What is sent again takes a number each. -/
lemma Filed.readd (h : q.Filed) (clock : Clock) {bound : ℕ}
    (hbound : q.max + q.resends.length ≤ bound) :
    Ends (fun q' => q'.Tidy ∧ q'.max ≤ bound) (fun e => e = .overflow ∧ 2 ^ 32 ≤ bound)
      (q.readd clock) := by
  rw [PacketQueue.readd]
  refine (Ends.foldlM (I := fun n t => t.Filed ∧ t.max ≤ q.max + n) (n := 0) (Nat.zero_add _)
    (fun n t k hn _ ht => ?_) ⟨h, le_rfl⟩).bind fun t _ ht => ?_
  · refine (ht.1.readdOne clock k ?_).mono fun t' _ ht' => ⟨ht'.1, ?_⟩
    · omega
    · omega
  · exact ends_ok ⟨⟨ht.1, rfl⟩, ht.2.trans hbound⟩

/-- The loop of `get_packet` returns sets of the queue, and fails only for one that is not there. -/
lemma Tidy.emit (h : q.Tidy) (l : List ℕ) : Ends (fun acc : List FrameSet × PacketQueue =>
      (∀ fs ∈ acc.1, fs.sequenceNumber < q.max) ∧ acc.2.Tidy ∧ acc.2.max = q.max)
    (· = Panic.unwrapNone) (l.foldlM emit ([], q)) := by
  refine (Ends.foldlM (I := fun _ acc => (∀ fs ∈ acc.1, fs.sequenceNumber < q.max)
      ∧ acc.2.queue = q.queue ∧ acc.2.resends = q.resends ∧ acc.2.max = q.max)
    (n := 0) (Nat.zero_add _) (fun n acc i _ _ hacc => ?_)
    ⟨fun _ hfs => absurd hfs List.not_mem_nil, rfl, rfl, rfl⟩).mono
      fun acc _ hacc => ⟨hacc.1, ⟨fun n fs hn => ?_, ?_⟩, hacc.2.2.2⟩
  · obtain ⟨hret, hqueue, hresends, hmax⟩ := hacc
    rw [PacketQueue.emit]
    cases hfs : acc.2.queue.lookup i with
    | none => exact rfl
    | some fs =>
        cases helem : acc.2.timePassed.lookup i with
        | none => exact rfl
        | some elem =>
            refine ends_ok ⟨fun gs hgs => ?_, hqueue, hresends, hmax⟩
            rcases List.mem_append.mp hgs with hgs | hgs
            · exact hret gs hgs
            · exact List.mem_singleton.mp hgs ▸ h.filed i fs (hqueue ▸ hfs)
  · rw [hacc.2.2.2]
    exact h.filed n fs (hacc.2.1 ▸ hn)
  · rw [hacc.2.2.1, h.resends_eq]

/-- **How a flush ends**: with sets whose numbers are below its reach, or for lack of a set or of
numbers. -/
lemma Tidy.getPacket (h : q.Tidy) (clock : Clock) (order : IterOrder ℕ) :
    Ends (fun r => (∀ fs ∈ r.1, fs.sequenceNumber < r.2.max) ∧ r.2.Tidy ∧ r.2.max ≤ q.reach clock)
      (fun e => e = .unwrapNone ∨ e = .overflow ∧ 2 ^ 32 ≤ q.reach clock)
      (q.getPacket clock order) := by
  have htick : Ends (fun q' => q'.Filed ∧ q'.max + q'.resends.length ≤ q.reach clock)
      (fun e => e = .overflow ∧ 2 ^ 32 ≤ q.reach clock) (q.tick clock order) := by
    refine (h.flush clock).bind fun t _ ht => ends_ok ⟨ht.1.filed, ?_⟩
    rw [ht.1.resends_eq, List.nil_append, (order.perm _).length_eq]
    exact ht.2
  refine (htick.weaken fun e => Or.inr).bind fun t _ ht => ?_
  refine ((ht.1.readd clock ht.2).weaken fun e => Or.inr).bind fun r _ hr => ?_
  refine ((hr.1.emit _).weaken fun e => Or.inl).bind fun acc _ hacc => ?_
  obtain ⟨hret, htidy, hmax⟩ := hacc
  exact ends_ok ⟨fun fs hfs => hmax ▸ hret fs hfs, ⟨htidy.filed, htidy.resends_eq⟩,
    hmax.trans_le hr.2⟩

/-- **Step lemma**: every operation keeps the numbers below `max`. -/
lemma step_tidy {op : Op} (h : q.Tidy) (hq : step q op = .ok q') : q'.Tidy := by
  cases op with
  | addFrame clock f => exact h.addFrame hq
  | getPacket clock order =>
      obtain ⟨r, hr, rfl⟩ := map_eq_ok.mp hq
      exact ((ends_iff.mp (h.getPacket clock order)).1 r hr).2.1
  | received k => exact Except.ok.inj hq ▸ h.received k
  | resend clock k => exact h.resend hq

end PacketQueue

end ActixRaknet
