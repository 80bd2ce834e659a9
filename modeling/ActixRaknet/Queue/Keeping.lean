import ActixRaknet.Queue.Emission
import ActixRaknet.Queue.Sets
/-!
What a packet queue keeps until the peer has it.

* `Headed`: the sets of a queue have one of the two headers that `add_frame` gives;
* `Books.Confirmed`: every frame of the set that was sent under a number has arrived;
* `Books.Grows`: the books of a later state;
* `Owes`: the books agree with the queue, and all that was acknowledged has arrived, so that every
  frame taken in has arrived or is held (`Owes.arrived_or_held`);
* `Owes.addFrame`, `Owes.received`, `Owes.resend`, `Owes.getPacket`: every operation keeps this, if
  acknowledgements name confirmed numbers and resend requests numbers that were sent.
-/

namespace ActixRaknet

open Fallible

namespace PacketQueue

/-! ### Headers -/

/-- The header is one that `add_frame` gives. -/
def IsHeader (header : UInt8) : Prop := ∃ split, header = setHeader split

/-- The sets of a queue have such headers. -/
def Headed (q : PacketQueue) : Prop := ∀ n fs, q.queue.lookup n = some fs → IsHeader fs.header

section Headed

variable {q q' : PacketQueue} {clock : Clock}

lemma headed_new (mtu : UInt16) : Headed (new mtu) := fun n fs h => by simp [new] at h

lemma Headed.allocate (h : q.Headed) (clock : Clock) (split : Bool) (datas : List Frame) :
    (q.allocate clock (setHeader split) datas).Headed := by
  intro n fs hn
  rw [lookup_allocate] at hn
  split_ifs at hn
  · exact Option.some.inj hn ▸ ⟨split, rfl⟩
  · exact h n fs hn

lemma Headed.renumber (h : q.Headed) {k : ℕ} (hq : q.renumber clock k = .ok q') : q'.Headed := by
  obtain ⟨fs, hfs, -, rfl⟩ := renumber_eq_ok.mp hq
  intro n gs hn
  rw [lookup_moved] at hn
  split_ifs at hn
  · exact Option.some.inj hn ▸ h k fs hfs
  · exact h n gs hn

lemma Headed.addFrame (h : q.Headed) {f : Frame} (hq : q.addFrame clock f = .ok q') :
    q'.Headed := by
  obtain ⟨-, ⟨-, rfl⟩ | ⟨-, -, rfl⟩⟩ := addFrame_eq_ok.mp hq
  · exact h
  · exact h.allocate clock _ _

lemma Headed.received (h : q.Headed) (k : ℕ) : (q.received k).Headed := by
  intro n fs hn
  rw [lookup_received] at hn
  split_ifs at hn
  exact h n fs hn

lemma Headed.resend (h : q.Headed) {k : ℕ} (hq : q.resend clock k = .ok q') : q'.Headed := by
  rw [PacketQueue.resend] at hq
  split_ifs at hq
  · exact h.renumber hq
  · exact Except.ok.inj hq ▸ h

lemma Headed.getPacket (h : q.Headed) {order : IterOrder ℕ} {ret : List FrameSet}
    (hq : q.getPacket clock order = .ok (ret, q')) :
    (∀ fs ∈ ret, IsHeader fs.header) ∧ q'.Headed := by
  refine getPacket_induction hq (fun t ht => ?_) (fun t _ _ _ _ ht => ht)
    (fun t k t' ht hstep => ht.renumber hstep) fun t n fs ht => ht n fs
  rcases flush_eq_ok.mp ht with ⟨-, rfl⟩ | ⟨-, -, rfl⟩
  · exact h
  · exact h.allocate clock false q.setQueue

end Headed

/-! ### What has arrived -/

/-- Every frame of the set that was sent under the number `n` has arrived. -/
def Books.Confirmed (b : Books) (arrived : Frame → Prop) (n : ℕ) : Prop :=
  ∃ fs ∈ b.emitted, fs.sequenceNumber = n ∧ ∀ f ∈ fs.datas, arrived f

/-- More has been taken in, emitted and retired. -/
structure Books.Grows (b b' : Books) : Prop where
  emitted : b.emitted <+: b'.emitted
  added : b.added ≤ b'.added
  retired : b.retired <+: b'.retired

/-- The books agree with the queue, and the frames that were acknowledged have arrived. -/
structure Owes (arrived : Frame → Prop) (q : PacketQueue) (b : Books) : Prop
    extends Agrees q b where
  settled : ∀ f ∈ b.acknowledged, arrived f
  headed : q.Headed
  headers : ∀ fs ∈ b.emitted, IsHeader fs.header

variable {q q' : PacketQueue} {b b' b'' : Books} {clock : Clock} {arrived arrived' : Frame → Prop}

lemma Books.Grows.refl (b : Books) : b.Grows b := ⟨List.prefix_rfl, le_rfl, List.prefix_rfl⟩

lemma Books.Grows.trans (h : b.Grows b') (h' : b'.Grows b'') : b.Grows b'' :=
  ⟨h.emitted.trans h'.emitted, h.added.trans h'.added, h.retired.trans h'.retired⟩

lemma Books.Grows.mem (h : b.Grows b') {f : Frame} (hf : f ∈ b.added) : f ∈ b'.added :=
  Multiset.mem_of_le h.added hf

/-- What was confirmed stays so. -/
lemma Books.Confirmed.mono {n : ℕ} (h : b.Confirmed arrived n) (hb : b.Grows b')
    (harrived : ∀ f, arrived f → arrived' f) : b'.Confirmed arrived' n := by
  obtain ⟨fs, hfs, hn, hall⟩ := h
  exact ⟨fs, hb.emitted.subset hfs, hn, fun f hf => harrived f (hall f hf)⟩

lemma owes_new (arrived : Frame → Prop) (mtu : UInt16) : Owes arrived (new mtu) .blank where
  toAgrees := agrees_new mtu
  settled f hf := absurd hf (Multiset.notMem_zero f)
  headed := headed_new mtu
  headers _ hfs := absurd hfs List.not_mem_nil

section Owes

variable (h : Owes arrived q b)
include h

lemma Owes.mono (harrived : ∀ f, arrived f → arrived' f) : Owes arrived' q b :=
  ⟨h.toAgrees, fun f hf => harrived f (h.settled f hf), h.headed, h.headers⟩

/-- **Nothing is lost**: every frame taken in has arrived or is held. -/
lemma Owes.arrived_or_held {f : Frame} (hf : f ∈ b.added) : arrived f ∨ f ∈ q.held := by
  rw [← h.balance, Multiset.mem_add] at hf
  exact hf.symm.imp_left (h.settled f)

omit h in
/-- The set that was sent under a number. -/
lemma Agrees.emitted_eq (h : Agrees q b) {fs : FrameSet} (hfs : fs ∈ b.emitted) :
    fs.sequenceNumber < q.sendMin ∧ b.emitted[fs.sequenceNumber]? = some fs := by
  obtain ⟨i, hi, rfl⟩ := List.getElem_of_mem hfs
  have hnumber : (b.emitted[i]).sequenceNumber = i := by
    have hmap := List.getElem_of_eq h.numbers (i := i) (by simpa using hi)
    simpa using hmap
  rw [hnumber, ← h.length_emitted]
  exact ⟨hi, List.getElem?_eq_getElem hi⟩

lemma Owes.confirmed_lt {n : ℕ} (hn : b.Confirmed arrived n) : n < q.sendMin := by
  obtain ⟨fs, hfs, rfl, -⟩ := hn
  exact (h.emitted_eq hfs).1

/-- **What was sent under a number is tracked no more** once it is not. -/
lemma Owes.notMem_of_grows (hb : b.Grows b') (h' : Owes arrived' q' b') {n : ℕ} (hn : n < q.sendMin)
    (hnot : n ∉ q.queue) : n ∉ q'.queue := by
  have hretired : n ∈ b.retired := by
    by_contra hkept
    have htracked := h.tracked n hn
    rw [if_neg hkept, AList.lookup_eq_none.mpr hnot, eq_comm, List.getElem?_eq_none_iff,
      h.length_emitted] at htracked
    omega
  have hlt : n < q'.sendMin := h'.retired_lt n (hb.retired.subset hretired)
  rw [← AList.lookup_eq_none, h'.tracked n hlt, if_pos (hb.retired.subset hretired)]

/-- What is held under a number that was confirmed has arrived. -/
lemma Owes.arrived_of_lookup {n : ℕ} (hn : b.Confirmed arrived n) {fs : FrameSet}
    (hfs : q.queue.lookup n = some fs) : ∀ f ∈ fs.datas, arrived f := by
  obtain ⟨gs, hgs, rfl, hall⟩ := hn
  obtain ⟨hlt, hsome⟩ := h.emitted_eq hgs
  rw [h.tracked _ hlt, hsome] at hfs
  split_ifs at hfs
  exact Option.some.inj hfs ▸ hall

/-- **A frame is taken in.** -/
lemma Owes.addFrame {f : Frame} (hq : q.addFrame clock f = .ok q') :
    ∃ b', Owes arrived q' b' ∧ b.Grows b' ∧ f ∈ b'.added ∧ b'.emitted = b.emitted :=
  ⟨_, ⟨h.toAgrees.addFrame hq, h.settled, h.headed.addFrame hq, h.headers⟩,
    ⟨List.prefix_rfl, Multiset.le_cons_self _ f, List.prefix_rfl⟩, Multiset.mem_cons_self f _, rfl⟩

/-- **An acknowledgement** of a number that is confirmed. -/
lemma Owes.received {n : ℕ} (hn : b.Confirmed arrived n) :
    ∃ b', Owes arrived (q.received n) b' ∧ b.Grows b' ∧ b'.emitted = b.emitted := by
  have hagrees := h.toAgrees.received (.inl (h.confirmed_lt hn))
  rw [Books.book] at hagrees
  cases hfs : q.queue.lookup n with
  | none =>
      rw [hfs] at hagrees
      exact ⟨b, ⟨hagrees, h.settled, h.headed.received n, h.headers⟩, .refl b, rfl⟩
  | some fs =>
      rw [hfs] at hagrees
      refine ⟨_, ⟨hagrees, fun f hf => ?_, h.headed.received n, h.headers⟩,
        ⟨List.prefix_rfl, le_rfl, List.prefix_append _ _⟩, rfl⟩
      rcases Multiset.mem_add.mp hf with hf | hf
      · exact h.arrived_of_lookup hn hfs f hf
      · exact h.settled f hf

/-- Acknowledgements of a whole range. -/
lemma Owes.receivedAll {ns : List ℕ} (hns : ∀ n ∈ ns, b.Confirmed arrived n) :
    ∃ b', Owes arrived (ns.foldl PacketQueue.received q) b' ∧ b.Grows b'
      ∧ b'.emitted = b.emitted := by
  induction ns generalizing q b with
  | nil => exact ⟨b, h, .refl b, rfl⟩
  | cons n ns ih =>
      obtain ⟨hn, hrest⟩ := List.forall_mem_cons.mp hns
      obtain ⟨b₁, h₁, hb₁, hemitted⟩ := h.received hn
      obtain ⟨b₂, h₂, hb₂, hemitted₂⟩ := ih h₁ fun m hm => (hrest m hm).mono hb₁ fun _ hf => hf
      exact ⟨b₂, h₂, hb₁.trans hb₂, hemitted₂.trans hemitted⟩

/-- **A resend request** for a number that was sent. -/
lemma Owes.resend {n : ℕ} (hn : n < q.sendMin) (hq : q.resend clock n = .ok q') :
    ∃ b', Owes arrived q' b' ∧ b.Grows b' ∧ b'.emitted = b.emitted := by
  have hagrees := h.toAgrees.resend (.inl hn) hq
  rw [Books.book] at hagrees
  cases hfs : q.queue.lookup n with
  | none =>
      rw [hfs] at hagrees
      exact ⟨b, ⟨hagrees, h.settled, h.headed.resend hq, h.headers⟩, .refl b, rfl⟩
  | some fs =>
      rw [hfs] at hagrees
      exact ⟨_, ⟨hagrees, h.settled, h.headed.resend hq, h.headers⟩,
        ⟨List.prefix_rfl, le_rfl, List.prefix_append _ _⟩, rfl⟩

/-- **What `get_packet` returns is emitted.** -/
lemma Owes.getPacket {order : IterOrder ℕ} {ret : List FrameSet}
    (hq : q.getPacket clock order = .ok (ret, q')) :
    ∃ b', Owes arrived q' b' ∧ b.Grows b' ∧ b'.emitted = b.emitted ++ ret := by
  have hagrees := h.toAgrees.getPacket hq
  obtain ⟨hret, hheaded⟩ := h.headed.getPacket hq
  simp only [Books.book, hq] at hagrees
  exact ⟨_, ⟨hagrees, h.settled, hheaded, List.forall_mem_append.mpr ⟨h.headers, hret⟩⟩,
    ⟨List.prefix_append _ _, le_rfl, List.prefix_append _ _⟩, rfl⟩

end Owes

end PacketQueue

end ActixRaknet
