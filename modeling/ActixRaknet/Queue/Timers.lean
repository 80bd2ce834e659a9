import ActixRaknet.Queue.PacketQueue

/-!
When the numbers of a packet queue were given out.

* `Timed`: a call keeps the readings of the timers that are there and stamps the new ones, with a
  lemma for each operation;
* `Stamped`: the timers have the readings of a list that is kept beside the calls, `Stamped.timed`.
-/

namespace ActixRaknet

open Fallible

namespace PacketQueue

variable {q q' : PacketQueue} {clock : Clock}

/-- A timer of `q'` has the reading that it has in `q`, or the one under which its number was given
out since. -/
structure Timed (q : PacketQueue) (clock : Clock) (q' : PacketQueue) : Prop where
  max_le : q.max ≤ q'.max
  stamp : ∀ n t flag, q'.timePassed.lookup n = some (t, flag) →
    (∃ flag', q.timePassed.lookup n = some (t, flag'))
      ∨ q.max ≤ n ∧ n < q'.max ∧ t = clock.stamp n

lemma Timed.refl (q : PacketQueue) (clock : Clock) : q.Timed clock q :=
  ⟨le_rfl, fun _ _ flag h => Or.inl ⟨flag, h⟩⟩

lemma Timed.trans {q₁ q₂ q₃ : PacketQueue} (h : q₁.Timed clock q₂) (h' : q₂.Timed clock q₃) :
    q₁.Timed clock q₃ := by
  refine ⟨h.max_le.trans h'.max_le, fun n t flag hn => ?_⟩
  rcases h'.stamp n t flag hn with ⟨flag', hn'⟩ | ⟨hle, hlt, heq⟩
  · rcases h.stamp n t flag' hn' with hold | ⟨hle, hlt, heq⟩
    · exact Or.inl hold
    · exact Or.inr ⟨hle, hlt.trans_le h'.max_le, heq⟩
  · exact Or.inr ⟨h.max_le.trans hle, hlt, heq⟩

/-- A new timer under the next number, and perhaps one timer less. -/
lemma timed_of_insert {timers : HashMap ℕ (Instant × Bool)} (hmax : q'.max = q.max + 1)
    (htimers : q'.timePassed = timers.insert q.max (clock.stamp q.max, false))
    (hold : ∀ n elem, timers.lookup n = some elem → q.timePassed.lookup n = some elem) :
    q.Timed clock q' := by
  refine ⟨hmax ▸ Nat.le_succ _, fun n t flag hn => ?_⟩
  rw [htimers, HashMap.lookup_insert_eq_ite] at hn
  split_ifs at hn with hnew
  · subst hnew
    obtain ⟨rfl, -⟩ := Prod.mk.inj (Option.some.inj hn)
    exact Or.inr ⟨le_rfl, hmax ▸ Nat.lt_succ_self _, rfl⟩
  · exact Or.inl ⟨flag, hold n _ hn⟩

lemma timed_allocate (q : PacketQueue) (clock : Clock) (header : UInt8) (datas : List Frame) :
    q.Timed clock (q.allocate clock header datas) :=
  timed_of_insert rfl rfl fun _ _ hn => hn

lemma timed_moved (q : PacketQueue) (clock : Clock) (k : ℕ) (fs : FrameSet) :
    q.Timed clock (q.moved clock k fs) :=
  timed_of_insert rfl rfl fun _ _ hn => HashMap.lookup_of_lookup_erase hn

lemma timed_received (q : PacketQueue) (clock : Clock) (k : ℕ) : q.Timed clock (q.received k) := by
  refine ⟨(received_max q k).ge, fun n t flag hn => Or.inl ⟨flag, ?_⟩⟩
  rw [received] at hn
  split_ifs at hn
  · exact HashMap.lookup_of_lookup_erase hn
  · exact hn

lemma timed_flush (h : q.flush clock = .ok q') : q.Timed clock q' := by
  rcases flush_eq_ok.mp h with ⟨-, rfl⟩ | ⟨-, -, rfl⟩
  · exact .refl _ clock
  · have htimed := timed_allocate q clock (setHeader false) q.setQueue
    exact ⟨htimed.max_le, htimed.stamp⟩

lemma timed_readdOne {k : ℕ} (h : readdOne clock q k = .ok q') : q.Timed clock q' := by
  rw [readdOne] at h
  split_ifs at h
  · obtain ⟨fs, -, -, rfl⟩ := renumber_eq_ok.mp h
    exact timed_moved q clock k fs
  · exact Except.ok.inj h ▸ .refl q clock

/-- A timer that starts keeps its reading. -/
lemma timed_emit {acc acc' : List FrameSet × PacketQueue} {i : ℕ} (clock : Clock)
    (h : emit acc i = .ok acc') : acc.2.Timed clock acc'.2 := by
  simp only [emit, bind_eq_ok, unwrap_eq_ok, pure_eq_ok, Except.ok.injEq] at h
  obtain ⟨fs, -, ⟨start, flag₀⟩, helem, rfl⟩ := h
  refine ⟨le_rfl, fun n t flag hn => Or.inl ?_⟩
  rw [HashMap.lookup_insert_eq_ite] at hn
  split_ifs at hn with hi
  · subst hi
    simp only [Option.some.injEq, Prod.mk.injEq] at hn
    exact ⟨flag₀, hn.1 ▸ helem⟩
  · exact ⟨flag, hn⟩

/-- **The readings in a call of `get_packet`**: the open set and the sets that are sent again are
stamped, and the timers that start keep their readings. -/
lemma timed_getPacket {order : IterOrder ℕ} {ret : List FrameSet}
    (hq : q.getPacket clock order = .ok (ret, q')) : q.Timed clock q' := by
  simp only [PacketQueue.getPacket, tick, PacketQueue.readd, bind_eq_ok, pure_eq_ok,
    Except.ok.injEq, Prod.mk.injEq] at hq
  obtain ⟨_, ⟨q₁, hflush, rfl⟩, _, ⟨q₂, hreadd, rfl⟩, ⟨ret, q₃⟩, hemit, rfl, rfl⟩ := hq
  have h₁ := timed_flush hflush
  have h₂ : q.Timed clock q₂ := by
    refine foldlM_induction (P := fun t => q.Timed clock t)
      (fun t k t' _ ht hstep => ht.trans (timed_readdOne hstep)) ?_ hreadd
    exact ⟨h₁.max_le, h₁.stamp⟩
  have h₃ : q.Timed clock q₃ := by
    refine foldlM_induction (P := fun acc : List FrameSet × PacketQueue => q.Timed clock acc.2)
      (fun acc i acc' _ hacc hstep => hacc.trans (timed_emit clock hstep)) ?_ hemit
    exact ⟨h₂.max_le, h₂.stamp⟩
  exact ⟨h₃.max_le, h₃.stamp⟩

/-- The readings under which the numbers from 0 on were given out are those of the timers. -/
structure Stamped (q : PacketQueue) (stamps : List Instant) : Prop where
  length_eq : stamps.length = q.max
  stamp : ∀ n t flag, q.timePassed.lookup n = some (t, flag) → stamps[n]? = some t

/-- The numbers that a call gives out are stamped. -/
lemma Stamped.timed {stamps : List Instant} (h : q.Stamped stamps) (hq : q.Timed clock q') :
    q'.Stamped (stamps ++ (List.range' q.max (q'.max - q.max)).map clock.stamp) := by
  refine ⟨?_, fun n t flag hn => ?_⟩
  · rw [List.length_append, List.length_map, List.length_range', h.length_eq,
      Nat.add_sub_cancel' hq.max_le]
  · rcases hq.stamp n t flag hn with ⟨flag', hold⟩ | ⟨hle, hlt, rfl⟩
    · have hstamp := h.stamp n t flag' hold
      obtain ⟨hlt, -⟩ := List.getElem?_eq_some_iff.mp hstamp
      rw [List.getElem?_append_left hlt, hstamp]
    · have hlength : stamps.length ≤ n := h.length_eq ▸ hle
      rw [List.getElem?_append_right hlength, h.length_eq, List.getElem?_map,
        List.getElem?_range' (by omega), Option.map_some, one_mul, Nat.add_sub_cancel' hle]

/-- A call that gives out no number. -/
lemma Stamped.of_max_eq {stamps : List Instant} (h : q.Stamped stamps) (hq : q.Timed clock q')
    (hmax : q'.max = q.max) : q'.Stamped stamps := by
  have hstamped := h.timed hq
  rwa [hmax, Nat.sub_self, List.range'_zero, List.map_nil, List.append_nil] at hstamped

/-- A call that gives out one number. -/
lemma Stamped.of_max_succ {stamps : List Instant} (h : q.Stamped stamps) (hq : q.Timed clock q')
    (hmax : q'.max = q.max + 1) : q'.Stamped (stamps ++ [clock.stamp q.max]) := by
  have hstamped := h.timed hq
  rwa [hmax, Nat.add_sub_cancel_left] at hstamped

end PacketQueue

end ActixRaknet
