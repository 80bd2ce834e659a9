import ActixRaknet.Packets.Frame
import ActixRaknet.Library.HashMap
import ActixRaknet.Library.Run

/-!
`packetqueue.rs`: the frames waiting to be sent and the frame sets waiting to be acknowledged.

* `PacketQueue` and its operations `addFrame`, `received`, `resend`, `getPacket`;
* `addFrame_eq_ok`, `renumber_eq_ok`, `getPacket_spec`: what a completed operation has done, as
  pushes onto the open set, allocations of the next number (`allocate`) and moves of a set to the
  next number (`moved`); `getPacket_induction`: the rule for what `get_packet` keeps;
* `Keys`: the two maps agree, and every number not yet sent is in both;
* `Sound`: `Keys` with what the timers need; every operation keeps it, except for feedback on a
  number that was not sent yet (`step_sound`), and that always breaks `Keys` (`step_breaks`).
-/

namespace ActixRaknet

open Fallible

/-- A reading of the monotonic clock, in nanoseconds. -/
abbrev Instant := ℕ

namespace Instant

/-- `Instant::duration_since`, which saturates at zero, with `Duration::as_millis`. -/
def millisSince (now earlier : Instant) : ℕ := (now - earlier) / 10 ^ 6

/-- `Instant::duration_since` with `Duration::as_secs`. -/
def secsSince (now earlier : Instant) : ℕ := (now - earlier) / 10 ^ 9

end Instant

/-- `PacketQueue`. -/
structure PacketQueue where
  queue : HashMap ℕ FrameSet
  timePassed : HashMap ℕ (Instant × Bool)
  max : ℕ
  sendMin : ℕ
  /-- The field `resend`: numbers whose timer has run out. -/
  resends : List ℕ
  setSize : ℕ
  setQueue : List Frame
  mtu : ℕ

namespace PacketQueue

/-- The readings of the clock during one call. -/
structure Clock where
  /-- The reading taken when the set with this number is put into the maps. -/
  stamp : ℕ → Instant
  /-- The reading of `tick`. -/
  tick : Instant

/-- `PacketQueue::new`. -/
def new (mtu : UInt16) : PacketQueue where
  queue := ∅
  timePassed := ∅
  max := 0
  sendMin := 0
  resends := []
  setSize := 0
  setQueue := []
  mtu := mtu.toNat

/-- A set of `datas` under the next number, in both maps. -/
def allocate (q : PacketQueue) (clock : Clock) (header : UInt8) (datas : List Frame) :
    PacketQueue :=
  { q with
    max := q.max + 1
    timePassed := q.timePassed.insert q.max (clock.stamp q.max, false)
    queue := q.queue.insert q.max ⟨header, q.max, datas⟩ }

/-- `PacketQueue::add`. -/
def add (q : PacketQueue) (clock : Clock) (frameSet : FrameSet) : Except Panic PacketQueue :=
  if frameSet.sequenceNumber = q.max then do
    let max ← u32Add q.max 1
    return { q with
      max := max
      timePassed := q.timePassed.insert frameSet.sequenceNumber
        (clock.stamp frameSet.sequenceNumber, false)
      queue := q.queue.insert frameSet.sequenceNumber frameSet }
  else
    .ok q

/-- The frame joins the open set: `set_size` stays below the room of a datagram, and the frame is
not part of a split packet. -/
def Fits (q : PacketQueue) (frame : Frame) : Prop :=
  q.setSize + frame.length < q.mtu - 42 ∧ frame.split = false

instance (q : PacketQueue) (frame : Frame) : Decidable (q.Fits frame) :=
  inferInstanceAs (Decidable (_ ∧ _))

/-- The header of a set made of one frame: `NEEDS_B_AND_AS_FLAG`, and `CONTINUOUS_SEND_FLAG` for a
part of a split packet. -/
def setHeader (split : Bool) : UInt8 := if split then 0x80 ||| 0x4 ||| 0x8 else 0x80 ||| 0x4

/-- `PacketQueue::add_frame`. -/
def addFrame (q : PacketQueue) (clock : Clock) (frame : Frame) : Except Panic PacketQueue := do
  let _ ← u16Sub q.mtu 42
  if q.Fits frame then
    .ok { q with setSize := q.setSize + frame.length, setQueue := q.setQueue ++ [frame] }
  else
    q.add clock { header := setHeader frame.split, sequenceNumber := q.max, datas := [frame] }

/-- `PacketQueue::received`. -/
def received (q : PacketQueue) (sequence : ℕ) : PacketQueue :=
  if sequence ∈ q.queue then
    { q with queue := q.queue.erase sequence, timePassed := q.timePassed.erase sequence }
  else
    q

/-- The first half of `PacketQueue::tick`: the open set is closed. -/
def flush (q : PacketQueue) (clock : Clock) : Except Panic PacketQueue :=
  if q.setQueue ≠ [] then do
    let q ← q.add clock { header := 0x80 ||| 0x4, sequenceNumber := q.max, datas := q.setQueue }
    return { q with setQueue := [], setSize := 0 }
  else
    .ok q

/-- The timer of the entry is running and has passed a second. -/
def due (clock : Clock) (elem : Instant × Bool) : Bool :=
  elem.2 && decide (1000 < clock.tick.millisSince elem.1)

/-- `PacketQueue::tick`. -/
def tick (q : PacketQueue) (clock : Clock) (order : IterOrder ℕ) : Except Panic PacketQueue := do
  let q ← q.flush clock
  return { q with
    resends := q.resends ++ order.reorder (q.timePassed.keysWhere fun _ elem => due clock elem) }

/-- The set `fs` under the number `k`, moved to the next number. -/
def moved (q : PacketQueue) (clock : Clock) (k : ℕ) (fs : FrameSet) : PacketQueue :=
  { q with
    queue := (q.queue.insert q.max { fs with sequenceNumber := q.max }).erase k
    timePassed := (q.timePassed.erase k).insert q.max (clock.stamp q.max, false)
    max := q.max + 1 }

/-- The body that `PacketQueue::readd` and `PacketQueue::resend` share: the set under `k` moves to
the next number. -/
def renumber (q : PacketQueue) (clock : Clock) (k : ℕ) : Except Panic PacketQueue := do
  let added ← unwrap (q.queue.lookup k)
  let max ← u32Add q.max 1
  return { q with
    queue := (q.queue.insert q.max { added with sequenceNumber := q.max }).erase k
    timePassed := (q.timePassed.erase k).insert q.max (clock.stamp q.max, false)
    max := max }

/-- One round of `PacketQueue::readd`. -/
def readdOne (clock : Clock) (q : PacketQueue) (resend : ℕ) : Except Panic PacketQueue :=
  if resend ∈ q.queue then q.renumber clock resend else .ok q

/-- `PacketQueue::readd`. -/
def readd (q : PacketQueue) (clock : Clock) : Except Panic PacketQueue := do
  let q ← q.resends.foldlM (readdOne clock) q
  return { q with resends := [] }

/-- `PacketQueue::resend`. -/
def resend (q : PacketQueue) (clock : Clock) (index : ℕ) : Except Panic PacketQueue :=
  if index ∈ q.timePassed then q.renumber clock index else .ok q

/-- One round of the loop of `PacketQueue::get_packet`: the set is sent and its timer starts. -/
def emit (acc : List FrameSet × PacketQueue) (i : ℕ) :
    Except Panic (List FrameSet × PacketQueue) := do
  let fs ← unwrap (acc.2.queue.lookup i)
  let elem ← unwrap (acc.2.timePassed.lookup i)
  return (acc.1 ++ [fs], { acc.2 with timePassed := acc.2.timePassed.insert i (elem.1, true) })

/-- `PacketQueue::get_packet`. -/
def getPacket (q : PacketQueue) (clock : Clock) (order : IterOrder ℕ) :
    Except Panic (List FrameSet × PacketQueue) := do
  let q ← q.tick clock order
  let q ← q.readd clock
  let (ret, q) ← (List.range' q.sendMin (q.max - q.sendMin)).foldlM emit ([], q)
  return (ret, { q with sendMin := q.max })

/-! ### What the operations do -/

lemma add_max (q : PacketQueue) (clock : Clock) (header : UInt8) (datas : List Frame) :
    q.add clock ⟨header, q.max, datas⟩
      = if q.max + 1 < 2 ^ 32 then .ok (q.allocate clock header datas) else .error .overflow := by
  rw [add, if_pos rfl, u32Add]
  split_ifs <;> rfl

/-- A frame joins the open set or is a set of its own. -/
lemma addFrame_eq_ok {q q' : PacketQueue} {clock : Clock} {f : Frame} :
    q.addFrame clock f = .ok q' ↔ 42 ≤ q.mtu
      ∧ ((q.Fits f
          ∧ q' = { q with setSize := q.setSize + f.length, setQueue := q.setQueue ++ [f] })
        ∨ (¬ q.Fits f ∧ q.max + 1 < 2 ^ 32 ∧ q' = q.allocate clock (setHeader f.split) [f])) := by
  simp only [addFrame, add_max, bind_eq_ok, u16Sub_eq_ok]
  by_cases hfits : q.Fits f
  · simp only [hfits, if_true, Except.ok.injEq, eq_comm (a := q')]
    tauto
  · simp only [hfits, if_false, ite_error_eq_ok, Except.ok.injEq, eq_comm (a := q')]
    tauto

/-- Closing the open set gives it the next number; an empty one is left open. -/
lemma flush_eq_ok {q q' : PacketQueue} {clock : Clock} :
    q.flush clock = .ok q' ↔ (q.setQueue = [] ∧ q' = q)
      ∨ (q.setQueue ≠ [] ∧ q.max + 1 < 2 ^ 32
          ∧ q' = { q.allocate clock (setHeader false) q.setQueue with
              setQueue := [], setSize := 0 }) := by
  by_cases hset : q.setQueue = []
  · simp [flush, hset, eq_comm]
  · simp only [flush, hset, add_max, bind_eq_ok, ite_error_eq_ok, Except.ok.injEq, ne_eq,
      not_false_eq_true, if_true, pure_eq_ok, eq_comm (a := q')]
    constructor
    · rintro ⟨_, ⟨hlt, rfl⟩, rfl⟩
      exact Or.inr ⟨trivial, hlt, rfl⟩
    · rintro (⟨h, -⟩ | ⟨-, hlt, rfl⟩)
      · exact h.elim
      · exact ⟨_, ⟨hlt, rfl⟩, rfl⟩

/-- Renumbering moves the set to the next number. -/
lemma renumber_eq_ok {q q' : PacketQueue} {clock : Clock} {k : ℕ} :
    q.renumber clock k = .ok q'
      ↔ ∃ fs, q.queue.lookup k = some fs ∧ q.max + 1 < 2 ^ 32 ∧ q' = q.moved clock k fs := by
  simp only [renumber, bind_eq_ok, unwrap_eq_ok, u32Add_eq_ok, pure_eq_ok, Except.ok.injEq,
    eq_comm (a := q')]
  constructor
  · rintro ⟨fs, hfs, _, ⟨hlt, rfl⟩, rfl⟩
    exact ⟨fs, hfs, hlt, rfl⟩
  · rintro ⟨fs, hfs, hlt, rfl⟩
    exact ⟨fs, hfs, _, ⟨hlt, rfl⟩, rfl⟩

lemma lookup_allocate (q : PacketQueue) (clock : Clock) (header : UInt8) (datas : List Frame)
    (n : ℕ) : (q.allocate clock header datas).queue.lookup n
      = if n = q.max then some ⟨header, q.max, datas⟩ else q.queue.lookup n :=
  HashMap.lookup_insert_eq_ite _ _ _ _

lemma lookup_moved (q : PacketQueue) (clock : Clock) (k : ℕ) (fs : FrameSet) (n : ℕ) :
    (q.moved clock k fs).queue.lookup n
      = if n = k then none
        else if n = q.max then some { fs with sequenceNumber := q.max } else q.queue.lookup n := by
  rw [moved, HashMap.lookup_erase_eq_ite, HashMap.lookup_insert_eq_ite]

lemma lookup_received (q : PacketQueue) (sequence n : ℕ) :
    (q.received sequence).queue.lookup n
      = if n = sequence then none else q.queue.lookup n := by
  rw [received]
  split_ifs with hmem hn hn
  · rw [hn, AList.lookup_erase]
  · rw [AList.lookup_erase_ne hn]
  · rw [hn, AList.lookup_eq_none.mpr hmem]
  · rfl

@[simp] lemma received_sendMin (q : PacketQueue) (sequence : ℕ) :
    (q.received sequence).sendMin = q.sendMin := by
  rw [received]
  split_ifs <;> rfl

@[simp] lemma received_max (q : PacketQueue) (sequence : ℕ) :
    (q.received sequence).max = q.max := by
  rw [received]
  split_ifs <;> rfl

/-- The timer of `i` starts, if there is one. -/
def startTimer (timers : HashMap ℕ (Instant × Bool)) (i : ℕ) : HashMap ℕ (Instant × Bool) :=
  match timers.lookup i with
  | some elem => timers.insert i (elem.1, true)
  | none => timers

lemma lookup_startTimer (timers : HashMap ℕ (Instant × Bool)) (i n : ℕ) :
    (startTimer timers i).lookup n
      = if n = i then (timers.lookup n).map fun elem => (elem.1, true) else timers.lookup n := by
  rw [startTimer]
  cases hi : timers.lookup i with
  | none =>
      split_ifs with h
      · rw [h, hi]
        rfl
      · rfl
  | some elem =>
      rw [HashMap.lookup_insert_eq_ite]
      split_ifs with h
      · rw [h, hi]
        rfl
      · rfl

lemma lookup_startTimers (l : List ℕ) (timers : HashMap ℕ (Instant × Bool)) (n : ℕ) :
    (l.foldl startTimer timers).lookup n
      = if n ∈ l then (timers.lookup n).map fun elem => (elem.1, true) else timers.lookup n := by
  induction l generalizing timers with
  | nil => simp
  | cons i l ih =>
      rw [List.foldl_cons, ih, lookup_startTimer]
      by_cases hni : n = i <;> by_cases hnl : n ∈ l <;>
        simp [hni, hnl, Option.map_map, Function.comp_def]

/-- The numbers allocated and not sent yet. -/
def unsent (q : PacketQueue) : List ℕ := List.range' q.sendMin (q.max - q.sendMin)

lemma mem_unsent {q : PacketQueue} {n : ℕ} : n ∈ q.unsent ↔ q.sendMin ≤ n ∧ n < q.max := by
  rw [unsent, List.mem_range'_1]
  omega

/-- The loop of `get_packet` over numbers that are in both maps. -/
lemma foldlM_emit {q : PacketQueue} {l : List ℕ}
    (h : ∀ i ∈ l, i ∈ q.queue ∧ i ∈ q.timePassed) (ret : List FrameSet) :
    l.foldlM emit (ret, q) = .ok (ret ++ l.filterMap q.queue.lookup,
      { q with timePassed := l.foldl startTimer q.timePassed }) := by
  induction l generalizing ret q with
  | nil => simp
  | cons i l ih =>
      obtain ⟨hq, ht⟩ := h i List.mem_cons_self
      obtain ⟨fs, hfs⟩ := HashMap.exists_lookup_of_mem hq
      obtain ⟨elem, helem⟩ := HashMap.exists_lookup_of_mem ht
      have hstart : startTimer q.timePassed i = q.timePassed.insert i (elem.1, true) := by
        rw [startTimer, helem]
      have hrest : ∀ j ∈ l, j ∈ q.queue ∧ j ∈ startTimer q.timePassed i := fun j hj =>
        ⟨(h j (List.mem_cons_of_mem _ hj)).1, by
          rw [hstart]
          exact AList.mem_insert _ |>.mpr (Or.inr (h j (List.mem_cons_of_mem _ hj)).2)⟩
      rw [List.foldlM_cons, emit, hfs, helem]
      simp only [unwrap_some, ok_bind, pure_eq_ok]
      rw [← hstart, ih (q := { q with timePassed := startTimer q.timePassed i }) hrest]
      simp [hfs]

/-! ### The invariant -/

/-- **The queue invariant**: both maps have the same keys, all below `max`, and every number that
was not sent yet is one of them. -/
structure Keys (q : PacketQueue) : Prop where
  same : ∀ n, n ∈ q.queue ↔ n ∈ q.timePassed
  lt_max : ∀ n ∈ q.queue, n < q.max
  tail : ∀ n, q.sendMin ≤ n → n < q.max → n ∈ q.queue

/-- Only sets that were sent have a running timer or are due. -/
structure Timers (q : PacketQueue) : Prop where
  sendMin_le : q.sendMin ≤ q.max
  running : ∀ n t, q.timePassed.lookup n = some (t, true) → n < q.sendMin
  resends_lt : ∀ n ∈ q.resends, n < q.sendMin

/-- The state in which no operation unwraps `None`. -/
structure Sound (q : PacketQueue) : Prop extends Keys q, Timers q

lemma sound_new (mtu : UInt16) : Sound (new mtu) where
  same n := Iff.rfl
  lt_max n h := absurd h (by simp [new])
  tail n _ h := absurd h (Nat.not_lt_zero n)
  sendMin_le := le_rfl
  running n t h := by simp [new] at h
  resends_lt n h := absurd h List.not_mem_nil

/-- Frames may move between the open set and outside without touching the invariant. -/
lemma Sound.withOpenSet {q : PacketQueue} (h : q.Sound) (size : ℕ) (frames : List Frame) :
    Sound { q with setSize := size, setQueue := frames } :=
  ⟨⟨h.same, h.lt_max, h.tail⟩, ⟨h.sendMin_le, h.running, h.resends_lt⟩⟩

/-- A new set extends the tail of unsent numbers by one. -/
lemma Sound.allocate {q : PacketQueue} (h : q.Sound) (clock : Clock) (header : UInt8)
    (datas : List Frame) : Sound (q.allocate clock header datas) where
  same n := by simp only [PacketQueue.allocate, AList.mem_insert, h.same]
  lt_max n hn := by
    simp only [PacketQueue.allocate, AList.mem_insert] at hn ⊢
    rcases hn with rfl | hn
    · exact Nat.lt_succ_self _
    · exact (h.lt_max n hn).trans (Nat.lt_succ_self _)
  tail n hlo hhi := by
    simp only [PacketQueue.allocate, AList.mem_insert] at hlo hhi ⊢
    rcases Nat.lt_succ_iff_lt_or_eq.mp hhi with hlt | rfl
    · exact Or.inr (h.tail n hlo hlt)
    · exact Or.inl rfl
  sendMin_le := h.sendMin_le.trans (Nat.le_succ _)
  running n t hn := by
    simp only [PacketQueue.allocate, HashMap.lookup_insert_eq_ite] at hn
    split_ifs at hn
    · cases hn
    · exact h.running n t hn
  resends_lt := h.resends_lt

/-- A removal below the tail keeps the invariant. -/
lemma Sound.received {q : PacketQueue} (h : q.Sound) {k : ℕ} (hk : k < q.sendMin ∨ q.max ≤ k) :
    Sound (q.received k) := by
  rw [PacketQueue.received]
  split_ifs with hmem
  · have hlt : k < q.sendMin := hk.resolve_right (not_le.mpr (h.lt_max k hmem))
    refine ⟨⟨fun n => ?_, fun n hn => ?_, fun n hlo hhi => ?_⟩,
      ⟨h.sendMin_le, fun n t hn => ?_, h.resends_lt⟩⟩
    · simp only [AList.mem_erase, h.same]
    · exact h.lt_max n (AList.mem_erase.mp hn).2
    · exact AList.mem_erase.mpr ⟨(hlt.trans_le hlo).ne', h.tail n hlo hhi⟩
    · exact h.running n t (HashMap.lookup_of_lookup_erase hn)
  · exact h

/-- A move of a set that was sent keeps the invariant. -/
lemma Sound.moved {q : PacketQueue} (h : q.Sound) (clock : Clock) {k : ℕ} (hk : k < q.sendMin)
    (fs : FrameSet) : Sound (q.moved clock k fs) := by
  have hne : q.max ≠ k := (hk.trans_le h.sendMin_le).ne'
  refine ⟨⟨fun n => ?_, fun n hn => ?_, fun n hlo hhi => ?_⟩,
    ⟨h.sendMin_le.trans (Nat.le_succ _), fun n t hn => ?_, h.resends_lt⟩⟩
  · simp only [PacketQueue.moved, AList.mem_erase, AList.mem_insert, h.same]
    constructor
    · rintro ⟨hnk, hn | hn⟩
      · exact Or.inl hn
      · exact Or.inr ⟨hnk, hn⟩
    · rintro (rfl | ⟨hnk, hn⟩)
      · exact ⟨hne, Or.inl rfl⟩
      · exact ⟨hnk, Or.inr hn⟩
  · simp only [PacketQueue.moved, AList.mem_erase, AList.mem_insert] at hn ⊢
    rcases hn with ⟨-, rfl | hn⟩
    · exact Nat.lt_succ_self _
    · exact (h.lt_max n hn).trans (Nat.lt_succ_self _)
  · simp only [PacketQueue.moved, AList.mem_erase, AList.mem_insert] at hlo hhi ⊢
    refine ⟨(hk.trans_le hlo).ne', ?_⟩
    rcases Nat.lt_succ_iff_lt_or_eq.mp hhi with hlt | rfl
    · exact Or.inr (h.tail n hlo hlt)
    · exact Or.inl rfl
  · simp only [PacketQueue.moved, HashMap.lookup_insert_eq_ite, HashMap.lookup_erase_eq_ite] at hn
    split_ifs at hn
    · cases hn
    · exact h.running n t hn

/-- `k` moves to the next number, in one round of `readd`. -/
def Renumbers (clock : Clock) (q q' : PacketQueue) : Prop :=
  ∃ k fs, k < q.sendMin ∧ q.queue.lookup k = some fs ∧ q.max + 1 < 2 ^ 32
    ∧ q' = q.moved clock k fs

lemma Sound.flush {q q' : PacketQueue} (h : q.Sound) {clock : Clock}
    (hq : q.flush clock = .ok q') : q'.Sound := by
  rcases flush_eq_ok.mp hq with ⟨-, rfl⟩ | ⟨-, -, rfl⟩
  · exact h
  · exact (h.allocate clock _ _).withOpenSet 0 []

/-- `tick` closes the open set and notes sets that were sent. -/
lemma Sound.tick {q q' : PacketQueue} (h : q.Sound) {clock : Clock} {order : IterOrder ℕ}
    (hq : q.tick clock order = .ok q') :
    q'.Sound ∧ ∃ q₁ resends, q.flush clock = .ok q₁ ∧ q' = { q₁ with resends := resends } := by
  simp only [PacketQueue.tick, bind_eq_ok, pure_eq_ok, Except.ok.injEq] at hq
  obtain ⟨q₁, hflush, rfl⟩ := hq
  have h₁ := h.flush hflush
  refine ⟨⟨⟨h₁.same, h₁.lt_max, h₁.tail⟩, ⟨h₁.sendMin_le, h₁.running, fun n hn => ?_⟩⟩,
    q₁, _, hflush, rfl⟩
  rcases List.mem_append.mp hn with hn | hn
  · exact h₁.resends_lt n hn
  · rw [IterOrder.mem_reorder, HashMap.mem_keysWhere] at hn
    obtain ⟨⟨t, flag⟩, hlookup, hdue⟩ := hn
    have hflag : flag = true := (Bool.and_eq_true _ _ ▸ hdue).1
    exact h₁.running n t (hflag ▸ hlookup)

lemma readdOne_eq_ok {q q' : PacketQueue} {clock : Clock} {k : ℕ} (hk : k < q.sendMin)
    (h : readdOne clock q k = .ok q') : q' = q ∨ Renumbers clock q q' := by
  rw [readdOne] at h
  split_ifs at h
  · obtain ⟨fs, hfs, hlt, rfl⟩ := renumber_eq_ok.mp h
    exact Or.inr ⟨k, fs, hk, hfs, hlt, rfl⟩
  · exact Or.inl (Except.ok.inj h).symm

lemma Renumbers.sendMin_eq {clock : Clock} {q q' : PacketQueue} (h : Renumbers clock q q') :
    q'.sendMin = q.sendMin := by
  obtain ⟨k, fs, -, -, -, rfl⟩ := h
  rfl

lemma Sound.renumbers {clock : Clock} {q q' : PacketQueue} (h : q.Sound)
    (hq : Relation.ReflTransGen (Renumbers clock) q q') : q'.Sound := by
  induction hq with
  | refl => exact h
  | tail _ hstep ih =>
      obtain ⟨k, fs, hk, -, -, rfl⟩ := hstep
      exact ih.moved clock hk fs

/-- A round of `readd` on a set that was sent is a renumbering or nothing, after which the numbers
to resend are still numbers that were sent. -/
lemma readdOne_step {clock : Clock} {q₀ q q' : PacketQueue} {k : ℕ} (hk : k < q₀.sendMin)
    (hq : Relation.ReflTransGen (Renumbers clock) q₀ q ∧ q.sendMin = q₀.sendMin)
    (h : readdOne clock q k = .ok q') :
    Relation.ReflTransGen (Renumbers clock) q₀ q' ∧ q'.sendMin = q₀.sendMin := by
  rcases readdOne_eq_ok (hq.2 ▸ hk) h with rfl | hstep
  · exact hq
  · exact ⟨hq.1.tail hstep, hstep.sendMin_eq.trans hq.2⟩

/-- `readd` is a sequence of renumberings. -/
lemma Sound.readd {q q' : PacketQueue} (h : q.Sound) {clock : Clock}
    (hq : q.readd clock = .ok q') :
    ∃ q₁, Relation.ReflTransGen (Renumbers clock) q q₁ ∧ q' = { q₁ with resends := [] } := by
  simp only [PacketQueue.readd, bind_eq_ok, pure_eq_ok, Except.ok.injEq] at hq
  obtain ⟨q₁, hfold, rfl⟩ := hq
  have hsteps := foldlM_induction (P := fun q₁ => Relation.ReflTransGen (Renumbers clock) q q₁
      ∧ q₁.sendMin = q.sendMin) (fun q₁ k q₂ hk => readdOne_step (h.resends_lt k hk))
    ⟨.refl, rfl⟩ hfold
  exact ⟨q₁, hsteps.1, rfl⟩

lemma Sound.withResends {q : PacketQueue} (h : q.Sound) :
    Sound { q with resends := [] } :=
  ⟨⟨h.same, h.lt_max, h.tail⟩, ⟨h.sendMin_le, h.running, fun _ hn => absurd hn List.not_mem_nil⟩⟩

/-- The queue after the loop of `get_packet`. -/
def sent (q : PacketQueue) : PacketQueue :=
  { q with timePassed := q.unsent.foldl startTimer q.timePassed, sendMin := q.max }

/-- The sets the loop of `get_packet` returns. -/
def sets (q : PacketQueue) : List FrameSet := q.unsent.filterMap q.queue.lookup

/-- Over a sound queue the loop of `get_packet` returns every set that was not sent yet. -/
lemma Sound.foldlM_emit {q : PacketQueue} (h : q.Sound) :
    (List.range' q.sendMin (q.max - q.sendMin)).foldlM emit ([], q)
      = .ok (q.sets, { q with timePassed := q.unsent.foldl startTimer q.timePassed }) := by
  have hin : ∀ i ∈ q.unsent, i ∈ q.queue ∧ i ∈ q.timePassed := fun i hi => by
    obtain ⟨hlo, hhi⟩ := mem_unsent.mp hi
    exact ⟨h.tail i hlo hhi, (h.same i).mp (h.tail i hlo hhi)⟩
  exact PacketQueue.foldlM_emit hin []

lemma mem_startTimers {l : List ℕ} {timers : HashMap ℕ (Instant × Bool)} {n : ℕ} :
    n ∈ l.foldl startTimer timers ↔ n ∈ timers := by
  rw [← AList.lookup_isSome, ← AList.lookup_isSome, lookup_startTimers]
  split_ifs
  · rw [Option.isSome_map]
  · rfl

/-- After the loop every number was sent. -/
lemma Sound.sent {q : PacketQueue} (h : q.Sound) : q.sent.Sound where
  same n := (h.same n).trans mem_startTimers.symm
  lt_max := h.lt_max
  tail n hlo hhi := absurd hhi (not_lt.mpr hlo)
  sendMin_le := le_rfl
  running n t hn := by
    have hmem : n ∈ q.timePassed := mem_startTimers.mp (HashMap.mem_of_lookup hn)
    exact h.lt_max n ((h.same n).mpr hmem)
  resends_lt n hn := (h.resends_lt n hn).trans_le h.sendMin_le

/-- **What `get_packet` does**: it closes the open set, moves sets that were sent to new numbers,
and sends everything that was not sent yet. -/
lemma Sound.getPacket_spec {q q' : PacketQueue} (h : q.Sound) {clock : Clock}
    {order : IterOrder ℕ} {ret : List FrameSet}
    (hq : q.getPacket clock order = .ok (ret, q')) :
    ∃ q₁ q₂ resends, q.flush clock = .ok q₁
      ∧ Sound { q₁ with resends := resends }
      ∧ Relation.ReflTransGen (Renumbers clock) { q₁ with resends := resends } q₂
      ∧ q₂.Sound ∧ ret = q₂.sets ∧ q' = { q₂.sent with resends := [] } := by
  simp only [getPacket, bind_eq_ok, pure_eq_ok, Except.ok.injEq] at hq
  obtain ⟨qt, htick, qr, hreadd, ⟨ret', qe⟩, hemit, heq⟩ := hq
  obtain ⟨ht, q₁, resends, hflush, rfl⟩ := h.tick htick
  obtain ⟨q₂, hmoves, rfl⟩ := ht.readd hreadd
  have h₂ := ht.renumbers hmoves
  rw [h₂.withResends.foldlM_emit, Except.ok.injEq, Prod.mk.injEq] at hemit
  obtain ⟨rfl, rfl⟩ := hemit
  rw [Prod.mk.injEq] at heq
  exact ⟨q₁, q₂, resends, hflush, ht, hmoves, h₂, heq.1.symm, heq.2.symm⟩

/-! ### Runs -/

/-- A call of the queue. -/
inductive Op
  | addFrame (clock : Clock) (frame : Frame)
  | getPacket (clock : Clock) (order : IterOrder ℕ)
  | received (sequence : ℕ)
  | resend (clock : Clock) (sequence : ℕ)

/-- A call, as a step of the queue's state. -/
def step (q : PacketQueue) : Op → Except Panic PacketQueue
  | .addFrame clock frame => q.addFrame clock frame
  | .getPacket clock order => Prod.snd <$> q.getPacket clock order
  | .received sequence => .ok (q.received sequence)
  | .resend clock sequence => q.resend clock sequence

/-- The feedback names no number that was allocated but not sent yet. -/
def SentOnly (q : PacketQueue) : Op → Prop
  | .received sequence | .resend _ sequence => ¬ (q.sendMin ≤ sequence ∧ sequence < q.max)
  | _ => True

instance decidableSentOnly (q : PacketQueue) : ∀ op, Decidable (q.SentOnly op)
  | .received _ | .resend _ _ => inferInstanceAs (Decidable (¬ _))
  | .addFrame _ _ | .getPacket _ _ => isTrue trivial

lemma Sound.addFrame {q q' : PacketQueue} (h : q.Sound) {clock : Clock} {f : Frame}
    (hq : q.addFrame clock f = .ok q') : q'.Sound := by
  obtain ⟨-, ⟨-, rfl⟩ | ⟨-, -, rfl⟩⟩ := addFrame_eq_ok.mp hq
  · exact h.withOpenSet _ _
  · exact h.allocate clock _ _

/-- A requested resend is a renumbering, or names a set that is not held. -/
lemma Sound.resend_eq_ok {q q' : PacketQueue} (h : q.Sound) {clock : Clock} {k : ℕ}
    (hk : k < q.sendMin ∨ q.max ≤ k) (hq : q.resend clock k = .ok q') :
    q' = q ∨ Renumbers clock q q' := by
  rw [PacketQueue.resend] at hq
  split_ifs at hq with hmem
  · obtain ⟨fs, hfs, hlt, rfl⟩ := renumber_eq_ok.mp hq
    have hmax := h.lt_max k (HashMap.mem_of_lookup hfs)
    exact Or.inr ⟨k, fs, hk.resolve_right (not_le.mpr hmax), hfs, hlt, rfl⟩
  · exact Or.inl (Except.ok.inj hq).symm

/-- **Step lemma**: a call whose feedback names sent numbers only keeps the queue sound. -/
lemma step_sound {q q' : PacketQueue} {op : Op} (h : q.Sound) (hop : q.SentOnly op)
    (hq : step q op = .ok q') : q'.Sound := by
  cases op with
  | addFrame clock f => exact h.addFrame hq
  | getPacket clock order =>
      obtain ⟨⟨ret, q''⟩, hget, rfl⟩ := map_eq_ok.mp hq
      obtain ⟨q₁, q₂, resends, -, -, -, h₂, -, rfl⟩ := h.getPacket_spec hget
      exact h₂.sent.withResends
  | received k =>
      obtain rfl := Except.ok.inj hq
      exact h.received (by rw [SentOnly] at hop; omega)
  | resend clock k =>
      rcases h.resend_eq_ok (by rw [SentOnly] at hop; omega) hq with rfl | hstep
      · exact h
      · exact h.renumbers (.single hstep)

/-- Feedback on a number that was not sent yet takes it out of the tail. -/
lemma step_breaks {q q' : PacketQueue} {op : Op} (h : q.Sound) (hop : ¬ q.SentOnly op)
    (hq : step q op = .ok q') : ¬ q'.Keys := by
  intro hkeys
  cases op with
  | addFrame clock f => exact hop trivial
  | getPacket clock order => exact hop trivial
  | received k =>
      obtain rfl := Except.ok.inj hq
      obtain ⟨hlo, hhi⟩ := not_not.mp hop
      have hgone : k ∉ (q.received k).queue := by
        rw [← AList.lookup_eq_none, lookup_received, if_pos rfl]
      exact hgone (hkeys.tail k (by rwa [received_sendMin]) (by rwa [received_max]))
  | resend clock k =>
      obtain ⟨hlo, hhi⟩ := not_not.mp hop
      have hmem := h.tail k hlo hhi
      rw [step, resend, if_pos ((h.same k).mp hmem)] at hq
      obtain ⟨fs, -, -, rfl⟩ := renumber_eq_ok.mp hq
      have hgone : k ∉ (q.moved clock k fs).queue := by
        rw [← AList.lookup_eq_none, lookup_moved, if_pos rfl]
      exact hgone (hkeys.tail k hlo (hhi.trans (Nat.lt_succ_self _)))

/-- **The rule for `get_packet`**: what a flush leads to, renumbering keeps, and neither the
readings of the timers nor the two marks matter to, holds after it; and the sets it returns are sets
that such a queue holds. -/
lemma getPacket_induction {P : PacketQueue → Prop} {R : FrameSet → Prop} {q q' : PacketQueue}
    {clock : Clock} {order : IterOrder ℕ} {ret : List FrameSet}
    (hq : q.getPacket clock order = .ok (ret, q')) (hflush : ∀ t, q.flush clock = .ok t → P t)
    (hmarks : ∀ t timePassed sendMin resends, (∀ n, n ∈ timePassed ↔ n ∈ t.timePassed) → P t →
      P { t with timePassed := timePassed, sendMin := sendMin, resends := resends })
    (hrenumber : ∀ t k t', P t → t.renumber clock k = .ok t' → P t')
    (hsets : ∀ t n fs, P t → t.queue.lookup n = some fs → R fs) : (∀ fs ∈ ret, R fs) ∧ P q' := by
  simp only [getPacket, tick, readd, bind_eq_ok, pure_eq_ok, Except.ok.injEq, Prod.mk.injEq] at hq
  obtain ⟨_, ⟨q₁, hflushed, rfl⟩, _, ⟨q₂, hreadd, rfl⟩, ⟨ret, q₃⟩, hemit, rfl, rfl⟩ := hq
  have h₂ : P q₂ := by
    refine foldlM_induction (P := P) (fun t k t' _ ht hstep => ?_)
      (hmarks q₁ _ _ _ (fun _ => Iff.rfl) (hflush q₁ hflushed)) hreadd
    rw [readdOne] at hstep
    split_ifs at hstep
    · exact hrenumber t k t' ht hstep
    · exact Except.ok.inj hstep ▸ ht
  have h₃ : (∀ fs ∈ ret, R fs) ∧ P q₃ := by
    refine foldlM_induction
      (P := fun acc : List FrameSet × PacketQueue => (∀ fs ∈ acc.1, R fs) ∧ P acc.2)
      (fun acc i acc' _ hacc hstep => ?_)
      ⟨fun _ h => absurd h List.not_mem_nil, hmarks q₂ _ _ _ (fun _ => Iff.rfl) h₂⟩ hemit
    simp only [emit, bind_eq_ok, unwrap_eq_ok, pure_eq_ok, Except.ok.injEq] at hstep
    obtain ⟨fs, hfs, elem, helem, rfl⟩ := hstep
    -- the timer that starts is one that is there
    have hkeys : ∀ n, n ∈ acc.2.timePassed.insert i (elem.1, true) ↔ n ∈ acc.2.timePassed := by
      intro n
      rw [AList.mem_insert, or_iff_right_iff_imp]
      exact fun hn => hn ▸ HashMap.mem_of_lookup helem
    refine ⟨fun gs hgs => ?_, hmarks acc.2 _ _ _ hkeys hacc.2⟩
    rcases List.mem_append.mp hgs with hgs | hgs
    · exact hacc.1 gs hgs
    · exact List.mem_singleton.mp hgs ▸ hsets acc.2 i fs hacc.2 hfs
  exact ⟨h₃.1, hmarks q₃ _ _ _ (fun _ => Iff.rfl) h₃.2⟩

/-- The next number stays a `u32`, whatever the feedback: an allocation past the end panics. -/
lemma step_max_lt {q q' : PacketQueue} (op : Op) (h : q.max < 2 ^ 32) (hq : step q op = .ok q') :
    q'.max < 2 ^ 32 := by
  have hrenumber : ∀ {q q' : PacketQueue} {clock : Clock} {k : ℕ},
      q.renumber clock k = .ok q' → q'.max < 2 ^ 32 := by
    intro q q' clock k hq
    obtain ⟨fs, -, hlt, rfl⟩ := renumber_eq_ok.mp hq
    exact hlt
  cases op with
  | addFrame clock f =>
      obtain ⟨-, ⟨-, rfl⟩ | ⟨-, hlt, rfl⟩⟩ := addFrame_eq_ok.mp hq
      · exact h
      · exact hlt
  | received k =>
      obtain rfl := Except.ok.inj hq
      rw [received]
      split_ifs <;> exact h
  | resend clock k =>
      rw [step, resend] at hq
      split_ifs at hq
      · exact hrenumber hq
      · exact Except.ok.inj hq ▸ h
  | getPacket clock order =>
      obtain ⟨⟨ret, q''⟩, hget, rfl⟩ := map_eq_ok.mp hq
      refine (getPacket_induction (P := fun q => q.max < 2 ^ 32) (R := fun _ => True) hget
        (fun t ht => ?_) (fun _ _ _ _ _ ht => ht) (fun _ _ _ _ ht => hrenumber ht)
        fun _ _ _ _ _ => trivial).2
      rcases flush_eq_ok.mp ht with ⟨-, rfl⟩ | ⟨-, hlt, rfl⟩
      · exact h
      · exact hlt

lemma add_ne_unwrapNone (q : PacketQueue) (clock : Clock) (fs : FrameSet) :
    q.add clock fs ≠ .error .unwrapNone := by
  rw [add, u32Add]
  split_ifs <;> simp

lemma renumber_ne_unwrapNone {q : PacketQueue} {k : ℕ} (h : k ∈ q.queue) (clock : Clock) :
    q.renumber clock k ≠ .error .unwrapNone := by
  obtain ⟨fs, hfs⟩ := HashMap.exists_lookup_of_mem h
  rw [renumber, hfs, u32Add]
  split_ifs <;> simp

lemma flush_ne_unwrapNone (q : PacketQueue) (clock : Clock) :
    q.flush clock ≠ .error .unwrapNone := by
  rw [flush]
  split_ifs
  · simp only [ne_eq, bind_eq_error, add_ne_unwrapNone, false_or, not_exists, not_and, pure_eq_ok,
      reduceCtorEq, not_false_eq_true, implies_true]
  · simp

lemma readdOne_ne_unwrapNone (q : PacketQueue) (clock : Clock) (k : ℕ) :
    readdOne clock q k ≠ .error .unwrapNone := by
  rw [readdOne]
  split_ifs with hmem
  · exact renumber_ne_unwrapNone hmem clock
  · simp

lemma tick_ne_unwrapNone (q : PacketQueue) (clock : Clock) (order : IterOrder ℕ) :
    q.tick clock order ≠ .error .unwrapNone := by
  intro herr
  rcases bind_eq_error.mp herr with herr | ⟨_, -, herr⟩
  · exact flush_ne_unwrapNone q clock herr
  · cases herr

lemma readd_ne_unwrapNone (q : PacketQueue) (clock : Clock) :
    q.readd clock ≠ .error .unwrapNone := by
  intro herr
  rcases bind_eq_error.mp herr with herr | ⟨_, -, herr⟩
  · obtain ⟨q', k, -, -, herr⟩ :=
      foldlM_eq_error (P := fun _ => True) (fun _ _ _ _ _ _ => trivial) trivial herr
    exact readdOne_ne_unwrapNone q' clock k herr
  · cases herr

lemma Sound.getPacket_ne_unwrapNone {q : PacketQueue} (h : q.Sound) (clock : Clock)
    (order : IterOrder ℕ) : q.getPacket clock order ≠ .error .unwrapNone := by
  intro herr
  rcases bind_eq_error.mp herr with herr | ⟨qt, htick, herr⟩
  · exact tick_ne_unwrapNone q clock order herr
  rcases bind_eq_error.mp herr with herr | ⟨qr, hreadd, herr⟩
  · exact readd_ne_unwrapNone qt clock herr
  have ht := (h.tick htick).1
  obtain ⟨q₂, hmoves, rfl⟩ := ht.readd hreadd
  rw [(ht.renumbers hmoves).withResends.foldlM_emit] at herr
  cases herr

/-- A sound queue does not unwrap `None`. -/
lemma Sound.step_ne_unwrapNone {q : PacketQueue} (h : q.Sound) (op : Op) :
    step q op ≠ .error .unwrapNone := by
  cases op with
  | addFrame clock f =>
      rw [step, PacketQueue.addFrame, u16Sub]
      split_ifs <;> simp [add_ne_unwrapNone]
  | received k => simp [step]
  | resend clock k =>
      rw [step, PacketQueue.resend]
      split_ifs with hmem
      · exact renumber_ne_unwrapNone ((h.same k).mpr hmem) clock
      · simp
  | getPacket clock order =>
      intro herr
      rw [step] at herr
      cases hget : q.getPacket clock order with
      | error e =>
          rw [hget] at herr
          obtain rfl := Except.error.inj herr
          exact h.getPacket_ne_unwrapNone clock order hget
      | ok r =>
          rw [hget] at herr
          cases herr

/-- **The queue under arbitrary feedback.**  A run from a new queue keeps the two maps in step,
with every unsent number in both, and unwraps no `None`, exactly when no acknowledgement and no
resend request of it names a number that was allocated but not sent yet. -/
theorem packetQueue_keys_iff (mtu : UInt16) (ops : List Op) :
    (Run.Always step Keys (new mtu) ops ∧ Run.exec step (new mtu) ops ≠ .error .unwrapNone)
      ↔ Run.Along step SentOnly (new mtu) ops := by
  have hnew := sound_new mtu
  have hiff : Run.Always step Keys (new mtu) ops ↔ Run.Along step SentOnly (new mtu) ops :=
    Run.always_iff_along (I := Timers)
      (fun q op q' hT hK _ hop hq =>
        have h := step_sound ⟨hK, hT⟩ hop hq
        ⟨h.toTimers, h.toKeys⟩)
      (fun q op q' hT hK _ hop hq => step_breaks ⟨hK, hT⟩ hop hq) hnew.toTimers hnew.toKeys
      Run.along_true
  refine ⟨fun h => hiff.mp h.1, fun h => ⟨hiff.mpr h, ?_⟩⟩
  exact Run.exec_ne_error_of_along (P := Sound) (fun q op q' => step_sound)
    (fun q op hq => hq.step_ne_unwrapNone op) hnew h

/-- A part of a split packet is allocated the number 0 and acknowledged before it is sent: the
next `get_packet` unwraps `None`. -/
theorem packetQueue_keys_counterexample :
    let part : Frame := ⟨.reliableOrdered, 0, 0, 0, true, 2, 0, 0, [1]⟩
    let ops := [Op.addFrame ⟨fun _ => 0, 0⟩ part, .received 0, .getPacket ⟨fun _ => 0, 0⟩ default]
    ¬ Run.Always step Keys (new 1400) ops
      ∧ Run.exec step (new 1400) ops = .error .unwrapNone := by
  intro part ops
  have hexec : Run.exec step (new 1400) ops = .error .unwrapNone := rfl
  refine ⟨fun h => ?_, hexec⟩
  -- the state after the acknowledgement: one number allocated, no set held
  have hkeys : Keys ((new 1400).allocate ⟨fun _ => 0, 0⟩ (setHeader true) [part] |>.received 0) :=
    ((h.2 _ rfl).2 _ rfl).1
  exact absurd (hkeys.tail 0 (Nat.zero_le _) Nat.one_pos) (by decide)

end PacketQueue

end ActixRaknet
