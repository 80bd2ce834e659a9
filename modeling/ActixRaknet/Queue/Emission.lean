import ActixRaknet.Queue.Timers

/-!
What `get_packet` emits, over whole runs of a packet queue.

* `PacketQueue.held`: the frames a queue holds, in its open set and in its numbered sets, with
  what an allocation, a move and a removal do to them (`held_allocate`, `held_moved`,
  `held_received`);
* `Orderly`: `Sound`, where every set lies under its own number and every set that was sent has a
  running timer;
* `Orderly.getPacket`: what one call of `get_packet` emits and what it leaves behind (`Emission`);
* `Books`: what was added, emitted and retired so far, and when the numbers were given out, written
  at each call from the queue that it finds; `Agrees`: the queue holds exactly what the books say it
  holds, and its timers have the readings that the books have;
* `packetQueue_emission`: the books balance in every run, and the next `get_packet` emits exactly
  what is due.
-/

namespace ActixRaknet

open Fallible

/-- What a set carries, whatever its number: its header and its frames. -/
def FrameSet.payload (fs : FrameSet) : UInt8 × List Frame := (fs.header, fs.datas)

namespace PacketQueue

/-! ### The frames held -/

/-- The frames of the numbered sets. -/
def stored (m : HashMap ℕ FrameSet) : Multiset Frame := ↑(m.entries.flatMap fun e => e.2.datas)

/-- The frames held by a queue: those of the open set and those of the numbered sets. -/
def held (q : PacketQueue) : Multiset Frame := ↑q.setQueue + stored q.queue

lemma stored_insert {m : HashMap ℕ FrameSet} {n : ℕ} (h : n ∉ m) (fs : FrameSet) :
    stored (m.insert n fs) = ↑fs.datas + stored m := by
  rw [stored, stored, AList.entries_insert_of_notMem h, List.flatMap_cons, Multiset.coe_add]

lemma stored_erase {m : HashMap ℕ FrameSet} {n : ℕ} {fs : FrameSet} (h : m.lookup n = some fs) :
    stored m = ↑fs.datas + stored (m.erase n) := by
  rw [stored, stored, Multiset.coe_add, Multiset.coe_eq_coe]
  exact (HashMap.perm_entries_erase h).flatMap_right _

variable {q q' : PacketQueue} {clock : Clock}

lemma Keys.max_notMem (h : q.Keys) : q.max ∉ q.queue := fun hmem => (h.lt_max _ hmem).false

lemma held_allocate (h : q.Keys) (clock : Clock) (header : UInt8) (datas : List Frame) :
    (q.allocate clock header datas).held = ↑datas + q.held := by
  rw [held, allocate, stored_insert h.max_notMem, held]
  exact add_left_comm _ _ _

lemma held_moved (h : q.Keys) (clock : Clock) {k : ℕ} {fs : FrameSet}
    (hk : q.queue.lookup k = some fs) : (q.moved clock k fs).held = q.held := by
  have hmax : (q.queue.insert q.max { fs with sequenceNumber := q.max }).lookup k = some fs := by
    rw [HashMap.lookup_insert_eq_ite, if_neg (h.lt_max k (HashMap.mem_of_lookup hk)).ne, hk]
  have hmoved := stored_erase hmax
  rw [stored_insert h.max_notMem] at hmoved
  exact congrArg (fun m => (q.setQueue : Multiset Frame) + m) (add_left_cancel hmoved).symm

/-- An acknowledgement takes the frames of its set, and no others. -/
lemma held_received (q : PacketQueue) (n : ℕ) :
    q.held = ↑((q.queue.lookup n).elim [] FrameSet.datas) + (q.received n).held := by
  rw [received]
  split_ifs with hmem
  · obtain ⟨fs, hfs⟩ := HashMap.exists_lookup_of_mem hmem
    rw [held, held, stored_erase hfs, hfs]
    exact add_left_comm _ _ _
  · rw [AList.lookup_eq_none.mpr hmem]
    exact (zero_add _).symm

lemma held_addFrame (h : q.Keys) {f : Frame} (hq : q.addFrame clock f = .ok q') :
    q'.held = f ::ₘ q.held := by
  obtain ⟨-, ⟨-, rfl⟩ | ⟨-, -, rfl⟩⟩ := addFrame_eq_ok.mp hq
  · rw [held, held, ← Multiset.coe_add, add_right_comm, Multiset.coe_singleton, add_comm,
      Multiset.singleton_add]
  · rw [held_allocate h, Multiset.coe_singleton, Multiset.singleton_add]

lemma held_flush (h : q.Keys) (hq : q.flush clock = .ok q') : q'.held = q.held := by
  rcases flush_eq_ok.mp hq with ⟨-, rfl⟩ | ⟨-, -, rfl⟩
  · rfl
  · have hstored := stored_insert h.max_notMem ⟨setHeader false, q.max, q.setQueue⟩
    rw [held, held]
    exact (zero_add _).trans hstored

/-! ### The sets to emit -/

lemma map_some_filterMap {α β : Type*} {l : List α} {f : α → Option β}
    (h : ∀ a ∈ l, (f a).isSome) : (l.filterMap f).map some = l.map f := by
  induction l with
  | nil => rfl
  | cons a l ih =>
      obtain ⟨b, hb⟩ := Option.isSome_iff_exists.mp (h a List.mem_cons_self)
      rw [List.filterMap_cons, hb, List.map_cons, List.map_cons, hb,
        ih fun a ha => h a (List.mem_cons_of_mem _ ha)]

/-- Every number that was not sent yet has its set. -/
lemma Keys.map_some_sets (h : q.Keys) : q.sets.map some = q.unsent.map q.queue.lookup :=
  map_some_filterMap fun n hn => by
    obtain ⟨hlo, hhi⟩ := mem_unsent.mp hn
    exact AList.lookup_isSome.mpr (h.tail n hlo hhi)

lemma Keys.length_sets (h : q.Keys) : q.sets.length = q.max - q.sendMin := by
  have hlength := congrArg List.length h.map_some_sets
  rwa [List.length_map, List.length_map, unsent, List.length_range'] at hlength

/-- The sets to emit lie under the numbers that were not sent yet, in their order. -/
lemma Keys.lookup_eq_sets (h : q.Keys) {n : ℕ} (hn : q.sendMin ≤ n) :
    q.queue.lookup n = q.sets[n - q.sendMin]? := by
  by_cases hmax : n < q.max
  · have hget := congrArg (·[n - q.sendMin]?) h.map_some_sets
    have hunsent : q.unsent[n - q.sendMin]? = some n := by
      rw [unsent, List.getElem?_range' (by omega)]
      congr 1
      omega
    have hlt : n - q.sendMin < q.sets.length := by
      rw [h.length_sets]
      omega
    simp only [List.getElem?_map, hunsent, Option.map_some, List.getElem?_eq_getElem hlt,
      Option.some.injEq] at hget
    rw [List.getElem?_eq_getElem hlt, hget]
  · rw [AList.lookup_eq_none.mpr fun hmem => hmax (h.lt_max n hmem),
      List.getElem?_eq_none (by rw [h.length_sets]; omega)]

/-- A queue with one number more emits one set more. -/
lemma sets_grow (q q' : PacketQueue) (hmin : q'.sendMin = q.sendMin)
    (hle : q.sendMin ≤ q.max) (hmax : q'.max = q.max + 1) {fs : FrameSet}
    (hnew : q'.queue.lookup q.max = some fs)
    (hold : ∀ n ∈ q.unsent, q'.queue.lookup n = q.queue.lookup n) : q'.sets = q.sets ++ [fs] := by
  have hunsent : q'.unsent = q.unsent ++ [q.max] := by
    rw [unsent, unsent, hmin, hmax, Nat.succ_sub hle, List.range'_concat, one_mul,
      Nat.add_sub_cancel' hle]
  rw [sets, hunsent, List.filterMap_append, List.filterMap_congr hold, sets]
  simp [hnew]

lemma sets_allocate (hle : q.sendMin ≤ q.max) (clock : Clock) (header : UInt8)
    (datas : List Frame) :
    (q.allocate clock header datas).sets = q.sets ++ [⟨header, q.max, datas⟩] := by
  refine sets_grow q (q.allocate clock header datas) rfl hle rfl
    (by rw [lookup_allocate, if_pos rfl]) fun n hn => ?_
  rw [lookup_allocate, if_neg (mem_unsent.mp hn).2.ne]

lemma sets_moved (hle : q.sendMin ≤ q.max) (clock : Clock) {k : ℕ} (hk : k < q.sendMin)
    (fs : FrameSet) :
    (q.moved clock k fs).sets = q.sets ++ [{ fs with sequenceNumber := q.max }] := by
  refine sets_grow q (q.moved clock k fs) rfl hle rfl ?_ fun n hn => ?_
  · rw [lookup_moved, if_neg (hk.trans_le hle).ne', if_pos rfl]
  · obtain ⟨hlo, hhi⟩ := mem_unsent.mp hn
    rw [lookup_moved, if_neg (hk.trans_le hlo).ne', if_neg hhi.ne]

/-! ### Moves to the next numbers -/

/-- A sound queue whose sets lie under their own numbers, and whose sets that were sent have a
running timer. -/
structure Orderly (q : PacketQueue) : Prop extends Sound q where
  numbered : ∀ n fs, q.queue.lookup n = some fs → fs.sequenceNumber = n
  started : ∀ n ∈ q.queue, n < q.sendMin → ∃ t, q.timePassed.lookup n = some (t, true)

lemma orderly_new (mtu : UInt16) : Orderly (new mtu) where
  toSound := sound_new mtu
  numbered n fs h := by cases h
  started n h := absurd h (by simp [new])

lemma Orderly.withOpenSet (h : q.Orderly) (size : ℕ) (frames : List Frame) :
    Orderly { q with setSize := size, setQueue := frames } :=
  ⟨h.toSound.withOpenSet size frames, h.numbered, h.started⟩

lemma Orderly.withResends (h : q.Orderly) {l : List ℕ} (hl : ∀ n ∈ l, n < q.sendMin) :
    Orderly { q with resends := l } :=
  ⟨⟨⟨h.same, h.lt_max, h.tail⟩, ⟨h.sendMin_le, h.running, hl⟩⟩, h.numbered, h.started⟩

lemma Orderly.allocate (h : q.Orderly) (clock : Clock) (header : UInt8) (datas : List Frame) :
    (q.allocate clock header datas).Orderly where
  toSound := h.toSound.allocate clock header datas
  numbered n fs hn := by
    rw [lookup_allocate] at hn
    split_ifs at hn with hmax
    · rw [← Option.some.inj hn, hmax]
    · exact h.numbered n fs hn
  started n hn hlt := by
    have hne : n ≠ q.max := (lt_of_lt_of_le hlt h.sendMin_le).ne
    have hmem : n ∈ q.queue := (AList.mem_insert _ |>.mp hn).resolve_left hne
    obtain ⟨t, ht⟩ := h.started n hmem hlt
    exact ⟨t, (HashMap.lookup_insert_eq_ite _ _ _ _).trans ((if_neg hne).trans ht)⟩

lemma Orderly.received (h : q.Orderly) {k : ℕ} (hk : k < q.sendMin ∨ q.max ≤ k) :
    (q.received k).Orderly where
  toSound := h.toSound.received hk
  numbered n fs hn := by
    rw [lookup_received] at hn
    split_ifs at hn
    exact h.numbered n fs hn
  started n hn hlt := by
    rw [PacketQueue.received] at hn hlt ⊢
    split_ifs at hn hlt ⊢
    · obtain ⟨hne, hmem⟩ := AList.mem_erase.mp hn
      obtain ⟨t, ht⟩ := h.started n hmem hlt
      exact ⟨t, (HashMap.lookup_erase_eq_ite _ _ _).trans ((if_neg hne).trans ht)⟩
    · exact h.started n hn hlt

lemma Orderly.moved (h : q.Orderly) (clock : Clock) {k : ℕ} (hk : k < q.sendMin) (fs : FrameSet) :
    (q.moved clock k fs).Orderly where
  toSound := h.toSound.moved clock hk fs
  numbered n gs hn := by
    rw [lookup_moved] at hn
    split_ifs at hn with hnk hmax
    · rw [← Option.some.inj hn, hmax]
    · exact h.numbered n gs hn
  started n hn hlt := by
    have hne : n ≠ q.max := (lt_of_lt_of_le hlt h.sendMin_le).ne
    obtain ⟨hnk, hmem⟩ := AList.mem_erase.mp hn
    obtain ⟨t, ht⟩ := h.started n ((AList.mem_insert _ |>.mp hmem).resolve_left hne) hlt
    refine ⟨t, ?_⟩
    simp only [PacketQueue.moved, HashMap.lookup_insert_eq_ite, HashMap.lookup_erase_eq_ite,
      if_neg hne, if_neg hnk, ht]

/-- After the loop every set held has a running timer. -/
lemma Orderly.sent (h : q.Orderly) : q.sent.Orderly where
  toSound := h.toSound.sent
  numbered := h.numbered
  started n hn _ := by
    have hlookup : q.sent.timePassed.lookup n = if n ∈ q.unsent then
        (q.timePassed.lookup n).map fun elem => (elem.1, true) else q.timePassed.lookup n :=
      lookup_startTimers _ _ _
    rw [hlookup]
    by_cases hlt : n < q.sendMin
    · rw [if_neg fun hmem => (mem_unsent.mp hmem).1.not_gt hlt]
      exact h.started n hn hlt
    · obtain ⟨elem, helem⟩ := HashMap.exists_lookup_of_mem ((h.same n).mp hn)
      rw [if_pos (mem_unsent.mpr ⟨not_lt.mp hlt, h.lt_max n hn⟩), helem]
      exact ⟨elem.1, rfl⟩

@[simp] lemma moved_max (q : PacketQueue) (clock : Clock) (k : ℕ) (fs : FrameSet) :
    (q.moved clock k fs).max = q.max + 1 := rfl

/-- The sets under the numbers `l` have moved from `q` to the next numbers, in this order. -/
structure Readded (q : PacketQueue) (l : List ℕ) (q' : PacketQueue) : Prop where
  orderly : q'.Orderly
  sendMin_eq : q'.sendMin = q.sendMin
  max_eq : q'.max = q.max + l.length
  setQueue_eq : q'.setQueue = q.setQueue
  held_eq : q'.held = q.held
  payloads : q'.sets.map FrameSet.payload
    = q.sets.map FrameSet.payload ++ (l.filterMap q.queue.lookup).map FrameSet.payload
  lookup_of_lt : ∀ n < q.sendMin,
    q'.queue.lookup n = if n ∈ l then none else q.queue.lookup n

lemma Orderly.readded_nil (h : q.Orderly) : Readded q [] q where
  orderly := h
  sendMin_eq := rfl
  max_eq := rfl
  setQueue_eq := rfl
  held_eq := rfl
  payloads := (List.append_nil _).symm
  lookup_of_lt n _ := by rw [if_neg List.not_mem_nil]

/-- One move, and the moves that follow it. -/
lemma Readded.cons (h : q.Orderly) {k : ℕ} {l : List ℕ} {fs : FrameSet} (hk : k < q.sendMin)
    (hfs : q.queue.lookup k = some fs) (hl : ∀ n ∈ l, n < q.sendMin) (hnot : k ∉ l)
    (hrest : Readded (q.moved clock k fs) l q') : Readded q (k :: l) q' where
  orderly := hrest.orderly
  sendMin_eq := hrest.sendMin_eq
  max_eq := by
    rw [hrest.max_eq, List.length_cons, moved_max]
    omega
  setQueue_eq := hrest.setQueue_eq
  held_eq := hrest.held_eq.trans (held_moved h.toKeys clock hfs)
  payloads := by
    have hsame : l.filterMap (q.moved clock k fs).queue.lookup = l.filterMap q.queue.lookup := by
      refine List.filterMap_congr fun n hn => ?_
      have hmax : n ≠ q.max := ((hl n hn).trans_le h.sendMin_le).ne
      have hne : n ≠ k := fun heq => hnot (heq ▸ hn)
      rw [lookup_moved, if_neg hne, if_neg hmax]
    rw [hrest.payloads, hsame, sets_moved h.sendMin_le clock hk, List.filterMap_cons, hfs,
      List.map_append, List.append_assoc]
    rfl
  lookup_of_lt n hn := by
    have hmax : n ≠ q.max := (hn.trans_le h.sendMin_le).ne
    rw [hrest.lookup_of_lt n hn, lookup_moved, if_neg hmax]
    by_cases hnk : n = k <;> simp [hnk]

/-- `readd` moves the sets it is given, which are held and were sent. -/
lemma Orderly.readded (h : q.Orderly) {l : List ℕ} (hnodup : l.Nodup)
    (hl : ∀ n ∈ l, n < q.sendMin ∧ n ∈ q.queue) (hq : l.foldlM (readdOne clock) q = .ok q') :
    Readded q l q' := by
  induction l generalizing q with
  | nil =>
      obtain rfl := Except.ok.inj hq
      exact h.readded_nil
  | cons k l ih =>
      obtain ⟨q₁, hone, hrest⟩ := foldlM_cons_eq_ok.mp hq
      obtain ⟨hk, hmem⟩ := hl k List.mem_cons_self
      obtain ⟨hnot, hnodup⟩ := List.nodup_cons.mp hnodup
      rw [readdOne, if_pos hmem] at hone
      obtain ⟨fs, hfs, -, rfl⟩ := renumber_eq_ok.mp hone
      have hlt : ∀ n ∈ l, n < q.sendMin := fun n hn => (hl n (List.mem_cons_of_mem _ hn)).1
      refine Readded.cons h hk hfs hlt hnot (ih (h.moved clock hk fs) hnodup (fun n hn => ?_) hrest)
      have hne : n ≠ k := fun heq => hnot (heq ▸ hn)
      refine ⟨hlt n hn, AList.mem_erase.mpr ⟨hne, AList.mem_insert _ |>.mpr (Or.inr ?_)⟩⟩
      exact (hl n (List.mem_cons_of_mem _ hn)).2

/-- The set of small frames that a flush closes, if there are any: in the order of insertion. -/
def batch (q : PacketQueue) : List (UInt8 × List Frame) :=
  if q.setQueue = [] then [] else [(setHeader false, q.setQueue)]

/-- The set under `n` was sent, is not acknowledged, and its timer is older than a second. -/
def Overdue (q : PacketQueue) (clock : Clock) (n : ℕ) : Prop :=
  n < q.sendMin ∧ n ∈ q.queue
    ∧ ∃ elem, q.timePassed.lookup n = some elem ∧ 1000 < clock.tick.millisSince elem.1

/-- The numbers whose timers `tick` finds to have run out. -/
def overdue (q : PacketQueue) (clock : Clock) : List ℕ :=
  q.timePassed.keysWhere fun _ elem => due clock elem

lemma due_iff {elem : Instant × Bool} :
    due clock elem = true ↔ elem.2 = true ∧ 1000 < clock.tick.millisSince elem.1 := by
  rw [due, Bool.and_eq_true, decide_eq_true_eq]

/-- The timers that have run out are those of the overdue sets. -/
lemma Orderly.mem_overdue (h : q.Orderly) {n : ℕ} : n ∈ q.overdue clock ↔ q.Overdue clock n := by
  rw [overdue, HashMap.mem_keysWhere]
  constructor
  · rintro ⟨⟨t, flag⟩, hlookup, hdue⟩
    obtain ⟨rfl, hmillis⟩ := due_iff.mp hdue
    have hmem := (h.same n).mpr (HashMap.mem_of_lookup hlookup)
    exact ⟨h.running n t hlookup, hmem, _, hlookup, hmillis⟩
  · rintro ⟨hlt, hmem, elem, hlookup, hmillis⟩
    obtain ⟨t, ht⟩ := h.started n hmem hlt
    obtain rfl := Option.some.inj (hlookup.symm.trans ht)
    exact ⟨_, ht, due_iff.mpr ⟨rfl, hmillis⟩⟩

/-- The open set is closed: everything else is as before. -/
structure Flushed (q q' : PacketQueue) : Prop where
  orderly : q'.Orderly
  sendMin_eq : q'.sendMin = q.sendMin
  max_eq : q'.max = q.max + q.batch.length
  setQueue_eq : q'.setQueue = []
  held_eq : q'.held = q.held
  payloads : q'.sets.map FrameSet.payload = q.sets.map FrameSet.payload ++ q.batch
  lookup_of_lt : ∀ n < q.max, q'.queue.lookup n = q.queue.lookup n
  overdue_perm : ∀ clock, (q'.overdue clock).Perm (q.overdue clock)
  resends_eq : q'.resends = q.resends

lemma Orderly.flush (h : q.Orderly) (hq : q.flush clock = .ok q') : Flushed q q' := by
  rcases flush_eq_ok.mp hq with ⟨hempty, rfl⟩ | ⟨hopen, -, rfl⟩
  · have hbatch : q'.batch = [] := if_pos hempty
    exact
      { orderly := h
        sendMin_eq := rfl
        max_eq := by rw [hbatch]; rfl
        setQueue_eq := hempty
        held_eq := rfl
        payloads := by rw [hbatch, List.append_nil]
        lookup_of_lt := fun n _ => rfl
        overdue_perm := fun clock => .refl _
        resends_eq := rfl }
  · have hbatch : q.batch = [(setHeader false, q.setQueue)] := if_neg hopen
    have hnew : q.max ∉ q.timePassed := fun hmem => h.max_notMem ((h.same _).mpr hmem)
    exact
      { orderly := (h.allocate clock _ _).withOpenSet 0 []
        sendMin_eq := rfl
        max_eq := by rw [hbatch]; rfl
        setQueue_eq := rfl
        held_eq := held_flush h.toKeys hq
        payloads := by
          have hsets := sets_allocate h.sendMin_le clock (setHeader false) q.setQueue
          rw [hbatch]
          exact (congrArg (List.map FrameSet.payload) hsets).trans List.map_append
        lookup_of_lt := fun n hn => by
          have hlookup := lookup_allocate q clock (setHeader false) q.setQueue n
          rwa [if_neg hn.ne] at hlookup
        overdue_perm := fun clock => by
          rw [overdue, HashMap.keysWhere, PacketQueue.allocate, AList.entries_insert_of_notMem hnew,
            List.filter_cons_of_neg (by simp [due])]
          rfl
        resends_eq := rfl }

/-- **One call of `get_packet`**: what it returns, and what it leaves behind. -/
structure Emission (q : PacketQueue) (clock : Clock) (ret : List FrameSet) (q' : PacketQueue) :
    Prop where
  orderly : q'.Orderly
  /-- The numbers are the next ones. -/
  numbers : ret.map FrameSet.sequenceNumber = List.range' q.sendMin ret.length
  /-- The sets not emitted yet, then the open set, then the overdue sets; each of them once. -/
  contents : ∃ resent : List ℕ, resent.Nodup ∧ (∀ n, n ∈ resent ↔ q.Overdue clock n)
    ∧ ret.map FrameSet.payload = q.sets.map FrameSet.payload ++ q.batch
        ++ (resent.filterMap q.queue.lookup).map FrameSet.payload
  sendMin_eq : q'.sendMin = q.sendMin + ret.length
  max_eq : q'.max = q'.sendMin
  resends_eq : q'.resends = []
  setQueue_eq : q'.setQueue = []
  /-- What was returned is tracked under its new number. -/
  tracked : ∀ n, q.sendMin ≤ n → q'.queue.lookup n = ret[n - q.sendMin]?
  /-- The old numbers of the overdue sets are forgotten. -/
  forgotten : ∀ n, q.Overdue clock n → q'.queue.lookup n = none
  kept : ∀ n < q.sendMin, ¬ q.Overdue clock n → q'.queue.lookup n = q.queue.lookup n
  held_eq : q'.held = q.held

/-- The numbers of the sets to emit. -/
lemma Orderly.numbers_sets (h : q.Orderly) : q.sets.map FrameSet.sequenceNumber = q.unsent := by
  refine List.ext_getElem? fun i => ?_
  have hlookup := h.lookup_eq_sets (Nat.le_add_right q.sendMin i)
  rw [Nat.add_sub_cancel_left] at hlookup
  rw [List.getElem?_map, ← hlookup]
  by_cases hlt : q.sendMin + i < q.max
  · have hmem := h.tail _ (Nat.le_add_right q.sendMin i) hlt
    obtain ⟨fs, hfs⟩ := HashMap.exists_lookup_of_mem hmem
    rw [hfs, Option.map_some, h.numbered _ fs hfs, unsent, List.getElem?_range' (by omega), one_mul]
  · rw [AList.lookup_eq_none.mpr fun hmem => hlt (h.lt_max _ hmem), unsent,
      List.getElem?_eq_none (by rw [List.length_range']; omega)]
    rfl

/-- **`get_packet` emits exactly what is due.** -/
lemma Orderly.getPacket (h : q.Orderly) (hresends : q.resends = []) {order : IterOrder ℕ}
    {ret : List FrameSet} (hq : q.getPacket clock order = .ok (ret, q')) :
    Emission q clock ret q' := by
  simp only [PacketQueue.getPacket, tick, PacketQueue.readd, bind_eq_ok, pure_eq_ok,
    Except.ok.injEq, Prod.mk.injEq] at hq
  obtain ⟨_, ⟨q₁, hflush, rfl⟩, _, ⟨q₂, hreadd, rfl⟩, ⟨_, _⟩, hemit, rfl, rfl⟩ := hq
  have h₁ := h.flush hflush
  set resent := order.reorder (q₁.overdue clock) with hresent
  have hmem : ∀ n, n ∈ resent ↔ q.Overdue clock n := fun n => by
    rw [hresent, IterOrder.mem_reorder, (h₁.overdue_perm clock).mem_iff, h.mem_overdue]
  have hnodup : resent.Nodup := by
    rw [hresent, (order.perm _).nodup_iff]
    exact (AList.keys_nodup q₁.timePassed).sublist (List.filter_sublist.map _)
  have hnoted : q₁.resends ++ order.reorder (q₁.overdue clock) = resent := by
    rw [h₁.resends_eq, hresends, List.nil_append]
  have hlt : ∀ n ∈ resent, n < q₁.sendMin ∧ n ∈ q₁.queue := fun n hn => by
    obtain ⟨hlt, hheld, -⟩ := (hmem n).mp hn
    refine ⟨h₁.sendMin_eq ▸ hlt, AList.lookup_isSome.mp ?_⟩
    rw [h₁.lookup_of_lt n (hlt.trans_le h.sendMin_le)]
    exact AList.lookup_isSome.mpr hheld
  change List.foldlM (readdOne clock)
    { q₁ with resends := q₁.resends ++ order.reorder (q₁.overdue clock) }
    (q₁.resends ++ order.reorder (q₁.overdue clock)) = .ok q₂ at hreadd
  rw [hnoted] at hreadd
  have h₂ := (h₁.orderly.withResends fun n hn => (hlt n hn).1).readded hnodup hlt hreadd
  rw [h₂.orderly.toSound.withResends.foldlM_emit, Except.ok.injEq, Prod.mk.injEq] at hemit
  obtain ⟨rfl, rfl⟩ := hemit
  have hmin : q₂.sendMin = q.sendMin := h₂.sendMin_eq.trans h₁.sendMin_eq
  have hlength : q₂.max = q.sendMin + q₂.sets.length := by
    rw [h₂.orderly.length_sets, hmin]
    have := h₂.orderly.sendMin_le
    omega
  have hpayloads : q₂.sets.map FrameSet.payload = q.sets.map FrameSet.payload ++ q.batch
      ++ (resent.filterMap q.queue.lookup).map FrameSet.payload := by
    have hsame : resent.filterMap q₁.queue.lookup = resent.filterMap q.queue.lookup :=
      List.filterMap_congr fun n hn =>
        h₁.lookup_of_lt n (((hmem n).mp hn).1.trans_le h.sendMin_le)
    rw [← h₁.payloads, ← hsame]
    exact h₂.payloads
  have hbelow : ∀ n < q.sendMin,
      q₂.queue.lookup n = if n ∈ resent then none else q.queue.lookup n := fun n hn => by
    rw [h₂.lookup_of_lt n (h₁.sendMin_eq ▸ hn), h₁.lookup_of_lt n (hn.trans_le h.sendMin_le)]
  exact
    { orderly := h₂.orderly.sent.withResends fun n hn => absurd hn List.not_mem_nil
      numbers := by
        rw [show ∀ r, sets { q₂ with resends := r } = q₂.sets from fun _ => rfl,
          h₂.orderly.numbers_sets, unsent, hmin, hlength, Nat.add_sub_cancel_left]
      contents := ⟨resent, hnodup, hmem, hpayloads⟩
      sendMin_eq := hlength
      max_eq := rfl
      resends_eq := rfl
      setQueue_eq := h₂.setQueue_eq.trans h₁.setQueue_eq
      tracked := fun n hn => by
        rw [← hmin] at hn ⊢
        exact h₂.orderly.lookup_eq_sets hn
      forgotten := fun n hn => (hbelow n hn.1).trans (if_pos ((hmem n).mpr hn))
      kept := fun n hlt hn => (hbelow n hlt).trans (if_neg fun h => hn ((hmem n).mp h))
      held_eq := h₂.held_eq.trans h₁.held_eq }

/-- What the calls of a run have put into a queue and what they have taken out of it. -/
structure Books where
  /-- The frames given to `add_frame`. -/
  added : Multiset Frame
  /-- What has been a set of its own or was requested again since the last `get_packet`, oldest
  first. -/
  waiting : List (UInt8 × List Frame)
  /-- The sets `get_packet` has returned, in order. -/
  emitted : List FrameSet
  /-- The numbers whose sets were acknowledged or moved to another number. -/
  retired : List ℕ
  /-- The frames of the sets that were acknowledged. -/
  acknowledged : Multiset Frame
  /-- The readings of the clock under which the numbers 0, 1, 2, … were given out. -/
  stamps : List Instant

/-- The books before the first call. -/
def Books.blank : Books := ⟨0, [], [], [], 0, []⟩

/-- What a call adds to the books, from the queue as it finds it. -/
def Books.book (b : Books) (q : PacketQueue) : Op → Books
  | .addFrame clock frame =>
      { b with
        added := frame ::ₘ b.added
        waiting := b.waiting ++ if q.Fits frame then [] else [(setHeader frame.split, [frame])]
        stamps := b.stamps ++ if q.Fits frame then [] else [clock.stamp q.max] }
  | .getPacket clock order =>
      match q.getPacket clock order with
      | .ok (ret, q') =>
          { b with
            waiting := []
            emitted := b.emitted ++ ret
            retired := b.retired ++ q.overdue clock
            stamps := b.stamps ++ (List.range' q.max (q'.max - q.max)).map clock.stamp }
      | .error _ => b
  | .received sequence =>
      match q.queue.lookup sequence with
      | some fs =>
          { b with
            retired := b.retired ++ [sequence]
            acknowledged := ↑fs.datas + b.acknowledged }
      | none => b
  | .resend clock sequence =>
      match q.queue.lookup sequence with
      | some fs =>
          { b with
            waiting := b.waiting ++ [fs.payload]
            retired := b.retired ++ [sequence]
            stamps := b.stamps ++ [clock.stamp q.max] }
      | none => b

/-- **The books agree with the queue.** -/
structure Agrees (q : PacketQueue) (b : Books) : Prop where
  orderly : q.Orderly
  resends_eq : q.resends = []
  waiting : q.sets.map FrameSet.payload = b.waiting
  numbers : b.emitted.map FrameSet.sequenceNumber = List.range q.sendMin
  retired_lt : ∀ n ∈ b.retired, n < q.sendMin
  tracked : ∀ n < q.sendMin,
    q.queue.lookup n = if n ∈ b.retired then none else b.emitted[n]?
  balance : q.held + b.acknowledged = b.added
  stamped : q.Stamped b.stamps

lemma agrees_new (mtu : UInt16) : Agrees (new mtu) .blank where
  orderly := orderly_new mtu
  resends_eq := rfl
  waiting := rfl
  numbers := rfl
  retired_lt _ h := absurd h List.not_mem_nil
  tracked n h := absurd h (Nat.not_lt_zero n)
  balance := rfl
  stamped := ⟨rfl, fun n t flag h => by cases h⟩

variable {b : Books}

lemma Agrees.length_emitted (h : Agrees q b) : b.emitted.length = q.sendMin := by
  have hlength := congrArg List.length h.numbers
  rwa [List.length_map, List.length_range] at hlength

lemma Agrees.addFrame (h : Agrees q b) {f : Frame} (hq : q.addFrame clock f = .ok q') :
    Agrees q' (b.book q (.addFrame clock f)) := by
  have hheld := held_addFrame h.orderly.toKeys hq
  have hbalance : q'.held + b.acknowledged = f ::ₘ b.added := by
    rw [hheld, Multiset.cons_add, h.balance]
  obtain ⟨-, ⟨hfits, rfl⟩ | ⟨hfits, -, rfl⟩⟩ := addFrame_eq_ok.mp hq
  · exact
      { orderly := h.orderly.withOpenSet _ _
        resends_eq := h.resends_eq
        waiting := by
          rw [Books.book, if_pos hfits, List.append_nil]
          exact h.waiting
        numbers := h.numbers
        retired_lt := h.retired_lt
        tracked := h.tracked
        balance := hbalance
        stamped := by
          simp only [Books.book, if_pos hfits, List.append_nil]
          exact ⟨h.stamped.length_eq, h.stamped.stamp⟩ }
  · exact
      { orderly := h.orderly.allocate clock _ _
        resends_eq := h.resends_eq
        waiting := by
          rw [sets_allocate h.orderly.sendMin_le, List.map_append, h.waiting, Books.book,
            if_neg hfits]
          rfl
        numbers := h.numbers
        retired_lt := h.retired_lt
        tracked := fun n hn => by
          have hne : n ≠ q.max := (lt_of_lt_of_le hn h.orderly.sendMin_le).ne
          rw [lookup_allocate, if_neg hne]
          exact h.tracked n hn
        balance := hbalance
        stamped := by
          simp only [Books.book, if_neg hfits]
          exact h.stamped.of_max_succ (timed_allocate q clock _ _) rfl }

lemma Agrees.received (h : Agrees q b) {k : ℕ} (hk : k < q.sendMin ∨ q.max ≤ k) :
    Agrees (q.received k) (b.book q (.received k)) := by
  have hheld := held_received q k
  rw [Books.book]
  cases hfs : q.queue.lookup k with
  | none =>
      have hsame : q.received k = q := by
        rw [PacketQueue.received, if_neg (AList.lookup_eq_none.mp hfs)]
      rw [hsame]
      exact h
  | some fs =>
      have hmem := HashMap.mem_of_lookup hfs
      have hlt : k < q.sendMin := hk.resolve_right (h.orderly.lt_max k hmem).not_ge
      rw [hfs] at hheld
      exact
        { orderly := h.orderly.received hk
          resends_eq := by
            rw [PacketQueue.received, if_pos hmem]
            exact h.resends_eq
          waiting := by
            have hunsent : (q.received k).unsent = q.unsent := by
              rw [unsent, received_sendMin, received_max, unsent]
            rw [← h.waiting, sets, sets, hunsent]
            refine congrArg _ (List.filterMap_congr fun n hn => ?_)
            rw [lookup_received, if_neg (hlt.trans_le (mem_unsent.mp hn).1).ne']
          numbers := by rw [received_sendMin, h.numbers]
          retired_lt := fun n hn => by
            rw [received_sendMin]
            rcases List.mem_append.mp hn with hn | hn
            · exact h.retired_lt n hn
            · exact List.mem_singleton.mp hn ▸ hlt
          tracked := fun n hn => by
            rw [received_sendMin] at hn
            rw [lookup_received, h.tracked n hn]
            by_cases hnk : n = k <;> simp [hnk]
          balance := by
            rw [← h.balance, hheld, Option.elim_some, add_left_comm, add_assoc]
          stamped := h.stamped.of_max_eq (timed_received q ⟨fun _ => 0, 0⟩ k) (received_max q k) }

lemma Agrees.resend (h : Agrees q b) {k : ℕ} (hk : k < q.sendMin ∨ q.max ≤ k)
    (hq : q.resend clock k = .ok q') : Agrees q' (b.book q (.resend clock k)) := by
  rw [PacketQueue.resend] at hq
  rw [Books.book]
  cases hfs : q.queue.lookup k with
  | none =>
      have hnot : k ∉ q.timePassed := fun hmem =>
        AList.lookup_eq_none.mp hfs ((h.orderly.same k).mpr hmem)
      rw [if_neg hnot] at hq
      exact Except.ok.inj hq ▸ h
  | some fs =>
      have hmem := HashMap.mem_of_lookup hfs
      have hlt : k < q.sendMin := hk.resolve_right (h.orderly.lt_max k hmem).not_ge
      rw [if_pos ((h.orderly.same k).mp hmem)] at hq
      obtain ⟨fs', hfs', -, rfl⟩ := renumber_eq_ok.mp hq
      obtain rfl := Option.some.inj (hfs.symm.trans hfs')
      exact
        { orderly := h.orderly.moved clock hlt fs
          resends_eq := h.resends_eq
          waiting := by
            rw [sets_moved h.orderly.sendMin_le clock hlt, List.map_append, h.waiting]
            rfl
          numbers := h.numbers
          retired_lt := fun n hn => by
            rcases List.mem_append.mp hn with hn | hn
            · exact h.retired_lt n hn
            · exact List.mem_singleton.mp hn ▸ hlt
          tracked := fun n hn => by
            have hne : n ≠ q.max := (lt_of_lt_of_le hn h.orderly.sendMin_le).ne
            rw [lookup_moved, if_neg hne]
            rw [h.tracked n hn]
            by_cases hnk : n = k <;> simp [hnk]
          balance := by rw [held_moved h.orderly.toKeys clock hfs, h.balance]
          stamped := h.stamped.of_max_succ (timed_moved q clock k fs) rfl }

lemma Agrees.getPacket (h : Agrees q b) {order : IterOrder ℕ} {ret : List FrameSet}
    (hq : q.getPacket clock order = .ok (ret, q')) :
    Agrees q' (b.book q (.getPacket clock order)) := by
  have he := h.orderly.getPacket h.resends_eq hq
  have hnone : q'.unsent = [] := by rw [unsent, he.max_eq, Nat.sub_self, List.range'_zero]
  simp only [Books.book, hq]
  exact
    { orderly := he.orderly
      resends_eq := he.resends_eq
      waiting := by rw [sets, hnone]; rfl
      numbers := by
        rw [List.map_append, h.numbers, he.numbers, he.sendMin_eq, List.range_eq_range',
          List.range_eq_range', ← List.range'_append_1, zero_add]
      retired_lt := fun n hn => by
        rw [he.sendMin_eq]
        rcases List.mem_append.mp hn with hn | hn
        · exact Nat.lt_add_right _ (h.retired_lt n hn)
        · exact Nat.lt_add_right _ (h.orderly.mem_overdue.mp hn).1
      tracked := fun n hn => by
        have hmem : n ∈ b.retired ++ q.overdue clock ↔ n ∈ b.retired ∨ q.Overdue clock n := by
          rw [List.mem_append, h.orderly.mem_overdue]
        by_cases hlt : n < q.sendMin
        · rw [List.getElem?_append_left (h.length_emitted ▸ hlt)]
          by_cases hdue : q.Overdue clock n
          · rw [he.forgotten n hdue, if_pos (hmem.mpr (Or.inr hdue))]
          · rw [he.kept n hlt hdue, h.tracked n hlt]
            simp only [hmem, hdue, or_false]
        · have hnot : n ∉ b.retired ++ q.overdue clock := fun hn => by
            rcases hmem.mp hn with hn | hn
            · exact hlt (h.retired_lt n hn)
            · exact hlt hn.1
          rw [if_neg hnot, List.getElem?_append_right (h.length_emitted ▸ not_lt.mp hlt),
            h.length_emitted, he.tracked n (not_lt.mp hlt)]
      balance := by rw [he.held_eq, h.balance]
      stamped := h.stamped.timed (timed_getPacket hq) }

end PacketQueue

end ActixRaknet
