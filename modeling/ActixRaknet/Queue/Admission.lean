import ActixRaknet.Queue.ReceivedQueue

/-!
The two branches of `ReceivedQueue::add`, over whole runs of a receive queue.

* `ReceivedQueue.Op`, `step`: the calls of a receive queue;
* `mem_release`, `mem_released`: what the loop of `get_all` leaves in the queue and takes out;
* `Completes`: a fragment completes a message; `Plain`: the call leaves the window that the plain
  branch would;
* `Keys`: every key of the queue lies in the window;
* `admission_iff`: when all calls of a run are plain.
-/

namespace ActixRaknet

open Fallible

namespace ReceivedQueue

/-- A call of a receive queue. -/
inductive Op
  | add (frame : Frame)
  | getAll
  deriving DecidableEq

/-- A call, as a step of the queue's state. -/
def step (q : ReceivedQueue) : Op → Except Panic ReceivedQueue
  | .add frame => q.add frame
  | .getAll => .ok q.getAll.2

variable {q q' : ReceivedQueue} {f : Frame}

/-! ### Releases -/

/-- What the loop of `get_all` leaves was there before, outside the numbers it has passed. -/
lemma mem_release (pq : HashMap ℕ Frame) (index n : ℕ) :
    index ≤ (release pq index n).2.1 ∧ ∀ k g, (release pq index n).2.2.lookup k = some g →
      pq.lookup k = some g ∧ (k < index ∨ (release pq index n).2.1 ≤ k) := by
  induction n generalizing pq index with
  | zero => exact ⟨le_rfl, fun k g hk => ⟨hk, Nat.lt_or_ge k index⟩⟩
  | succ n ih =>
      cases hlookup : pq.lookup index with
      | none =>
          rw [release, hlookup]
          exact ⟨le_rfl, fun k g hk => ⟨hk, Nat.lt_or_ge k index⟩⟩
      | some f =>
          obtain ⟨hle, hrest⟩ := ih (pq.erase index) (index + 1)
          rw [release, hlookup]
          refine ⟨Nat.le_of_succ_le hle, fun k g hk => ?_⟩
          obtain ⟨hk, hout⟩ := hrest k g hk
          rw [HashMap.lookup_erase_eq_ite] at hk
          split_ifs at hk with hne
          exact ⟨hk, hout.imp_left fun hlt => by omega⟩

/-- What the loop of `get_all` takes out was there before. -/
lemma mem_released {pq : HashMap ℕ Frame} {index n : ℕ} {g : Frame}
    (hg : g ∈ (release pq index n).1) : ∃ k, pq.lookup k = some g := by
  induction n generalizing pq index with
  | zero => exact absurd hg List.not_mem_nil
  | succ n ih =>
      cases hlookup : pq.lookup index with
      | none =>
          rw [release, hlookup] at hg
          exact absurd hg List.not_mem_nil
      | some f =>
          rw [release, hlookup] at hg
          rcases List.mem_cons.mp hg with rfl | hg
          · exact ⟨index, hlookup⟩
          · obtain ⟨k, hk⟩ := ih hg
            exact ⟨k, HashMap.lookup_of_lookup_erase hk⟩

/-! ### The two branches -/

/-- The fragment completes a message, and `whole` is the frame that is put together. -/
def Completes (q : ReceivedQueue) (f whole : Frame) : Prop :=
  f.split = true ∧ ∃ splits p, q.splits.add f = .ok splits ∧ splits.getAndClear.1 = [p]
    ∧ p.getFrame = .ok (.ok whole)

/-- The windows of the two queues are the same. -/
structure SameWindow (q q' : ReceivedQueue) : Prop where
  min : q.min = q'.min
  max : q.max = q'.max
  lookup : ∀ k, q.packetQueue.lookup k = q'.packetQueue.lookup k

/-- Every key of the queue lies in the window. -/
def Keys (q : ReceivedQueue) : Prop := ∀ k ∈ q.packetQueue, q.min ≤ k ∧ k < q.max

/-- **The call is plain**: a fragment that completes a message leaves the window that the plain
branch leaves for the whole frame; a frame that is buffered stays; and the keys of the queue stay in
the window, so that no index below it is buffered again. -/
structure Plain (q : ReceivedQueue) (op : Op) : Prop where
  same : ∀ f whole q', op = .add f → q.Completes f whole → q.step op = .ok q' →
    ∃ q'', q.step (.add whole) = .ok q'' ∧ q'.SameWindow q''
  kept : ∀ f q', op = .add f → q.step op = .ok q' →
    ∀ k g, q.packetQueue.lookup k = some g → q'.packetQueue.lookup k = some g
  keys : ∀ q', q.step op = .ok q' → q'.Keys

/-- The frame that a fragment completes has an index that has not been released, and no other frame
is buffered for it. -/
def Admitted (q : ReceivedQueue) (op : Op) : Prop :=
  ∀ f whole, op = .add f → q.Completes f whole →
    q.min ≤ whole.orderIndex ∧ ∀ g, q.packetQueue.lookup whole.orderIndex = some g → g = whole

/-- A fragment completes a message when its packet has become full. -/
lemma completes_iff (h : q.splits.Draining) {whole : Frame} : q.Completes f whole
    ↔ f.split = true ∧ (q.splits.grown f).full = true
      ∧ (q.splits.grown f).getFrame = .ok (.ok whole) := by
  obtain ⟨splits, pool, hadd, hclear, -⟩ := h.getAndClear_eq f
  refine and_congr_right fun _ => ?_
  constructor
  · rintro ⟨splits', p, hadd', hp, hframe⟩
    obtain rfl := Except.ok.inj (hadd.symm.trans hadd')
    rw [hclear] at hp
    split_ifs at hp with hfull
    obtain rfl := List.singleton_inj.mp hp
    exact ⟨hfull, hframe⟩
  · rintro ⟨hfull, hframe⟩
    exact ⟨splits, _, hadd, by rw [hclear, if_pos hfull], hframe⟩

/-- The invariant: the pool drains and the keys lie in the window. -/
structure Tight (q : ReceivedQueue) : Prop where
  draining : q.splits.Draining
  keys : q.Keys

lemma tight_new : Tight new :=
  ⟨SplitPacketQueue.draining_new, fun k hk => absurd hk (AList.notMem_empty k)⟩

/-- Storing a frame: the window ends behind it, and it lies under its index. -/
lemma store_eq_ok : q.store f = .ok q' ↔ (q.max ≤ f.orderIndex → f.orderIndex + 1 < 2 ^ 32)
    ∧ q' = { q with
      max := Max.max q.max (f.orderIndex + 1)
      packetQueue := q.packetQueue.insert f.orderIndex f } := by
  rw [store, raised]
  split_ifs with hle
  · simp only [bind_eq_ok, u32Add_eq_ok, pure_eq_ok, Except.ok.injEq, hle, forall_true_left]
    rw [max_eq_right (by omega)]
    constructor
    · rintro ⟨_, ⟨hlt, rfl⟩, rfl⟩
      exact ⟨hlt, rfl⟩
    · rintro ⟨hlt, rfl⟩
      exact ⟨_, ⟨hlt, rfl⟩, rfl⟩
  · rw [max_eq_left (by omega), ok_bind, pure_eq_ok, Except.ok.injEq]
    exact ⟨fun h => ⟨fun h => absurd h hle, h.symm⟩, fun h => h.2.symm⟩

/-- A frame that is stored at an index in the window, for which no other frame is buffered, takes
nothing out of the window. -/
lemma Keys.store (h : q.Keys) (hmin : q.min ≤ f.orderIndex)
    (hsame : ∀ g, q.packetQueue.lookup f.orderIndex = some g → g = f)
    (hq : q.store f = .ok q') : q'.Keys
      ∧ ∀ k g, q.packetQueue.lookup k = some g → q'.packetQueue.lookup k = some g := by
  obtain ⟨-, rfl⟩ := store_eq_ok.mp hq
  refine ⟨fun k hk => ?_, fun k g hg => ?_⟩
  · rcases (AList.mem_insert _).mp hk with rfl | hk
    · exact ⟨hmin, (Nat.lt_succ_self _).trans_le (le_max_right _ _)⟩
    · exact (h k hk).imp_right fun hlt => hlt.trans_le (le_max_left _ _)
  · rw [HashMap.lookup_insert_eq_ite]
    split_ifs with hk
    · rw [hsame g (hk ▸ hg)]
    · exact hg

/-- What an unsplit frame does: it is stored, or nothing happens. -/
lemma add_unsplit_eq_ok (hf : f.split = false) (hq : q.add f = .ok q') :
    q' = q ∨ q.min ≤ f.orderIndex ∧ f.orderIndex ∉ q.packetQueue ∧ q.store f = .ok q' := by
  rw [add, if_neg (by rw [hf]; exact Bool.false_ne_true)] at hq
  split_ifs at hq with hmin hmem
  · exact Or.inl (Except.ok.inj hq).symm
  · exact Or.inl (Except.ok.inj hq).symm
  · exact Or.inr ⟨not_lt.mp hmin, hmem, hq⟩

/-- The plain branch keeps the window. -/
lemma Keys.add_unsplit (h : q.Keys) (hf : f.split = false) (hq : q.add f = .ok q') : q'.Keys
    ∧ ∀ k g, q.packetQueue.lookup k = some g → q'.packetQueue.lookup k = some g := by
  rcases add_unsplit_eq_ok hf hq with rfl | ⟨hmin, hmem, hstore⟩
  · exact ⟨h, fun _ _ => id⟩
  · exact h.store hmin (fun g hg => absurd (HashMap.mem_of_lookup hg) hmem) hstore

lemma Keys.getAll (h : q.Keys) : q.getAll.2.Keys := by
  intro k hk
  obtain ⟨g, hg⟩ := HashMap.exists_lookup_of_mem hk
  obtain ⟨hold, hout⟩ := (mem_release q.packetQueue q.min (q.max - q.min)).2 k g hg
  obtain ⟨hmin, hmax⟩ := h k (HashMap.mem_of_lookup hold)
  exact ⟨hout.resolve_left (not_lt.mpr hmin), hmax⟩

/-- What a fragment does: it joins its packet, and the frame that it completes is stored. -/
lemma add_split_eq_ok (h : q.splits.Draining) (hf : f.split = true) (hq : q.add f = .ok q') :
    ∃ pool, (∀ id, pool.lookup id = if id ∈ q.splits.cleared f then none
        else if id = f.splitId then some (q.splits.grown f) else q.splits.pool.lookup id)
      ∧ ((∃ whole, q.Completes f whole
          ∧ store { q with splits := ⟨pool, q.splits.cleared f⟩ } whole = .ok q')
        ∨ (∀ whole, ¬q.Completes f whole)
          ∧ q' = { q with splits := ⟨pool, q.splits.cleared f⟩ }) := by
  obtain ⟨pool, hpool, hadd⟩ := add_split h hf
  refine ⟨pool, hpool, ?_⟩
  rw [hadd] at hq
  split_ifs at hq with hfull
  · simp only [storePacket, bind_eq_ok] at hq
    obtain ⟨result, hframe, whole, hwhole, hq⟩ := hq
    cases result with
    | error e => cases hwhole
    | ok frame =>
        obtain rfl := Except.ok.inj hwhole
        exact Or.inl ⟨frame, (completes_iff h).mpr ⟨hf, hfull, hframe⟩, hq⟩
  · exact Or.inr ⟨fun whole hwhole => hfull ((completes_iff h).mp hwhole).2.1,
      (Except.ok.inj hq).symm⟩

/-- The whole frame is one that does not travel in fragments. -/
lemma Completes.split_eq {whole : Frame} (h : q.Completes f whole) : whole.split = false := by
  obtain ⟨-, -, p, -, -, hframe⟩ := h
  obtain ⟨data, -, hframe⟩ := bind_eq_ok.mp hframe
  exact (Except.ok.inj (Except.ok.inj hframe)) ▸ rfl

/-- A fragment completes one frame at most. -/
lemma Completes.unique {whole whole' : Frame} (h : q.Completes f whole)
    (h' : q.Completes f whole') : whole = whole' := by
  obtain ⟨-, splits, p, hadd, hclear, hframe⟩ := h
  obtain ⟨-, splits', p', hadd', hclear', hframe'⟩ := h'
  obtain rfl := Except.ok.inj (hadd.symm.trans hadd')
  obtain rfl := List.singleton_inj.mp (hclear.symm.trans hclear')
  exact Except.ok.inj (Except.ok.inj (hframe.symm.trans hframe'))

/-- The whole frame that is stored, against the plain branch. -/
lemma Keys.sameWindow_iff {whole : Frame} (h : q.Keys) (hwhole : whole.split = false)
    {splits : SplitPacketQueue}
    (hq : ReceivedQueue.store { q with splits := splits } whole = .ok q') :
    (∃ q'', q.add whole = .ok q'' ∧ q'.SameWindow q'') ↔ q.min ≤ whole.orderIndex
      ∧ ∀ g, q.packetQueue.lookup whole.orderIndex = some g → g = whole := by
  obtain ⟨hroom, rfl⟩ := store_eq_ok.mp hq
  rw [add, if_neg (by rw [hwhole]; exact Bool.false_ne_true)]
  have hlookup : ∀ k, (q.packetQueue.insert whole.orderIndex whole).lookup k
      = if k = whole.orderIndex then some whole else q.packetQueue.lookup k :=
    fun k => HashMap.lookup_insert_eq_ite _ _ k _
  split_ifs with hmin hmem
  · refine iff_of_false ?_ fun hle => absurd hle.1 (not_le.mpr hmin)
    rintro ⟨q'', hq'', hsame⟩
    obtain rfl := Except.ok.inj hq''
    have hkey := (hsame.lookup whole.orderIndex).symm.trans (hlookup whole.orderIndex)
    rw [if_pos rfl] at hkey
    exact absurd (h _ (HashMap.mem_of_lookup hkey)).1 (not_le.mpr hmin)
  · obtain ⟨g, hg⟩ := HashMap.exists_lookup_of_mem hmem
    constructor
    · rintro ⟨q'', hq'', hsame⟩
      obtain rfl := Except.ok.inj hq''
      refine ⟨not_lt.mp hmin, fun g' hg' => ?_⟩
      have hkey := (hsame.lookup whole.orderIndex).symm.trans (hlookup whole.orderIndex)
      rw [if_pos rfl, hg'] at hkey
      exact Option.some.inj hkey
    · rintro ⟨-, hsame⟩
      refine ⟨q, rfl, rfl, max_eq_left (h _ hmem).2, fun k => (hlookup k).trans ?_⟩
      split_ifs with hk
      · rw [hk, hg, hsame g hg]
      · rfl
  · refine iff_of_true ⟨_, store_eq_ok.mpr ⟨hroom, rfl⟩, rfl, rfl, fun k => rfl⟩
      ⟨not_lt.mp hmin, fun g hg => absurd (HashMap.mem_of_lookup hg) hmem⟩

/-- **Step lemma**: a completed call is plain exactly when its frame is admitted. -/
lemma Tight.plain_iff (h : q.Tight) {op : Op} (hq : q.step op = .ok q') :
    q.Plain op ↔ q.Admitted op := by
  cases op with
  | getAll =>
      refine iff_of_true ⟨by rintro _ _ _ ⟨⟩, by rintro _ _ ⟨⟩, fun t ht => ?_⟩
        (by rintro _ _ ⟨⟩)
      exact Except.ok.inj ht ▸ h.keys.getAll
  | add f =>
      cases hf : f.split with
      | false =>
          have hnone : ∀ whole, ¬q.Completes f whole := fun whole hwhole =>
            Bool.false_ne_true (hf.symm.trans hwhole.1)
          refine iff_of_true ⟨?_, ?_, fun t ht => (h.keys.add_unsplit hf ht).1⟩ ?_
          · rintro _ whole _ ⟨⟩ hwhole
            exact absurd hwhole (hnone whole)
          · rintro _ t ⟨⟩ ht
            exact (h.keys.add_unsplit hf ht).2
          · rintro _ whole ⟨⟩ hwhole
            exact absurd hwhole (hnone whole)
      | true =>
          obtain ⟨pool, -, ⟨whole, hwhole, hstore⟩ | ⟨hnone, rfl⟩⟩ :=
            add_split_eq_ok h.draining hf hq
          · have hsame := h.keys.sameWindow_iff hwhole.split_eq hstore
            constructor
            · rintro hplain _ whole' ⟨⟩ hwhole'
              obtain rfl := hwhole.unique hwhole'
              exact hsame.mp (hplain.same f whole q' rfl hwhole hq)
            · intro hadmitted
              have hcond := hadmitted f whole rfl hwhole
              obtain ⟨hkeys, hkept⟩ :=
                Keys.store (q := { q with splits := ⟨pool, q.splits.cleared f⟩ }) h.keys
                  hcond.1 hcond.2 hstore
              refine ⟨?_, ?_, fun t ht => ?_⟩
              · rintro _ whole' t ⟨⟩ hwhole' ht
                obtain rfl := hwhole.unique hwhole'
                obtain rfl := Except.ok.inj (hq.symm.trans ht)
                exact hsame.mpr hcond
              · rintro _ t ⟨⟩ ht
                obtain rfl := Except.ok.inj (hq.symm.trans ht)
                exact hkept
              · obtain rfl := Except.ok.inj (hq.symm.trans ht)
                exact hkeys
          · refine iff_of_true ⟨?_, ?_, fun t ht => ?_⟩ ?_
            · rintro _ whole _ ⟨⟩ hwhole
              exact absurd hwhole (hnone whole)
            · rintro _ t ⟨⟩ ht
              obtain rfl := Except.ok.inj (hq.symm.trans ht)
              exact fun _ _ => id
            · obtain rfl := Except.ok.inj (hq.symm.trans ht)
              exact h.keys
            · rintro _ whole ⟨⟩ hwhole
              exact absurd hwhole (hnone whole)

/-- The pool of fragments drains after every call. -/
lemma draining_step (h : q.splits.Draining) {op : Op} (hq : q.step op = .ok q') :
    q'.splits.Draining := by
  cases op with
  | getAll => exact Except.ok.inj hq ▸ h
  | add f =>
      cases hf : f.split with
      | false =>
          rcases add_unsplit_eq_ok hf hq with rfl | ⟨-, -, hstore⟩
          · exact h
          · obtain ⟨-, rfl⟩ := store_eq_ok.mp hstore
            exact h
      | true =>
          obtain ⟨pool, hpool, ⟨whole, -, hstore⟩ | ⟨-, rfl⟩⟩ := add_split_eq_ok h hf hq
          · obtain ⟨-, rfl⟩ := store_eq_ok.mp hstore
            exact h.next f rfl hpool
          · exact h.next f rfl hpool

lemma Tight.step (h : q.Tight) {op : Op} (hop : q.Admitted op) (hq : q.step op = .ok q') :
    q'.Tight := ⟨draining_step h.draining hq, ((h.plain_iff hq).mpr hop).keys q' hq⟩

end ReceivedQueue

/-- **One admission rule.**  In a run from a new queue, every fragment that completes a message
leaves the window that the plain branch leaves for the whole frame, no buffered frame is replaced
and every key stays in the window, exactly when no fragment completes a frame whose index has been
released or for which another frame is buffered. -/
theorem admission_iff (ops : List ReceivedQueue.Op) :
    Run.Along ReceivedQueue.step ReceivedQueue.Plain .new ops
      ↔ Run.Along ReceivedQueue.step ReceivedQueue.Admitted .new ops :=
  Run.along_congr_of_invariant (fun _ _ _ hq hop hs => hq.step hop hs)
    (fun _ _ _ hq hs => hq.plain_iff hs) ReceivedQueue.tight_new

/-- A message of one frame is released, and one of two fragments with the same order index is stored
below the window. -/
theorem admission_counterexample :
    let plain : Frame := Frame.new .reliableOrdered [0xfe]
    let fragment (splitIndex : UInt32) : Frame :=
      { plain with split := true, splitCount := 2, splitIndex := splitIndex }
    (∃ q, Run.exec ReceivedQueue.step .new [.add plain, .getAll, .add (fragment 0),
        .add (fragment 1)] = .ok q ∧ q.min = 1 ∧ 0 ∈ q.packetQueue)
      ∧ ¬Run.Along ReceivedQueue.step ReceivedQueue.Plain .new [.add plain, .getAll,
        .add (fragment 0), .add (fragment 1)] := by
  intro plain fragment
  have hrun : (fun q : ReceivedQueue => (q.min, decide (0 ∈ q.packetQueue))) <$>
      Run.exec ReceivedQueue.step .new [.add plain, .getAll, .add (fragment 0),
        .add (fragment 1)] = .ok (1, true) := by
    decide +kernel
  obtain ⟨q, hq, heq⟩ := map_eq_ok.mp hrun
  obtain ⟨hmin, hmem⟩ := Prod.mk.inj heq
  refine ⟨⟨q, hq, hmin, of_decide_eq_true hmem⟩, fun hplain => ?_⟩
  have halways := Run.always_of_along (P := ReceivedQueue.Keys)
    (fun _ _ t _ hop ht => hop.keys t ht) ReceivedQueue.tight_new.keys hplain
  have hkeys := Run.always_iff.mp halways _ [] q (List.append_nil _).symm hq
  have hle := (hkeys 0 (of_decide_eq_true hmem)).1
  omega

end ActixRaknet
