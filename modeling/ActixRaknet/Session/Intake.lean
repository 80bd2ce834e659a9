import ActixRaknet.Queue.Admission
import ActixRaknet.Queue.Reuse
import ActixRaknet.Session.Receive

/-!
What `receive_packet` hands to `handle_packet`, against the frames that have arrived.

* `Intake`: a receive queue with the frames that have arrived and those that were handed on;
  `receivePacket_of_step`: its step is `receive_packet`;
* `Whole`: a frame that arrived in one piece, or that was put together from all its fragments;
* `Intake.Traced`: what waits in the queue came out of arrivals;
* `Intake.Sealed`: only whole frames were handed on, and fragments wait for the others of their id;
* `intake_sealed_iff`: when this is so throughout a run.
-/

namespace ActixRaknet

open Fallible

/-- A receive queue, the frames that have arrived at `receive_packet`, and those that it has handed
to `handle_packet`. -/
structure Intake where
  arrived : List Frame
  handed : List Frame
  queue : ReceivedQueue

/-- The frame that a session makes of a message in fragments. -/
def SplitMessage.frame (m : SplitMessage) : Frame :=
  { Frame.new m.reliability m.body with orderIndex := m.orderIndex }

/-- The fragments of one id among the arrivals. -/
def FragmentsOf (arrived : List Frame) (id : UInt16) (l : List Frame) : Prop :=
  ∀ f ∈ l, f ∈ arrived ∧ f.split = true ∧ f.splitId = id

/-- **A whole message**: a frame that arrived without the split bit, or one that was put together
from all fragments of an id. -/
def Whole (arrived : List Frame) (f : Frame) : Prop :=
  f.split = false ∧ (f ∈ arrived ∨ ∃ id l m, FragmentsOf arrived id l
    ∧ SplitMessage.restored l = some m ∧ f = m.frame)

/-- All the fragments that the fragment counts have arrived under its id. -/
def AllArrived (arrived : List Frame) (f : Frame) : Prop :=
  ∀ i < f.splitCount, ∃ g ∈ arrived, g.split = true ∧ g.splitId = f.splitId ∧ g.splitIndex = i

lemma FragmentsOf.mono {arrived l : List Frame} {id : UInt16} (h : FragmentsOf arrived id l)
    (f : Frame) : FragmentsOf (arrived ++ [f]) id l := fun g hg =>
  (h g hg).imp_left (List.mem_append_left _)

lemma Whole.mono {arrived : List Frame} {g : Frame} (h : Whole arrived g) (f : Frame) :
    Whole (arrived ++ [f]) g := by
  refine ⟨h.1, h.2.imp (List.mem_append_left _) ?_⟩
  rintro ⟨id, l, m, hl, hm, rfl⟩
  exact ⟨id, l, m, hl.mono f, hm, rfl⟩

lemma AllArrived.mono {arrived : List Frame} {g : Frame} (h : AllArrived arrived g) (f : Frame) :
    AllArrived (arrived ++ [f]) g := by
  intro i hi
  obtain ⟨b, hb, hrest⟩ := h i hi
  exact ⟨b, List.mem_append_left _ hb, hrest⟩

namespace Intake

/-- Nothing has arrived. -/
def new : Intake := ⟨[], [], .new⟩

/-- A frame arrives at `receive_packet`. -/
def step (s : Intake) (f : Frame) : Except Panic Intake := do
  let (ret, queue) ← s.queue.hand f
  return { arrived := s.arrived ++ [f], handed := s.handed ++ ret, queue := queue }

/-- **Nothing raw**: every frame handed on is whole, and a fragment waits in the pool as long as a
fragment that it counts is missing. -/
structure Sealed (s : Intake) : Prop where
  handed : ∀ g ∈ s.handed, Whole s.arrived g
  buffered : ∀ f ∈ s.arrived, f.split = true → ¬AllArrived s.arrived f →
    ∃ p, s.queue.splits.pool.lookup f.splitId = some p ∧ f.splitIndex ∈ p.data

/-- The fragment is the last one of its packet. -/
def Fills (q : SplitPacketQueue) (f : Frame) : Prop :=
  f.splitIndex < (q.packetOf f).splitSize
    ∧ ∀ i < (q.packetOf f).splitSize, i = f.splitIndex ∨ i ∈ (q.packetOf f).data

/-- **A regular fragment**: it is ordered or sequenced; as long as a fragment that it counts is
missing, its packet has not been completed before and counts its index; and when it fills its
packet, all fragments of its id have arrived. -/
structure Regular (s : Intake) (f : Frame) : Prop where
  ordered : f.split = true → f.reliability.sequencedOrOrdered = true
  room : f.split = true → ¬AllArrived (s.arrived ++ [f]) f → f.splitId ∉ s.queue.splits.delete
    ∧ f.splitIndex < (s.queue.splits.packetOf f).splitSize
  all : f.split = true → Fills s.queue.splits f → ∀ g ∈ s.arrived ++ [f], g.split = true →
    g.splitId = f.splitId → AllArrived (s.arrived ++ [f]) g

variable {s s' : Intake} {f : Frame}

lemma step_eq_ok : s.step f = .ok s' ↔ ∃ ret queue, s.queue.hand f = .ok (ret, queue)
    ∧ s' = { arrived := s.arrived ++ [f], handed := s.handed ++ ret, queue := queue } := by
  rw [step]
  simp only [bind_eq_ok, pure_eq_ok, Except.ok.injEq, Prod.exists, eq_comm (b := s')]

/-- A step of the intake is `receive_packet`. -/
lemma receivePacket_of_step {t : Session} (env : Session.Env) (ht : t.received = s.queue)
    (hs : s.step f = .ok s') : ∃ ret, s'.handed = s.handed ++ ret
      ∧ Session.receivePacket env t f
        = ret.foldlM (Session.handlePacket env) { t with received := s'.queue } := by
  obtain ⟨ret, queue, hhand, rfl⟩ := step_eq_ok.mp hs
  exact ⟨ret, rfl, Session.receivePacket_of_hand (ht ▸ hhand)⟩

/-- **What waits came out of arrivals**: a packet of the pool is what fragments of its id make, and
the frames in the queue are whole. -/
structure Traced (s : Intake) : Prop where
  draining : s.queue.splits.Draining
  packets : ∀ id p, s.queue.splits.pool.lookup id = some p → ∃ l, FragmentsOf s.arrived id l
    ∧ SplitPacketQueue.gathered l = some p
  frames : ∀ k g, s.queue.packetQueue.lookup k = some g → Whole s.arrived g

lemma traced_new : Traced new where
  draining := SplitPacketQueue.draining_new
  packets id p h := by simp [new, ReceivedQueue.new, SplitPacketQueue.new] at h
  frames k g h := by simp [new, ReceivedQueue.new] at h

lemma sealed_new : Sealed new :=
  ⟨fun _ hg => absurd hg List.not_mem_nil, fun _ hf => absurd hf List.not_mem_nil⟩

/-- The fragments that the packet of an arrival is made of. -/
lemma Traced.exists_gathered (h : s.Traced) (f : Frame) : ∃ l, FragmentsOf s.arrived f.splitId l
    ∧ s.queue.splits.pool.lookup f.splitId = SplitPacketQueue.gathered l := by
  cases hp : s.queue.splits.pool.lookup f.splitId with
  | none => exact ⟨[], fun _ hg => absurd hg List.not_mem_nil, rfl⟩
  | some p =>
      obtain ⟨l, hl, hgathered⟩ := h.packets _ p hp
      exact ⟨l, hl, hgathered.symm⟩

lemma fragmentsOf_concat {l : List Frame} (hl : FragmentsOf s.arrived f.splitId l)
    (hf : f.split = true) : FragmentsOf (s.arrived ++ [f]) f.splitId (l ++ [f]) := by
  intro g hg
  rcases List.mem_append.mp hg with hg | hg
  · exact hl.mono f g hg
  · obtain rfl := List.mem_singleton.mp hg
    exact ⟨List.mem_append_right _ (List.mem_singleton_self _), hf, rfl⟩

/-- The frame that a fragment completes is a whole message. -/
lemma Traced.whole_of_completes (h : s.Traced) {g : Frame} (hg : s.queue.Completes f g) :
    Whole (s.arrived ++ [f]) g := by
  obtain ⟨hf, hfull, hframe⟩ := (ReceivedQueue.completes_iff h.draining).mp hg
  obtain ⟨l, hl, hlookup⟩ := h.exists_gathered f
  obtain ⟨m, hm⟩ := Option.isSome_iff_exists.mp (SplitMessage.restored_isSome.mpr
    (SplitPacketQueue.complete_of_full h.draining hlookup hfull))
  obtain ⟨horder, -, hrel, hdata⟩ := SplitPacketQueue.getAll_grown hlookup hm
  refine ⟨hg.split_eq, Or.inr ⟨_, l ++ [f], m, fragmentsOf_concat hl hf, hm, ?_⟩⟩
  rw [SplitPacket.getFrame, hdata, horder, hrel] at hframe
  exact (Except.ok.inj (Except.ok.inj hframe)).symm

/-- What `add` does to the queue: its frames are whole, and the pool grows by a fragment. -/
lemma Traced.add (h : s.Traced) {q : ReceivedQueue} (hq : s.queue.add f = .ok q) :
    (∀ k g, q.packetQueue.lookup k = some g → Whole (s.arrived ++ [f]) g)
      ∧ (f.split = false → q.splits = s.queue.splits)
      ∧ (f.split = true → q.splits.delete = s.queue.splits.cleared f
        ∧ ∀ id, q.splits.pool.lookup id = if id ∈ s.queue.splits.cleared f then none
          else if id = f.splitId then some (s.queue.splits.grown f)
          else s.queue.splits.pool.lookup id) := by
  have hold : ∀ k g, s.queue.packetQueue.lookup k = some g → Whole (s.arrived ++ [f]) g :=
    fun k g hg => (h.frames k g hg).mono f
  have hstore : ∀ {splits : SplitPacketQueue} {g : Frame}, Whole (s.arrived ++ [f]) g →
      ReceivedQueue.store { s.queue with splits := splits } g = .ok q →
      (∀ k b, q.packetQueue.lookup k = some b → Whole (s.arrived ++ [f]) b)
        ∧ q.splits = splits := by
    intro splits g hg hq
    obtain ⟨-, rfl⟩ := ReceivedQueue.store_eq_ok.mp hq
    refine ⟨fun k b hb => ?_, rfl⟩
    rw [HashMap.lookup_insert_eq_ite] at hb
    split_ifs at hb
    · exact Option.some.inj hb ▸ hg
    · exact hold k b hb
  cases hf : f.split with
  | false =>
      refine and_assoc.mp ⟨?_, by rintro ⟨⟩⟩
      rcases ReceivedQueue.add_unsplit_eq_ok hf hq with rfl | ⟨-, -, hq⟩
      · exact ⟨hold, fun _ => rfl⟩
      · have hwhole : Whole (s.arrived ++ [f]) f :=
          ⟨hf, Or.inl (List.mem_append_right _ (List.mem_singleton_self f))⟩
        exact (hstore hwhole hq).imp_right fun hsplits _ => hsplits
  | true =>
      obtain ⟨pool, hpool, ⟨g, hg, hq⟩ | ⟨-, rfl⟩⟩ :=
        ReceivedQueue.add_split_eq_ok h.draining hf hq
      · obtain ⟨hframes, hsplits⟩ := hstore (h.whole_of_completes hg) hq
        rw [hsplits]
        exact ⟨hframes, by rintro ⟨⟩, fun _ => ⟨rfl, hpool⟩⟩
      · exact ⟨hold, by rintro ⟨⟩, fun _ => ⟨rfl, hpool⟩⟩

/-- What an arrival can do: a frame that is neither sequenced nor ordered is handed on at once; for
the others whole frames are handed on, and the pool grows by a fragment. -/
lemma Traced.step_cases (h : s.Traced) (hs : s.step f = .ok s') : s'.arrived = s.arrived ++ [f]
    ∧ ((f.reliability.sequencedOrOrdered = false ∧ s'.handed = s.handed ++ [f]
        ∧ s'.queue = s.queue)
      ∨ f.reliability.sequencedOrOrdered = true
        ∧ (∃ ret, s'.handed = s.handed ++ ret ∧ ∀ g ∈ ret, Whole s'.arrived g)
        ∧ (∀ k g, s'.queue.packetQueue.lookup k = some g → Whole s'.arrived g)
        ∧ (f.split = false → s'.queue.splits = s.queue.splits)
        ∧ (f.split = true → s'.queue.splits.delete = s.queue.splits.cleared f
          ∧ ∀ id, s'.queue.splits.pool.lookup id = if id ∈ s.queue.splits.cleared f then none
            else if id = f.splitId then some (s.queue.splits.grown f)
            else s.queue.splits.pool.lookup id)) := by
  obtain ⟨ret, queue, hhand, rfl⟩ := step_eq_ok.mp hs
  refine ⟨rfl, ?_⟩
  rw [ReceivedQueue.hand] at hhand
  split_ifs at hhand with hordered
  · obtain ⟨q, hq, hall⟩ := bind_eq_ok.mp hhand
    obtain ⟨rfl, rfl⟩ := Prod.mk.inj (Except.ok.inj hall)
    obtain ⟨hframes, hsplits⟩ := h.add hq
    refine Or.inr ⟨hordered, ⟨_, rfl, fun g hg => ?_⟩, fun k g hg => ?_, hsplits⟩
    · obtain ⟨k, hk⟩ := ReceivedQueue.mem_released hg
      exact hframes k g hk
    · exact hframes k g ((ReceivedQueue.mem_release _ _ _).2 k g hg).1
  · obtain ⟨rfl, rfl⟩ := Prod.mk.inj (Except.ok.inj hhand)
    exact Or.inl ⟨Bool.eq_false_of_not_eq_true hordered, rfl, rfl⟩

/-- The trace is kept by every arrival. -/
lemma Traced.step (h : s.Traced) (hs : s.step f = .ok s') : s'.Traced := by
  have hpackets : ∀ {splits : SplitPacketQueue}, splits = s.queue.splits →
      splits.Draining ∧ ∀ id p, splits.pool.lookup id = some p →
        ∃ l, FragmentsOf (s.arrived ++ [f]) id l ∧ SplitPacketQueue.gathered l = some p := by
    rintro _ rfl
    refine ⟨h.draining, fun id p hp => ?_⟩
    obtain ⟨l, hl, hgathered⟩ := h.packets id p hp
    exact ⟨l, hl.mono f, hgathered⟩
  obtain ⟨harrived, ⟨-, -, hqueue⟩ | ⟨-, -, hframes, hplain, hsplit⟩⟩ := h.step_cases hs
  · rw [← hqueue] at hpackets
    obtain ⟨hdraining, hpackets⟩ := hpackets rfl
    refine ⟨hdraining, harrived ▸ hpackets, fun k g hg => ?_⟩
    rw [harrived]
    exact (h.frames k g (hqueue ▸ hg)).mono f
  · cases hf : f.split with
    | false =>
        obtain ⟨hdraining, hpackets⟩ := hpackets (hplain hf)
        exact ⟨hdraining, harrived ▸ hpackets, hframes⟩
    | true =>
        obtain ⟨hdelete, hpool⟩ := hsplit hf
        refine ⟨h.draining.next f hdelete hpool, fun id p hp => ?_, hframes⟩
        rw [hpool] at hp
        rw [harrived]
        split_ifs at hp with hclear hid
        · obtain ⟨l, hl, hlookup⟩ := h.exists_gathered f
          refine ⟨l ++ [f], hid ▸ fragmentsOf_concat hl hf, ?_⟩
          rw [SplitPacketQueue.gathered_grown hlookup, hp]
        · exact (hpackets rfl).2 id p hp

/-- The fragment that fills its packet makes it full. -/
lemma full_iff_fills {q : SplitPacketQueue} (h : q.Draining) :
    (q.grown f).full = true ↔ Fills q f := by
  obtain ⟨hnot, hbounded⟩ := h.packetOf f
  rw [SplitPacketQueue.grown, SplitPacket.full_add_iff hbounded hnot, Fills]
  refine and_congr_right fun hindex => forall₂_congr fun i _ => ?_
  rw [← AList.lookup_isSome, SplitPacket.lookup_add]
  by_cases hi : i = f.splitIndex
  · simp [hi, hindex]
  · simp [hi, AList.lookup_isSome]

/-- An index that a packet holds stays in it. -/
lemma mem_grown {q : SplitPacketQueue} {i : UInt32} (h : i ∈ (q.packetOf f).data) :
    i ∈ (q.grown f).data := by
  rw [← AList.lookup_isSome, SplitPacketQueue.grown, SplitPacket.lookup_add]
  split_ifs
  · rfl
  · exact AList.lookup_isSome.mpr h

lemma mem_grown_self {q : SplitPacketQueue} (h : f.splitIndex < (q.packetOf f).splitSize) :
    f.splitIndex ∈ (q.grown f).data := by
  rw [← AList.lookup_isSome, SplitPacketQueue.grown, SplitPacket.lookup_add, if_pos ⟨rfl, h⟩]
  rfl

/-- A fragment that waits, after the arrival of another one of its id that leaves it waiting. -/
lemma Sealed.mem_grown (h : s.Sealed) (ht : s.Traced) (hf : s.Regular f) (hsplit : f.split = true)
    {g : Frame} (hg : g ∈ s.arrived ++ [f]) (hg' : g.split = true) (hid : g.splitId = f.splitId)
    (hmissing : ¬AllArrived (s.arrived ++ [f]) g) :
    f.splitId ∉ s.queue.splits.delete ∧ g.splitIndex ∈ (s.queue.splits.grown f).data := by
  rcases List.mem_append.mp hg with hg | hg
  · obtain ⟨p, hp, hindex⟩ := h.buffered g hg hg' fun hall => hmissing (hall.mono f)
    rw [hid] at hp
    refine ⟨fun hdelete => ht.draining.deleted _ hdelete (HashMap.mem_of_lookup hp),
      Intake.mem_grown ?_⟩
    rwa [SplitPacketQueue.packetOf, hp]
  · obtain rfl := List.mem_singleton.mp hg
    exact (hf.room hsplit hmissing).imp_right mem_grown_self

/-- **Step lemma**: a regular frame keeps the intake sealed. -/
lemma Sealed.step (h : s.Sealed) (ht : s.Traced) (hf : s.Regular f) (hs : s.step f = .ok s') :
    s'.Sealed := by
  obtain ⟨harrived, hcases⟩ := ht.step_cases hs
  constructor
  · have hold : ∀ g ∈ s.handed, Whole s'.arrived g := fun g hg =>
      harrived ▸ (h.handed g hg).mono f
    intro g hg
    rcases hcases with ⟨hordered, hhanded, -⟩ | ⟨-, ⟨ret, hhanded, hret⟩, -⟩
    · rcases List.mem_append.mp (hhanded ▸ hg) with hg | hg
      · exact hold g hg
      · obtain rfl := List.mem_singleton.mp hg
        have hsplit : g.split = false := by
          by_contra hsplit
          exact Bool.false_ne_true (hordered.symm.trans (hf.ordered (Bool.not_eq_false _ ▸ hsplit)))
        exact ⟨hsplit, Or.inl (harrived ▸ List.mem_append_right _ (List.mem_singleton_self _))⟩
    · rcases List.mem_append.mp (hhanded ▸ hg) with hg | hg
      · exact hold g hg
      · exact hret g hg
  · intro g hg hg' hmissing
    rw [harrived] at hg hmissing
    have hold : g ∈ s.arrived → ∃ p, s.queue.splits.pool.lookup g.splitId = some p
        ∧ g.splitIndex ∈ p.data := fun hg =>
      h.buffered g hg hg' fun hall => hmissing (hall.mono f)
    cases hsplit : f.split with
    | false =>
        have hsplits : s'.queue.splits = s.queue.splits := by
          rcases hcases with ⟨-, -, hqueue⟩ | ⟨-, -, -, hplain, -⟩
          · rw [hqueue]
          · exact hplain hsplit
        rw [hsplits]
        rcases List.mem_append.mp hg with hg | hg
        · exact hold hg
        · obtain rfl := List.mem_singleton.mp hg
          exact absurd (hsplit.symm.trans hg') Bool.false_ne_true
    | true =>
        obtain ⟨-, hpool⟩ : s'.queue.splits.delete = s.queue.splits.cleared f ∧ _ := by
          rcases hcases with ⟨hordered, -⟩ | ⟨-, -, -, -, hgrown⟩
          · exact absurd (hordered.symm.trans (hf.ordered hsplit)) Bool.false_ne_true
          · exact hgrown hsplit
        by_cases hid : g.splitId = f.splitId
        · have hfull : ¬(s.queue.splits.grown f).full = true := fun hfull =>
            hmissing (hf.all hsplit ((full_iff_fills ht.draining).mp hfull) g hg hg' hid)
          obtain ⟨hdelete, hindex⟩ := h.mem_grown ht hf hsplit hg hg' hid hmissing
          rw [hid, hpool, SplitPacketQueue.cleared, if_neg hfull, if_neg hdelete, if_pos rfl]
          exact ⟨_, rfl, hindex⟩
        · rcases List.mem_append.mp hg with hg | hg
          · obtain ⟨p, hp, hindex⟩ := hold hg
            have hdelete : g.splitId ∉ s.queue.splits.cleared f := by
              rw [SplitPacketQueue.mem_cleared_of_ne hid]
              exact fun hdelete => ht.draining.deleted _ hdelete (HashMap.mem_of_lookup hp)
            rw [hpool, if_neg hdelete, if_neg hid]
            exact ⟨p, hp, hindex⟩
          · exact absurd (congrArg Frame.splitId (List.mem_singleton.mp hg)) hid

/-- A sealed intake has only taken in regular frames. -/
lemma Sealed.regular (h : s'.Sealed) (ht : s.Traced) (hs : s.step f = .ok s') : s.Regular f := by
  obtain ⟨harrived, hcases⟩ := ht.step_cases hs
  have hmem : f ∈ s'.arrived := by
    rw [harrived]
    exact List.mem_append_right _ (List.mem_singleton_self f)
  have hordered : f.split = true → f.reliability.sequencedOrOrdered = true := by
    intro hsplit
    rcases hcases with ⟨-, hhanded, -⟩ | ⟨hordered, -⟩
    · have hwhole := h.handed f (hhanded ▸ List.mem_append_right _ (List.mem_singleton_self f))
      exact absurd (hwhole.1.symm.trans hsplit) Bool.false_ne_true
    · exact hordered
  have hpool : f.split = true → ∀ id, s'.queue.splits.pool.lookup id
      = if id ∈ s.queue.splits.cleared f then none
        else if id = f.splitId then some (s.queue.splits.grown f)
        else s.queue.splits.pool.lookup id := by
    intro hsplit
    rcases hcases with ⟨hunordered, -⟩ | ⟨-, -, -, -, hgrown⟩
    · exact absurd (hunordered.symm.trans (hordered hsplit)) Bool.false_ne_true
    · exact (hgrown hsplit).2
  refine ⟨hordered, fun hsplit hmissing => ?_, fun hsplit hfills g hg hg' hid => ?_⟩
  · rw [← harrived] at hmissing
    obtain ⟨p, hp, hindex⟩ := h.buffered f hmem hsplit hmissing
    rw [hpool hsplit, if_pos rfl] at hp
    split_ifs at hp with hclear
    obtain rfl := Option.some.inj hp
    refine ⟨fun hdelete => hclear (SplitPacketQueue.mem_cleared_of_mem hdelete), ?_⟩
    have hlt := (ht.draining.packetOf f).2.add f.splitIndex f _ hindex
    rwa [SplitPacket.splitSize_add] at hlt
  · rw [← harrived] at hg ⊢
    by_contra hmissing
    obtain ⟨p, hp, -⟩ := h.buffered g hg hg' hmissing
    have hclear : f.splitId ∈ s.queue.splits.cleared f := by
      rw [SplitPacketQueue.cleared, if_pos ((full_iff_fills ht.draining).mpr hfills)]
      exact List.mem_append_right _ (List.mem_singleton_self _)
    rw [hid, hpool hsplit, if_pos hclear] at hp
    cases hp

end Intake

/-- **Nothing raw reaches the application.**  Over any arrivals, all that `receive_packet` hands to
`handle_packet` are whole messages, and fragments wait for the others of their id, exactly when
every fragment that arrives is regular. -/
theorem intake_sealed_iff (frames : List Frame) :
    (∀ (s s' : Intake) (f : Frame) (t : Session) (env : Session.Env), t.received = s.queue →
        s.step f = .ok s' → ∃ ret, s'.handed = s.handed ++ ret
          ∧ Session.receivePacket env t f
            = ret.foldlM (Session.handlePacket env) { t with received := s'.queue })
      ∧ (Run.Always Intake.step Intake.Sealed .new frames
        ↔ Run.Along Intake.step Intake.Regular .new frames) :=
  ⟨fun _ _ _ _ env ht hs => Intake.receivePacket_of_step env ht hs,
    Run.always_iff_along (fun _ _ _ ht hP _ hC hs => ⟨ht.step hs, hP.step ht hC hs⟩)
      (fun _ _ _ ht _ _ hC hs hP' => hC (hP'.regular ht hs)) Intake.traced_new Intake.sealed_new
      Run.along_true⟩

/-- The first fragment of a reliable message is handed on as it is. -/
theorem intake_sealed_counterexample :
    let fragment : Frame :=
      { Frame.new .reliable [0xfe] with
        split := true
        splitCount := 2 }
    (∃ s, Run.exec Intake.step .new [fragment] = .ok s ∧ s.handed = [fragment])
      ∧ ¬Run.Always Intake.step Intake.Sealed .new [fragment] := by
  intro fragment
  have hrun : Run.exec Intake.step .new [fragment] = .ok _ := rfl
  refine ⟨⟨_, hrun, rfl⟩, fun hsealed => ?_⟩
  have hlast := Run.always_iff.mp hsealed _ [] _ (List.append_nil _).symm hrun
  exact Bool.false_ne_true (hlast.handed fragment (List.mem_singleton_self _)).1.symm

end ActixRaknet
