import ActixRaknet.Library.Places
import ActixRaknet.Queue.PacketQueue

/-!
What a packet queue that sends unsplit ordered messages is answerable for.

* `PacketQueue.contents`: the frames in the open set and in the numbered sets;
* `Genuine`: a frame that carries a message carries it unaltered;
* `Custody`: the frames held are genuine, every message is held in one place at most, and every
  message that has not been taken is held; what was sent under a number is what the queue still
  holds under it;
* `Custody.addFrame`, `Custody.received`, `Custody.resend`, `Custody.getPacket`: every operation
  keeps custody, if acknowledgements name sets whose messages have been taken.
-/

namespace ActixRaknet

open Fallible

/-- A frame the sender has made: whole, encodable, and carrying the message of its order index. -/
structure Genuine (sent : List Bytes) (f : Frame) : Prop where
  unsplit : f.split = false
  encodable : f.Encodable
  message : ∀ k, f.message = some k → sent[k]? = some f.data

lemma Genuine.mono {sent : List Bytes} {f : Frame} (h : Genuine sent f) (body : Bytes) :
    Genuine (sent ++ [body]) f where
  unsplit := h.unsplit
  encodable := h.encodable
  message k hk := by
    have hsome := h.message k hk
    obtain ⟨hlt, -⟩ := List.getElem?_eq_some_iff.mp hsome
    rw [List.getElem?_append_left hlt, hsome]

namespace PacketQueue

/-- The frames in a place of the queue: in the open set, or in the set with a number. -/
def contents (q : PacketQueue) : Option ℕ → List Frame
  | none => q.setQueue
  | some n => ((q.queue.lookup n).map FrameSet.datas).getD []

/-- Which frame lies where. -/
def Holds (q : PacketQueue) (place : Option ℕ) (f : Frame) : Prop := f ∈ q.contents place

lemma holds_some {q : PacketQueue} {n : ℕ} {f : Frame} :
    q.Holds (some n) f ↔ ∃ fs, q.queue.lookup n = some fs ∧ f ∈ fs.datas := by
  rw [Holds, contents]
  cases q.queue.lookup n <;> simp

/-- A frame that joins the open set. -/
lemma added_open (q : PacketQueue) (size : ℕ) (f : Frame) :
    Places.Added q.Holds (Holds { q with setSize := size, setQueue := q.setQueue ++ [f] })
      none f := by
  rintro (_ | n) a
  · simp [Holds, contents]
  · simp [Holds, contents]

/-- A frame that becomes a set of its own. -/
lemma added_allocate {q : PacketQueue} (h : q.Keys) (clock : Clock) (header : UInt8) (f : Frame) :
    Places.Added q.Holds (Holds (q.allocate clock header [f])) (some q.max) f := by
  rintro (_ | n) a
  · simp [Holds, contents, allocate]
  · have hmax : q.queue.lookup q.max = none :=
      AList.lookup_eq_none.mpr fun hmem => (h.lt_max _ hmem).false
    simp only [holds_some, lookup_allocate]
    by_cases hn : n = q.max
    · subst hn
      simp [hmax]
    · simp [hn]

/-- Closing the open set moves it to the next number. -/
lemma moved_flush {q : PacketQueue} (h : q.Keys) (clock : Clock) (header : UInt8) :
    Places.Moved q.Holds
      (Holds { q.allocate clock header q.setQueue with setQueue := [], setSize := 0 })
      none (some q.max) := by
  have hmax : q.queue.lookup q.max = none :=
    AList.lookup_eq_none.mpr fun hmem => (h.lt_max _ hmem).false
  refine ⟨fun a => ?_, fun a => ?_, fun a => ?_, fun r hr hr' a => ?_⟩
  · simp only [holds_some, lookup_allocate, if_true, Option.some.injEq, exists_eq_left']
    rfl
  · simp [Holds, contents]
  · simp [holds_some, hmax]
  · obtain ⟨n, rfl⟩ := Option.ne_none_iff_exists'.mp hr
    have hn : n ≠ q.max := fun hn => hr' (by rw [hn])
    simp [holds_some, lookup_allocate, hn]

/-- Renumbering moves a set to the next number. -/
lemma moved_moved {q : PacketQueue} (h : q.Keys) (clock : Clock) {k : ℕ} {fs : FrameSet}
    (hk : q.queue.lookup k = some fs) :
    Places.Moved q.Holds (Holds (q.moved clock k fs)) (some k) (some q.max) := by
  have hmax : q.queue.lookup q.max = none :=
    AList.lookup_eq_none.mpr fun hmem => (h.lt_max _ hmem).false
  have hne : q.max ≠ k := fun heq => (h.lt_max k (HashMap.mem_of_lookup hk)).ne heq.symm
  refine ⟨fun a => ?_, fun a => ?_, fun a => ?_, fun r hr hr' a => ?_⟩
  · simp [holds_some, lookup_moved, hne, hk]
  · simp [holds_some, lookup_moved]
  · simp [holds_some, hmax]
  · cases r with
    | none => rfl
    | some n =>
        have hnk : n ≠ k := fun hn => hr (by rw [hn])
        have hnm : n ≠ q.max := fun hn => hr' (by rw [hn])
        simp [holds_some, lookup_moved, hnk, hnm]

/-- An acknowledgement empties the place of its number. -/
lemma emptied_received (q : PacketQueue) (n : ℕ) :
    Places.Emptied q.Holds (Holds (q.received n)) (some n) := by
  rintro (_ | m) a
  · have hset : (q.received n).setQueue = q.setQueue := by
      rw [received]
      split_ifs <;> rfl
    simp [Holds, contents, hset]
  · simp only [holds_some, lookup_received, ne_eq, Option.some.injEq]
    by_cases hm : m = n
    · simp [hm]
    · simp [hm]

/-- The queue is answerable for the messages `sent`: `taken` are those that have reached the peer,
`emitted` the sets that have been sent so far. -/
structure Custody (q : PacketQueue) (sent : List Bytes) (emitted : List FrameSet)
    (taken : ℕ → Prop) : Prop where
  sound : q.Sound
  genuine : ∀ place f, q.Holds place f → Genuine sent f
  apart : Places.Apart q.Holds Frame.message
  kept : ∀ k < sent.length, taken k ∨ Places.Found q.Holds Frame.message k
  numbered : ∀ n fs, q.queue.lookup n = some fs →
    fs.sequenceNumber = n ∧ fs.header = setHeader false
  emitted_lt : ∀ fs ∈ emitted, fs.sequenceNumber < q.sendMin
  emitted_header : ∀ fs ∈ emitted, fs.header = setHeader false
  emitted_genuine : ∀ fs ∈ emitted, ∀ f ∈ fs.datas, Genuine sent f
  current : ∀ fs ∈ emitted, ∀ fs', q.queue.lookup fs.sequenceNumber = some fs' → fs' = fs

/-- The messages of the set sent under the number `n` have been taken: `n` may be acknowledged. -/
def Settled (q : PacketQueue) (emitted : List FrameSet) (taken : ℕ → Prop) (n : ℕ) : Prop :=
  n < q.sendMin ∧ ∃ fs ∈ emitted, fs.sequenceNumber = n
    ∧ ∀ f ∈ fs.datas, ∀ k, f.message = some k → taken k

variable {q q' : PacketQueue} {sent : List Bytes} {emitted : List FrameSet} {taken : ℕ → Prop}

lemma custody_new (mtu : UInt16) : Custody (new mtu) [] [] (fun _ => False) where
  sound := sound_new mtu
  genuine place f hf := by
    cases place with
    | none => exact absurd hf List.not_mem_nil
    | some n =>
        obtain ⟨fs, hfs, -⟩ := holds_some.mp hf
        cases hfs
  apart place _ f _ k hf := by
    cases place with
    | none => exact absurd hf List.not_mem_nil
    | some n =>
        obtain ⟨fs, hfs, -⟩ := holds_some.mp hf
        cases hfs
  kept k hk := absurd hk (Nat.not_lt_zero k)
  numbered n fs h := by cases h
  emitted_lt fs h := absurd h List.not_mem_nil
  emitted_header fs h := absurd h List.not_mem_nil
  emitted_genuine fs h := absurd h List.not_mem_nil
  current fs h := absurd h List.not_mem_nil

lemma Custody.mono (h : q.Custody sent emitted taken) {taken' : ℕ → Prop}
    (hle : ∀ k, taken k → taken' k) : q.Custody sent emitted taken' :=
  { h with kept := fun k hk => (h.kept k hk).imp_left (hle k) }

lemma Settled.mono {taken' : ℕ → Prop} {emitted' : List FrameSet} {n : ℕ}
    (h : q.Settled emitted taken n) (hmin : q.sendMin ≤ q'.sendMin)
    (hle : ∀ k, taken k → taken' k) (hemitted : ∀ fs ∈ emitted, fs ∈ emitted') :
    q'.Settled emitted' taken' n := by
  obtain ⟨hlt, fs, hfs, hn, hall⟩ := h
  exact ⟨hlt.trans_le hmin, fs, hemitted fs hfs, hn, fun f hf k hk => hle k (hall f hf k hk)⟩

/-- A message is new: no frame of it is held. -/
lemma Custody.not_found (h : q.Custody sent emitted taken) {k : ℕ} (hk : sent.length ≤ k) :
    ¬ Places.Found q.Holds Frame.message k := by
  rintro ⟨place, f, hf, hmsg⟩
  obtain ⟨hlt, -⟩ := List.getElem?_eq_some_iff.mp ((h.genuine place f hf).message k hmsg)
  omega

/-- A move of frames within the queue keeps custody, if it keeps the numbers in order. -/
lemma Custody.moved (h : q.Custody sent emitted taken) {place place' : Option ℕ}
    (hm : Places.Moved q.Holds q'.Holds place place') (hsound : q'.Sound)
    (hmin : q'.sendMin = q.sendMin)
    (hnumbered : ∀ n fs, q'.queue.lookup n = some fs →
      fs.sequenceNumber = n ∧ fs.header = setHeader false)
    (hold : ∀ n < q.sendMin, ∀ fs, q'.queue.lookup n = some fs → q.queue.lookup n = some fs) :
    q'.Custody sent emitted taken where
  sound := hsound
  genuine r f hf := by
    obtain ⟨r₀, hf⟩ := hm.old hf
    exact h.genuine r₀ f hf
  apart := hm.apart h.apart
  kept k hk := (h.kept k hk).imp_right hm.found
  numbered := hnumbered
  emitted_lt fs hfs := hmin ▸ h.emitted_lt fs hfs
  emitted_header := h.emitted_header
  emitted_genuine := h.emitted_genuine
  current fs hfs fs' hfs' := h.current fs hfs fs' (hold _ (h.emitted_lt fs hfs) fs' hfs')

/-- The numbers of an allocation. -/
lemma Custody.numbered_allocate (h : q.Custody sent emitted taken) (clock : Clock)
    (datas : List Frame) (n : ℕ) (fs : FrameSet)
    (hn : (q.allocate clock (setHeader false) datas).queue.lookup n = some fs) :
    fs.sequenceNumber = n ∧ fs.header = setHeader false := by
  rw [lookup_allocate] at hn
  split_ifs at hn with heq
  · obtain rfl := Option.some.inj hn
    exact ⟨heq.symm, rfl⟩
  · exact h.numbered n fs hn

lemma Custody.flush (h : q.Custody sent emitted taken) {clock : Clock}
    (hq : q.flush clock = .ok q') :
    q'.Custody sent emitted taken ∧ q'.sendMin = q.sendMin := by
  rcases flush_eq_ok.mp hq with ⟨-, rfl⟩ | ⟨-, -, rfl⟩
  · exact ⟨h, rfl⟩
  · refine ⟨h.moved (moved_flush h.sound.toKeys clock _) (h.sound.flush hq) rfl
      (h.numbered_allocate clock q.setQueue) fun n hn fs hfs => ?_, rfl⟩
    have hne : n ≠ q.max := (hn.trans_le h.sound.sendMin_le).ne
    rwa [show _ = _ from lookup_allocate q clock (setHeader false) q.setQueue n,
      if_neg hne] at hfs

lemma Custody.renumbers (h : q.Custody sent emitted taken) {clock : Clock}
    (hq : Renumbers clock q q') : q'.Custody sent emitted taken ∧ q'.sendMin = q.sendMin := by
  have hsound := h.sound.renumbers (.single hq)
  obtain ⟨k, fs, hk, hfs, -, rfl⟩ := hq
  refine ⟨h.moved (moved_moved h.sound.toKeys clock hfs) hsound rfl (fun n fs' hfs' => ?_)
    fun n hn fs' hfs' => ?_, rfl⟩
  · rw [lookup_moved] at hfs'
    split_ifs at hfs' with hnk hnm
    · obtain rfl := Option.some.inj hfs'
      exact ⟨hnm.symm, (h.numbered k fs hfs).2⟩
    · exact h.numbered n fs' hfs'
  · have hne : n ≠ q.max := (hn.trans_le h.sound.sendMin_le).ne
    rw [lookup_moved] at hfs'
    split_ifs at hfs' with hnk
    exact hfs'

/-- A frame that comes in keeps custody, if it is genuine and its message, if it carries one, is
the next one. -/
lemma Custody.addFrame (h : q.Custody sent emitted taken) {clock : Clock} {f : Frame}
    {sent' : List Bytes} (hgenuine : Genuine sent' f) (hold : ∀ g, Genuine sent g → Genuine sent' g)
    (hnew : ∀ k, f.message = some k → sent.length ≤ k)
    (hkept : ∀ k < sent'.length, k < sent.length ∨ f.message = some k)
    (hq : q.addFrame clock f = .ok q') :
    q'.Custody sent' emitted taken ∧ q'.sendMin = q.sendMin := by
  have hadd : ∃ place, Places.Added q.Holds q'.Holds place f := by
    obtain ⟨-, ⟨-, rfl⟩ | ⟨-, -, rfl⟩⟩ := addFrame_eq_ok.mp hq
    · exact ⟨none, added_open q _ f⟩
    · exact ⟨some q.max, added_allocate h.sound.toKeys clock _ f⟩
  have hmin : q'.sendMin = q.sendMin := by
    obtain ⟨-, ⟨-, rfl⟩ | ⟨-, -, rfl⟩⟩ := addFrame_eq_ok.mp hq <;> rfl
  have hnumbered : ∀ n fs, q'.queue.lookup n = some fs →
      fs.sequenceNumber = n ∧ fs.header = setHeader false := by
    obtain ⟨-, ⟨-, rfl⟩ | ⟨-, -, rfl⟩⟩ := addFrame_eq_ok.mp hq
    · exact h.numbered
    · rw [hgenuine.unsplit]
      exact h.numbered_allocate clock [f]
  have hbelow : ∀ n < q.sendMin, ∀ fs, q'.queue.lookup n = some fs →
      q.queue.lookup n = some fs := by
    intro n hn fs hfs
    obtain ⟨-, ⟨-, rfl⟩ | ⟨-, -, rfl⟩⟩ := addFrame_eq_ok.mp hq
    · exact hfs
    · rwa [lookup_allocate, if_neg (hn.trans_le h.sound.sendMin_le).ne] at hfs
  obtain ⟨place, hadd⟩ := hadd
  refine ⟨⟨h.sound.addFrame hq, fun r g hg => ?_, hadd.apart h.apart fun k hk =>
    h.not_found (hnew k hk), fun k hk => ?_, hnumbered, fun fs hfs => hmin ▸ h.emitted_lt fs hfs,
    h.emitted_header, fun fs hfs g hg => hold g (h.emitted_genuine fs hfs g hg),
    fun fs hfs fs' hfs' => h.current fs hfs fs' (hbelow _ (h.emitted_lt fs hfs) fs' hfs')⟩, hmin⟩
  · rcases (hadd r g).mp hg with hg | ⟨-, rfl⟩
    · exact hold g (h.genuine r g hg)
    · exact hgenuine
  · rcases hkept k hk with hlt | hmsg
    · exact (h.kept k hlt).imp_right fun hfound => hadd.found (Or.inl hfound)
    · exact Or.inr (hadd.found (Or.inr hmsg))

/-- A frame that carries no message, such as a ping or a pong. -/
lemma Custody.addUnordered (h : q.Custody sent emitted taken) {clock : Clock} {body : Bytes}
    (hbody : body.length ≤ 8191) (hq : q.addFrame clock (Frame.new .unreliable body) = .ok q') :
    q'.Custody sent emitted taken ∧ q'.sendMin = q.sendMin := by
  have hnone : (Frame.new .unreliable body).message = none := rfl
  refine h.addFrame ⟨rfl, ⟨Nat.two_pow_pos 24, Nat.two_pow_pos 24, Nat.two_pow_pos 24, hbody⟩,
    fun k hk => ?_⟩ (fun g hg => hg) (fun k hk => ?_) (fun k hk => Or.inl hk) hq
  · rw [hnone] at hk
    cases hk
  · rw [hnone] at hk
    cases hk

lemma sendMin_received (q : PacketQueue) (n : ℕ) : (q.received n).sendMin = q.sendMin := by
  rw [received]
  split_ifs <;> rfl

/-- **An acknowledgement** of a number whose messages have been taken keeps custody. -/
lemma Custody.received (h : q.Custody sent emitted taken) {n : ℕ}
    (hn : q.Settled emitted taken n) : (q.received n).Custody sent emitted taken := by
  obtain ⟨hlt, fs, hfs, hseq, htaken⟩ := hn
  have hempty := emptied_received q n
  have hold : ∀ m fs, (q.received n).queue.lookup m = some fs → q.queue.lookup m = some fs := by
    intro m fs hm
    rw [lookup_received] at hm
    split_ifs at hm
    exact hm
  refine ⟨h.sound.received (Or.inl hlt), fun r f hf => h.genuine r f ((hempty r f).mp hf).1,
    hempty.apart h.apart, fun k hk => ?_, fun m fs hm => h.numbered m fs (hold m fs hm),
    fun fs hfs => sendMin_received q n ▸ h.emitted_lt fs hfs, h.emitted_header,
    h.emitted_genuine, fun fs hfs fs' hfs' => h.current fs hfs fs' (hold _ fs' hfs')⟩
  rcases h.kept k hk with htk | hfound
  · exact Or.inl htk
  · rcases hempty.found hfound with hfound | ⟨f, hf, hmsg⟩
    · exact Or.inr hfound
    · -- the frame goes with the set that was sent under `n`, and that has been taken
      obtain ⟨fs', hfs', hf⟩ := holds_some.mp hf
      obtain rfl := h.current fs hfs fs' (hseq ▸ hfs')
      exact Or.inl (htaken f hf k hmsg)

lemma Custody.receivedAll (h : q.Custody sent emitted taken) {l : List ℕ}
    (hl : ∀ n ∈ l, q.Settled emitted taken n) :
    (l.foldl PacketQueue.received q).Custody sent emitted taken
      ∧ (l.foldl PacketQueue.received q).sendMin = q.sendMin := by
  induction l generalizing q with
  | nil => exact ⟨h, rfl⟩
  | cons n l ih =>
      have hmin := sendMin_received q n
      obtain ⟨hrest, hrestmin⟩ := ih (h.received (hl n List.mem_cons_self)) fun m hm =>
        (hl m (List.mem_cons_of_mem _ hm)).mono hmin.ge (fun _ hk => hk) fun _ hfs => hfs
      exact ⟨hrest, hrestmin.trans hmin⟩

/-- A resend request for a number that was sent keeps custody. -/
lemma Custody.resend (h : q.Custody sent emitted taken) {clock : Clock} {n : ℕ}
    (hn : n < q.sendMin) (hq : q.resend clock n = .ok q') :
    q'.Custody sent emitted taken ∧ q'.sendMin = q.sendMin := by
  rcases h.sound.resend_eq_ok (Or.inl hn) hq with rfl | hstep
  · exact ⟨h, rfl⟩
  · exact h.renumbers hstep

/-- Sending what was not sent yet. -/
lemma Custody.allSent (h : q.Custody sent emitted taken) :
    Custody { q.sent with resends := [] } sent (emitted ++ q.sets) taken := by
  have hsets : ∀ fs ∈ q.sets, ∃ n, n < q.max ∧ q.queue.lookup n = some fs := by
    intro fs hfs
    obtain ⟨n, hn, hlookup⟩ := List.mem_filterMap.mp hfs
    exact ⟨n, (mem_unsent.mp hn).2, hlookup⟩
  refine ⟨h.sound.sent.withResends, h.genuine, h.apart, h.kept, h.numbered, fun fs hfs => ?_,
    fun fs hfs => ?_, fun fs hfs f hf => ?_, fun fs hfs fs' hfs' => ?_⟩
  · rcases List.mem_append.mp hfs with hfs | hfs
    · exact (h.emitted_lt fs hfs).trans_le h.sound.sendMin_le
    · obtain ⟨n, hlt, hlookup⟩ := hsets fs hfs
      exact (h.numbered n fs hlookup).1 ▸ hlt
  · rcases List.mem_append.mp hfs with hfs | hfs
    · exact h.emitted_header fs hfs
    · obtain ⟨n, -, hlookup⟩ := hsets fs hfs
      exact (h.numbered n fs hlookup).2
  · rcases List.mem_append.mp hfs with hfs | hfs
    · exact h.emitted_genuine fs hfs f hf
    · obtain ⟨n, -, hlookup⟩ := hsets fs hfs
      exact h.genuine (some n) f (holds_some.mpr ⟨fs, hlookup, hf⟩)
  · rcases List.mem_append.mp hfs with hfs | hfs
    · exact h.current fs hfs fs' hfs'
    · obtain ⟨n, -, hlookup⟩ := hsets fs hfs
      obtain rfl := (h.numbered n fs hlookup).1
      exact Option.some.inj (hfs'.symm.trans hlookup)

/-- **`get_packet` keeps custody**, and what it returns has been emitted. -/
lemma Custody.getPacket (h : q.Custody sent emitted taken) {clock : Clock} {order : IterOrder ℕ}
    {ret : List FrameSet} (hq : q.getPacket clock order = .ok (ret, q')) :
    q'.Custody sent (emitted ++ ret) taken ∧ q.sendMin ≤ q'.sendMin := by
  obtain ⟨q₁, q₂, resends, hflush, hsound, hmoves, h₂, rfl, rfl⟩ := h.sound.getPacket_spec hq
  obtain ⟨h₁, hmin₁⟩ := h.flush hflush
  have hstart : Custody { q₁ with resends := resends } sent emitted taken :=
    { h₁ with sound := hsound }
  have hend : q₂.Custody sent emitted taken ∧ q₂.sendMin = q₁.sendMin := by
    clear h₂ hq
    induction hmoves with
    | refl => exact ⟨hstart, rfl⟩
    | tail _ hstep ih =>
        obtain ⟨hcustody, hmin⟩ := ih.1.renumbers hstep
        exact ⟨hcustody, hmin.trans ih.2⟩
  refine ⟨hend.1.allSent, ?_⟩
  calc q.sendMin = q₂.sendMin := (hend.2.trans hmin₁).symm
    _ ≤ q₂.max := h₂.sendMin_le

end PacketQueue

end ActixRaknet
