import ActixRaknet.Packets.Decoding

/-!
The magic of the offline packets.

* `OfflineType`: the eight packets that carry the magic, with the place where they carry it;
* `WrongMagic`: a datagram with other bytes at that place, and `notices_wrongMagic`: the decoder
  records it;
* `Reads`: a datagram with the id of a packet that it decodes to, or panics on;
* `unwrapOrReturn_keeps_iff_not_reads`: when a handler that has to decode keeps what it would
  change.
-/

namespace ActixRaknet

open Fallible Reader

/-- The packets that carry the magic. -/
inductive OfflineType
  | alreadyConnected
  | incompatibleProtocolVersion
  | openConnectionReply1
  | openConnectionReply2
  | openConnectionRequest1
  | openConnectionRequest2
  | unconnectedPing
  | unconnectedPong
  deriving DecidableEq, Repr

namespace OfflineType

/-- The id of the packet. -/
def id : OfflineType → UInt8
  | alreadyConnected => Packet.ID AlreadyConnected
  | incompatibleProtocolVersion => Packet.ID IncompatibleProtocolVersion
  | openConnectionReply1 => Packet.ID OpenConnectionReply1
  | openConnectionReply2 => Packet.ID OpenConnectionReply2
  | openConnectionRequest1 => Packet.ID OpenConnectionRequest1
  | openConnectionRequest2 => Packet.ID OpenConnectionRequest2
  | unconnectedPing => Packet.ID UnconnectedPing
  | unconnectedPong => Packet.ID UnconnectedPong

/-- The number of bytes between the id and the magic. -/
def before : OfflineType → ℕ
  | incompatibleProtocolVersion => 1
  | unconnectedPing => 8
  | unconnectedPong => 16
  | _ => 0

/-- A packet decoded from the bytes has recorded that the magic is wrong. -/
def Notices : OfflineType → Bytes → Prop
  | alreadyConnected, b => ∀ p, decode AlreadyConnected b = .ok (.ok p) → p.magic = false
  | incompatibleProtocolVersion, b =>
    ∀ p, decode IncompatibleProtocolVersion b = .ok (.ok p) → p.magic = false
  | openConnectionReply1, b => ∀ p, decode OpenConnectionReply1 b = .ok (.ok p) → p.magic = false
  | openConnectionReply2, b => ∀ p, decode OpenConnectionReply2 b = .ok (.ok p) → p.magic = false
  | openConnectionRequest1, b =>
    ∀ p, decode OpenConnectionRequest1 b = .ok (.ok p) → p.magic = false
  | openConnectionRequest2, b =>
    ∀ p, decode OpenConnectionRequest2 b = .ok (.ok p) → p.magic = false
  | unconnectedPing, b => ∀ p, decode UnconnectedPing b = .ok (.ok p) → p.magic = false
  | unconnectedPong, b => ∀ p, decode UnconnectedPong b = .ok (.ok p) → p.magic = false

end OfflineType

/-- The sixteen bytes at the place of the magic differ from it. -/
structure WrongMagic (t : OfflineType) (bytes : Bytes) : Prop where
  head : bytes.head? = some t.id
  enough : t.before + 16 ≤ bytes.tail.length
  wrong : (bytes.tail.drop t.before).take 16 ≠ MAGIC

instance (t : OfflineType) (bytes : Bytes) : Decidable (WrongMagic t bytes) :=
  decidable_of_iff (bytes.head? = some t.id ∧ t.before + 16 ≤ bytes.tail.length
      ∧ (bytes.tail.drop t.before).take 16 ≠ MAGIC)
    ⟨fun h => ⟨h.1, h.2.1, h.2.2⟩, fun h => ⟨h.head, h.enough, h.wrong⟩⟩

/-- Fields that take `n` bytes together. -/
def Wide (Fs : List (Bytes → Prop)) (n : ℕ) : Prop := ∀ y, Laid Fs y → y.length = n

lemma wide_nil : Wide [] 0 := by
  rintro _ ⟨⟩
  rfl

lemma Wide.cons {F : Bytes → Prop} {Fs : List (Bytes → Prop)} {j k : ℕ}
    (hF : ∀ x, F x → x.length = j) (hFs : Wide Fs k) : Wide (F :: Fs) (k + j) := by
  intro y hy
  cases hy with
  | cons hx hy => rw [List.length_append, hF _ hx, hFs _ hy, Nat.add_comm]

/-- The magic is read off the bytes behind the fields before it. -/
lemma magic_eq_false {id : UInt8} {Fs Gs : List (Bytes → Prop)} {n : ℕ} {magic : Bool}
    {x rest : Bytes} (hx : Laid (Fs ++ Magic magic :: Gs) x)
    (hFs : Wide Fs n)
    (hwrong : ((id :: (x ++ rest)).tail.drop n).take 16 ≠ MAGIC) : magic = false := by
  obtain ⟨y, z, rfl, hy, hz⟩ := Laid.split hx
  cases hz with
  | cons hmagic _ =>
      rename_i m z
      obtain rfl := hFs y hy
      rw [List.tail_cons, List.append_assoc, List.drop_left, List.append_assoc,
        List.take_left' hmagic.1] at hwrong
      rw [← hmagic.2, decide_eq_false hwrong]

/-- A faultless decoder notices the wrong magic. -/
lemma Faultless.notices {P : Type} [Packet P] [Fields P] {t : OfflineType} {bytes : Bytes} {p : P}
    (h : Faultless P bytes) (hwrong : WrongMagic t bytes) (hp : decode P bytes = .ok (.ok p))
    (Fs : List (Bytes → Prop)) {Gs : List (Bytes → Prop)} {magic : Bool}
    (hfields : Fields.fields p = Fs ++ Magic magic :: Gs)
    (hFs : Wide Fs t.before) : magic = false := by
  obtain ⟨id, x, rest, rfl, hx⟩ := h.own p hp
  exact magic_eq_false (hfields ▸ hx) hFs hwrong.wrong

lemma decode_request1_length {bytes : Bytes} {p : OpenConnectionRequest1}
    (h : decode OpenConnectionRequest1 bytes = .ok (.ok p)) : bytes.length + 31 < 2 ^ 16 := by
  cases bytes with
  | nil => cases h
  | cons id payload =>
      rw [decode_cons] at h
      simp only [Packet.read] at h
      split at h
      · cases h
      · obtain ⟨mtuSize, hmtu, -⟩ := bind_eq_ok.mp h
        rw [unwrapU16, ite_error_eq_ok] at hmtu
        rw [List.length_cons]
        omega

/-- **The decoder notices a wrong magic.** -/
theorem notices_wrongMagic {t : OfflineType} {bytes : Bytes} (h : WrongMagic t bytes) :
    t.Notices bytes := by
  have hb : bytes ≠ [] := by
    rintro rfl
    cases h.head
  cases t with
  | alreadyConnected =>
      exact fun p hp => (faultless_alreadyConnected hb).notices h hp [] rfl wide_nil
  | incompatibleProtocolVersion =>
      intro p hp
      have hbyte : ∀ x, Byte p.serverProtocol x → x.length = 1 := by
        rintro _ rfl
        rfl
      exact (faultless_incompatible hb).notices h hp [Byte p.serverProtocol] rfl
        (wide_nil.cons hbyte)
  | openConnectionReply1 => exact fun p hp => (faultless_reply1 hb).notices h hp [] rfl wide_nil
  | openConnectionReply2 => exact fun p hp => (faultless_reply2 hb).notices h hp [] rfl wide_nil
  | openConnectionRequest1 =>
      exact fun p hp =>
        (faultless_request1 hb (decode_request1_length hp)).notices h hp [] rfl wide_nil
  | openConnectionRequest2 =>
      exact fun p hp => (faultless_request2 hb).notices h hp [] rfl wide_nil
  | unconnectedPing =>
      intro p hp
      have htime : ∀ x, I64 p.time x → x.length = 8 := fun _ hx => hx.1
      exact (faultless_unconnectedPing hb).notices h hp [I64 p.time] rfl (wide_nil.cons htime)
  | unconnectedPong =>
      intro p hp
      have htime : ∀ x, I64 p.time x → x.length = 8 := fun _ hx => hx.1
      have hguid : ∀ x, U64 p.guid x → x.length = 8 := fun _ hx => hx.1
      exact (faultless_unconnectedPong hb).notices h hp [I64 p.time, U64 p.guid] rfl
        ((wide_nil.cons hguid).cons htime)

/-! ### Datagrams that decode -/

/-- The datagram has the id of a `P`, and decoding it does not end in an error. -/
def Reads (P : Type) [Packet P] (bytes : Bytes) : Prop :=
  bytes.head? = some (Packet.ID P) ∧ ∀ e, decode P bytes ≠ .ok (.error e)

/-- If `K` holds of the state and of no result of the handler, a packet that is to be decoded keeps
it exactly when it does not decode. -/
lemma unwrapOrReturn_keeps_iff {σ : Type} {P : Type} [Packet P] {buff : Bytes} {s : σ}
    {handler : P → Except Panic σ} {K : σ → Prop} (hs : K s)
    (hhandler : ∀ p s', handler p = .ok s' → ¬K s') :
    (∃ s', unwrapOrReturn P buff s handler = .ok s' ∧ K s')
      ↔ ∃ e, decode P buff = .ok (.error e) := by
  rw [unwrapOrReturn]
  rcases decode P buff with panic | ⟨e | p⟩
  · exact iff_of_false (by rintro ⟨s', ⟨⟩, -⟩) (by rintro ⟨e, ⟨⟩⟩)
  · exact iff_of_true ⟨s, rfl, hs⟩ ⟨e, rfl⟩
  · refine iff_of_false ?_ (by rintro ⟨e, ⟨⟩⟩)
    rintro ⟨s', hs', hK⟩
    exact hhandler p s' hs' hK

/-- The same in terms of `Reads`, for a datagram with the id of the packet. -/
lemma unwrapOrReturn_keeps_iff_not_reads {σ : Type} {P : Type} [Packet P] {buff : Bytes} {s : σ}
    {handler : P → Except Panic σ} {K : σ → Prop} (hs : K s)
    (hhandler : ∀ p s', handler p = .ok s' → ¬K s') (hid : buff.head? = some (Packet.ID P)) :
    (∃ s', unwrapOrReturn P buff s handler = .ok s' ∧ K s') ↔ ¬Reads P buff := by
  rw [unwrapOrReturn_keeps_iff hs hhandler, Reads, and_iff_right hid]
  simp only [ne_eq, not_forall, not_not]

lemma not_reads_of_id {P : Type} [Packet P] {bytes : Bytes} {id : UInt8}
    (hid : bytes.head? = some id) (hne : id ≠ Packet.ID P) : ¬Reads P bytes := by
  rintro ⟨hhead, -⟩
  exact hne (Option.some.inj (hid.symm.trans hhead))

end ActixRaknet
