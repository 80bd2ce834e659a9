import ActixRaknet.Codec.Scan
import ActixRaknet.Packets.Address
import ActixRaknet.Packets.Ack

/-!
The decoders of the packets on arbitrary bytes.

* `Fields`: the fields of a packet in the order of its bytes;
* `Faultless P b`: decoding `b` as a `P` returns, and a packet that it returns has each field read
  off bytes of its own; `faultless_readWith` for the packets that are read field by field;
* `faultless_timestamps_iff`: what the two subtractions before the timestamps need;
* `decodes_iff`: every decoder is faultless on the bytes of a datagram, but for the two packets
  whose timestamps may begin inside the fields before them;
* `length_of_timestamps`: a packet that decodes with its timestamps has more than 17 bytes.
-/

namespace ActixRaknet

open Fallible Reader

/-! ### The images of the fields -/

/-- The byte of an 8-bit field. -/
def Byte (b : UInt8) (x : Bytes) : Prop := x = [b]

/-- The bytes of a 16-bit field. -/
def U16 (v : UInt16) : Bytes → Prop := Word UInt16.ofNat 2 .big v

/-- The bytes of a 64-bit field. -/
def U64 (v : UInt64) : Bytes → Prop := Word UInt64.ofNat 8 .big v

/-- The bytes of a signed 64-bit field. -/
def I64 (v : Int64) : Bytes → Prop := Word (fun n => (UInt64.ofNat n).toInt64) 8 .big v

/-- Sixteen bytes, which are the magic or not. -/
def Magic (magic : Bool) (x : Bytes) : Prop := x.length = 16 ∧ decide (x = MAGIC) = magic

/-- A counted string. -/
def Counted (s : String) (x : Bytes) : Prop :=
  ∃ size body, x = size ++ body ∧ Word UInt16.ofNat 2 .big (UInt16.ofNat body.length) size
    ∧ body.length < 2 ^ 16 ∧ fromUtf8 body = .ok s

/-- Bytes that a decoder skips. -/
def Skipped (_ : Bytes) : Prop := True

/-- The fields of an address. -/
def SocketAddr.fields : SocketAddr → List (Bytes → Prop)
  | .v4 ip port => [Byte 4, Byte (0xff - ip.a), Byte (0xff - ip.b), Byte (0xff - ip.c),
      Byte (0xff - ip.d), U16 port]
  | .v6 ip port => [fun x => ∃ v ≠ 4, x = [v], Skipped, Word UInt16.ofNat 2 .little port, Skipped,
      fun x => x.length = 16 ∧ ∃ r, readIpv6.run (Reader.new x) = .ok (ip, r), Skipped]

/-- The bytes of an address. -/
def SocketAddr.Wire (address : SocketAddr) : Bytes → Prop := Laid address.fields

lemma spells_readMagic : Spells readMagic Magic :=
  ((scans_readExact 16).map _).spells.imp <| by
    rintro b x ⟨_, ⟨rfl, hx⟩, rfl⟩
    exact ⟨hx, rfl⟩

lemma spells_readString : Spells readString Counted :=
  ((scans_readU16 .big).spells.bind fun size =>
    (scans_readExact size.toNat).spells.bind fun strbuf =>
      (scans_lift (fromUtf8 strbuf)).spells).imp
      <| by
    rintro s _ ⟨n, size, _, rfl, hsize, body, _, _, rfl, ⟨rfl, hbody⟩, hs, rfl⟩
    refine ⟨size, _, by rw [List.append_nil], ?_, hbody ▸ n.toNat_lt, hs⟩
    rwa [hbody, UInt16.ofNat_toNat]

/-- The branch of `Reader::read_address` for an IPv4 address. -/
def readV4 : ReadM SocketAddr := do
  let a ← readU8
  let b ← readU8
  let c ← readU8
  let d ← readU8
  let port ← readU16 .big
  return .v4 ⟨0xff - a, 0xff - b, 0xff - c, 0xff - d⟩ port

/-- The branch of `Reader::read_address` for an IPv6 address. -/
def readV6 : ReadM SocketAddr := do
  next 2
  let port ← readU16 .little
  next 4
  let addrBuf ← readExact 16
  next 4
  let (ip, _) ← readIpv6.run (Reader.new addrBuf)
  return .v6 ip port

lemma readAddress_eq :
    readAddress = (do let ipVer ← readU8; if ipVer = 4 then readV4 else readV6) := rfl

lemma parses_readV4 : Parses readV4 fun a Fs => ∃ ip port, a = .v4 ip port
    ∧ Byte 4 :: Fs = (SocketAddr.v4 ip port).fields :=
  (scans_readU8.spells.field fun _ => scans_readU8.spells.field fun _ =>
    scans_readU8.spells.field fun _ => scans_readU8.spells.field fun _ =>
    (scans_readU16 .big).spells.field fun _ => parses_pure _).imp <| by
      have hback (b : UInt8) : 0xff - (0xff - b) = b := by grind
      rintro _ x ⟨_, ⟨a, _, rfl, b, _, rfl, c, _, rfl, d, _, rfl, port, _, rfl, rfl, rfl⟩, hx⟩
      refine ⟨_, ⟨_, _, rfl, ?_⟩, hx⟩
      simp only [SocketAddr.fields, hback]
      rfl

lemma parses_readV6 : Parses readV6 fun a Fs => ∃ ip port, a = .v6 ip port
    ∧ (fun x => ∃ v ≠ 4, x = [v]) :: Fs = (SocketAddr.v6 ip port).fields :=
  ((scans_next 2).spells.field fun _ => (scans_readU16 .little).spells.field fun _ =>
    (scans_next 4).spells.field fun _ => (scans_readExact 16).spells.field fun _ =>
    (scans_next 4).spells.field fun _ => parses_lift fun _ => parses_pure _).imp <| by
      rintro _ x ⟨_, ⟨_, _, rfl, port, _, rfl, _, _, rfl, octets, _, rfl, _, _, rfl, ⟨ip, r⟩, hip,
        rfl, rfl⟩, hx⟩
      refine ⟨_, ⟨ip, port, rfl, rfl⟩, hx.imp ?_⟩
      have hoctets : ∀ x, x = octets ∧ x.length = 16 →
          x.length = 16 ∧ ∃ r, readIpv6.run (Reader.new x) = .ok (ip, r) := by
        rintro _ ⟨rfl, hlen⟩
        exact ⟨hlen, r, hip⟩
      exact .cons (fun _ _ => trivial) <| .cons (fun _ => id) <| .cons (fun _ _ => trivial) <|
        .cons hoctets <| .cons (fun _ _ => trivial) .nil

lemma spells_readAddress : Spells readAddress SocketAddr.Wire := by
  rw [readAddress_eq]
  refine (scans_readU8.spells.field fun v => parses_ite parses_readV4 parses_readV6).imp ?_
  rintro _ x ⟨_, ⟨v, Fs, rfl, h⟩, hx⟩
  rcases h with ⟨rfl, ip, port, rfl, hFs⟩ | ⟨hv, ip, port, rfl, hFs⟩
  · rw [SocketAddr.Wire, ← hFs]
    exact hx
  · rw [SocketAddr.Wire, ← hFs]
    cases hx with
    | cons hx hy => exact Laid.cons ⟨v, hv, hx⟩ hy

/-! ### The fields of the packets -/

/-- The fields of a packet, in the order of its bytes. -/
class Fields (P : Type) where
  fields : P → List (Bytes → Prop)

open Fields

instance : Fields ConnectedPing where
  fields p := [I64 p.clientTimestamp]

instance : Fields ConnectedPong where
  fields p := [I64 p.clientTimestamp, I64 p.serverTimestamp]

instance : Fields Disconnected where
  fields _ := []

instance : Fields ConnectionRequest where
  fields p := [U64 p.guid, I64 p.time, Byte p.useEncryption]

instance : Fields ConnectionRequestAccepted where
  fields p := [p.clientAddress.Wire, U16 p.systemIndex, Skipped, I64 p.requestTimestamp,
    I64 p.acceptedTimestamp]

instance : Fields NewIncomingConnection where
  fields p := [p.serverAddress.Wire, Skipped, I64 p.requestTimestamp, I64 p.acceptedTimestamp]

instance : Fields OpenConnectionRequest1 where
  fields p := [Magic p.magic, Byte p.protocolVersion]

instance : Fields OpenConnectionReply1 where
  fields p := [Magic p.magic, U64 p.guid, Byte p.useEncryption, U16 p.mtuSize]

instance : Fields OpenConnectionRequest2 where
  fields p := [Magic p.magic, p.address.Wire, U16 p.mtu, U64 p.guid]

instance : Fields OpenConnectionReply2 where
  fields p := [Magic p.magic, U64 p.guid, p.address.Wire, U16 p.mtu, Byte p.encryptionEnabled]

instance : Fields AlreadyConnected where
  fields p := [Magic p.magic, U64 p.guid]

instance : Fields IncompatibleProtocolVersion where
  fields p := [Byte p.serverProtocol, Magic p.magic, U64 p.serverGuid]

instance : Fields UnconnectedPing where
  fields p := [I64 p.time, Magic p.magic, U64 p.guid]

instance : Fields UnconnectedPong where
  fields p := [I64 p.time, U64 p.guid, Magic p.magic, Counted p.motd]

/-- The fields of a record of an `Ack` or a `Nack`: a single number has no second one. -/
def SequenceRecord.fields (p : SequenceRecord) : List (Bytes → Prop) :=
  [U16 p.recordCount, fun x => ∃ flag, x = [flag] ∧ decide (flag ≠ 0) = p.maxEqualsMin,
    Number .little 3 p.sequences.1,
    Field (!p.maxEqualsMin) (Number .little 3) p.sequences.1 p.sequences.2]

instance : Fields Ack where
  fields p := p.record.fields

instance : Fields Nack where
  fields p := p.record.fields

/-- Decoding `b` as a `P` returns, and a packet that it returns has each of its fields in bytes
of its own, one field behind the other. -/
structure Faultless (P : Type) [Packet P] [Fields P] (b : Bytes) : Prop where
  returns : ∃ result, decode P b = .ok result
  own : ∀ p, decode P b = .ok (.ok p) → ∃ id x rest, b = id :: (x ++ rest) ∧ Laid (fields p) x

/-! ### Packets that are read field by field -/

/-- A packet that is read field by field, the last field from bytes that must be there. -/
lemma faultless_readWith {P : Type} [Packet P] [Fields P] {m : ReadM P}
    {S : P → List (Bytes → Prop) → Prop}
    (hread : ∀ payload, (Packet.read payload : Except Panic (Except IoError P))
      = readWith m payload)
    (hm : Parses m S) (hkeeps : Keeps m)
    (hS : ∀ p Fs x, S p Fs → Laid Fs x → Laid (fields p) x) {b : Bytes} (hb : b ≠ []) :
    Faultless P b := by
  obtain ⟨id, payload, rfl⟩ := List.exists_cons_of_ne_nil hb
  rw [← List.singleton_append]
  refine ⟨⟨_, hread payload⟩, fun p hp => ?_⟩
  have hdecode : readWith m payload = .ok (.ok p) := (hread payload).symm.trans hp
  obtain ⟨⟨p', r⟩, hrun, rfl⟩ := map_eq_ok.mp (Except.ok.inj hdecode)
  obtain ⟨Fs, x, rest, rfl, hSp, hx⟩ := hm.own hrun (hkeeps _ _ _ hrun (Nat.zero_le _))
  exact ⟨id, x, rest, rfl, hS _ Fs x hSp hx⟩

lemma lands_readMagic : Lands readMagic := (lands_readExact (Nat.succ_pos 15)).map _

lemma keeps_readString : Keeps readString :=
  (lands_readU16 .big).keeps.bind fun _ => (keeps_readExact _).bind fun _ => keeps_lift _

lemma faultless_connectedPing {b : Bytes} (hb : b ≠ []) : Faultless ConnectedPing b := by
  refine faultless_readWith (fun _ => rfl) ((scans_readI64 .big).field_map _)
    ((lands_readI64 .big).map _).keeps ?_ hb
  rintro _ _ x ⟨_, rfl, rfl⟩ hx
  exact hx

lemma faultless_connectedPong {b : Bytes} (hb : b ≠ []) : Faultless ConnectedPong b := by
  refine faultless_readWith (fun _ => rfl)
    ((scans_readI64 .big).spells.field fun _ => (scans_readI64 .big).spells.field fun _ =>
      parses_pure _)
    (Lands.bind_right fun _ => (lands_readI64 .big).bind fun _ => keeps_pure _).keeps ?_ hb
  rintro _ _ x ⟨_, _, rfl, _, _, rfl, rfl, rfl⟩ hx
  exact hx

lemma faultless_disconnected {b : Bytes} (hb : b ≠ []) : Faultless Disconnected b := by
  refine faultless_readWith (fun _ => rfl) (parses_pure _) (keeps_pure _) ?_ hb
  rintro _ _ x ⟨rfl, rfl⟩ hx
  exact hx

lemma faultless_connectionRequest {b : Bytes} (hb : b ≠ []) : Faultless ConnectionRequest b := by
  refine faultless_readWith (fun _ => rfl)
    ((scans_readU64 .big).spells.field fun _ => (scans_readI64 .big).spells.field fun _ =>
      scans_readU8.spells.field fun _ => parses_pure _)
    (Lands.bind_right fun _ => Lands.bind_right fun _ =>
      lands_readU8.bind fun _ => keeps_pure _).keeps ?_ hb
  rintro _ _ x ⟨_, _, rfl, _, _, rfl, _, _, rfl, rfl, rfl⟩ hx
  exact hx

lemma faultless_reply1 {b : Bytes} (hb : b ≠ []) : Faultless OpenConnectionReply1 b := by
  refine faultless_readWith (fun _ => rfl)
    (spells_readMagic.field fun _ => (scans_readU64 .big).spells.field fun _ =>
      scans_readU8.spells.field fun _ => (scans_readU16 .big).spells.field fun _ => parses_pure _)
    (Lands.bind_right fun _ => Lands.bind_right fun _ => Lands.bind_right fun _ =>
      (lands_readU16 .big).bind fun _ => keeps_pure _).keeps ?_ hb
  rintro _ _ x ⟨_, _, rfl, _, _, rfl, _, _, rfl, _, _, rfl, rfl, rfl⟩ hx
  exact hx

lemma faultless_request2 {b : Bytes} (hb : b ≠ []) : Faultless OpenConnectionRequest2 b := by
  refine faultless_readWith (fun _ => rfl)
    (spells_readMagic.field fun _ => spells_readAddress.field fun _ =>
      (scans_readU16 .big).spells.field fun _ => (scans_readU64 .big).spells.field fun _ =>
      parses_pure _)
    (Lands.bind_right fun _ => Lands.bind_right fun _ => Lands.bind_right fun _ =>
      (lands_readU64 .big).bind fun _ => keeps_pure _).keeps ?_ hb
  rintro _ _ x ⟨_, _, rfl, _, _, rfl, _, _, rfl, _, _, rfl, rfl, rfl⟩ hx
  exact hx

lemma faultless_reply2 {b : Bytes} (hb : b ≠ []) : Faultless OpenConnectionReply2 b := by
  refine faultless_readWith (fun _ => rfl)
    (spells_readMagic.field fun _ => (scans_readU64 .big).spells.field fun _ =>
      spells_readAddress.field fun _ => (scans_readU16 .big).spells.field fun _ =>
      scans_readU8.spells.field fun _ => parses_pure _)
    (Lands.bind_right fun _ => Lands.bind_right fun _ => Lands.bind_right fun _ =>
      Lands.bind_right fun _ => lands_readU8.bind fun _ => keeps_pure _).keeps ?_ hb
  rintro _ _ x ⟨_, _, rfl, _, _, rfl, _, _, rfl, _, _, rfl, _, _, rfl, rfl, rfl⟩ hx
  exact hx

lemma faultless_alreadyConnected {b : Bytes} (hb : b ≠ []) : Faultless AlreadyConnected b := by
  refine faultless_readWith (fun _ => rfl)
    (spells_readMagic.field fun _ => (scans_readU64 .big).spells.field fun _ => parses_pure _)
    (Lands.bind_right fun _ => (lands_readU64 .big).bind fun _ => keeps_pure _).keeps ?_ hb
  rintro _ _ x ⟨_, _, rfl, _, _, rfl, rfl, rfl⟩ hx
  exact hx

lemma faultless_incompatible {b : Bytes} (hb : b ≠ []) :
    Faultless IncompatibleProtocolVersion b := by
  refine faultless_readWith (fun _ => rfl)
    (scans_readU8.spells.field fun _ => spells_readMagic.field fun _ =>
      (scans_readU64 .big).spells.field fun _ => parses_pure _)
    (Lands.bind_right fun _ => Lands.bind_right fun _ =>
      (lands_readU64 .big).bind fun _ => keeps_pure _).keeps ?_ hb
  rintro _ _ x ⟨_, _, rfl, _, _, rfl, _, _, rfl, rfl, rfl⟩ hx
  exact hx

lemma faultless_unconnectedPing {b : Bytes} (hb : b ≠ []) : Faultless UnconnectedPing b := by
  refine faultless_readWith (fun _ => rfl)
    ((scans_readI64 .big).spells.field fun _ => spells_readMagic.field fun _ =>
      (scans_readU64 .big).spells.field fun _ => parses_pure _)
    (Lands.bind_right fun _ => Lands.bind_right fun _ =>
      (lands_readU64 .big).bind fun _ => keeps_pure _).keeps ?_ hb
  rintro _ _ x ⟨_, _, rfl, _, _, rfl, _, _, rfl, rfl, rfl⟩ hx
  exact hx

lemma faultless_unconnectedPong {b : Bytes} (hb : b ≠ []) : Faultless UnconnectedPong b := by
  refine faultless_readWith (fun _ => rfl)
    ((scans_readI64 .big).spells.field fun _ => (scans_readU64 .big).spells.field fun _ =>
      spells_readMagic.field fun _ => spells_readString.field fun _ => parses_pure _)
    (Keeps.bind (lands_readI64 .big).keeps fun _ => (lands_readU64 .big).keeps.bind fun _ =>
      lands_readMagic.keeps.bind fun _ => keeps_readString.bind fun _ => keeps_pure _) ?_ hb
  rintro _ _ x ⟨_, _, rfl, _, _, rfl, _, _, rfl, _, _, rfl, rfl, rfl⟩ hx
  exact hx

/-- A record lies in its fields, the second number behind the first if there is one. -/
lemma parses_record : Parses SequenceRecord.read fun p Fs =>
    ∀ x, Laid Fs x → Laid p.fields x :=
  ((scans_readU16 .big).spells.field fun _ => scans_readU8.spells.field fun flag =>
    (scans_readU24 .little).spells.field fun sequence =>
    ((scans_readU24 .little).readIf (!decide (flag ≠ 0)) sequence).spells.field fun _ =>
    parses_pure _).imp <| by
      rintro _ x ⟨_, ⟨_, _, rfl, flag, _, rfl, _, _, rfl, _, _, rfl, rfl, rfl⟩, hx⟩
      refine ⟨_, fun x hx => hx.imp ?_, hx⟩
      exact .cons (fun _ => id) <| .cons (fun x hx => ⟨flag, hx, rfl⟩) <| .cons (fun _ => id) <|
        .cons (fun _ => id) .nil

lemma keeps_record : Keeps SequenceRecord.read :=
  (Lands.bind_right fun _ => Lands.bind_right fun _ => (lands_readU24 .little).bind fun _ =>
    ((lands_readU24 .little).keeps.readIf _ _).bind fun _ => keeps_pure _).keeps

lemma faultless_ack {b : Bytes} (hb : b ≠ []) : Faultless Ack b := by
  refine faultless_readWith (fun _ => rfl) (parses_record.map _) (keeps_record.map _) ?_ hb
  rintro _ Fs x ⟨p, rfl, hFs⟩ hx
  exact hFs x hx

lemma faultless_nack {b : Bytes} (hb : b ≠ []) : Faultless Nack b := by
  refine faultless_readWith (fun _ => rfl) (parses_record.map _) (keeps_record.map _) ?_ hb
  rintro _ Fs x ⟨p, rfl, hFs⟩ hx
  exact hFs x hx

/-! ### The packets with a check of their own -/

lemma parses_readVersion : Parses readVersion fun p Fs => Fs = [Magic p.1, Byte p.2] :=
  (spells_readMagic.field fun _ => scans_readU8.spells.field fun _ => parses_pure _).imp <| by
    rintro _ x ⟨_, ⟨_, _, rfl, _, _, rfl, rfl, rfl⟩, hx⟩
    exact ⟨_, rfl, hx⟩

/-- The length of a datagram and its headers fits sixteen bits. -/
lemma faultless_request1 {b : Bytes} (hb : b ≠ []) (hlen : b.length + 31 < 2 ^ 16) :
    Faultless OpenConnectionRequest1 b := by
  obtain ⟨id, payload, rfl⟩ := List.exists_cons_of_ne_nil hb
  have hmtu : unwrapU16 (payload.length + 32) = .ok (UInt16.ofNat (payload.length + 32)) := by
    rw [List.length_cons] at hlen
    exact if_pos (by omega)
  have hlands : Lands readVersion :=
    Lands.bind_right fun _ => lands_readU8.bind fun _ => keeps_pure _
  cases hrun : readVersion.run (Reader.new payload) with
  | error e =>
      have hdecode : decode OpenConnectionRequest1 (id :: payload) = .ok (.error e) := by
        rw [decode_cons]
        simp only [Packet.read, hrun]
      refine ⟨⟨_, hdecode⟩, fun p hp => ?_⟩
      cases hdecode.symm.trans hp
  | ok vr =>
      obtain ⟨⟨magic, version⟩, r⟩ := vr
      have hdecode : decode OpenConnectionRequest1 (id :: payload)
          = .ok (.ok ⟨magic, version, UInt16.ofNat (payload.length + 32)⟩) := by
        rw [decode_cons]
        simp only [Packet.read, hrun, hmtu, ok_bind, pure_eq_ok]
      refine ⟨⟨_, hdecode⟩, fun p hp => ?_⟩
      cases hdecode.symm.trans hp
      obtain ⟨_, x, rest, rfl, rfl, hx⟩ := parses_readVersion.own hrun (hlands _ _ _ hrun)
      exact ⟨id, x, rest, rfl, hx⟩

/-- The two timestamps behind `skipped` bytes. -/
def readTimestampsAfter (skipped : ℕ) : ReadM (Int64 × Int64) := do
  next skipped
  let requestTimestamp ← readI64 .big
  let acceptedTimestamp ← readI64 .big
  return (requestTimestamp, acceptedTimestamp)

lemma parses_readTimestampsAfter (skipped : ℕ) : Parses (readTimestampsAfter skipped)
    fun t Fs => Fs = [Skipped, I64 t.1, I64 t.2] :=
  (((scans_next skipped).spells.imp (S := fun _ => Skipped) fun _ _ _ => trivial).field fun _ =>
    (scans_readI64 .big).spells.field fun _ => (scans_readI64 .big).spells.field fun _ =>
    parses_pure _).imp <| by
      rintro _ x ⟨_, ⟨_, _, rfl, _, _, rfl, _, _, rfl, rfl, rfl⟩, hx⟩
      exact ⟨_, rfl, hx⟩

/-- The subtractions before the timestamps need sixteen bytes behind the cursor. -/
lemma readTimestamps_eq_ok {payload : Bytes} {cursor : Reader}
    {result : Except IoError (Int64 × Int64)} :
    readTimestamps payload cursor = .ok result ↔ cursor.pos + 16 ≤ payload.length
      ∧ Prod.fst <$> (readTimestampsAfter (payload.length - 16 - cursor.pos)).run cursor
        = result := by
  simp only [readTimestamps, usizeSub, bind_eq_ok, ite_error_eq_ok, Except.ok.injEq, pure_eq_ok]
  constructor
  · rintro ⟨_, ⟨hlast, rfl⟩, _, ⟨hpos, rfl⟩, h⟩
    exact ⟨by omega, h⟩
  · rintro ⟨hpos, h⟩
    exact ⟨_, ⟨by omega, rfl⟩, _, ⟨by omega, rfl⟩, h⟩

/-- A packet with its timestamps in the last sixteen bytes, behind the fields that `m` reads: its
decoder is faultless exactly if these fields end before the timestamps begin. -/
lemma faultless_timestamps_iff {P α : Type} [Packet P] [Fields P] {m : ReadM α}
    {S : α → List (Bytes → Prop) → Prop} {f : α → Int64 × Int64 → P}
    (hread : ∀ payload, (Packet.read payload : Except Panic (Except IoError P))
      = match m.run (Reader.new payload) with
        | .error e => .ok (.error e)
        | .ok (a, cursor) => do
          let timestamps ← readTimestamps payload cursor
          return f a <$> timestamps)
    (hm : Parses m S)
    (hS : ∀ a t Fs x, S a Fs → Laid (Fs ++ [Skipped, I64 t.1, I64 t.2]) x
      → Laid (fields (f a t)) x)
    {id : UInt8} {payload : Bytes} :
    Faultless P (id :: payload) ↔ ∀ a cursor, m.run (Reader.new payload) = .ok (a, cursor) →
      cursor.pos + 16 ≤ payload.length := by
  constructor
  · rintro ⟨⟨result, hresult⟩, -⟩ a cursor hrun
    rw [decode_cons, hread, hrun] at hresult
    obtain ⟨t, ht, -⟩ := bind_eq_ok.mp hresult
    exact (readTimestamps_eq_ok.mp ht).1
  · intro hleaves
    cases hrun : m.run (Reader.new payload) with
    | error e =>
        have hdecode : decode P (id :: payload) = .ok (.error e) := by
          rw [decode_cons, hread, hrun]
        refine ⟨⟨_, hdecode⟩, fun p hp => ?_⟩
        cases hdecode.symm.trans hp
    | ok ar =>
        obtain ⟨a, cursor⟩ := ar
        have ht := readTimestamps_eq_ok.mpr ⟨hleaves a cursor hrun, rfl⟩
        have hdecode : decode P (id :: payload) = .ok (f a <$> Prod.fst <$>
            (readTimestampsAfter (payload.length - 16 - cursor.pos)).run cursor) := by
          rw [decode_cons, hread, hrun]
          simp only [ht, ok_bind, pure_eq_ok]
        refine ⟨⟨_, hdecode⟩, fun p hp => ?_⟩
        obtain ⟨t, hfst, rfl⟩ := map_eq_ok.mp (Except.ok.inj (hdecode.symm.trans hp))
        obtain ⟨⟨t, r⟩, hrun', rfl⟩ := map_eq_ok.mp hfst
        -- the two readers one behind the other
        have hall : (m >>= fun a => Prod.mk a <$>
            readTimestampsAfter (payload.length - 16 - cursor.pos)).run (Reader.new payload)
              = .ok ((a, t), r) := by
          rw [StateT.run_bind, hrun, ok_bind, StateT.run_map, hrun', map_ok]
        have hlands : Lands (readTimestampsAfter (payload.length - 16 - cursor.pos)) :=
          Lands.bind_right fun _ => Lands.bind_right fun _ =>
            (lands_readI64 .big).bind fun _ => keeps_pure _
        obtain ⟨_, x, rest, rfl, ⟨_, Gs, _, rfl, hGs, _, heq, rfl⟩, hx⟩ :=
          (hm.bind fun _ => (parses_readTimestampsAfter _).map _).own hall (hlands _ _ _ hrun')
        obtain ⟨rfl, rfl⟩ := Prod.mk.inj heq
        exact ⟨id, x, rest, rfl, hS _ _ _ x hGs hx⟩

/-- The payload is too short for the `need` bytes that are read before the timestamps, or the
timestamps lie behind the `taken` bytes that they move the cursor by. -/
def Leaves (need taken : ℕ) (payload : Bytes) : Prop :=
  payload.length < need ∨ taken + 16 ≤ payload.length

lemma needs_readV4 : Needs readV4 6 6 fun _ => True :=
  needs_readU8.bind le_rfl fun _ _ => needs_readU8.bind le_rfl fun _ _ =>
    needs_readU8.bind le_rfl fun _ _ => needs_readU8.bind le_rfl fun _ _ =>
    (needs_readU16 .big).bind_pure _

/-- Behind the sixteen bytes of an IPv6 address the cursor moves over four that may be missing. -/
lemma needs_readV6 : Needs readV6 24 28 fun _ => True := by
  have hip : ∀ addrBuf : Bytes, addrBuf.length = 16 → ∀ port r, ∃ b, (do
      next 4
      let (ip, _) ← readIpv6.run (Reader.new addrBuf)
      return .v6 ip port : ReadM SocketAddr).run r = .ok (b, { r with pos := r.pos + 4 }) := by
    intro addrBuf hlen port r
    obtain ⟨ip, hip⟩ := takes_readIpv6 (Reader.new addrBuf) (by simp [Reader.new, hlen])
    refine ⟨.v6 ip port, ?_⟩
    rw [hip]
    rfl
  have h : Needs readV6 (2 + (2 + (4 + 16))) (2 + (2 + (4 + (16 + 4)))) fun _ => True :=
    Needs.next fun _ => (needs_readU16 .little).bind le_rfl fun port _ => Needs.next fun _ =>
      (needs_readExact (Nat.succ_pos 15)).bind_moves fun addrBuf hlen => hip addrBuf hlen port
  exact h

/-- How far a reader that begins with the version byte of an address comes. -/
lemma leaves_iff {α : Type} {g : UInt8 → ReadM α} {k j l i : ℕ}
    (h4 : Needs (g 4) k j fun _ => True) (h6 : ∀ v ≠ 4, Needs (g v) l i fun _ => True)
    (payload : Bytes) :
    (∀ a cursor, (readU8 >>= g).run (Reader.new payload) = .ok (a, cursor) →
        cursor.pos + 16 ≤ payload.length)
      ↔ if payload.head? = some 4 then Leaves (1 + k) (1 + j) payload
        else Leaves (1 + l) (1 + i) payload := by
  cases payload with
  | nil =>
      refine iff_of_true (fun a cursor hrun => ?_) (Or.inl (Nat.add_pos_left Nat.one_pos _))
      rw [StateT.run_bind, readU8_eof (r := Reader.new []) Nat.one_pos] at hrun
      cases hrun
  | cons v xs =>
      have hrun : (readU8 >>= g).run (Reader.new (v :: xs)) = (g v).run (facing [v] xs) := by
        rw [← facing_nil_eq_new, StateT.run_bind, readU8_facing, ok_bind, List.nil_append]
      rw [hrun, List.head?_cons]
      by_cases hv : v = 4
      · rw [if_pos (congrArg some hv)]
        exact (hv ▸ h4).add_le_iff (facing [v] xs) 16
      · rw [if_neg fun h => hv (Option.some.inj h)]
        exact (h6 v hv).add_le_iff (facing [v] xs) 16

/-- The payloads on which the timestamps of a `ConnectionRequestAccepted` do not begin inside the
address or the index before them. -/
def ConnectionRequestAccepted.Spares (payload : Bytes) : Prop :=
  if payload.head? = some 4 then Leaves 9 9 payload else Leaves 31 31 payload

/-- The payloads on which the timestamps of a `NewIncomingConnection` do not begin inside the
address before them. -/
def NewIncomingConnection.Spares (payload : Bytes) : Prop :=
  if payload.head? = some 4 then Leaves 7 7 payload else Leaves 25 29 payload

lemma faultless_accepted_iff {id : UInt8} {payload : Bytes} :
    Faultless ConnectionRequestAccepted (id :: payload)
      ↔ ConnectionRequestAccepted.Spares payload := by
  have hparses := spells_readAddress.field fun address =>
    (scans_readU16 .big).spells.field fun systemIndex => parses_pure (address, systemIndex)
  have hread : readClientAddress = readU8 >>= fun v =>
      (if v = 4 then readV4 else readV6) >>= fun address =>
        readU16 .big >>= fun systemIndex => pure (address, systemIndex) := by
    rw [readClientAddress, readAddress_eq, bind_assoc]
  refine (faultless_timestamps_iff (m := readClientAddress)
    (f := fun a t => ⟨a.1, a.2, t.1, t.2⟩) (fun payload => ?_) hparses ?_).trans ?_
  · simp only [Packet.read]
    cases readClientAddress.run (Reader.new payload) <;> rfl
  · rintro _ t _ x ⟨_, _, rfl, _, _, rfl, rfl, rfl⟩ hx
    exact hx
  · rw [hread]
    refine leaves_iff (k := 8) (j := 8) (l := 30) (i := 30) ?_ (fun v hv => ?_) payload
    · rw [if_pos rfl]
      exact needs_readV4.bind le_rfl fun a _ => (needs_readU16 .big).bind_pure (Prod.mk a)
    · rw [if_neg hv]
      exact needs_readV6.bind (by decide) fun a _ => (needs_readU16 .big).bind_pure (Prod.mk a)

lemma faultless_incoming_iff {id : UInt8} {payload : Bytes} :
    Faultless NewIncomingConnection (id :: payload) ↔ NewIncomingConnection.Spares payload := by
  have hparses : Parses readAddress fun a Fs => Fs = [a.Wire] := spells_readAddress.imp <| by
    intro a x hx
    exact ⟨_, rfl, List.append_nil x ▸ Laid.cons hx Laid.nil⟩
  refine (faultless_timestamps_iff (m := readAddress) (f := fun a t => ⟨a, t.1, t.2⟩)
    (fun payload => ?_) hparses ?_).trans ?_
  · simp only [Packet.read]
    cases readAddress.run (Reader.new payload) <;> rfl
  · rintro a t _ x rfl hx
    exact hx
  · rw [readAddress_eq]
    refine leaves_iff (k := 6) (j := 6) (l := 24) (i := 28) ?_ (fun v hv => ?_) payload
    · rw [if_pos rfl]
      exact needs_readV4
    · rw [if_neg hv]
      exact needs_readV6

/-! ### How long they are -/

/-- An address has a version byte at least. -/
lemma SocketAddr.Wire.ne_nil {address : SocketAddr} {x : Bytes} (h : address.Wire x) : x ≠ [] := by
  rw [SocketAddr.Wire] at h
  cases address with
  | v4 ip port =>
      cases h with
      | cons hbyte _ => exact hbyte ▸ List.cons_ne_nil _ _
  | v6 ip port =>
      cases h with
      | cons hbyte _ =>
          obtain ⟨v, -, rfl⟩ := hbyte
          exact List.cons_ne_nil _ _

lemma pos_of_readAddress {payload : Bytes} {address : SocketAddr} {cursor : Reader}
    (h : readAddress.run (Reader.new payload) = .ok (address, cursor)) : 0 < cursor.pos := by
  by_contra hpos
  have hzero : cursor.pos = 0 := Nat.eq_zero_of_not_pos hpos
  have hwire : address.Wire (between (payload ++ []) 0 cursor.pos) :=
    (spells_readAddress _ _ _ h).2.2 [] (by omega)
  refine hwire.ne_nil ?_
  rw [hzero, between, Nat.sub_zero, List.take_zero]

lemma pos_of_readClientAddress {payload : Bytes} {a : SocketAddr × UInt16} {cursor : Reader}
    (h : readClientAddress.run (Reader.new payload) = .ok (a, cursor)) : 0 < cursor.pos := by
  rw [readClientAddress, StateT.run_bind] at h
  obtain ⟨⟨address, r⟩, haddress, hrest⟩ := bind_eq_ok.mp h
  obtain ⟨⟨index, r'⟩, hindex, hr'⟩ := bind_eq_ok.mp hrest
  obtain ⟨-, rfl⟩ := Prod.mk.inj (Except.ok.inj hr')
  exact (pos_of_readAddress haddress).trans_le ((scans_readU16 .big).spells _ _ _ hindex).2.1

/-- The two timestamps are behind the byte that `m` reads. -/
lemma length_of_timestamps {P α : Type} [Packet P] {m : ReadM α} {f : α → Int64 × Int64 → P}
    (hread : ∀ payload, (Packet.read payload : Except Panic (Except IoError P))
      = match m.run (Reader.new payload) with
        | .error e => .ok (.error e)
        | .ok (a, cursor) => do
          let timestamps ← readTimestamps payload cursor
          return f a <$> timestamps)
    (hm : ∀ payload a cursor, m.run (Reader.new payload) = .ok (a, cursor) → 0 < cursor.pos)
    {data : Bytes} {p : P} (h : decode P data = .ok (.ok p)) : 17 < data.length := by
  cases data with
  | nil => cases h
  | cons id payload =>
      rw [decode_cons, hread] at h
      split at h
      · cases h
      · rename_i hrun
        obtain ⟨t, ht, -⟩ := bind_eq_ok.mp h
        have hle := (readTimestamps_eq_ok.mp ht).1
        have hpos := hm _ _ _ hrun
        rw [List.length_cons]
        omega

lemma length_of_decode_incoming {data : Bytes} {p : NewIncomingConnection}
    (h : decode NewIncomingConnection data = .ok (.ok p)) : 17 < data.length := by
  refine length_of_timestamps (m := readAddress) (f := fun a t => ⟨a, t.1, t.2⟩) (fun payload => ?_)
    (fun _ _ _ => pos_of_readAddress) h
  simp only [Packet.read]
  cases readAddress.run (Reader.new payload) <;> rfl

lemma length_of_decode_accepted {data : Bytes} {p : ConnectionRequestAccepted}
    (h : decode ConnectionRequestAccepted data = .ok (.ok p)) : 17 < data.length := by
  refine length_of_timestamps (m := readClientAddress) (f := fun a t => ⟨a.1, a.2, t.1, t.2⟩)
    (fun payload => ?_) (fun _ _ _ => pos_of_readClientAddress) h
  simp only [Packet.read]
  cases readClientAddress.run (Reader.new payload) <;> rfl

/-! ### All packets -/

/-- The packets of the crate. -/
inductive PacketType
  | ack
  | alreadyConnected
  | connectedPing
  | connectedPong
  | connectionRequest
  | connectionRequestAccepted
  | disconnected
  | incompatibleProtocolVersion
  | nack
  | newIncomingConnection
  | openConnectionReply1
  | openConnectionReply2
  | openConnectionRequest1
  | openConnectionRequest2
  | unconnectedPing
  | unconnectedPong

/-- Decoding `b` as a packet of this type is faultless. -/
def PacketType.Decodes : PacketType → Bytes → Prop
  | .ack => Faultless Ack
  | .alreadyConnected => Faultless AlreadyConnected
  | .connectedPing => Faultless ConnectedPing
  | .connectedPong => Faultless ConnectedPong
  | .connectionRequest => Faultless ConnectionRequest
  | .connectionRequestAccepted => Faultless ConnectionRequestAccepted
  | .disconnected => Faultless Disconnected
  | .incompatibleProtocolVersion => Faultless IncompatibleProtocolVersion
  | .nack => Faultless Nack
  | .newIncomingConnection => Faultless NewIncomingConnection
  | .openConnectionReply1 => Faultless OpenConnectionReply1
  | .openConnectionReply2 => Faultless OpenConnectionReply2
  | .openConnectionRequest1 => Faultless OpenConnectionRequest1
  | .openConnectionRequest2 => Faultless OpenConnectionRequest2
  | .unconnectedPing => Faultless UnconnectedPing
  | .unconnectedPong => Faultless UnconnectedPong

/-- The bytes behind the id leave room for the timestamps, in the packets that end in them. -/
def PacketType.Spares : PacketType → Bytes → Prop
  | .connectionRequestAccepted, b => ConnectionRequestAccepted.Spares b.tail
  | .newIncomingConnection, b => NewIncomingConnection.Spares b.tail
  | _, _ => True

/-- **The decoders on malformed input**: decoding the bytes of a datagram as a packet of any type
returns, without a panic of its arithmetic or its conversions, and reads no field from the bytes
of an earlier one, exactly if the timestamps that end two of the packets do not begin inside the
fields before them. -/
theorem decodes_iff (t : PacketType) (b : Bytes) (hb : b ≠ []) (hlen : b.length ≤ 2048) :
    t.Decodes b ↔ t.Spares b := by
  cases t with
  | ack => exact iff_of_true (faultless_ack hb) trivial
  | alreadyConnected => exact iff_of_true (faultless_alreadyConnected hb) trivial
  | connectedPing => exact iff_of_true (faultless_connectedPing hb) trivial
  | connectedPong => exact iff_of_true (faultless_connectedPong hb) trivial
  | connectionRequest => exact iff_of_true (faultless_connectionRequest hb) trivial
  | connectionRequestAccepted =>
      obtain ⟨id, payload, rfl⟩ := List.exists_cons_of_ne_nil hb
      exact faultless_accepted_iff
  | disconnected => exact iff_of_true (faultless_disconnected hb) trivial
  | incompatibleProtocolVersion => exact iff_of_true (faultless_incompatible hb) trivial
  | nack => exact iff_of_true (faultless_nack hb) trivial
  | newIncomingConnection =>
      obtain ⟨id, payload, rfl⟩ := List.exists_cons_of_ne_nil hb
      exact faultless_incoming_iff
  | openConnectionReply1 => exact iff_of_true (faultless_reply1 hb) trivial
  | openConnectionReply2 => exact iff_of_true (faultless_reply2 hb) trivial
  | openConnectionRequest1 => exact iff_of_true (faultless_request1 hb (by omega)) trivial
  | openConnectionRequest2 => exact iff_of_true (faultless_request2 hb) trivial
  | unconnectedPing => exact iff_of_true (faultless_unconnectedPing hb) trivial
  | unconnectedPong => exact iff_of_true (faultless_unconnectedPong hb) trivial

/-- An IPv4 address and its timestamps without the addresses between them. -/
theorem decodes_incoming :
    PacketType.newIncomingConnection.Decodes (0x13 :: 4 :: List.replicate 22 0) := by
  refine (decodes_iff _ _ (by decide) (by decide)).mpr ?_
  exact Or.inr (by decide)

/-- An address and an index without timestamps make the decoder subtract sixteen from nine. -/
theorem decodes_short :
    ¬∀ (t : PacketType) (b : Bytes), b ≠ [] → b.length ≤ 2048 → t.Decodes b := by
  intro h
  obtain ⟨result, hresult⟩ :=
    (h .connectionRequestAccepted [0x10, 4, 0, 0, 0, 0, 0, 0, 0, 0] (by decide) (by decide)).returns
  have hpanic : decode ConnectionRequestAccepted [0x10, 4, 0, 0, 0, 0, 0, 0, 0, 0]
      = .error .overflow := by
    decide
  cases hpanic.symm.trans hresult

end ActixRaknet
