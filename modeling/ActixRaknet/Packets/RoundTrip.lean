import ActixRaknet.Packets.Address
import ActixRaknet.Packets.Ack

/-!
The round trips of the packets besides frame sets and `OpenConnectionRequest1`.

* `ConnectionRequestAccepted.layout`, `NewIncomingConnection.layout`: the bytes of the two packets
  with any filler between the addresses and the timestamps, which the reader skips
  (`readTimestamps_facing`);
* `decode_incoming`: `NewIncomingConnection` decodes whatever its address is;
* `readString_facing`: a counted string of at most 65535 bytes is read back;
* `ControlRoundTrips`: what the codec owes every packet type, `control_roundTrips`.
-/

namespace ActixRaknet

open Fallible Reader Writer

/-! ### Strings -/

/-- The bytes `write_string` counts and writes. -/
def utf8Bytes (body : String) : Bytes := body.toUTF8.data.toList

lemma fromUtf8_utf8Bytes (body : String) : fromUtf8 (utf8Bytes body) = .ok body := by
  have hbytes : (⟨(utf8Bytes body).toArray⟩ : ByteArray) = body.toUTF8 := rfl
  have hvalid : body.toUTF8.IsValidUTF8 := body.isValidUTF8
  rw [fromUtf8, hbytes, String.fromUTF8?, dif_pos hvalid]
  rfl

/-- The bytes of a counted string. -/
def stringLayout (body : String) : Bytes :=
  Endian.big.toBytes 2 (UInt16.ofNat (utf8Bytes body).length).toNat ++ utf8Bytes body

lemma writes_string (body : String) : Writes (writeString body) (stringLayout body) :=
  (writes_writeU16 _ _).bind (writes_write _)

/-- A string whose length fits the counter is read back. -/
lemma readString_facing {body : String} (h : (utf8Bytes body).length ≤ 65535) (done rest : Bytes) :
    readString.run (facing done (stringLayout body ++ rest))
      = .ok (body, facing (done ++ stringLayout body) rest) := by
  have hsize : (UInt16.ofNat (utf8Bytes body).length).toNat = (utf8Bytes body).length :=
    UInt16.toNat_ofNat_of_lt' (by simpa using Nat.lt_succ_of_le h)
  simp only [readString, stringLayout, List.append_assoc, StateT.run_bind, readU16_facing, ok_bind,
    readExact_facing _ _ _ hsize.symm, StateT.run_monadLift, fromUtf8_utf8Bytes]
  rfl

/-! ### The packets that skip to their timestamps -/

/-- The two timestamps at the end of a packet. -/
def timestamps (requestTimestamp acceptedTimestamp : Int64) : Bytes :=
  Endian.big.toBytes 8 requestTimestamp.toUInt64.toNat
    ++ Endian.big.toBytes 8 acceptedTimestamp.toUInt64.toNat

/-- The timestamps are found behind a filler of any length. -/
lemma readTimestamps_facing (head filler : Bytes) (requestTimestamp acceptedTimestamp : Int64) :
    readTimestamps (head ++ (filler ++ timestamps requestTimestamp acceptedTimestamp))
        (facing head (filler ++ timestamps requestTimestamp acceptedTimestamp))
      = .ok (.ok (requestTimestamp, acceptedTimestamp)) := by
  have hlen : (timestamps requestTimestamp acceptedTimestamp).length = 16 := by
    simp [timestamps]
  have hlast : usizeSub (head ++ (filler ++ timestamps requestTimestamp acceptedTimestamp)).length
      16 = .ok (head.length + filler.length) := by
    rw [List.length_append, List.length_append, hlen, ← Nat.add_assoc, usizeSub,
      if_pos (Nat.le_add_left _ _), Nat.add_sub_cancel]
  have hskipped : usizeSub (head.length + filler.length) head.length = .ok filler.length := by
    rw [usizeSub, if_pos (Nat.le_add_right _ _), Nat.add_sub_cancel_left]
  have hread : (readI64 .big).run (facing (head ++ filler ++ Endian.big.toBytes 8
        requestTimestamp.toUInt64.toNat) (Endian.big.toBytes 8 acceptedTimestamp.toUInt64.toNat))
      = .ok (acceptedTimestamp, facing (head ++ filler ++ timestamps requestTimestamp
          acceptedTimestamp) []) := by
    have h := readI64_facing (head ++ filler ++ Endian.big.toBytes 8
      requestTimestamp.toUInt64.toNat) [] .big acceptedTimestamp
    rwa [List.append_nil, List.append_assoc (head ++ filler)] at h
  rw [readTimestamps, hlast, ok_bind, facing_pos, hskipped, ok_bind, StateT.run_bind,
    next_facing head filler _ rfl, ok_bind, StateT.run_bind, timestamps, readI64_facing, ok_bind,
    StateT.run_bind, hread, ok_bind]
  rfl

/-- The bytes of `ConnectionRequestAccepted` with the given filler. -/
def ConnectionRequestAccepted.layout (p : ConnectionRequestAccepted) (filler : Bytes) : Bytes :=
  p.clientAddress.layout ++ (Endian.big.toBytes 2 p.systemIndex.toNat
    ++ (filler ++ timestamps p.requestTimestamp p.acceptedTimestamp))

/-- The bytes of `NewIncomingConnection` with the given filler. -/
def NewIncomingConnection.layout (p : NewIncomingConnection) (filler : Bytes) : Bytes :=
  p.serverAddress.layout ++ (filler ++ timestamps p.requestTimestamp p.acceptedTimestamp)

lemma writes_accepted (p : ConnectionRequestAccepted) :
    Writes (Packet.write p) (p.layout (List.replicate 10 0x6)) :=
  (writes_address _).bind <| (writes_writeU16 _ _).bind <| (writes_write _).bind <|
    (writes_writeI64 _ _).bind <| writes_writeI64 _ _

lemma writes_incoming (p : NewIncomingConnection) :
    Writes (Packet.write p) (p.layout (List.replicate 10 0x6)) :=
  (writes_address _).bind <| (writes_write _).bind <| (writes_writeI64 _ _).bind <|
    writes_writeI64 _ _

/-! ### The lengths of the packets a session carries -/

lemma writes_connectionRequest (p : ConnectionRequest) : Writes (Packet.write p)
    (Endian.big.toBytes 8 p.guid.toNat
      ++ (Endian.big.toBytes 8 p.time.toUInt64.toNat ++ [p.useEncryption])) :=
  (writes_writeU64 _ _).bind ((writes_writeI64 _ _).bind (writes_writeU8 _))

/-- A connection request takes 18 bytes. -/
lemma length_connectionRequest (p : ConnectionRequest) {body : Bytes} (h : encode p = .ok body) :
    body.length = 18 := by
  obtain rfl := Except.ok.inj ((encode_eq (writes_connectionRequest p)).symm.trans h)
  simp

/-- A new incoming connection takes at most 55 bytes. -/
lemma length_incoming (p : NewIncomingConnection) {body : Bytes} (h : encode p = .ok body) :
    body.length ≤ 55 := by
  obtain rfl := Except.ok.inj ((encode_eq (writes_incoming p)).symm.trans h)
  have haddress := p.serverAddress.length_layout_le
  rw [NewIncomingConnection.layout, List.length_cons, List.length_append]
  change _ + 26 + 1 ≤ 55
  omega

/-- An accept takes at most 57 bytes. -/
lemma length_accepted (p : ConnectionRequestAccepted) {body : Bytes} (h : encode p = .ok body) :
    body.length ≤ 57 := by
  obtain rfl := Except.ok.inj ((encode_eq (writes_accepted p)).symm.trans h)
  have haddress := p.clientAddress.length_layout_le
  rw [ConnectionRequestAccepted.layout, List.length_cons, List.length_append]
  change _ + 28 + 1 ≤ 57
  omega

lemma length_connectedPing (p : ConnectedPing) {body : Bytes} (h : encode p = .ok body) :
    body.length = 9 := by
  obtain rfl := Except.ok.inj ((encode_eq (writes_writeI64 _ _)).symm.trans h)
  simp

lemma length_connectedPong (p : ConnectedPong) {body : Bytes} (h : encode p = .ok body) :
    body.length = 17 := by
  obtain rfl := Except.ok.inj ((encode_eq
    ((writes_writeI64 _ _).bind (writes_writeI64 _ _))).symm.trans h)
  simp

lemma length_disconnected (p : Disconnected) {body : Bytes} (h : encode p = .ok body) :
    body.length = 1 := by
  obtain rfl := Except.ok.inj ((encode_eq writes_pure).symm.trans h)
  rfl

/-! ### Reading back -/

/-- Whatever the filler, an accepted request with an IPv4 address is read back. -/
lemma read_accepted {p : ConnectionRequestAccepted} (h : p.clientAddress.isIpv4 = true)
    (filler : Bytes) : Packet.read (p.layout filler) = .ok (.ok p) := by
  have hhead : readClientAddress.run (Reader.new (p.layout filler))
      = .ok ((p.clientAddress, p.systemIndex), facing
          (p.clientAddress.layout ++ Endian.big.toBytes 2 p.systemIndex.toNat)
          (filler ++ timestamps p.requestTimestamp p.acceptedTimestamp)) := by
    rw [readClientAddress, ConnectionRequestAccepted.layout, ← facing_nil_eq_new,
      StateT.run_bind, readAddress_facing h, ok_bind, StateT.run_bind, readU16_facing, ok_bind]
    rfl
  have htimes := readTimestamps_facing (p.clientAddress.layout
    ++ Endian.big.toBytes 2 p.systemIndex.toNat) filler p.requestTimestamp p.acceptedTimestamp
  rw [List.append_assoc] at htimes
  simp only [Packet.read, hhead]
  rw [ConnectionRequestAccepted.layout, htimes, ok_bind]
  rfl

/-- Whatever the filler, a new incoming connection with an IPv4 address is read back. -/
lemma read_incoming {p : NewIncomingConnection} (h : p.serverAddress.isIpv4 = true)
    (filler : Bytes) : Packet.read (p.layout filler) = .ok (.ok p) := by
  have hhead : readAddress.run (Reader.new (p.layout filler))
      = .ok (p.serverAddress, facing p.serverAddress.layout
          (filler ++ timestamps p.requestTimestamp p.acceptedTimestamp)) := by
    rw [NewIncomingConnection.layout, ← facing_nil_eq_new, readAddress_facing h,
      List.nil_append]
  simp only [Packet.read, hhead]
  rw [NewIncomingConnection.layout, readTimestamps_facing, ok_bind]
  rfl

/-- A new incoming connection decodes whatever its address is: of an IPv6 address the reader takes a
byte of the filler as well, and the timestamps are found all the same. -/
lemma decode_incoming (p : NewIncomingConnection) :
    ∃ body q, encode p = .ok (Packet.ID NewIncomingConnection :: body)
      ∧ decode NewIncomingConnection (Packet.ID NewIncomingConnection :: body) = .ok (.ok q) := by
  obtain ⟨address, requestTimestamp, acceptedTimestamp⟩ := p
  cases address with
  | v4 ip port =>
      exact ⟨_, _, encode_eq (writes_incoming _), read_incoming (by rfl) (List.replicate 10 0x6)⟩
  | v6 ip port =>
      obtain ⟨ip', port', haddress⟩ := readAddress_v6 ip port [] 0x6
        (List.replicate 9 0x6 ++ timestamps requestTimestamp acceptedTimestamp)
      have htimes := readTimestamps_facing ((SocketAddr.v6 ip port).layout ++ [0x6])
        (List.replicate 9 0x6) requestTimestamp acceptedTimestamp
      rw [List.append_assoc, List.singleton_append] at htimes
      refine ⟨_, ⟨.v6 ip' port', requestTimestamp, acceptedTimestamp⟩,
        encode_eq (writes_incoming _), ?_⟩
      have hlayout : NewIncomingConnection.layout
          ⟨.v6 ip port, requestTimestamp, acceptedTimestamp⟩ (List.replicate 10 0x6)
          = (SocketAddr.v6 ip port).layout
            ++ 0x6 :: (List.replicate 9 0x6 ++ timestamps requestTimestamp acceptedTimestamp) := rfl
      rw [decode_cons, hlayout]
      simp only [Packet.read, ← facing_nil_eq_new, haddress, List.nil_append, htimes, ok_bind]
      rfl

/-! ### All packets -/

/-- What the codec owes the packets besides frame sets and `OpenConnectionRequest1`, with the
magic that every constructor sets. -/
structure ControlRoundTrips : Prop where
  ack : ∀ record : SequenceRecord, record.sequences.1 ≤ record.sequences.2 →
    record.sequences.2 < 2 ^ 24 →
    (record.maxEqualsMin = true → record.sequences.1 = record.sequences.2) →
    RoundTrips (Ack.mk record)
  nack : ∀ record : SequenceRecord, record.sequences.1 ≤ record.sequences.2 →
    record.sequences.2 < 2 ^ 24 →
    (record.maxEqualsMin = true → record.sequences.1 = record.sequences.2) →
    RoundTrips (Nack.mk record)
  connectedPing : ∀ p : ConnectedPing, RoundTrips p
  connectedPong : ∀ p : ConnectedPong, RoundTrips p
  connectionRequest : ∀ p : ConnectionRequest, RoundTrips p
  connectionRequestAccepted : ∀ p : ConnectionRequestAccepted, p.clientAddress.isIpv4 = true →
    encode p = .ok (0x10 :: p.layout (List.replicate 10 0x6)) ∧
      ∀ filler, decode ConnectionRequestAccepted (0x10 :: p.layout filler) = .ok (.ok p)
  newIncomingConnection : ∀ p : NewIncomingConnection, p.serverAddress.isIpv4 = true →
    encode p = .ok (0x13 :: p.layout (List.replicate 10 0x6)) ∧
      ∀ filler, decode NewIncomingConnection (0x13 :: p.layout filler) = .ok (.ok p)
  openConnectionReply1 : ∀ p : OpenConnectionReply1, p.magic = true → RoundTrips p
  openConnectionRequest2 : ∀ p : OpenConnectionRequest2, p.magic = true →
    p.address.isIpv4 = true → RoundTrips p
  openConnectionReply2 : ∀ p : OpenConnectionReply2, p.magic = true →
    p.address.isIpv4 = true → RoundTrips p
  alreadyConnected : ∀ p : AlreadyConnected, p.magic = true → RoundTrips p
  incompatibleProtocolVersion : ∀ p : IncompatibleProtocolVersion, p.magic = true → RoundTrips p
  unconnectedPing : ∀ p : UnconnectedPing, p.magic = true → RoundTrips p
  unconnectedPong : ∀ p : UnconnectedPong, p.magic = true → (utf8Bytes p.motd).length ≤ 65535 →
    RoundTrips p
  disconnected : ∀ p : Disconnected, RoundTrips p

/-- A record whose flag agrees with its numbers is read back. -/
lemma SequenceRecord.read_layout {record : SequenceRecord}
    (h₁ : record.sequences.1 ≤ record.sequences.2) (h₂ : record.sequences.2 < 2 ^ 24)
    (hflag : record.maxEqualsMin = true → record.sequences.1 = record.sequences.2)
    (done rest : Bytes) :
    SequenceRecord.read.run (facing done (record.layout ++ rest))
      = .ok (record, facing (done ++ record.layout) rest) := by
  rw [SequenceRecord.read_facing (by omega) h₂]
  obtain ⟨recordCount, maxEqualsMin, first, second⟩ := record
  cases maxEqualsMin with
  | false => rfl
  | true =>
      have hsame : first = second := hflag rfl
      subst hsame
      rfl

theorem control_roundTrips : ControlRoundTrips where
  ack record h₁ h₂ hflag :=
    roundTrips_of_read (SequenceRecord.writes_write (h₁.trans_lt h₂) h₂) <|
      readWith_layout fun done rest => by
        rw [StateT.run_map, SequenceRecord.read_layout h₁ h₂ hflag, map_ok]
  nack record h₁ h₂ hflag :=
    roundTrips_of_read (SequenceRecord.writes_write (h₁.trans_lt h₂) h₂) <|
      readWith_layout fun done rest => by
        rw [StateT.run_map, SequenceRecord.read_layout h₁ h₂ hflag, map_ok]
  connectedPing p :=
    roundTrips_of_read (writes_writeI64 _ _) <| readWith_layout fun done rest => by simp
  connectedPong p :=
    roundTrips_of_read ((writes_writeI64 _ _).bind <| writes_writeI64 _ _) <|
      readWith_layout fun done rest => by simp
  connectionRequest p :=
    roundTrips_of_read ((writes_writeU64 _ _).bind <| (writes_writeI64 _ _).bind <|
      writes_writeU8 _) <| readWith_layout fun done rest => by simp
  connectionRequestAccepted p h := ⟨encode_eq (writes_accepted p), read_accepted h⟩
  newIncomingConnection p h := ⟨encode_eq (writes_incoming p), read_incoming h⟩
  openConnectionReply1 p h :=
    roundTrips_of_read ((writes_write _).bind <| (writes_writeU64 _ _).bind <|
      (writes_writeU8 _).bind <| writes_writeU16 _ _) <|
      readWith_layout fun done rest => by simp [← h]
  openConnectionRequest2 _ h hv4 := roundTrips_request2 h hv4
  openConnectionReply2 _ h hv4 := roundTrips_reply2 h hv4
  alreadyConnected p h :=
    roundTrips_of_read ((writes_write _).bind <| writes_writeU64 _ _) <|
      readWith_layout fun done rest => by simp [← h]
  incompatibleProtocolVersion p h :=
    roundTrips_of_read ((writes_writeU8 _).bind <| (writes_write _).bind <|
      writes_writeU64 _ _) <| readWith_layout fun done rest => by simp [← h]
  unconnectedPing p h :=
    roundTrips_of_read ((writes_writeI64 _ _).bind <| (writes_write _).bind <|
      writes_writeU64 _ _) <| readWith_layout fun done rest => by simp [← h]
  unconnectedPong p h hmotd :=
    roundTrips_of_read ((writes_writeI64 _ _).bind <| (writes_writeU64 _ _).bind <|
      (writes_write _).bind <| writes_string _) <|
      readWith_layout fun done rest => by simp [readString_facing hmotd, ← h]
  disconnected p := roundTrips_of_read writes_pure rfl

/-- A record that says it is a single number keeps its first number only, and the magic is
written whatever the field says. -/
theorem inconsistent_not_roundTrips :
    ¬RoundTrips (Ack.mk ⟨1, true, (1, 2)⟩) ∧ ¬RoundTrips (Nack.mk ⟨1, true, (1, 2)⟩) ∧
      ¬RoundTrips (⟨false, 7⟩ : AlreadyConnected) := by
  refine ⟨fun h => ?_, fun h => ?_, fun h => ?_⟩
  · exact absurd (h.read_eq (SequenceRecord.writes_write (by decide) (by decide))) (by decide)
  · exact absurd (h.read_eq (SequenceRecord.writes_write (by decide) (by decide))) (by decide)
  · exact absurd (h.read_eq ((writes_write _).bind (writes_writeU64 _ _))) (by decide)

/-- The packets with a condition, at one value each. -/
theorem control_roundTrips_values :
    RoundTrips (Ack.mk ⟨7, false, (3, 3)⟩) ∧ RoundTrips (Nack.mk ⟨1, true, (5, 5)⟩) ∧
      decode ConnectionRequestAccepted
          (0x10 :: ConnectionRequestAccepted.layout (.new (.v4 ⟨127, 0, 0, 1⟩ 80) 1 2) [9])
        = .ok (.ok (.new (.v4 ⟨127, 0, 0, 1⟩ 80) 1 2)) ∧
      RoundTrips (OpenConnectionReply2.new 1 (.v4 ⟨127, 0, 0, 1⟩ 80) 1400 true) ∧
      RoundTrips (UnconnectedPong.new 1 2 "motd") :=
  ⟨control_roundTrips.ack _ (by decide) (by decide) (by decide),
    control_roundTrips.nack _ (by decide) (by decide) (by decide),
    (control_roundTrips.connectionRequestAccepted _ (by decide)).2 [9],
    control_roundTrips.openConnectionReply2 _ (by decide) (by decide),
    control_roundTrips.unconnectedPong _ (by decide) (by decide)⟩

end ActixRaknet
