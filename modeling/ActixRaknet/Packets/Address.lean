import ActixRaknet.Packets.Control

/-!
The address codec: `Writer::write_address` against `Reader::read_address`.

* `SocketAddr.layout`: the bytes of an address, `writes_address`;
* `readAddress_facing`: an IPv4 address is read back and the cursor stops behind it;
* `readAddress_v6`: the reader takes a version byte before the IPv6 layout which the writer does
  not write, so it reads every field one byte early and stops one byte late;
* `address_roundTrip`: the round trip, and that of the two packets with fields behind an address,
  holds of IPv4 addresses alone.
-/

namespace ActixRaknet

open Fallible Reader Writer

namespace SocketAddr

/-- `SocketAddr::is_ipv4`. -/
def isIpv4 : SocketAddr → Bool
  | .v4 _ _ => true
  | .v6 _ _ => false

/-- The bytes of an address. -/
def layout : SocketAddr → Bytes
  | .v4 ip port =>
      [0x4] ++ ([0xff - ip.a] ++ ([0xff - ip.b] ++ ([0xff - ip.c] ++ ([0xff - ip.d]
        ++ Endian.big.toBytes 2 port.toNat))))
  | .v6 ip port =>
      Endian.little.toBytes 2 (23 : UInt16).toNat ++ (Endian.big.toBytes 2 port.toNat
        ++ (Endian.big.toBytes 4 (0 : UInt32).toNat ++ (ip.octets
        ++ Endian.big.toBytes 4 (0 : UInt32).toNat)))

end SocketAddr

lemma Ipv6Addr.octets_length (ip : Ipv6Addr) : ip.octets.length = 16 := by
  simp [Ipv6Addr.octets]

/-- An address takes at most 28 bytes. -/
lemma SocketAddr.length_layout_le (address : SocketAddr) : address.layout.length ≤ 28 := by
  cases address with
  | v4 ip port => exact le_of_eq_of_le rfl (by decide : 7 ≤ 28)
  | v6 ip port =>
      rw [layout, List.length_append, List.length_append, List.length_append, List.length_append,
        ip.octets_length]
      exact le_of_eq rfl

lemma writes_address (address : SocketAddr) : Writes (writeAddress address) address.layout := by
  cases address with
  | v4 ip port =>
      exact (writes_writeU8 _).bind <| (writes_writeU8 _).bind <| (writes_writeU8 _).bind <|
        (writes_writeU8 _).bind <| (writes_writeU8 _).bind <| writes_writeU16 _ _
  | v6 ip port =>
      exact (writes_writeU16 _ _).bind <| (writes_writeU16 _ _).bind <|
        (writes_writeU32 _ _).bind <| (writes_write _).bind <| writes_writeU32 _ _

/-- An IPv4 address is read back, and the cursor stops at the first byte behind it. -/
lemma readAddress_facing {address : SocketAddr} (h : address.isIpv4 = true)
    (done rest : Bytes) :
    readAddress.run (facing done (address.layout ++ rest))
      = .ok (address, facing (done ++ address.layout) rest) := by
  have hback (b : UInt8) : 0xff - (0xff - b) = b := by grind
  cases address with
  | v6 ip port => cases h
  | v4 ip port =>
      simp only [readAddress, SocketAddr.layout, List.append_assoc, List.cons_append,
        List.nil_append, StateT.run_bind, readU8_facing, ok_bind, if_true, readU16_facing,
        StateT.run_pure, pure_eq_ok, hback]

/-- Sixteen bytes always hold the eight segments of an IPv6 address. -/
lemma takes_readIpv6 : Takes readIpv6 16 :=
  (takes_readU16 .big).bind fun _ => (takes_readU16 .big).bind fun _ =>
    (takes_readU16 .big).bind fun _ => (takes_readU16 .big).bind fun _ =>
    (takes_readU16 .big).bind fun _ => (takes_readU16 .big).bind fun _ =>
    (takes_readU16 .big).bind fun _ => (takes_readU16 .big).bind fun _ => takes_pure _

/-- Behind a version byte other than 4 the reader takes 28 more bytes, whatever they are. -/
lemma readAddress_of_ne {v : UInt8} (hv : v ≠ 4) (done : Bytes) {xs : Bytes}
    (hxs : xs.length = 28) (rest : Bytes) :
    ∃ ip port, readAddress.run (facing done (v :: (xs ++ rest)))
      = .ok (.v6 ip port, facing (done ++ v :: xs) rest) := by
  set r : Reader := facing (done ++ [v]) (xs ++ rest) with hr
  have hlen : r.pos + 28 ≤ r.buf.length := by
    simp only [hr, facing_pos, facing_buf, List.length_append, List.length_singleton, hxs]
    omega
  have hend : facing (done ++ v :: xs) rest = { r with pos := r.pos + 28 } := by
    simp [hr, facing, hxs, Nat.add_assoc, Nat.add_comm]
  have hnext (n : ℕ) (r : Reader) : (next n).run r = .ok ((), { r with pos := r.pos + n }) := rfl
  obtain ⟨port, hport⟩ := takes_readU16 .little { r with pos := r.pos + 2 } (by simp only; omega)
  obtain ⟨addrBuf, hbuf, hexact⟩ :=
    readExact_of_le (r := { r with pos := r.pos + 8 }) (n := 16) (by simp only; omega)
  obtain ⟨ip, hip⟩ := takes_readIpv6 (Reader.new addrBuf) (by simp [Reader.new, hbuf])
  refine ⟨ip, port, ?_⟩
  rw [readAddress, StateT.run_bind, readU8_facing, ok_bind, if_neg hv]
  simp only [StateT.run_bind, hnext, ok_bind, hport, Nat.add_assoc, Nat.reduceAdd, hexact,
    StateT.run_monadLift, hip, StateT.run_pure, pure_eq_ok, hend, ← hr]
  rfl

/-- The reader takes the first byte of the IPv6 layout for a version byte and ends one byte
behind the layout. -/
lemma readAddress_v6 (ip : Ipv6Addr) (port : UInt16) (done : Bytes) (b : UInt8) (rest : Bytes) :
    ∃ ip' port', readAddress.run (facing done ((SocketAddr.v6 ip port).layout ++ b :: rest))
      = .ok (.v6 ip' port', facing (done ++ (SocketAddr.v6 ip port).layout ++ [b]) rest) := by
  obtain ⟨xs, hxs, hlen⟩ : ∃ xs, (SocketAddr.v6 ip port).layout = 23 :: xs ∧ xs.length = 27 :=
    ⟨_, rfl, by simp [ip.octets_length]⟩
  have hlong : (xs ++ [b]).length = 28 := by rw [List.length_append, hlen, List.length_singleton]
  obtain ⟨ip', port', h⟩ := readAddress_of_ne (v := 23) (by decide) done hlong rest
  refine ⟨ip', port', ?_⟩
  rw [hxs]
  simpa only [List.cons_append, List.append_assoc, List.nil_append] using h

/-! ### The packets with an address -/

/-- The bytes of `OpenConnectionRequest2`. -/
def OpenConnectionRequest2.layout (p : OpenConnectionRequest2) : Bytes :=
  MAGIC ++ (p.address.layout ++ (Endian.big.toBytes 2 p.mtu.toNat
    ++ Endian.big.toBytes 8 p.guid.toNat))

lemma writes_request2 (p : OpenConnectionRequest2) : Writes (Packet.write p) p.layout :=
  (writes_write _).bind <| (writes_address _).bind <| (writes_writeU16 _ _).bind <|
    writes_writeU64 _ _

/-- The bytes of `OpenConnectionReply2`. -/
def OpenConnectionReply2.layout (p : OpenConnectionReply2) : Bytes :=
  MAGIC ++ (Endian.big.toBytes 8 p.guid.toNat ++ (p.address.layout
    ++ (Endian.big.toBytes 2 p.mtu.toNat ++ [p.encryptionEnabled])))

lemma writes_reply2 (p : OpenConnectionReply2) : Writes (Packet.write p) p.layout :=
  (writes_write _).bind <| (writes_writeU64 _ _).bind <| (writes_address _).bind <|
    (writes_writeU16 _ _).bind <| writes_writeU8 _

lemma roundTrips_request2 {p : OpenConnectionRequest2} (hmagic : p.magic = true)
    (h : p.address.isIpv4 = true) : RoundTrips p := by
  refine roundTrips_of_read (writes_request2 p) (readWith_layout fun done rest => ?_)
  simp [OpenConnectionRequest2.layout, readAddress_facing h, ← hmagic]

lemma roundTrips_reply2 {p : OpenConnectionReply2} (hmagic : p.magic = true)
    (h : p.address.isIpv4 = true) : RoundTrips p := by
  refine roundTrips_of_read (writes_reply2 p) (readWith_layout fun done rest => ?_)
  simp [OpenConnectionReply2.layout, readAddress_facing h, ← hmagic]

/-- An `OpenConnectionRequest2` with an IPv6 address does not decode: the reader runs out of bytes
in the guid. -/
lemma decode_request2_v6 (ip : Ipv6Addr) (port mtu : UInt16) (guid : UInt64) :
    decode OpenConnectionRequest2
        (0x7 :: (OpenConnectionRequest2.new (.v6 ip port) mtu guid).layout)
      = .ok (.error .unexpectedEof) := by
  obtain ⟨a, b, hmtu⟩ : ∃ a b, Endian.big.toBytes 2 mtu.toNat = [a, b] :=
    ⟨_, _, rfl⟩
  obtain ⟨ip', port', haddress⟩ := readAddress_v6 ip port ([] ++ MAGIC) a
    (b :: Endian.big.toBytes 8 guid.toNat)
  generalize hr : facing (([] : Bytes) ++ MAGIC ++ (SocketAddr.v6 ip port).layout ++ [a])
    (b :: Endian.big.toBytes 8 guid.toNat) = r at haddress
  have hlen : r.buf.length = r.pos + 9 := by
    rw [← hr, facing_buf, facing_pos, List.length_append, List.length_cons, Endian.toBytes_length]
  obtain ⟨mtu', hmtu'⟩ := takes_readU16 .big r (by omega)
  have hguid := readU64_eof (r := { r with pos := r.pos + 2 }) .big (by simp only; omega)
  have hmagic := readMagic_facing []
    ((SocketAddr.v6 ip port).layout ++ a :: b :: Endian.big.toBytes 8 guid.toNat)
  have hpayload : (OpenConnectionRequest2.new (.v6 ip port) mtu guid).layout
      = MAGIC ++ ((SocketAddr.v6 ip port).layout ++ a :: b :: Endian.big.toBytes 8 guid.toNat) := by
    rw [OpenConnectionRequest2.layout, OpenConnectionRequest2.new, hmtu]
    rfl
  rw [decode_cons, hpayload]
  change readWith _ _ = _
  rw [readWith, ← facing_nil_eq_new, StateT.run_bind, hmagic, ok_bind, StateT.run_bind, haddress,
    ok_bind, StateT.run_bind, hmtu', ok_bind, StateT.run_bind, hguid, error_bind]
  rfl

/-- What the codec owes an address: it is read back with the cursor behind it, whatever follows,
and the two packets with an address decode to the values encoded. -/
structure AddressRoundTrips (address : SocketAddr) : Prop where
  reads : ∃ bytes, Writes (writeAddress address) bytes ∧ ∀ done rest,
    readAddress.run (facing done (bytes ++ rest)) = .ok (address, facing (done ++ bytes) rest)
  request2 : ∀ mtu guid, RoundTrips (OpenConnectionRequest2.new address mtu guid)
  reply2 : ∀ guid mtu flag, RoundTrips (OpenConnectionReply2.new guid address mtu flag)

lemma addressRoundTrips_of_isIpv4 {address : SocketAddr} (h : address.isIpv4 = true) :
    AddressRoundTrips address where
  reads := ⟨_, writes_address address, readAddress_facing h⟩
  request2 _ _ := roundTrips_request2 rfl h
  reply2 _ _ _ := roundTrips_reply2 rfl h

lemma not_addressRoundTrips_v6 (ip : Ipv6Addr) (port : UInt16) :
    ¬AddressRoundTrips (.v6 ip port) := by
  rintro ⟨⟨bytes, hw, hr⟩, -, -⟩
  have hbytes : bytes = (SocketAddr.v6 ip port).layout := by
    have h := (hw []).symm.trans (writes_address (.v6 ip port) [])
    simpa using h
  obtain ⟨ip', port', h⟩ := readAddress_v6 ip port [] 0 []
  have hcursor := (hr [] [0]).symm.trans (hbytes ▸ h)
  simp only [Except.ok.injEq, Prod.mk.injEq, facing, Reader.mk.injEq] at hcursor
  obtain ⟨-, -, hpos⟩ := hcursor
  simp at hpos

/-- The address codec round-trips exactly on IPv4 addresses. -/
theorem address_roundTrip (address : SocketAddr) :
    AddressRoundTrips address ↔ address.isIpv4 = true := by
  cases address with
  | v4 ip port => exact iff_of_true (addressRoundTrips_of_isIpv4 rfl) rfl
  | v6 ip port => exact iff_of_false (not_addressRoundTrips_v6 ip port) Bool.false_ne_true

/-- The loopback address `[::1]:19132` does not round-trip. -/
theorem address_roundTrip_loopback_v6 :
    ¬AddressRoundTrips (.v6 ⟨0, 0, 0, 0, 0, 0, 0, 1⟩ 19132) :=
  not_addressRoundTrips_v6 _ _

end ActixRaknet
