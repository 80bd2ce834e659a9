import ActixRaknet.Packets.Address
import ActixRaknet.Packets.Frame

/-!
The datagrams of the open handshake, and what the other side reads off them.

* `probe`: an `OpenConnectionRequest1` of a given size, `encode_request1`, `decode_probe`: it is 32
  bytes shorter than its size, and the size read off it is one less;
* `request2Bytes`, `reply1Bytes`, `reply2Bytes`: the bytes of the other three;
* `decode_reply2_v6`: a reply to an IPv6 address does not decode.
-/

namespace ActixRaknet

open Fallible Reader Writer

/-- The bytes of `OpenConnectionRequest1`. -/
def probe (version : UInt8) (mtuSize : UInt16) : Bytes :=
  0x5 :: (MAGIC ++ (version :: List.replicate (mtuSize.toNat - 50) 0))

/-- The bytes of `OpenConnectionRequest2`. -/
def request2Bytes (address : SocketAddr) (mtu : UInt16) (guid : UInt64) : Bytes :=
  0x7 :: (OpenConnectionRequest2.new address mtu guid).layout

/-- The bytes of `OpenConnectionReply1`. -/
def reply1Bytes (guid : UInt64) (mtuSize : UInt16) : Bytes :=
  0x6 :: (MAGIC ++ (Endian.big.toBytes 8 guid.toNat ++ ([0] ++ Endian.big.toBytes 2 mtuSize.toNat)))

/-- The bytes of `OpenConnectionReply2`. -/
def reply2Bytes (guid : UInt64) (address : SocketAddr) (mtu : UInt16) : Bytes :=
  0x8 :: (OpenConnectionReply2.new guid address mtu false).layout

lemma length_probe (version : UInt8) {mtuSize : UInt16} (h : 50 ≤ mtuSize.toNat) :
    (probe version mtuSize).length + 32 = mtuSize.toNat := by
  simp only [probe, List.length_cons, List.length_append, List.length_replicate, MAGIC,
    List.length_nil]
  omega

lemma encode_request1 (version : UInt8) {mtuSize : UInt16} (h : 50 ≤ mtuSize.toNat) :
    encode (OpenConnectionRequest1.new version mtuSize) = .ok (probe version mtuSize) := by
  have hstart : (writeU8 (Packet.ID OpenConnectionRequest1)).run [] = .ok ((), [0x5]) := rfl
  have hmagic : writeMagic.run [0x5] = .ok ((), 0x5 :: MAGIC) := rfl
  have hversion : (writeU8 version).run (0x5 :: MAGIC)
      = .ok ((), 0x5 :: (MAGIC ++ [version])) := rfl
  have hpos : pos.run (0x5 :: (MAGIC ++ [version])) = .ok (18, 0x5 :: (MAGIC ++ [version])) := rfl
  have hpadding : usizeSub mtuSize.toNat (18 + 32) = .ok (mtuSize.toNat - 50) := if_pos h
  simp only [encode, Packet.write, OpenConnectionRequest1.new, StateT.run_bind, hstart, hmagic,
    hversion, hpos, StateT.run_monadLift, hpadding, ok_bind, pure_eq_ok, write,
    StateT.run_modify, probe]
  change Except.ok (0x5 :: (MAGIC ++ [version]) ++ List.replicate (mtuSize.toNat - 50) 0) = _
  rw [List.cons_append, List.append_assoc, List.singleton_append]

/-- The size read off a request is one less than the size it was made with. -/
lemma decode_probe (version : UInt8) {mtuSize : UInt16} (h : 50 ≤ mtuSize.toNat) :
    decode OpenConnectionRequest1 (probe version mtuSize)
      = .ok (.ok ⟨true, version, mtuSize - 1⟩) := by
  have hversion : readVersion.run (Reader.new (MAGIC
      ++ (version :: List.replicate (mtuSize.toNat - 50) 0)))
      = .ok ((true, version), facing (MAGIC ++ [version])
          (List.replicate (mtuSize.toNat - 50) 0)) := by
    rw [readVersion, ← facing_nil_eq_new, StateT.run_bind, readMagic_facing, ok_bind,
      StateT.run_bind, readU8_facing, ok_bind]
    rfl
  have hlen : (MAGIC ++ (version :: List.replicate (mtuSize.toNat - 50) 0)).length + 32
      = (mtuSize - 1).toNat := by
    have hprobe := length_probe version h
    rw [probe, List.length_cons] at hprobe
    have hone : (1 : UInt16).toNat = 1 := rfl
    have hle : (1 : UInt16) ≤ mtuSize := UInt16.le_iff_toNat_le.mpr (le_trans (by decide) h)
    rw [UInt16.toNat_sub_of_le _ _ hle]
    omega
  have hmtu := (mtuSize - 1).toNat_lt
  rw [probe, decode_cons]
  simp only [Packet.read, hversion]
  rw [hlen, unwrapU16, if_pos (by omega), UInt16.ofNat_toNat]
  rfl

lemma encode_request2 (address : SocketAddr) (mtu : UInt16) (guid : UInt64) :
    encode (OpenConnectionRequest2.new address mtu guid)
      = .ok (request2Bytes address mtu guid) := encode_eq (writes_request2 _)

lemma decode_request2_v4 (ip : Ipv4Addr) (port mtu : UInt16) (guid : UInt64) :
    decode OpenConnectionRequest2 (request2Bytes (.v4 ip port) mtu guid)
      = .ok (.ok (OpenConnectionRequest2.new (.v4 ip port) mtu guid)) :=
  (roundTrips_request2 rfl rfl).read_eq (writes_request2 _)

lemma encode_reply2 (guid : UInt64) (address : SocketAddr) (mtu : UInt16) :
    encode (OpenConnectionReply2.new guid address mtu false)
      = .ok (reply2Bytes guid address mtu) := encode_eq (writes_reply2 _)

lemma encode_reply1 (guid : UInt64) (mtuSize : UInt16) :
    encode (OpenConnectionReply1.new guid false mtuSize) = .ok (reply1Bytes guid mtuSize) :=
  encode_eq ((writes_write _).bind <| (writes_writeU64 _ _).bind <| (writes_writeU8 _).bind <|
    writes_writeU16 _ _)

lemma decode_reply1 (guid : UInt64) (mtuSize : UInt16) :
    decode OpenConnectionReply1 (reply1Bytes guid mtuSize)
      = .ok (.ok (OpenConnectionReply1.new guid false mtuSize)) := by
  rw [reply1Bytes, decode_cons]
  refine readWith_layout fun done rest => ?_
  simp [OpenConnectionReply1.new, flagByte]

/-- An `OpenConnectionReply2` with an IPv6 address does not decode: the reader runs out of bytes in
the flag. -/
lemma decode_reply2_v6 (guid : UInt64) (ip : Ipv6Addr) (port mtu : UInt16) :
    decode OpenConnectionReply2 (reply2Bytes guid (.v6 ip port) mtu)
      = .ok (.error .unexpectedEof) := by
  obtain ⟨a, b, hmtu⟩ : ∃ a b, Endian.big.toBytes 2 mtu.toNat = [a, b] := ⟨_, _, rfl⟩
  obtain ⟨ip', port', haddress⟩ := readAddress_v6 ip port ([] ++ MAGIC
    ++ Endian.big.toBytes 8 guid.toNat) a [b, 0]
  generalize hr : facing (([] : Bytes) ++ MAGIC ++ Endian.big.toBytes 8 guid.toNat
    ++ (SocketAddr.v6 ip port).layout ++ [a]) [b, 0] = r at haddress
  have hlen : r.buf.length = r.pos + 2 := by
    rw [← hr, facing_buf, facing_pos, List.length_append]
    rfl
  obtain ⟨mtu', hmtu'⟩ := takes_readU16 .big r (by omega)
  have hflag := readU8_eof (r := { r with pos := r.pos + 2 }) (by simp only; omega)
  have hpayload : (OpenConnectionReply2.new guid (.v6 ip port) mtu false).layout
      = MAGIC ++ (Endian.big.toBytes 8 guid.toNat
        ++ ((SocketAddr.v6 ip port).layout ++ a :: [b, 0])) := by
    rw [OpenConnectionReply2.layout, OpenConnectionReply2.new, hmtu]
    rfl
  rw [reply2Bytes, decode_cons, hpayload]
  change readWith _ _ = _
  rw [readWith, ← facing_nil_eq_new, StateT.run_bind, readMagic_facing, ok_bind, StateT.run_bind,
    readU64_facing, ok_bind, StateT.run_bind, haddress, ok_bind, StateT.run_bind, hmtu', ok_bind,
    StateT.run_bind, hflag, error_bind]
  rfl

/-- An `OpenConnectionReply2` decodes to what was encoded, or not at all. -/
lemma decode_reply2 {guid : UInt64} {address : SocketAddr} {mtu : UInt16}
    {reply2 : OpenConnectionReply2}
    (h : decode OpenConnectionReply2 (reply2Bytes guid address mtu) = .ok (.ok reply2)) :
    reply2.mtu = mtu := by
  cases address with
  | v4 ip port =>
      have hread := (roundTrips_reply2 (p := .new guid (.v4 ip port) mtu false) rfl rfl).read_eq
        (writes_reply2 _)
      obtain rfl := Except.ok.inj (Except.ok.inj (h.symm.trans hread))
      rfl
  | v6 ip port =>
      rw [decode_reply2_v6] at h
      cases h

end ActixRaknet
