import ActixRaknet.Codec.Writer

/-!
`packets/mod.rs` and the field codecs shared by the packets: reliabilities, socket addresses, the
magic bytes, counted strings, and the `Packet` trait with `encode` and `decode`.
-/

namespace ActixRaknet

open Fallible Reader Writer

/-! ### Reliabilities -/

/-- `Reliability`. -/
inductive Reliability
  | unreliable
  | unreliableSequenced
  | reliable
  | reliableOrdered
  | reliableSequenced
  deriving DecidableEq, Repr

namespace Reliability

/-- `Reliability::new`. -/
def new (byte : UInt8) : Except IoError Reliability :=
  match byte.toNat with
  | 0x0 => .ok .unreliable
  | 0x1 => .ok .unreliableSequenced
  | 0x2 => .ok .reliable
  | 0x3 => .ok .reliableOrdered
  | 0x4 => .ok .reliableSequenced
  | _ => .error (.other ("unknown reliability byte " ++ toString byte))

/-- `Reliability::to_byte`. -/
def toByte : Reliability → UInt8
  | .unreliable => 0x0
  | .unreliableSequenced => 0x1
  | .reliable => 0x2
  | .reliableOrdered => 0x3
  | .reliableSequenced => 0x4

/-- `Reliability::reliable`: the frame carries a message index. -/
def isReliable : Reliability → Bool
  | .reliable | .reliableOrdered | .reliableSequenced => true
  | _ => false

/-- `Reliability::sequenced_or_ordered`: the frame carries an order index. -/
def sequencedOrOrdered : Reliability → Bool
  | .unreliableSequenced | .reliableOrdered | .reliableSequenced => true
  | _ => false

/-- `Reliability::sequenced`: the frame carries a sequence index. -/
def sequenced : Reliability → Bool
  | .unreliableSequenced | .reliableSequenced => true
  | _ => false

lemma new_toByte (r : Reliability) : new r.toByte = .ok r := by cases r <;> rfl

end Reliability

/-! ### Addresses -/

/-- `std::net::Ipv4Addr`. -/
structure Ipv4Addr where
  a : UInt8
  b : UInt8
  c : UInt8
  d : UInt8
  deriving DecidableEq, Repr

/-- `std::net::Ipv6Addr`, by its eight segments. -/
structure Ipv6Addr where
  a : UInt16
  b : UInt16
  c : UInt16
  d : UInt16
  e : UInt16
  f : UInt16
  g : UInt16
  h : UInt16
  deriving DecidableEq, Repr

/-- `Ipv6Addr::octets`. -/
def Ipv6Addr.octets (ip : Ipv6Addr) : Bytes :=
  [ip.a, ip.b, ip.c, ip.d, ip.e, ip.f, ip.g, ip.h].flatMap fun s => Endian.big.toBytes 2 s.toNat

/-- `std::net::SocketAddr`. -/
inductive SocketAddr
  | v4 (ip : Ipv4Addr) (port : UInt16)
  | v6 (ip : Ipv6Addr) (port : UInt16)
  deriving DecidableEq, Repr

/-- `SocketAddr::port`. -/
def SocketAddr.port : SocketAddr → UInt16
  | .v4 _ port => port
  | .v6 _ port => port

/-- The eight segments `Reader::read_address` reads out of the sixteen address bytes. -/
def readIpv6 : ReadM Ipv6Addr := do
  let a ← readU16 .big
  let b ← readU16 .big
  let c ← readU16 .big
  let d ← readU16 .big
  let e ← readU16 .big
  let f ← readU16 .big
  let g ← readU16 .big
  let h ← readU16 .big
  return ⟨a, b, c, d, e, f, g, h⟩

/-- `Reader::read_address`. -/
def readAddress : ReadM SocketAddr := do
  let ipVer ← readU8
  if ipVer = 4 then
    let a ← readU8
    let b ← readU8
    let c ← readU8
    let d ← readU8
    let port ← readU16 .big
    return .v4 ⟨0xff - a, 0xff - b, 0xff - c, 0xff - d⟩ port
  else
    next 2
    let port ← readU16 .little
    next 4
    let addrBuf ← readExact 16
    next 4
    let (ip, _) ← readIpv6.run (Reader.new addrBuf)
    return .v6 ip port

/-- `Writer::write_address`. -/
def writeAddress : SocketAddr → WriteM Unit
  | .v4 ip port => do
    writeU8 0x4
    writeU8 (0xff - ip.a)
    writeU8 (0xff - ip.b)
    writeU8 (0xff - ip.c)
    writeU8 (0xff - ip.d)
    writeU16 port .big
  | .v6 ip port => do
    writeU16 23 .little
    writeU16 port .big
    writeU32 0 .big
    write ip.octets
    writeU32 0 .big

/-! ### Magic and strings -/

/-- `MAGIC`. -/
def MAGIC : Bytes :=
  [0x00, 0xff, 0xff, 0x00, 0xfe, 0xfe, 0xfe, 0xfe, 0xfd, 0xfd, 0xfd, 0xfd, 0x12, 0x34, 0x56, 0x78]

/-- `Reader::read_magic`: whether the next sixteen bytes are the magic. -/
def readMagic : ReadM Bool := (fun magic => decide (magic = MAGIC)) <$> readExact 16

/-- `Writer::write_magic`. -/
def writeMagic : WriteM Unit := write MAGIC

@[simp] lemma readMagic_facing (done rest : Bytes) :
    readMagic.run (facing done (MAGIC ++ rest)) = .ok (true, facing (done ++ MAGIC) rest) := by
  rw [readMagic, StateT.run_map, readExact_facing done MAGIC rest (n := 16) rfl, map_ok,
    decide_eq_true rfl]

/-- `String::from_utf8` of the bytes of a counted string. -/
def fromUtf8 (strbuf : Bytes) : Except IoError String :=
  match String.fromUTF8? ⟨strbuf.toArray⟩ with
  | some s => .ok s
  | none => .error .invalidUtf8

/-- `Reader::read_string`. -/
def readString : ReadM String := do
  let size ← readU16 .big
  let strbuf ← readExact size.toNat
  fromUtf8 strbuf

/-- `Writer::write_string`: the length is cut to sixteen bits. -/
def writeString (body : String) : WriteM Unit := do
  let raw := body.toUTF8.data.toList
  writeU16 (UInt16.ofNat raw.length) .big
  write raw

/-! ### Packets -/

/-- The `Packet` trait.  `read` distinguishes an `Err` from a panic. -/
class Packet (P : Type) where
  ID : UInt8
  read : Bytes → Except Panic (Except IoError P)
  write : P → WriteM Unit

/-- A `read` that only reads fields off a cursor. -/
def readWith {P : Type} (m : ReadM P) (payload : Bytes) : Except Panic (Except IoError P) :=
  .ok (Prod.fst <$> m.run (Reader.new payload))

/-- `encode`. -/
def encode {P : Type} [Packet P] (packet : P) : Except Panic Bytes :=
  Prod.snd <$> (do writeU8 (Packet.ID P); Packet.write packet : WriteM Unit).run []

/-- `decode`: `&buf[1..]` panics on an empty buffer. -/
def decode (P : Type) [Packet P] : Bytes → Except Panic (Except IoError P)
  | [] => .error .outOfBounds
  | _ :: payload => Packet.read payload

/-- `unwrap_or_return!(decode::<P>(buff))` in a handler on the state `s`: a packet that does not
decode leaves the state as it is. -/
def unwrapOrReturn {σ : Type*} (P : Type) [Packet P] (buff : Bytes) (s : σ)
    (handler : P → Except Panic σ) : Except Panic σ :=
  match decode P buff with
  | .error panic => .error panic
  | .ok (.error _) => .ok s
  | .ok (.ok packet) => handler packet

lemma unwrapOrReturn_eq_ok {σ : Type} {P : Type} [Packet P] {buff : Bytes} {s s' : σ}
    {handler : P → Except Panic σ} (h : unwrapOrReturn P buff s handler = .ok s') :
    s' = s ∨ ∃ packet, decode P buff = .ok (.ok packet) ∧ handler packet = .ok s' := by
  rw [unwrapOrReturn] at h
  split at h
  · cases h
  · exact Or.inl (Except.ok.inj h).symm
  · exact Or.inr ⟨_, ‹_›, h⟩

/-- A map of the state that the handler commutes with goes through. -/
lemma unwrapOrReturn_map {σ τ : Type} {P : Type} [Packet P] {buff : Bytes} {s : σ} {g : σ → τ}
    {handler : P → Except Panic σ} {handler' : P → Except Panic τ}
    (h : ∀ packet, handler' packet = g <$> handler packet) :
    unwrapOrReturn P buff (g s) handler' = g <$> unwrapOrReturn P buff s handler := by
  rw [unwrapOrReturn, unwrapOrReturn]
  rcases decode P buff with panic | ⟨e | packet⟩
  · rfl
  · rfl
  · exact h packet

/-- An encoder that writes the layout `v` succeeds, and its result is the id before `v`. -/
lemma encode_eq {P : Type} [Packet P] {p : P} {v : Bytes}
    (h : Writes (Packet.write p) v) : encode p = .ok (Packet.ID P :: v) := by
  rw [encode, (writes_writeU8 (Packet.ID P)).bind h, map_ok]
  rfl

/-- An encoder that keeps what was written before leaves the id in front. -/
lemma head_of_encode {P : Type} [Packet P] {p : P} (h : Appends (Packet.write p)) {bytes : Bytes}
    (hbytes : encode p = .ok bytes) : bytes.head? = some (Packet.ID P) := by
  obtain ⟨⟨_, inner⟩, hrun, rfl⟩ := map_eq_ok.mp hbytes
  rw [StateT.run_bind, writes_writeU8 (Packet.ID P) [], ok_bind] at hrun
  obtain ⟨rest, hrest⟩ := h _ _ hrun
  rw [← hrest]
  rfl

@[simp] lemma decode_cons {P : Type} [Packet P] (b : UInt8) (payload : Bytes) :
    decode P (b :: payload) = Packet.read payload := rfl

/-- A reader that reads the value `p` off the front of the payload decodes to it. -/
lemma readWith_eq {P : Type} {m : ReadM P} {payload : Bytes} {p : P} {r : Reader}
    (h : m.run (facing [] payload) = .ok (p, r)) : readWith m payload = .ok (.ok p) := by
  rw [facing_nil_eq_new] at h
  rw [readWith, h, map_ok]

/-- `decode(encode(p))` gives `p` back. -/
def RoundTrips {P : Type} [Packet P] (packet : P) : Prop :=
  ∃ bytes, encode packet = .ok bytes ∧ decode P bytes = .ok (.ok packet)

lemma roundTrips_of_read {P : Type} [Packet P] {packet : P} {v : Bytes}
    (hw : Writes (Packet.write packet) v) (hr : Packet.read v = .ok (.ok packet)) :
    RoundTrips packet :=
  ⟨Packet.ID P :: v, encode_eq hw, hr⟩

lemma RoundTrips.read_eq {P : Type} [Packet P] {packet : P} {v : Bytes} (h : RoundTrips packet)
    (hw : Writes (Packet.write packet) v) : Packet.read v = .ok (.ok packet) := by
  obtain ⟨bytes, he, hd⟩ := h
  obtain rfl : Packet.ID P :: v = bytes := Except.ok.inj ((encode_eq hw).symm.trans he)
  exact hd

/-- A cursor that reads the layout `v` wherever it stands decodes `v`. -/
lemma readWith_layout {P : Type} {m : ReadM P} {v : Bytes} {packet : P}
    (h : ∀ done rest, m.run (facing done (v ++ rest)) = .ok (packet, facing (done ++ v) rest)) :
    readWith m v = .ok (.ok packet) :=
  readWith_eq (by rw [← List.append_nil v]; exact h [] [])

end ActixRaknet
