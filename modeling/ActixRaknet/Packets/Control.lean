import ActixRaknet.Packets.Basic

/-!
The packets of `packets/` besides frames and acknowledgements: the packets of the handshake, which
travel on their own, and the packets a session carries in its frames.

Most of them are read field by field (`readWith`).  Three can panic: `OpenConnectionRequest1` on
its `try_into().unwrap()`, and the two that skip the unused addresses with a subtraction of
lengths (`readTimestamps`).
-/

namespace ActixRaknet

open Fallible Reader Writer

/-- `flag as u8`. -/
def flagByte (flag : Bool) : UInt8 := if flag then 1 else 0

/-! ### Packets carried in frames -/

/-- `ConnectedPing`. -/
structure ConnectedPing where
  clientTimestamp : Int64
  deriving DecidableEq

/-- `ConnectedPing::new`. -/
def ConnectedPing.new (time : Int64) : ConnectedPing := ⟨time⟩

instance : Packet ConnectedPing where
  ID := 0x0
  read := readWith (ConnectedPing.mk <$> readI64 .big)
  write p := writeI64 p.clientTimestamp .big

/-- `ConnectedPong`. -/
structure ConnectedPong where
  clientTimestamp : Int64
  serverTimestamp : Int64
  deriving DecidableEq

/-- `ConnectedPong::new`. -/
def ConnectedPong.new (clientTimestamp serverTimestamp : Int64) : ConnectedPong :=
  ⟨clientTimestamp, serverTimestamp⟩

instance : Packet ConnectedPong where
  ID := 0x3
  read := readWith do
    let clientTimestamp ← readI64 .big
    let serverTimestamp ← readI64 .big
    return ⟨clientTimestamp, serverTimestamp⟩
  write p := do
    writeI64 p.clientTimestamp .big
    writeI64 p.serverTimestamp .big

/-- `Disconnected`. -/
structure Disconnected where
  deriving DecidableEq

instance : Packet Disconnected where
  ID := 0x15
  read := readWith (pure ⟨⟩)
  write _ := pure ()

/-- `ConnectionRequest`. -/
structure ConnectionRequest where
  guid : UInt64
  time : Int64
  useEncryption : UInt8
  deriving DecidableEq

/-- `ConnectionRequest::new`. -/
def ConnectionRequest.new (guid : UInt64) (time : Int64) (useEncryption : Bool) :
    ConnectionRequest :=
  ⟨guid, time, flagByte useEncryption⟩

instance : Packet ConnectionRequest where
  ID := 0x9
  read := readWith do
    let guid ← readU64 .big
    let time ← readI64 .big
    let useEncryption ← readU8
    return ⟨guid, time, useEncryption⟩
  write p := do
    writeU64 p.guid .big
    writeI64 p.time .big
    writeU8 p.useEncryption

/-- The end of the two packets that carry a list of addresses: the cursor skips to the last
sixteen bytes of the payload, with two subtractions on `usize`, and reads the two timestamps. -/
def readTimestamps (payload : Bytes) (cursor : Reader) :
    Except Panic (Except IoError (Int64 × Int64)) := do
  let last ← usizeSub payload.length 16
  let skipped ← usizeSub last cursor.pos
  return Prod.fst <$> (do
    next skipped
    let requestTimestamp ← readI64 .big
    let acceptedTimestamp ← readI64 .big
    return (requestTimestamp, acceptedTimestamp) : ReadM (Int64 × Int64)).run cursor

/-- The ten unused bytes between the addresses and the timestamps. -/
def writeFiller : WriteM Unit := write (List.replicate 10 0x6)

/-- `ConnectionRequestAccepted`. -/
structure ConnectionRequestAccepted where
  clientAddress : SocketAddr
  systemIndex : UInt16
  requestTimestamp : Int64
  acceptedTimestamp : Int64
  deriving DecidableEq

/-- `ConnectionRequestAccepted::new`. -/
def ConnectionRequestAccepted.new (clientAddress : SocketAddr)
    (requestTimestamp acceptedTimestamp : Int64) : ConnectionRequestAccepted :=
  ⟨clientAddress, 0, requestTimestamp, acceptedTimestamp⟩

/-- The fields of `ConnectionRequestAccepted` before the addresses it skips. -/
def readClientAddress : ReadM (SocketAddr × UInt16) := do
  let clientAddress ← readAddress
  let systemIndex ← readU16 .big
  return (clientAddress, systemIndex)

instance : Packet ConnectionRequestAccepted where
  ID := 0x10
  read payload :=
    match readClientAddress.run (Reader.new payload) with
    | .error e => .ok (.error e)
    | .ok ((clientAddress, systemIndex), cursor) => do
      let timestamps ← readTimestamps payload cursor
      return (fun t => ⟨clientAddress, systemIndex, t.1, t.2⟩) <$> timestamps
  write p := do
    writeAddress p.clientAddress
    writeU16 p.systemIndex .big
    writeFiller
    writeI64 p.requestTimestamp .big
    writeI64 p.acceptedTimestamp .big

/-- `NewIncomingConnection`. -/
structure NewIncomingConnection where
  serverAddress : SocketAddr
  requestTimestamp : Int64
  acceptedTimestamp : Int64
  deriving DecidableEq

instance : Packet NewIncomingConnection where
  ID := 0x13
  read payload :=
    match readAddress.run (Reader.new payload) with
    | .error e => .ok (.error e)
    | .ok (serverAddress, cursor) => do
      let timestamps ← readTimestamps payload cursor
      return (fun t => ⟨serverAddress, t.1, t.2⟩) <$> timestamps
  write p := do
    writeAddress p.serverAddress
    writeFiller
    writeI64 p.requestTimestamp .big
    writeI64 p.acceptedTimestamp .big

/-! ### Packets of the handshake -/

/-- The version of the protocol that both sides must speak. -/
def RAKNET_PROTOCOL_VERSION : UInt8 := 0xA

/-- `OpenConnectionRequest1`. -/
structure OpenConnectionRequest1 where
  magic : Bool
  protocolVersion : UInt8
  mtuSize : UInt16
  deriving DecidableEq

/-- `OpenConnectionRequest1::new`. -/
def OpenConnectionRequest1.new (protocolVersion : UInt8) (mtuSize : UInt16) :
    OpenConnectionRequest1 :=
  ⟨true, protocolVersion, mtuSize⟩

/-- `usize::try_into::<u16>().unwrap()`. -/
def unwrapU16 (n : ℕ) : Except Panic UInt16 :=
  if n < 2 ^ 16 then .ok (UInt16.ofNat n) else .error .unwrapErr

/-- The fields of `OpenConnectionRequest1` before its padding. -/
def readVersion : ReadM (Bool × UInt8) := do
  let magic ← readMagic
  let protocolVersion ← readU8
  return (magic, protocolVersion)

instance : Packet OpenConnectionRequest1 where
  ID := 0x5
  read payload :=
    match readVersion.run (Reader.new payload) with
    | .error e => .ok (.error e)
    | .ok ((magic, protocolVersion), _) => do
      let mtuSize ← unwrapU16 (payload.length + 32)
      return .ok ⟨magic, protocolVersion, mtuSize⟩
  write p := do
    writeMagic
    writeU8 p.protocolVersion
    let pos ← Writer.pos
    let padding ← usizeSub p.mtuSize.toNat (pos + 32)
    write (List.replicate padding 0)

/-- `OpenConnectionReply1`. -/
structure OpenConnectionReply1 where
  magic : Bool
  guid : UInt64
  useEncryption : UInt8
  mtuSize : UInt16
  deriving DecidableEq

/-- `OpenConnectionReply1::new`. -/
def OpenConnectionReply1.new (guid : UInt64) (useEncryption : Bool) (mtuSize : UInt16) :
    OpenConnectionReply1 :=
  ⟨true, guid, flagByte useEncryption, mtuSize⟩

instance : Packet OpenConnectionReply1 where
  ID := 0x6
  read := readWith do
    let magic ← readMagic
    let guid ← readU64 .big
    let useEncryption ← readU8
    let mtuSize ← readU16 .big
    return ⟨magic, guid, useEncryption, mtuSize⟩
  write p := do
    writeMagic
    writeU64 p.guid .big
    writeU8 p.useEncryption
    writeU16 p.mtuSize .big

/-- `OpenConnectionRequest2`. -/
structure OpenConnectionRequest2 where
  magic : Bool
  address : SocketAddr
  mtu : UInt16
  guid : UInt64
  deriving DecidableEq

/-- `OpenConnectionRequest2::new`. -/
def OpenConnectionRequest2.new (address : SocketAddr) (mtu : UInt16) (guid : UInt64) :
    OpenConnectionRequest2 :=
  ⟨true, address, mtu, guid⟩

instance : Packet OpenConnectionRequest2 where
  ID := 0x7
  read := readWith do
    let magic ← readMagic
    let address ← readAddress
    let mtu ← readU16 .big
    let guid ← readU64 .big
    return ⟨magic, address, mtu, guid⟩
  write p := do
    writeMagic
    writeAddress p.address
    writeU16 p.mtu .big
    writeU64 p.guid .big

/-- `OpenConnectionReply2`. -/
structure OpenConnectionReply2 where
  magic : Bool
  guid : UInt64
  address : SocketAddr
  mtu : UInt16
  encryptionEnabled : UInt8
  deriving DecidableEq

/-- `OpenConnectionReply2::new`. -/
def OpenConnectionReply2.new (guid : UInt64) (address : SocketAddr) (mtu : UInt16)
    (encryptionEnabled : Bool) : OpenConnectionReply2 :=
  ⟨true, guid, address, mtu, flagByte encryptionEnabled⟩

instance : Packet OpenConnectionReply2 where
  ID := 0x8
  read := readWith do
    let magic ← readMagic
    let guid ← readU64 .big
    let address ← readAddress
    let mtu ← readU16 .big
    let encryptionEnabled ← readU8
    return ⟨magic, guid, address, mtu, encryptionEnabled⟩
  write p := do
    writeMagic
    writeU64 p.guid .big
    writeAddress p.address
    writeU16 p.mtu .big
    writeU8 p.encryptionEnabled

/-- `AlreadyConnected`. -/
structure AlreadyConnected where
  magic : Bool
  guid : UInt64
  deriving DecidableEq

/-- `AlreadyConnected::new`. -/
def AlreadyConnected.new (guid : UInt64) : AlreadyConnected := ⟨true, guid⟩

instance : Packet AlreadyConnected where
  ID := 0x12
  read := readWith do
    let magic ← readMagic
    let guid ← readU64 .big
    return ⟨magic, guid⟩
  write p := do
    writeMagic
    writeU64 p.guid .big

/-- `IncompatibleProtocolVersion`. -/
structure IncompatibleProtocolVersion where
  serverProtocol : UInt8
  magic : Bool
  serverGuid : UInt64
  deriving DecidableEq

/-- `IncompatibleProtocolVersion::new`. -/
def IncompatibleProtocolVersion.new (protocolV : UInt8) (guid : UInt64) :
    IncompatibleProtocolVersion :=
  ⟨protocolV, true, guid⟩

instance : Packet IncompatibleProtocolVersion where
  ID := 0x19
  read := readWith do
    let serverProtocol ← readU8
    let magic ← readMagic
    let serverGuid ← readU64 .big
    return ⟨serverProtocol, magic, serverGuid⟩
  write p := do
    writeU8 p.serverProtocol
    writeMagic
    writeU64 p.serverGuid .big

/-- `UnconnectedPing`. -/
structure UnconnectedPing where
  time : Int64
  magic : Bool
  guid : UInt64
  deriving DecidableEq

/-- `UnconnectedPing::new`. -/
def UnconnectedPing.new (time : Int64) (guid : UInt64) : UnconnectedPing := ⟨time, true, guid⟩

instance : Packet UnconnectedPing where
  ID := 0x01
  read := readWith do
    let time ← readI64 .big
    let magic ← readMagic
    let guid ← readU64 .big
    return ⟨time, magic, guid⟩
  write p := do
    writeI64 p.time .big
    writeMagic
    writeU64 p.guid .big

/-- `UnconnectedPong`. -/
structure UnconnectedPong where
  time : Int64
  guid : UInt64
  magic : Bool
  motd : String
  deriving DecidableEq

/-- `UnconnectedPong::new`. -/
def UnconnectedPong.new (time : Int64) (guid : UInt64) (motd : String) : UnconnectedPong :=
  ⟨time, guid, true, motd⟩

instance : Packet UnconnectedPong where
  ID := 0x1c
  read := readWith do
    let time ← readI64 .big
    let guid ← readU64 .big
    let magic ← readMagic
    let motd ← readString
    return ⟨time, guid, magic, motd⟩
  write p := do
    writeI64 p.time .big
    writeU64 p.guid .big
    writeMagic
    writeString p.motd

end ActixRaknet
