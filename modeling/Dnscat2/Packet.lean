import Dnscat2.Wire

/-!
The outer dnscat2 frame of `pkg/protocol/packet.go`: a five-byte header (packet
id, type, session id) and the body of its type. `Packet` is the Go struct as it
is, with one optional body per type, so that a packet carrying no body or
several can be written down; `parse` and `Packet.toBytes` follow `Parse` and
`ToBytes` read by read and write by write, with their error texts. The random
packet id the `Create` functions draw is their first argument.
-/

namespace Dnscat2

def maxPacketSize : Nat := 1024

def packetTypeSYN : UInt8 := 0x00
def packetTypeMSG : UInt8 := 0x01
def packetTypeFIN : UInt8 := 0x02
def packetTypeENC : UInt8 := 0x03
def packetTypePING : UInt8 := 0xFF

def encSubtypeInit : UInt16 := 0x00
def encSubtypeAuth : UInt16 := 0x01

def optName : UInt16 := 0x0001
def optCommand : UInt16 := 0x0020

structure SYNPacket where
  seq : UInt16
  options : UInt16
  name : Bytes
deriving DecidableEq

structure MSGPacket where
  seq : UInt16
  ack : UInt16
  data : Bytes
deriving DecidableEq

structure FINPacket where
  reason : Bytes
deriving DecidableEq

structure PINGPacket where
  data : Bytes
deriving DecidableEq

structure ENCPacket where
  subtype : UInt16
  flags : UInt16
  publicKey : Mathlib.Vector UInt8 64
  authenticator : Mathlib.Vector UInt8 32
deriving DecidableEq

structure Packet where
  packetID : UInt16
  packetType : UInt8
  sessionID : UInt16
  syn : Option SYNPacket := none
  msg : Option MSGPacket := none
  fin : Option FINPacket := none
  ping : Option PINGPacket := none
  enc : Option ENCPacket := none
deriving DecidableEq

/-- The protocol package's `readNTString`: the partial string is dropped on `EOF`. -/
def readNTString (r : Bytes) : Except String (Bytes × Bytes) :=
  match splitNT r with
  | (s, some rest) => .ok (s, rest)
  | (_, none) => .error "EOF"

/-- `(*bytes.Reader).Read` into a zeroed `[n]byte`: `EOF` on an exhausted reader,
otherwise the bytes that are left, up to `n`, with the rest of the array zero. -/
def readInto (n : Nat) : Bytes → Except String (Mathlib.Vector UInt8 n × Bytes)
  | [] => .error "EOF"
  | r@(_ :: _) => .ok (copyInto (zeros n) r, r.drop n)

/-- `PacketType.String`. -/
def packetTypeString (t : UInt8) : String :=
  if t = packetTypeSYN then "SYN"
  else if t = packetTypeMSG then "MSG"
  else if t = packetTypeFIN then "FIN"
  else if t = packetTypeENC then "ENC"
  else if t = packetTypePING then "PING"
  else "Unknown"

/-- The type switch of `Parse`, after the header has been read into `p`. Its error formats
the type with `%02x`, which prints the hex digits of the type's `String`. -/
def parseBody (p : Packet) (r : Bytes) : Except String Packet :=
  if p.packetType = packetTypeSYN then do
    let (seq, r) ← readUint16 r
    let (opts, r) ← readUint16 r
    let name ← if opts &&& optName ≠ 0 then Prod.fst <$> readNTString r else pure []
    pure { p with syn := some { seq, options := opts, name } }
  else if p.packetType = packetTypeMSG then do
    let (seq, r) ← readUint16 r
    let (ack, r) ← readUint16 r
    pure { p with msg := some { seq, ack, data := r } }
  else if p.packetType = packetTypeFIN then do
    let (reason, _) ← readNTString r
    pure { p with fin := some { reason } }
  else if p.packetType = packetTypePING then do
    let (data, _) ← readNTString r
    pure { p with ping := some { data } }
  else if p.packetType = packetTypeENC then do
    let (subtype, r) ← readUint16 r
    let (flags, r) ← readUint16 r
    let enc : ENCPacket := { subtype, flags, publicKey := zeros 64, authenticator := zeros 32 }
    if subtype = encSubtypeInit then do
      let (key, _) ← readInto 64 r
      pure { p with enc := some { enc with publicKey := key } }
    else if subtype = encSubtypeAuth then do
      let (auth, _) ← readInto 32 r
      pure { p with enc := some { enc with authenticator := auth } }
    else pure { p with enc := some enc }
  else
    let name := String.join ((ascii (packetTypeString p.packetType)).map fun b => hex 2 b.toNat)
    .error s!"unknown message type: 0x{name}"

def parse (data : Bytes) (_options : UInt16) : Except String Packet := do
  if data.length < 5 then throw "packet too short"
  if data.length > maxPacketSize then throw s!"packet too long: {data.length} bytes"
  let (packetID, r) ← readUint16 data
  let (packetType, r) ← readUint8 r
  let (sessionID, r) ← readUint16 r
  parseBody { packetID, packetType, sessionID } r

def peekSessionID : Bytes → Except String UInt16
  | _ :: _ :: _ :: b3 :: b4 :: _ => .ok (getUint16 b3 b4)
  | _ => .error "packet too short"

def Packet.header (p : Packet) : Bytes :=
  putUint16 p.packetID ++ [p.packetType] ++ putUint16 p.sessionID

def Packet.toBytes (p : Packet) (_options : UInt16) : Except String Bytes :=
  if p.packetType = packetTypeSYN then
    match p.syn with
    | none => .error "SYN packet body is nil"
    | some syn => .ok (p.header ++ putUint16 syn.seq ++ putUint16 syn.options ++
        if syn.options &&& optName ≠ 0 then writeNTString syn.name else [])
  else if p.packetType = packetTypeMSG then
    match p.msg with
    | none => .error "MSG packet body is nil"
    | some msg => .ok (p.header ++ putUint16 msg.seq ++ putUint16 msg.ack ++ msg.data)
  else if p.packetType = packetTypeFIN then
    match p.fin with
    | none => .error "FIN packet body is nil"
    | some fin => .ok (p.header ++ writeNTString fin.reason)
  else if p.packetType = packetTypePING then
    match p.ping with
    | none => .error "PING packet body is nil"
    | some ping => .ok (p.header ++ writeNTString ping.data)
  else if p.packetType = packetTypeENC then
    match p.enc with
    | none => .error "ENC packet body is nil"
    | some enc => .ok (p.header ++ putUint16 enc.subtype ++ putUint16 enc.flags ++
        if enc.subtype = encSubtypeInit then enc.publicKey.toList
        else if enc.subtype = encSubtypeAuth then enc.authenticator.toList else [])
  else .error s!"unknown message type: {p.packetType.toNat}"

def createSYN (packetID sessionID seq options : UInt16) : Packet :=
  { packetID, packetType := packetTypeSYN, sessionID, syn := some { seq, options, name := [] } }

def createMSG (packetID sessionID seq ack : UInt16) (data : Bytes) : Packet :=
  { packetID, packetType := packetTypeMSG, sessionID, msg := some { seq, ack, data } }

def createFIN (packetID sessionID : UInt16) (reason : Bytes) : Packet :=
  { packetID, packetType := packetTypeFIN, sessionID, fin := some { reason } }

def createPING (packetID sessionID : UInt16) (data : Bytes) : Packet :=
  { packetID, packetType := packetTypePING, sessionID, ping := some { data } }

def createENC (packetID sessionID flags : UInt16) : Packet :=
  { packetID, packetType := packetTypeENC, sessionID,
    enc := some { subtype := 0, flags, publicKey := zeros 64, authenticator := zeros 32 } }

def Packet.setName (p : Packet) (name : Bytes) : Packet :=
  match p.syn with
  | some syn => { p with syn := some { syn with options := syn.options ||| optName, name } }
  | none => p

def Packet.setIsCommand (p : Packet) : Packet :=
  match p.syn with
  | some syn => { p with syn := some { syn with options := syn.options ||| optCommand } }
  | none => p

def Packet.setEncInit (p : Packet) (publicKey : Bytes) : Packet :=
  match p.enc with
  | some enc => { p with enc := some { enc with
      subtype := encSubtypeInit, publicKey := copyInto enc.publicKey publicKey } }
  | none => p

def Packet.setEncAuth (p : Packet) (authenticator : Bytes) : Packet :=
  match p.enc with
  | some enc => { p with enc := some { enc with
      subtype := encSubtypeAuth, authenticator := copyInto enc.authenticator authenticator } }
  | none => p

@[simp] theorem createSYN_packetType (packetID sessionID seq options : UInt16) :
    (createSYN packetID sessionID seq options).packetType = packetTypeSYN := rfl

@[simp] theorem createMSG_packetType (packetID sessionID seq ack : UInt16) (data : Bytes) :
    (createMSG packetID sessionID seq ack data).packetType = packetTypeMSG := rfl

@[simp] theorem createFIN_packetType (packetID sessionID : UInt16) (reason : Bytes) :
    (createFIN packetID sessionID reason).packetType = packetTypeFIN := rfl

@[simp] theorem createPING_packetType (packetID sessionID : UInt16) (data : Bytes) :
    (createPING packetID sessionID data).packetType = packetTypePING := rfl

@[simp] theorem createENC_packetType (packetID sessionID flags : UInt16) :
    (createENC packetID sessionID flags).packetType = packetTypeENC := rfl

@[simp] theorem setName_packetType (p : Packet) (name : Bytes) :
    (p.setName name).packetType = p.packetType := by
  unfold Packet.setName; split <;> rfl

@[simp] theorem setIsCommand_packetType (p : Packet) :
    p.setIsCommand.packetType = p.packetType := by
  unfold Packet.setIsCommand; split <;> rfl

@[simp] theorem setEncInit_packetType (p : Packet) (publicKey : Bytes) :
    (p.setEncInit publicKey).packetType = p.packetType := by
  unfold Packet.setEncInit; split <;> rfl

@[simp] theorem setEncAuth_packetType (p : Packet) (authenticator : Bytes) :
    (p.setEncAuth authenticator).packetType = p.packetType := by
  unfold Packet.setEncAuth; split <;> rfl

@[simp] theorem setName_sessionID (p : Packet) (name : Bytes) :
    (p.setName name).sessionID = p.sessionID := by
  unfold Packet.setName; split <;> rfl

@[simp] theorem setIsCommand_sessionID (p : Packet) :
    p.setIsCommand.sessionID = p.sessionID := by
  unfold Packet.setIsCommand; split <;> rfl

@[simp] theorem setEncInit_sessionID (p : Packet) (publicKey : Bytes) :
    (p.setEncInit publicKey).sessionID = p.sessionID := by
  unfold Packet.setEncInit; split <;> rfl

@[simp] theorem setEncAuth_sessionID (p : Packet) (authenticator : Bytes) :
    (p.setEncAuth authenticator).sessionID = p.sessionID := by
  unfold Packet.setEncAuth; split <;> rfl

/-- `GetMSGSize`: the length of an empty MSG frame; `ToBytes`'s error is dropped. -/
def getMSGSize (options : UInt16) : Nat :=
  match (createMSG 0 0 0 0 []).toBytes options with
  | .ok b => b.length
  | .error _ => 0

def getPINGSize : Nat :=
  match (createPING 0 0 []).toBytes 0 with
  | .ok b => b.length
  | .error _ => 0

@[simp] theorem getMSGSize_eq (options : UInt16) : getMSGSize options = 9 := rfl

@[simp] theorem getPINGSize_eq : getPINGSize = 6 := rfl

@[simp] theorem length_header (p : Packet) : p.header.length = 5 := rfl

/-- Every frame `ToBytes` writes is the packet's header followed by its body. -/
theorem toBytes_header {p : Packet} {o : UInt16} {bytes : Bytes} (h : p.toBytes o = .ok bytes) :
    p.header <+: bytes := by
  unfold Packet.toBytes at h
  -- one case per packet type of the switch, then per body present or missing
  simp only [ite_eq_iff] at h
  rcases h with ⟨-, h⟩ | ⟨-, ⟨-, h⟩ | ⟨-, ⟨-, h⟩ | ⟨-, ⟨-, h⟩ | ⟨-, ⟨-, h⟩ | ⟨-, h⟩⟩⟩⟩⟩ <;>
    first | cases h | (split at h <;> cases h)
  all_goals simp only [List.append_assoc, List.prefix_append]

/-- `PeekSessionID` reads the session id of the header a frame starts with. -/
theorem peekSessionID_header (p : Packet) (rest : Bytes) :
    peekSessionID (p.header ++ rest) = .ok p.sessionID := by
  simp [Packet.header, putUint16, peekSessionID, getUint16_putUint16]

theorem peekSessionID_toBytes {p : Packet} {o : UInt16} {bytes : Bytes}
    (h : p.toBytes o = .ok bytes) : peekSessionID bytes = .ok p.sessionID := by
  obtain ⟨rest, rfl⟩ := toBytes_header h
  exact peekSessionID_header p rest

end Dnscat2
