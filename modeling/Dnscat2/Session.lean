import Dnscat2.Driver
import Dnscat2.Encryptor

/-!
A dnscat2 session (`pkg/session`): the handshake states, the two sequence
numbers, the buffer of bytes sent but not yet acknowledged, and the encryptors.
`getOutgoing` and `dataIncoming` are `GetOutgoing` and `DataIncoming` step by
step, over any driver; what they take from the environment is explicit: the
clock reading, the transport's length budget, the random packet id of
`Create*`, and the private key a renegotiation's `NewEncryptor` draws. The
package-level variables are `Config`. `s.mu` makes each call atomic, and the
driver is reached only through its own locked methods, so a run is a sequence of
whole calls interleaved with the driver's own goroutines.

`LastTransmit` is `none` for the zero `time.Time`, from which `time.Since` is
longer than any delay. A Go runtime panic (a negative `make` length, a `nil`
pointer) is `Halt.panic`; `os.Exit` is `Halt.exit` with the line printed before
it.
-/

namespace Dnscat2

inductive State
  | beforeInit
  | beforeAuth
  | new
  | established
deriving DecidableEq, Repr

def State.toString : State → String
  | .beforeInit => "BEFORE_INIT"
  | .beforeAuth => "BEFORE_AUTH"
  | .new => "NEW"
  | .established => "ESTABLISHED"

/-- The package-level settings `PacketDelay`, `TransmitInstantOnData`, `DoEncryption`
and `PresharedSecret` (empty for none). -/
structure Config where
  packetDelay : Nat
  transmitInstantOnData : Bool
  doEncryption : Bool
  presharedSecret : Bytes

structure Session (D : Type) where
  id : UInt16
  state : State
  theirSeq : UInt16
  mySeq : UInt16
  name : Bytes
  options : UInt16
  isCommand : Bool
  isPing : Bool
  driver : D
  outgoingBuffer : Bytes
  encryptor : Option Encryptor
  newEncryptor : Option Encryptor
  lastTransmit : Option Nat
  missedTransmissions : Nat
  isShutdown : Bool

/-- `make([]byte, n)`. -/
def makeLen (n : Int) : Except Halt Nat :=
  if n < 0 then .error (.panic "runtime error: makeslice: len out of range") else .ok n.toNat

/-- Following a pointer. -/
def deref {α : Type} : Option α → Except Halt α
  | some a => .ok a
  | none => .error (.panic "runtime error: invalid memory address or nil pointer dereference")

variable {D : Type} (ops : Driver D) (C : Crypto) (cfg : Config)

namespace Session

/-- `New`, with the session's driver: `id` and `mySeq` are its two `rand.Intn(0xFFFF)`
draws, `privateKey` the draw of `NewEncryptor`, `hostname` what `os.Hostname` gives. -/
def new (driver : D) (name hostname : Bytes) (id mySeq : UInt16) (privateKey : Option Bytes) :
    Except String (Session D) := do
  let (state, encryptor) ←
    if cfg.doEncryption then
      match C.newEncryptor cfg.presharedSecret privateKey with
      | .ok e => pure (State.beforeInit, some e)
      | .error err => throw s!"failed to create encryptor: {err}"
    else pure (State.new, none)
  pure { id, state, theirSeq := 0, mySeq,
         name := if name = [] then [] else name ++ ascii " (" ++ hostname ++ ascii ")",
         options := 0, isCommand := false, isPing := false, driver, outgoingBuffer := [],
         encryptor, newEncryptor := none, lastTransmit := none, missedTransmissions := 0,
         isShutdown := false }

/-- `Kill`: a second call only prints. -/
def kill (s : Session D) : Session D :=
  if s.isShutdown then s else { s with isShutdown := true, driver := ops.close s.driver }

def shouldEncrypt (s : Session D) : Bool := cfg.doEncryption && s.state != .beforeInit

def canTransmitYet (s : Session D) (now : Nat) : Bool :=
  match s.lastTransmit with
  | none => true
  | some t => cfg.packetDelay < now - t

/-- `pollDriverForData`: everything the driver has queued joins the buffer; a driver
that is done kills the session once the buffer is empty. -/
def pollDriverForData (s : Session D) : Except Halt (Session D) :=
  (fun r =>
    let s := { s with driver := r.2 }
    match r.1 with
    | none => if s.outgoingBuffer = [] then s.kill ops else s
    | some data => { s with outgoingBuffer := s.outgoingBuffer ++ data }) <$>
    ops.getOutgoing s.driver (-1)

/-- The SYN of the New state, with the command flag and the name when the session has them. -/
def synPacket (s : Session D) (packetID : UInt16) : Packet :=
  let pkt := createSYN packetID s.id s.mySeq 0
  let pkt := if s.isCommand then pkt.setIsCommand else pkt
  if s.name ≠ [] then pkt.setName s.name else pkt

/-- `s.shouldEncrypt() && s.Encryptor.ShouldRenegotiate()`. -/
def renegotiationDue (s : Session D) : Except Halt Bool :=
  if s.shouldEncrypt cfg then Encryptor.shouldRenegotiate <$> deref s.encryptor else .ok false

/-- The renegotiation branch: wait while a new encryptor is pending, otherwise make one
and offer its public key. -/
def renegotiate (s : Session D) (packetID : UInt16) (privateKey : Option Bytes) :
    Option Packet × Session D :=
  if s.newEncryptor.isSome then (none, s)
  else
    match C.newEncryptor cfg.presharedSecret privateKey with
    | .error _ => (none, s)
    | .ok e => (some ((createENC packetID s.id 0).setEncInit e.getMyPublicKey),
        { s with newEncryptor := some e })

/-- The Established branch otherwise: a MSG carrying the start of the buffer, read
without taking it off, or a FIN once the session is shut down with nothing to send. -/
def dataPacket (s : Session D) (maxLength : Int) (packetID : UInt16) : Except Halt Packet :=
  (fun dataLen =>
    let data := s.outgoingBuffer.take dataLen
    if data = [] ∧ s.isShutdown = true then createFIN packetID s.id (ascii "Stream closed")
    else createMSG packetID s.id s.mySeq s.theirSeq data) <$>
    makeLen (min (s.outgoingBuffer.length : Int) (maxLength - getMSGSize s.options))

/-- The packet the switch of `GetOutgoing` builds once `maxLength` has lost the
encryption header; `none` is one of its `return nil`. -/
def nextPacket (s : Session D) (maxLength : Int) (packetID : UInt16)
    (privateKey : Option Bytes) : Except Halt (Option Packet × Session D) :=
  if s.isPing then
    (fun dataLen => (some (createPING packetID s.id (s.outgoingBuffer.take dataLen)), s)) <$>
      makeLen (min (s.outgoingBuffer.length : Int) (maxLength - getPINGSize))
  else
    match s.state with
    | .beforeInit =>
      (fun e => (some ((createENC packetID s.id 0).setEncInit e.getMyPublicKey), s)) <$>
        deref s.encryptor
    | .beforeAuth =>
      (fun e => (some ((createENC packetID s.id 0).setEncAuth e.myAuthenticator.toList), s)) <$>
        deref s.encryptor
    | .new => .ok (some (s.synPacket packetID), s)
    | .established =>
      (s.renegotiationDue cfg).bind fun due =>
        if due then .ok (s.renegotiate C cfg packetID privateKey)
        else (fun pkt => (some pkt, s)) <$> s.dataPacket maxLength packetID

/-- The end of `GetOutgoing` for a serialized packet: `Encrypt` then `Sign` when the
session encrypts. -/
def protect (s : Session D) (bytes : Bytes) : Except Halt (Bytes × Session D) :=
  if s.shouldEncrypt cfg then
    (fun e => ((e.encrypt C bytes).2.sign C (e.encrypt C bytes).1,
      { s with encryptor := some (e.encrypt C bytes).2 })) <$> deref s.encryptor
  else .ok (bytes, s)

/-- `LastTransmit` and `MissedTransmissions` after a packet has gone out. -/
def sent (s : Session D) (now : Nat) : Session D :=
  { s with lastTransmit := some now, missedTransmissions := s.missedTransmissions + 1 }

/-- `GetOutgoing` after `pollDriverForData`. -/
def transmit (s : Session D) (now : Nat) (maxLength : Int) (packetID : UInt16)
    (privateKey : Option Bytes) : Except Halt (Option Bytes × Session D) :=
  if s.canTransmitYet cfg now = false then .ok (none, s)
  else if s.shouldEncrypt cfg ∧ maxLength - 8 ≤ 0 then
    .error (.exit 1 "There isn't enough room in this protocol to encrypt packets!")
  else
    (s.nextPacket C cfg (if s.shouldEncrypt cfg then maxLength - 8 else maxLength) packetID
      privateKey).bind fun r =>
      match r.1 with
      | none => .ok (none, r.2)
      | some pkt =>
        match pkt.toBytes r.2.options with
        | .error _ => .ok (none, r.2)
        | .ok bytes => (fun q => (some q.1, q.2.sent now)) <$> r.2.protect C cfg bytes

def getOutgoing (s : Session D) (now : Nat) (maxLength : Int) (packetID : UInt16)
    (privateKey : Option Bytes) : Except Halt (Option Bytes × Session D) :=
  (s.pollDriverForData ops).bind fun s => s.transmit C cfg now maxLength packetID privateKey

/-- The checks `DataIncoming` makes before its type switch: `CheckSignature` and
`Decrypt` when the session encrypts, then `Parse`. `none` is a `return false`. -/
def decodeIncoming (s : Session D) (data : Bytes) : Except Halt (Option Packet) :=
  (fun plain => plain.bind fun p => (parse p s.options).toOption) <$>
    if s.shouldEncrypt cfg then
      (fun e => (e.checkSignature C data).bind fun c => (e.decrypt C c).toOption.map Prod.fst) <$>
        deref s.encryptor
    else .ok (some data)

def handleSYN (s : Session D) (pkt : Packet) : Except Halt (Session D × Bool) :=
  match s.state with
  | .new =>
    (fun syn => ({ s with theirSeq := syn.seq, options := syn.options, missedTransmissions := 0,
                          state := .established }, true)) <$> deref pkt.syn
  | _ => .ok (s, false)

/-- An in-order MSG whose acknowledgement fits: `bytesAcked`, counted back from `MySeq`
modulo `2 ^ 16`, retires that many bytes and moves `MySeq` on; the payload moves
`TheirSeq` on. With it, whether to send right away. -/
def acceptMSG (s : Session D) (msg : MSGPacket) : Session D × Bool :=
  let bytesAcked := msg.ack - s.mySeq
  let sendRightAway := decide (0 < bytesAcked) && cfg.transmitInstantOnData
  let s := { s with
    missedTransmissions := 0
    lastTransmit := if sendRightAway then none else s.lastTransmit
    theirSeq := s.theirSeq + UInt16.ofNat msg.data.length }
  (if 0 < bytesAcked then
      { s with outgoingBuffer := s.outgoingBuffer.drop bytesAcked.toNat,
               mySeq := s.mySeq + bytesAcked }
    else s, sendRightAway)

/-- `handleMSG`: an in-order MSG whose acknowledgement fits in the buffer is accepted,
and a payload goes to the driver. -/
def handleMSG (s : Session D) (pkt : Packet) : Except Halt (Session D × Bool) :=
  if s.state ≠ .established then .ok (s, false)
  else
    (deref pkt.msg).bind fun msg =>
      if msg.seq ≠ s.theirSeq then .ok (s, false)
      else if s.outgoingBuffer.length < (msg.ack - s.mySeq).toNat then .ok (s, false)
      else
        let r := s.acceptMSG cfg msg
        if msg.data = [] then .ok r
        else (fun driver => ({ r.1 with driver, lastTransmit := none }, r.2)) <$>
          ops.dataReceived s.driver msg.data

def handleFIN (s : Session D) (pkt : Packet) : Except Halt (Session D × Bool) :=
  (fun _ => (kill ops { s with lastTransmit := none, missedTransmissions := 0 }, true)) <$>
    deref pkt.fin

/-- `os.Exit(1)` on an ENC of the wrong subtype. -/
def unexpectedSubtype (subtype : UInt16) : Halt :=
  let sub := hex 4 subtype.toNat
  .exit 1 s!"Received unexpected encryption packet subtype: 0x{sub}"

def handleENC (s : Session D) (pkt : Packet) : Except Halt (Session D × Bool) :=
  match s.state with
  | .beforeInit =>
    (deref pkt.enc).bind fun enc =>
      if enc.subtype ≠ encSubtypeInit then .error (unexpectedSubtype enc.subtype)
      else
        (deref s.encryptor).bind fun e =>
          match e.setTheirPublicKey C enc.publicKey.toList with
          | .error err => .error (.exit 1 s!"Failed to calculate shared secret: {err}")
          | .ok e =>
            .ok ({ s with encryptor := some e,
                          state := if cfg.presharedSecret ≠ [] then .beforeAuth else .new }, true)
  | .beforeAuth =>
    (deref pkt.enc).bind fun enc =>
      if enc.subtype ≠ encSubtypeAuth then .error (unexpectedSubtype enc.subtype)
      else
        (deref s.encryptor).bind fun e =>
          if enc.authenticator.toList ≠ e.theirAuthenticator.toList then
            .error (.exit 1 ("Their authenticator was wrong! That likely means something " ++
              "weird is happening on the network..."))
          else .ok ({ s with state := .new }, true)
  | .established =>
    match s.newEncryptor with
    | none => .error (.exit 1 "Received unexpected renegotiation from the server!")
    | some ne =>
      (deref pkt.enc).bind fun enc =>
        match ne.setTheirPublicKey C enc.publicKey.toList with
        | .error err =>
          .error (.exit 1 s!"Failed to calculate shared secret for renegotiation: {err}")
        | .ok ne => .ok ({ s with encryptor := some ne, newEncryptor := none }, true)
  | .new =>
    let st := State.toString .new
    .error (.exit 1 s!"Received ENC packet in state {st}; error!")

/-- The type switch of `DataIncoming`, after the ping session's shortcut. -/
def dispatch (s : Session D) (pkt : Packet) : Except Halt (Session D × Bool) :=
  if s.isPing ∧ pkt.packetType = packetTypePING then
    (deref pkt.ping).bind fun ping =>
      (fun driver => ({ s with driver }, true)) <$> ops.dataReceived s.driver ping.data
  else if pkt.packetType = packetTypeSYN then s.handleSYN pkt
  else if pkt.packetType = packetTypeMSG then s.handleMSG ops cfg pkt
  else if pkt.packetType = packetTypeFIN then s.handleFIN ops pkt
  else if pkt.packetType = packetTypeENC then s.handleENC C cfg pkt
  else .ok (s, false)

def dataIncoming (s : Session D) (data : Bytes) : Except Halt (Session D × Bool) :=
  (s.pollDriverForData ops).bind fun s =>
    (s.decodeIncoming C cfg data).bind fun
      | none => .ok (s, false)
      | some pkt => s.dispatch ops C cfg pkt

end Session

end Dnscat2
