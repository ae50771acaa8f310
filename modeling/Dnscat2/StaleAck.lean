import Dnscat2.PacketRoundTrip
import Dnscat2.Replay

/-!
A stale acknowledgement. `handleMSG` reads `bytesAcked`, the acknowledgement counted back
from `MySeq` modulo `2 ^ 16`, as bytes the server holds whenever the buffer has that
many, and does not compare it with what is in flight. An acknowledgement the server sent
before it got the client's last MSG, arriving after the one that acknowledges that MSG,
is then `2 ^ 16 - k` bytes ahead instead of `k` behind: with `2 ^ 16` bytes or more in
the buffer the session retires them, and `2 ^ 16` bytes leave the buffer, `MySeq` going
round once, while the server has received the `k` bytes of one MSG.
-/

namespace Dnscat2

section StaleAck

variable {D : Type} {ops : Driver D} {C : Crypto} {cfg : Config} {s : Session D}

/-- A MSG with no data reads back as itself. -/
theorem parse_ack {pid sid seq ack o o' : UInt16} {f : Bytes}
    (h : (createMSG pid sid seq ack []).toBytes o = .ok f) :
    parse f o' = .ok (createMSG pid sid seq ack []) := by
  obtain ⟨bytes, hb, hp⟩ := parse_toBytes_body pid sid (.msg ⟨seq, ack, []⟩) trivial o o'
  obtain rfl : bytes = f := Except.ok.inj (hb.symm.trans h)
  refine hp ?_
  simp only [Packet.toBytes, Body.toPacket, Packet.header] at hb
  cases hb
  simp [maxPacketSize]

namespace Session

/-- An Established session takes in a MSG with no data that is in order and whose
acknowledgement the buffer covers. -/
theorem handleMSG_ack {pkt : Packet} {msg : MSGPacket} (hst : s.state = .established)
    (hmsg : pkt.msg = some msg) (hseq : msg.seq = s.theirSeq)
    (hfit : (msg.ack - s.mySeq).toNat ≤ s.outgoingBuffer.length) (hd : msg.data = []) :
    s.handleMSG ops cfg pkt = .ok (s.acceptMSG cfg msg) := by
  simp only [handleMSG, hst, ne_eq, not_true_eq_false, if_false, hmsg, deref, Except.bind, hseq,
    Nat.not_lt.mpr hfit, hd, if_true]

/-- A session without encryption and with a driver with nothing to send takes in the
server's pure acknowledgement `f` of `ack` at `TheirSeq`, if the buffer covers it. -/
theorem dataIncoming_ack {pid sid seq ack o : UInt16} {f : Bytes}
    (hq : ops.getOutgoing s.driver (-1) = .ok (some [], s.driver))
    (hsh : s.shouldEncrypt cfg = false) (hst : s.state = .established)
    (hf : (createMSG pid sid seq ack []).toBytes o = .ok f) (hseq : seq = s.theirSeq)
    (hfit : (ack - s.mySeq).toNat ≤ s.outgoingBuffer.length) :
    s.dataIncoming ops C cfg f = .ok (s.acceptMSG cfg ⟨seq, ack, []⟩) :=
  (dataIncoming_quiet hq (decodeIncoming_plain hsh (parse_ack hf))).trans
    ((dispatch_msg rfl s).trans (handleMSG_ack hst rfl hseq hfit rfl))

end Session

/-- An Established session without encryption, with `2 ^ 16` bytes or more to send,
sends a MSG of `k` bytes, `0 < k < 2 ^ 16`. The server acknowledges it; its earlier pure
acknowledgement, of `MySeq` before the MSG, arrives after that. The session retires
`2 ^ 16` bytes, and `MySeq` comes back to where it was, while the server has received
only the `k` bytes of the MSG. -/
theorem stale_ack_retires_unreceived (ops : Driver D) (C : Crypto) (cfg : Config)
    {s : Session D} {now : Nat} {m : Int} {pid pid₀ pid₁ o₀ o₁ : UInt16} {k : Option Bytes}
    {f₀ f₁ : Bytes} (hq : ops.getOutgoing s.driver (-1) = .ok (some [], s.driver))
    (hdo : cfg.doEncryption = false) (hp : s.isPing = false) (hst : s.state = .established)
    (hsd : s.isShutdown = false) (hob : 65536 ≤ s.outgoingBuffer.length) (hm : 10 ≤ m)
    (hm' : m < 65545) (hc : s.canTransmitYet cfg now = true)
    (hf₁ : (createMSG pid₁ s.id s.theirSeq (s.mySeq + UInt16.ofNat (m - 9).toNat) []).toBytes o₁ =
      .ok f₁)
    (hf₀ : (createMSG pid₀ s.id s.theirSeq s.mySeq []).toBytes o₀ = .ok f₀) :
    ∃ out s₁ s₂ s₃ b₂ b₃,
      (createMSG pid s.id s.mySeq s.theirSeq (s.outgoingBuffer.take (m - 9).toNat)).toBytes
        s.options = .ok out ∧
      s.getOutgoing ops C cfg now m pid k = .ok (some out, s₁) ∧
      s₁.dataIncoming ops C cfg f₁ = .ok (s₂, b₂) ∧ s₂.dataIncoming ops C cfg f₀ = .ok (s₃, b₃) ∧
      s₃.outgoingBuffer = s.outgoingBuffer.drop 65536 ∧ s₃.mySeq = s.mySeq ∧
      0 < (m - 9).toNat ∧ (m - 9).toNat < 65536 := by
  have hk0 : 0 < (m - 9).toNat := by omega
  have hk : (m - 9).toNat < 65536 := by omega
  have hsh : s.shouldEncrypt cfg = false := by simp [Session.shouldEncrypt, hdo]
  -- the MSG carries the first `k` bytes of the buffer
  have hn : s.nextPacket C cfg m pid k = _ :=
    Session.nextPacket_msg hp hst (by simp [Session.renegotiationDue, hsh]) hsd (by omega)
  rw [Int.min_eq_right (by omega)] at hn
  obtain ⟨out, hb⟩ : ∃ out, (createMSG pid s.id s.mySeq s.theirSeq
      (s.outgoingBuffer.take (m - 9).toNat)).toBytes s.options = .ok out := ⟨_, rfl⟩
  have hg := Session.getOutgoing_sends_plain hq hsh hc hn hb
  -- the server's acknowledgement of it retires `k` bytes
  let s₁ := s.sent now
  let msg₁ : MSGPacket := ⟨s.theirSeq, s.mySeq + UInt16.ofNat (m - 9).toNat, []⟩
  have h₂ : s₁.dataIncoming ops C cfg f₁ =
      .ok ((s₁.acceptMSG cfg msg₁).1, (s₁.acceptMSG cfg msg₁).2) :=
    Session.dataIncoming_ack hq hsh hst hf₁ rfl
      (show (s.mySeq + UInt16.ofNat (m - 9).toNat - s.mySeq).toNat ≤ s.outgoingBuffer.length by
        rw [toNat_add_ofNat_sub16 _ hk]; omega)
  rw [Session.acceptMSG_eq] at h₂
  -- the stale one is `2 ^ 16 - k` bytes ahead, and the buffer covers it
  let s₂ : Session D :=
    { s₁ with missedTransmissions := 0, lastTransmit := (s₁.acceptMSG cfg msg₁).1.lastTransmit,
              theirSeq := s₁.theirSeq + UInt16.ofNat msg₁.data.length,
              outgoingBuffer := s₁.outgoingBuffer.drop (msg₁.ack - s₁.mySeq).toNat,
              mySeq := msg₁.ack }
  let msg₀ : MSGPacket := ⟨s.theirSeq, s.mySeq, []⟩
  have h₃ : s₂.dataIncoming ops C cfg f₀ =
      .ok ((s₂.acceptMSG cfg msg₀).1, (s₂.acceptMSG cfg msg₀).2) :=
    Session.dataIncoming_ack hq hsh hst hf₀ (add_ofNat_zero16 _).symm
      (show (s.mySeq - (s.mySeq + UInt16.ofNat (m - 9).toNat)).toNat ≤
          (s.outgoingBuffer.drop (s.mySeq + UInt16.ofNat (m - 9).toNat - s.mySeq).toNat).length by
        rw [toNat_sub_add_ofNat16 _ hk0 hk, toNat_add_ofNat_sub16 _ hk, List.length_drop]; omega)
  rw [Session.acceptMSG_eq] at h₃
  refine ⟨out, _, _, _, _, _, hb, hg, h₂, h₃, ?_, rfl, hk0, hk⟩
  show (s.outgoingBuffer.drop (s.mySeq + UInt16.ofNat (m - 9).toNat - s.mySeq).toNat).drop
      (s.mySeq - (s.mySeq + UInt16.ofNat (m - 9).toNat)).toNat = s.outgoingBuffer.drop 65536
  rw [toNat_sub_add_ofNat16 _ hk0 hk, toNat_add_ofNat_sub16 _ hk, List.drop_drop]
  congr 1
  omega

end StaleAck

namespace StaleAck

/-- No encryption, no delay between sends. -/
def plainCfg : Config := ⟨0, false, false, []⟩

/-- An Established session with `2 ^ 16` bytes to send, at `MySeq` 7 and `TheirSeq` 5. -/
def backlog : Session ConsoleDriver :=
  { id := 1, state := .established, theirSeq := 5, mySeq := 7, name := [], options := 0,
    isCommand := false, isPing := false, driver := ConsoleDriver.new,
    outgoingBuffer := List.replicate 65536 0, encryptor := none, newEncryptor := none,
    lastTransmit := none, missedTransmissions := 0, isShutdown := false }

/-- The server's acknowledgement of the 91 bytes of a MSG, and its earlier one of none. -/
def ackFresh : Bytes := [0, 1, 1, 0, 1, 0, 5, 0, 98]

def ackStale : Bytes := [0, 2, 1, 0, 1, 0, 5, 0, 7]

end StaleAck

open StaleAck in
theorem stale_ack_retires_unreceived_backlog :
    ∃ out s₁ s₂ s₃ b₂ b₃,
      (createMSG 0 backlog.id backlog.mySeq backlog.theirSeq
        (backlog.outgoingBuffer.take ((100 : Int) - 9).toNat)).toBytes backlog.options = .ok out ∧
      backlog.getOutgoing consoleDriver Crypto.zero plainCfg 1 100 0 none = .ok (some out, s₁) ∧
      s₁.dataIncoming consoleDriver Crypto.zero plainCfg ackFresh = .ok (s₂, b₂) ∧
      s₂.dataIncoming consoleDriver Crypto.zero plainCfg ackStale = .ok (s₃, b₃) ∧
      s₃.outgoingBuffer = backlog.outgoingBuffer.drop 65536 ∧ s₃.mySeq = backlog.mySeq ∧
      0 < ((100 : Int) - 9).toNat ∧ ((100 : Int) - 9).toNat < 65536 :=
  stale_ack_retires_unreceived consoleDriver Crypto.zero plainCfg (Renegotiation.quiet backlog rfl)
    rfl rfl rfl rfl
    (Nat.le_of_eq (List.length_replicate 65536 (0 : UInt8)).symm)
    (by decide) (by decide) rfl
    (show (createMSG 1 backlog.id backlog.theirSeq
      (backlog.mySeq + UInt16.ofNat ((100 : Int) - 9).toNat) []).toBytes 0 = .ok ackFresh from rfl)
    (show (createMSG 2 backlog.id backlog.theirSeq backlog.mySeq []).toBytes 0 = .ok ackStale
      from rfl)

end Dnscat2
