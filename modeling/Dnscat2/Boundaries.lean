import Dnscat2.StaleAck

/-!
One call at the edges of what it is given. `DataIncoming` turns frames away: once it has
polled the driver, a frame whose signature does not check, whose ciphertext does not
decrypt or that `Parse` refuses, a SYN outside `New`, and a MSG outside `Established`, out
of order, or acknowledging more bytes than the buffer holds (counted modulo `2 ^ 16`) leave
the polled session exactly as it is: no field of it changes, and the driver is handed
nothing. `GetOutgoing` has a budget, `maxLength`, that it does not always keep: a MSG
with less room than its own header asks `make` for a negative length, and the ENC that
opens an encrypted session goes out at 73 bytes whatever the budget.
-/

namespace Dnscat2

namespace Session

variable {D : Type} {ops : Driver D} {C : Crypto} {cfg : Config} {s p : Session D}
  {data : Bytes}

/-- The paths on which `DataIncoming` rejects `data` once its poll has left the session `s`. -/
inductive Rejects (C : Crypto) (cfg : Config) (s : Session D) (data : Bytes) : Prop
  | badSignature (e : Encryptor) : s.shouldEncrypt cfg = true → s.encryptor = some e →
      e.checkSignature C data = none → Rejects C cfg s data
  | badCiphertext (e : Encryptor) (c : Bytes) (err : String) : s.shouldEncrypt cfg = true →
      s.encryptor = some e → e.checkSignature C data = some c → e.decrypt C c = .error err →
      Rejects C cfg s data
  | badPlaintext (e : Encryptor) (c plain : Bytes) (n : UInt16) (err : String) :
      s.shouldEncrypt cfg = true → s.encryptor = some e → e.checkSignature C data = some c →
      e.decrypt C c = .ok (plain, n) → parse plain s.options = .error err → Rejects C cfg s data
  | badFrame (err : String) : s.shouldEncrypt cfg = false → parse data s.options = .error err →
      Rejects C cfg s data
  | synOutsideNew (pkt : Packet) : s.decodeIncoming C cfg data = .ok (some pkt) →
      pkt.packetType = packetTypeSYN → s.state ≠ .new → Rejects C cfg s data
  | msgOutsideEstablished (pkt : Packet) : s.decodeIncoming C cfg data = .ok (some pkt) →
      pkt.packetType = packetTypeMSG → s.state ≠ .established → Rejects C cfg s data
  | msgOutOfOrder (pkt : Packet) (msg : MSGPacket) : s.decodeIncoming C cfg data = .ok (some pkt) →
      pkt.packetType = packetTypeMSG → pkt.msg = some msg → msg.seq ≠ s.theirSeq →
      Rejects C cfg s data
  | msgAckBeyondBuffer (pkt : Packet) (msg : MSGPacket) :
      s.decodeIncoming C cfg data = .ok (some pkt) → pkt.packetType = packetTypeMSG →
      pkt.msg = some msg → s.outgoingBuffer.length < (msg.ack - s.mySeq).toNat →
      Rejects C cfg s data

/-- What `DataIncoming` does after its poll. -/
theorem dataIncoming_polled (hp : s.pollDriverForData ops = .ok p) :
    s.dataIncoming ops C cfg data = (p.decodeIncoming C cfg data).bind fun
      | none => .ok (p, false)
      | some pkt => p.dispatch ops C cfg pkt := by
  rw [dataIncoming, hp]; rfl

theorem dataIncoming_rejected (hp : s.pollDriverForData ops = .ok p) (h : p.Rejects C cfg data) :
    s.dataIncoming ops C cfg data = .ok (p, false) := by
  rw [dataIncoming_polled hp]
  cases h with
  | badSignature e hsh he hc =>
    simp [decodeIncoming, Except.bind, hsh, he, hc, deref, Functor.map, Except.map]
  | badCiphertext e c err hsh he hc hd =>
    simp [decodeIncoming, Except.bind, hsh, he, hc, hd, deref, Except.toOption, Functor.map, Except.map]
  | badPlaintext e c plain n err hsh he hc hd hq =>
    simp [decodeIncoming, Except.bind, hsh, he, hc, hd, hq, deref, Except.toOption, Functor.map, Except.map]
  | badFrame err hsh hq =>
    simp [decodeIncoming, Except.bind, hsh, hq, Except.toOption, Functor.map, Except.map]
  | synOutsideNew pkt hd ht hst =>
    simp only [hd, Except.bind, dispatch_syn ht, handleSYN]
  | msgOutsideEstablished pkt hd ht hst =>
    simp [hd, Except.bind, dispatch_msg ht, handleMSG, hst]
  | msgOutOfOrder pkt msg hd ht hm hseq =>
    simp [hd, Except.bind, dispatch_msg ht, handleMSG, hm, deref, hseq]
  | msgAckBeyondBuffer pkt msg hd ht hm hack =>
    simp [hd, Except.bind, dispatch_msg ht, handleMSG, hm, deref, hack]

end Session

open Renegotiation Replay in
theorem dataIncoming_rejected_short :
    (∃ s p, Session.new Crypto.zero ⟨0, false, false, []⟩ ConsoleDriver.new [] [] 1 7 none = .ok s ∧
      s.pollDriverForData consoleDriver = .ok p ∧
      s.dataIncoming consoleDriver Crypto.zero ⟨0, false, false, []⟩ [0, 1, 1] = .ok (p, false)) ∧
    renegotiated.dataIncoming consoleDriver Crypto.toy cfg msgReply = .ok (renegotiated, false) ∧
    synced.dataIncoming consoleDriver Crypto.toy cfg synReply = .ok (synced, false) ∧
    resent.dataIncoming consoleDriver Crypto.toy cfg msgReply = .ok (resent, false) ∧
    ackedOnce.dataIncoming consoleDriver Crypto.toy cfg msgReply = .ok (ackedOnce, false) :=
  -- too short to parse; signed under keys renegotiated since; a SYN once Established; a MSG
  -- while still in `New`, and once more after it was taken in
  ⟨⟨_, _, rfl, rfl, Session.dataIncoming_rejected rfl (.badFrame _ rfl rfl)⟩,
    Session.dataIncoming_rejected rfl (.badSignature (keyed 2) rfl rfl rfl),
    Session.dataIncoming_rejected rfl (.synOutsideNew _
      (show synced.decodeIncoming Crypto.toy cfg synReply = .ok (some (createSYN 2 1 5 0))
        from rfl) rfl (by decide)),
    Session.dataIncoming_rejected rfl (.msgOutsideEstablished _
      (show resent.decodeIncoming Crypto.toy cfg msgReply = .ok (some (createMSG 4 1 5 7 [42]))
        from rfl) rfl (by decide)),
    Session.dataIncoming_rejected rfl (.msgOutOfOrder _ ⟨5, 7, [42]⟩
      (show ackedOnce.decodeIncoming Crypto.toy cfg msgReply =
        .ok (some (createMSG 4 1 5 7 [42])) from rfl) rfl rfl (by decide))⟩

namespace Session

variable {D : Type} {ops : Driver D} {C : Crypto} {cfg : Config} {s p : Session D}
  {now : Nat} {m : Int} {pid : UInt16} {k : Option Bytes}

theorem makeLen_neg {n : Int} (h : n < 0) :
    makeLen n = .error (.panic "runtime error: makeslice: len out of range") := if_pos h

/-- The ENC that offers a public key is 73 bytes: the header, subtype, flags and the key. -/
theorem length_encInit (pid sid : UInt16) (key : Bytes) (o : UInt16) :
    ((createENC pid sid 0).setEncInit key).toBytes o =
      .ok ((createENC pid sid 0).header ++ putUint16 encSubtypeInit ++ putUint16 0 ++
        (copyInto (zeros 64) key).toList) := by
  simp [Packet.toBytes, createENC, Packet.setEncInit, packetTypeSYN, packetTypeMSG,
    packetTypeFIN, packetTypePING, packetTypeENC, Packet.header]

theorem getOutgoing_over_budget (hp : s.pollDriverForData ops = .ok p)
    (ht : p.canTransmitYet cfg now = true) (hping : p.isPing = false) :
    (p.state = .established → p.renegotiationDue cfg = .ok false →
      (p.shouldEncrypt cfg = true → 8 < m) → (if p.shouldEncrypt cfg then m - 8 else m) < 9 →
      s.getOutgoing ops C cfg now m pid k =
        .error (.panic "runtime error: makeslice: len out of range")) ∧
    (p.state = .beforeInit → p.encryptor.isSome →
      ∃ out s', s.getOutgoing ops C cfg now m pid k = .ok (some out, s') ∧ out.length = 73) := by
  rw [getOutgoing, hp]
  refine ⟨fun hst hdue henc hm => ?_, fun hst he => ?_⟩
  · have hexit : ¬ (p.shouldEncrypt cfg = true ∧ m - 8 ≤ 0) := fun h => by
      have := henc h.1; omega
    have hneg : min (p.outgoingBuffer.length : Int)
        ((if p.shouldEncrypt cfg then m - 8 else m) - getMSGSize p.options) < 0 :=
      Int.lt_of_le_of_lt (Int.min_le_right _ _) (by rw [getMSGSize_eq]; omega)
    show p.transmit C cfg now m pid k = _
    rw [transmit, if_neg (by simp [ht]), if_neg hexit, nextPacket, if_neg (by simp [hping]), hst]
    simp only [hdue, dataPacket, makeLen_neg hneg]
    rfl
  · obtain ⟨e, he⟩ := Option.isSome_iff_exists.mp he
    have hsh : p.shouldEncrypt cfg = false := by simp [shouldEncrypt, hst]
    refine ⟨(createENC pid p.id 0).header ++ putUint16 encSubtypeInit ++ putUint16 0 ++
      (copyInto (zeros 64) e.getMyPublicKey).toList, p.sent now, ?_, by simp [Packet.header]⟩
    simp [Except.bind, transmit, ht, hsh, nextPacket, hping, hst, he, deref, length_encInit,
      protect, Functor.map, Except.map]

end Session

/-- With a budget of five bytes: the ENC init of `Renegotiation.start` goes out at 73,
and an Established session with five bytes to send panics in `make`. -/
theorem getOutgoing_over_budget_five :
    (∃ out s', Renegotiation.start.getOutgoing consoleDriver Crypto.toy Renegotiation.cfg 0 5 0
        none = .ok (some out, s') ∧ out.length = 73) ∧
      { StaleAck.backlog with outgoingBuffer := ascii "hello" }.getOutgoing consoleDriver
        Crypto.toy StaleAck.plainCfg 0 5 0 none =
        .error (.panic "runtime error: makeslice: len out of range") :=
  ⟨(Session.getOutgoing_over_budget
      (show Renegotiation.start.pollDriverForData consoleDriver = .ok Renegotiation.start from rfl)
      rfl rfl).2 rfl rfl,
    (Session.getOutgoing_over_budget
      (show { StaleAck.backlog with outgoingBuffer := ascii "hello" }.pollDriverForData
        consoleDriver = .ok { StaleAck.backlog with outgoingBuffer := ascii "hello" } from rfl)
      (by rfl) (by rfl)).1 rfl rfl (by decide) (by decide)⟩

end Dnscat2
