import Dnscat2.Run

/-!
One call at a time: what `GetOutgoing` and `DataIncoming` do in the situations a run of
the handshake goes through, for a driver with nothing to send, which polling leaves as
it is. With these, a run is composed event by event (`run_cons_ok`, `run_append`), and
a run of unanswered retransmissions (`resends`) at once (`run_resends`).
-/

namespace Dnscat2

/-- `GetOutgoing` calls `gap` apart after `t`: a transport polling a session that hears
nothing back. -/
def resends {E : Type} (t gap : Nat) (m : Int) (pid : UInt16) (k : Option Bytes) :
    Nat → List (Event E)
  | 0 => []
  | n + 1 => .call (.getOutgoing (t + gap) m pid k) :: resends (t + gap) gap m pid k n

/-- Every frame `ToBytes` writes starts with the five header bytes. -/
theorem length_toBytes {p : Packet} {o : UInt16} {bytes : Bytes} (h : p.toBytes o = .ok bytes) :
    headerLength ≤ bytes.length := by
  obtain ⟨rest, rfl⟩ := toBytes_header h
  simp [headerLength]

/-! ### What a parsed frame carries -/

theorem parseBody_packetType {p pkt : Packet} {r : Bytes} (h : parseBody p r = .ok pkt) :
    pkt.packetType = p.packetType := by
  simp only [parseBody, ite_eq_iff] at h
  rcases h with ⟨-, h⟩ | ⟨-, ⟨-, h⟩ | ⟨-, ⟨-, h⟩ | ⟨-, ⟨-, h⟩ | ⟨-, ⟨-, h⟩ | ⟨-, ⟨⟩⟩⟩⟩⟩⟩
  all_goals
    simp only [bind, Except.bind, pure, Except.pure] at h
    repeat' split at h
  all_goals first | cases h; rfl | cases h

theorem parseBody_ping {p pkt : Packet} {r : Bytes} (h : parseBody p r = .ok pkt)
    (ht : p.packetType = packetTypePING) : ∃ ping, pkt.ping = some ping := by
  simp only [parseBody, ht, packetTypeSYN, packetTypeMSG, packetTypeFIN, packetTypePING] at h
  obtain ⟨⟨data, _⟩, -, h⟩ := bind_eq_ok.mp h
  cases h
  exact ⟨_, rfl⟩

/-- `Parse` hands the bytes after the header to `parseBody`. -/
theorem parse_parseBody {data : Bytes} {o : UInt16} {pkt : Packet} (h : parse data o = .ok pkt) :
    ∃ p r, parseBody p r = .ok pkt := by
  unfold parse at h
  split_ifs at h <;> simp only [bind_eq_ok] at h <;>
    obtain ⟨_, -, _, -, _, -, _, -, _, -, h⟩ := h <;> exact ⟨_, _, h⟩

/-- A frame that parses to a PING carries a PING body, so the ping shortcut of
`DataIncoming` never follows a nil pointer; the same for a MSG and `handleMSG`. -/
theorem parse_ping {data : Bytes} {o : UInt16} {pkt : Packet} (h : parse data o = .ok pkt)
    (ht : pkt.packetType = packetTypePING) : ∃ ping, pkt.ping = some ping := by
  obtain ⟨p, r, hb⟩ := parse_parseBody h
  exact parseBody_ping hb ((parseBody_packetType hb).symm.trans ht)

namespace Session

variable {D E : Type} {ops : Driver D} {C : Crypto} {cfg : Config} {feed : D → E → D}
  {s s₁ : Session D} {e : Encryptor} {pkt : Packet} {data : Bytes}

/-! ### Runs -/

theorem run_cons_ok {ev : Event E} {es : List (Event E)} (h : s.step ops C cfg feed ev = .ok s₁) :
    s.run ops C cfg feed (ev :: es) = s₁.run ops C cfg feed es := by
  simp only [run, h, Except.bind]

theorem run_append (es es' : List (Event E)) (s : Session D) :
    s.run ops C cfg feed (es ++ es') =
      (s.run ops C cfg feed es).bind fun s => s.run ops C cfg feed es' := by
  induction es generalizing s with
  | nil => rfl
  | cons e es ih =>
    simp only [List.cons_append, run]
    cases s.step ops C cfg feed e with
    | error _ => rfl
    | ok s₁ => exact ih s₁

theorem step_getOutgoing {now : Nat} {m : Int} {pid : UInt16} {k : Option Bytes}
    {r : Option Bytes} (h : s.getOutgoing ops C cfg now m pid k = .ok (r, s₁)) :
    s.step ops C cfg feed (.call (.getOutgoing now m pid k)) = .ok s₁ := by
  rw [step, call, h]; rfl

theorem step_dataIncoming {b : Bool} (h : s.dataIncoming ops C cfg data = .ok (s₁, b)) :
    s.step ops C cfg feed (.call (.dataIncoming data)) = .ok s₁ := by
  rw [step, call, h]; rfl

/-! ### A driver with nothing to send -/

theorem pollDriverForData_quiet (hq : ops.getOutgoing s.driver (-1) = .ok (some [], s.driver)) :
    s.pollDriverForData ops = .ok s := by
  simp [pollDriverForData, hq, Functor.map, Except.map]

/-! ### `DataIncoming` -/

theorem decodeIncoming_plain (hsh : s.shouldEncrypt cfg = false)
    (hp : parse data s.options = .ok pkt) : s.decodeIncoming C cfg data = .ok (some pkt) := by
  simp [decodeIncoming, hsh, hp, Except.toOption, Functor.map, Except.map]

theorem decodeIncoming_checked {c plain : Bytes} {n : UInt16} (hsh : s.shouldEncrypt cfg = true)
    (he : s.encryptor = some e) (hc : e.checkSignature C data = some c)
    (hd : e.decrypt C c = .ok (plain, n)) (hp : parse plain s.options = .ok pkt) :
    s.decodeIncoming C cfg data = .ok (some pkt) := by
  simp [decodeIncoming, hsh, he, hc, hd, hp, deref, Except.toOption, Functor.map, Except.map]

theorem dataIncoming_quiet (hq : ops.getOutgoing s.driver (-1) = .ok (some [], s.driver))
    (hd : s.decodeIncoming C cfg data = .ok (some pkt)) :
    s.dataIncoming ops C cfg data = s.dispatch ops C cfg pkt := by
  simp only [dataIncoming, pollDriverForData_quiet hq, hd, Except.bind]

theorem handleSYN_new {syn : SYNPacket} (hst : s.state = .new) (hsyn : pkt.syn = some syn) :
    s.handleSYN pkt =
      .ok ({ s with theirSeq := syn.seq, options := syn.options, missedTransmissions := 0,
                    state := .established }, true) := by
  simp [handleSYN, hst, hsyn, deref, Functor.map, Except.map]

theorem handleENC_init {enc : ENCPacket} {e' : Encryptor} (hst : s.state = .beforeInit)
    (henc : pkt.enc = some enc) (hsub : enc.subtype = encSubtypeInit) (he : s.encryptor = some e)
    (hset : e.setTheirPublicKey C enc.publicKey.toList = .ok e') :
    s.handleENC C cfg pkt =
      .ok ({ s with encryptor := some e',
                    state := if cfg.presharedSecret ≠ [] then .beforeAuth else .new }, true) := by
  simp [handleENC, hst, henc, hsub, he, hset, deref, bind, Except.bind]

theorem handleENC_auth {enc : ENCPacket} (hst : s.state = .beforeAuth) (henc : pkt.enc = some enc)
    (hsub : enc.subtype = encSubtypeAuth) (he : s.encryptor = some e)
    (hauth : enc.authenticator.toList = e.theirAuthenticator.toList) :
    s.handleENC C cfg pkt = .ok ({ s with state := .new }, true) := by
  simp [handleENC, hst, henc, hsub, he, hauth, deref, bind, Except.bind]

theorem handleENC_renegotiation {enc : ENCPacket} {ne ne' : Encryptor}
    (hst : s.state = .established) (hne : s.newEncryptor = some ne) (henc : pkt.enc = some enc)
    (hset : ne.setTheirPublicKey C enc.publicKey.toList = .ok ne') :
    s.handleENC C cfg pkt = .ok ({ s with encryptor := some ne', newEncryptor := none }, true) := by
  simp [handleENC, hst, hne, henc, hset, deref, bind, Except.bind]

/-! ### `GetOutgoing` -/

theorem protect_encrypting {bytes : Bytes} (hsh : s.shouldEncrypt cfg = true)
    (he : s.encryptor = some e) :
    s.protect C cfg bytes = .ok ((e.encrypt C bytes).2.sign C (e.encrypt C bytes).1,
      { s with encryptor := some (e.encrypt C bytes).2 }) := by
  simp [protect, hsh, he, deref, Functor.map, Except.map]

/-- `GetOutgoing` of an encrypting session whose switch builds `pkt`: the frame is `pkt`
encrypted then signed, the counter moves on by one and the send is recorded. -/
theorem getOutgoing_sends {now : Nat} {m : Int} {pid : UInt16} {k : Option Bytes} {bytes : Bytes}
    (hq : ops.getOutgoing s.driver (-1) = .ok (some [], s.driver))
    (hsh : s.shouldEncrypt cfg = true) (hm : 8 < m) (hc : s.canTransmitYet cfg now = true)
    (hn : s.nextPacket C cfg (m - 8) pid k = .ok (some pkt, s₁))
    (hb : pkt.toBytes s₁.options = .ok bytes) (he : s.encryptor = some e) :
    s.getOutgoing ops C cfg now m pid k =
      .ok (some ((e.encrypt C bytes).2.sign C (e.encrypt C bytes).1),
        { s₁ with encryptor := some { e with nonce := e.nonce + 1 }, lastTransmit := some now,
                  missedTransmissions := s₁.missedTransmissions + 1 }) := by
  have hf := (nextPacket_frame hn).1
  have hsh₁ : s₁.shouldEncrypt cfg = true := by rw [hf]; exact hsh
  have he₁ : s₁.encryptor = some e := by rw [hf]; exact he
  have hm' : ¬ (m - 8 ≤ 0) := by omega
  rw [getOutgoing, pollDriverForData_quiet hq]
  simp only [Except.bind, transmit, hc, hsh, Bool.true_eq_false, if_false, if_true, true_and, hm',
    hn, hb, protect_encrypting hsh₁ he₁]
  rw [Encryptor.encrypt_eq (length_toBytes hb)]
  rfl

/-- The same without encryption: the frame is the packet's bytes. -/
theorem getOutgoing_sends_plain {now : Nat} {m : Int} {pid : UInt16} {k : Option Bytes}
    {bytes : Bytes} (hq : ops.getOutgoing s.driver (-1) = .ok (some [], s.driver))
    (hsh : s.shouldEncrypt cfg = false) (hc : s.canTransmitYet cfg now = true)
    (hn : s.nextPacket C cfg m pid k = .ok (some pkt, s₁))
    (hb : pkt.toBytes s₁.options = .ok bytes) :
    s.getOutgoing ops C cfg now m pid k = .ok (some bytes, s₁.sent now) := by
  have hsh₁ : s₁.shouldEncrypt cfg = false := by rw [(nextPacket_frame hn).1]; exact hsh
  rw [getOutgoing, pollDriverForData_quiet hq]
  simp only [Except.bind, transmit, hc, hsh, Bool.true_eq_false, Bool.false_eq_true, if_false,
    false_and, hn, hb, protect, hsh₁]
  rfl

theorem nextPacket_new {m : Int} {pid : UInt16} {k : Option Bytes} (hp : s.isPing = false)
    (hst : s.state = .new) : s.nextPacket C cfg m pid k = .ok (some (s.synPacket pid), s) := by
  simp [nextPacket, hp, hst]

theorem synPacket_toBytes (s : Session D) (pid o : UInt16) :
    ∃ bytes, (s.synPacket pid).toBytes o = .ok bytes := by
  unfold synPacket
  split_ifs <;> simp [Packet.toBytes, createSYN, Packet.setName, Packet.setIsCommand]

/-- A session in `New` sends its SYN. -/
theorem getOutgoing_syn {now : Nat} {m : Int} {pid : UInt16} {k : Option Bytes}
    (hq : ops.getOutgoing s.driver (-1) = .ok (some [], s.driver)) (hp : s.isPing = false)
    (hst : s.state = .new) (hdo : cfg.doEncryption = true) (he : s.encryptor = some e) (hm : 8 < m)
    (hc : s.canTransmitYet cfg now = true) :
    ∃ bytes, (s.synPacket pid).toBytes s.options = .ok bytes ∧
      s.getOutgoing ops C cfg now m pid k =
        .ok (some ((e.encrypt C bytes).2.sign C (e.encrypt C bytes).1),
          { s with encryptor := some { e with nonce := e.nonce + 1 }, lastTransmit := some now,
                   missedTransmissions := s.missedTransmissions + 1 }) := by
  obtain ⟨bytes, hb⟩ := synPacket_toBytes s pid s.options
  exact ⟨bytes, hb, getOutgoing_sends hq (by simp [shouldEncrypt, hdo, hst]) hm hc
    (nextPacket_new hp hst) hb he⟩

/-- An Established session whose counter is past `0xFFF0` offers a new public key, under
the encryptor it has. -/
theorem getOutgoing_renegotiate {now : Nat} {m : Int} {pid : UInt16} {k : Option Bytes}
    {ne : Encryptor} (hq : ops.getOutgoing s.driver (-1) = .ok (some [], s.driver))
    (hp : s.isPing = false) (hst : s.state = .established) (hdo : cfg.doEncryption = true)
    (he : s.encryptor = some e) (hr : e.shouldRenegotiate = true) (hne : s.newEncryptor = none)
    (hk : C.newEncryptor cfg.presharedSecret k = .ok ne) (hm : 8 < m)
    (hc : s.canTransmitYet cfg now = true) :
    ∃ out, s.getOutgoing ops C cfg now m pid k =
      .ok (some out, { s with newEncryptor := some ne,
                              encryptor := some { e with nonce := e.nonce + 1 },
                              lastTransmit := some now,
                              missedTransmissions := s.missedTransmissions + 1 }) := by
  have hsh : s.shouldEncrypt cfg = true := by simp [shouldEncrypt, hdo, hst]
  have hn : s.nextPacket C cfg (m - 8) pid k =
      .ok (some ((createENC pid s.id 0).setEncInit ne.getMyPublicKey),
          { s with newEncryptor := some ne }) := by
    simp [nextPacket, hp, hst, renegotiationDue, hsh, he, hr, renegotiate, hne, hk, deref,
      Functor.map, Except.map, bind, Except.bind]
  obtain ⟨bytes, hb⟩ : ∃ bytes,
      ((createENC pid s.id 0).setEncInit ne.getMyPublicKey).toBytes s.options =
      .ok bytes := ⟨_, rfl⟩
  exact ⟨_, getOutgoing_sends hq hsh hm hc hn hb he⟩

/-- An Established session not due to renegotiate, and not shut down, builds a MSG of the
start of its buffer. -/
theorem nextPacket_msg {m : Int} {pid : UInt16} {k : Option Bytes} (hp : s.isPing = false)
    (hst : s.state = .established) (hdue : s.renegotiationDue cfg = .ok false)
    (hsd : s.isShutdown = false) (hm : 9 ≤ m) :
    s.nextPacket C cfg m pid k = .ok (some (createMSG pid s.id s.mySeq s.theirSeq
      (s.outgoingBuffer.take (min (s.outgoingBuffer.length : Int) (m - 9)).toNat)), s) := by
  have hlen : makeLen (min (s.outgoingBuffer.length : Int) (m - 9)) =
      .ok (min (s.outgoingBuffer.length : Int) (m - 9)).toNat :=
    makeLen_eq_ok.mpr ⟨by omega, rfl⟩
  simp [nextPacket, hp, hst, hdue, dataPacket, getMSGSize_eq, hlen, hsd, Functor.map, Except.map,
    bind, Except.bind]

/-- An Established session not due to renegotiate, and not shut down, sends a MSG. -/
theorem getOutgoing_msg {now : Nat} {m : Int} {pid : UInt16} {k : Option Bytes}
    (hq : ops.getOutgoing s.driver (-1) = .ok (some [], s.driver)) (hp : s.isPing = false)
    (hst : s.state = .established) (hdo : cfg.doEncryption = true) (he : s.encryptor = some e)
    (hr : e.shouldRenegotiate = false) (hsd : s.isShutdown = false) (hm : 17 ≤ m)
    (hc : s.canTransmitYet cfg now = true) :
    ∃ bytes, headerLength ≤ bytes.length ∧ s.getOutgoing ops C cfg now m pid k =
      .ok (some ((e.encrypt C bytes).2.sign C (e.encrypt C bytes).1),
        { s with encryptor := some { e with nonce := e.nonce + 1 }, lastTransmit := some now,
                 missedTransmissions := s.missedTransmissions + 1 }) := by
  have hsh : s.shouldEncrypt cfg = true := by simp [shouldEncrypt, hdo, hst]
  have hn : s.nextPacket C cfg (m - 8) pid k = _ := nextPacket_msg hp hst
    (by simp [renegotiationDue, hsh, he, hr, deref, Functor.map, Except.map]) hsd (by omega)
  obtain ⟨bytes, hb⟩ : ∃ bytes, (createMSG pid s.id s.mySeq s.theirSeq (s.outgoingBuffer.take
      (min (s.outgoingBuffer.length : Int) (m - 8 - 9)).toNat)).toBytes s.options = .ok bytes :=
    ⟨_, rfl⟩
  exact ⟨bytes, length_toBytes hb, getOutgoing_sends hq hsh (by omega) hc hn hb he⟩

/-! ### Retransmissions -/

theorem add_one_add_ofNat16 (a : UInt16) (n : Nat) :
    a + 1 + UInt16.ofNat n = a + UInt16.ofNat (n + 1) := by
  rw [show (1 : UInt16) = UInt16.ofNat 1 from rfl, add_ofNat_add16, Nat.add_comm]

/-- A session in `New` that hears nothing back resends its SYN at every poll, each time
under the next nonce. -/
theorem run_resends {t gap : Nat} {m : Int} {pid : UInt16} {k : Option Bytes}
    (hq : ops.getOutgoing s.driver (-1) = .ok (some [], s.driver)) (hp : s.isPing = false)
    (hst : s.state = .new) (hdo : cfg.doEncryption = true) (he : s.encryptor = some e) (hm : 8 < m)
    (hgap : cfg.packetDelay < gap) (hc : s.canTransmitYet cfg (t + gap) = true) (n : Nat) :
    s.run ops C cfg feed (resends t gap m pid k (n + 1)) =
      .ok { s with encryptor := some { e with nonce := e.nonce + UInt16.ofNat (n + 1) },
                   lastTransmit := some (t + (n + 1) * gap),
                   missedTransmissions := s.missedTransmissions + (n + 1) } := by
  induction n generalizing s e t with
  | zero =>
    obtain ⟨bytes, -, hg⟩ : ∃ bytes, _ ∧ s.getOutgoing ops C cfg (t + gap) m pid k = _ :=
      getOutgoing_syn hq hp hst hdo he hm hc
    rw [resends, run_cons_ok (step_getOutgoing hg)]
    simp only [run, Nat.zero_add, Nat.one_mul]
    rfl
  | succ n ih =>
    obtain ⟨bytes, -, hg⟩ : ∃ bytes, _ ∧ s.getOutgoing ops C cfg (t + gap) m pid k = _ :=
      getOutgoing_syn hq hp hst hdo he hm hc
    rw [resends, run_cons_ok (step_getOutgoing hg)]
    let s₁ : Session D :=
      { s with encryptor := some { e with nonce := e.nonce + 1 }, lastTransmit := some (t + gap),
               missedTransmissions := s.missedTransmissions + 1 }
    rw [ih (show ops.getOutgoing s₁.driver (-1) = .ok (some [], s₁.driver) from hq) hp hst
      (show s₁.encryptor = _ from rfl) (by simp [s₁, canTransmitYet]; omega)]
    have ht : t + gap + (n + 1) * gap = t + (n + 1 + 1) * gap := by
      rw [Nat.add_one_mul (n + 1)]; omega
    simp only [s₁, add_one_add_ofNat16, ht, Nat.add_assoc, Nat.add_comm 1]

end Session

end Dnscat2
