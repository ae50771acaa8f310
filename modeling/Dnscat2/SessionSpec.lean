import Dnscat2.Session

/-!
What each operation of a session can do, stated once so that the invariants
never unfold the operations again. A frame lemma says which fields a call may
write (the session after it is the session before with only those fields
replaced); an inversion lemma says, for a call that returns, which branch of the
source it took.
-/

namespace Dnscat2

theorem bind_eq_ok {ε α β : Type} {x : Except ε α} {f : α → Except ε β} {b : β} :
    x >>= f = .ok b ↔ ∃ a, x = .ok a ∧ f a = .ok b := by
  cases x <;> simp [bind, Except.bind]

theorem map_eq_ok {ε α β : Type} {x : Except ε α} {f : α → β} {b : β} :
    f <$> x = .ok b ↔ ∃ a, x = .ok a ∧ f a = b := by
  cases x <;> simp [Functor.map, Except.map]

@[simp] theorem pure_eq_ok {ε α : Type} {a b : α} : (pure a : Except ε α) = .ok b ↔ a = b := by
  simp [pure, Except.pure]

@[simp] theorem deref_eq_ok {α : Type} {o : Option α} {a : α} : deref o = .ok a ↔ o = some a := by
  cases o <;> simp [deref]

@[simp] theorem makeLen_eq_ok {n : Int} {k : Nat} : makeLen n = .ok k ↔ 0 ≤ n ∧ k = n.toNat := by
  unfold makeLen
  split_ifs with h <;> simp only [Except.ok.injEq, reduceCtorEq, false_iff, not_and] <;> omega

variable {D : Type} (ops : Driver D) (C : Crypto) (cfg : Config)

namespace Session

variable {ops C cfg} {s s' : Session D}

theorem kill_eq (s : Session D) :
    s.kill ops = { s with isShutdown := true,
                          driver := if s.isShutdown then s.driver else ops.close s.driver } := by
  unfold kill
  split_ifs with h
  · cases s; cases h; rfl
  · simp [h]

theorem pollDriverForData_ok (h : s.pollDriverForData ops = .ok s') :
    ∃ r d, ops.getOutgoing s.driver (-1) = .ok (r, d) ∧
      s' = match r with
        | some data => { s with driver := d, outgoingBuffer := s.outgoingBuffer ++ data }
        | none => if s.outgoingBuffer = [] then kill ops { s with driver := d }
                  else { s with driver := d } := by
  obtain ⟨⟨r, d⟩, hg, rfl⟩ := map_eq_ok.mp h
  exact ⟨r, d, hg, by cases r <;> rfl⟩

/-- Polling writes only the driver, the buffer (which only grows) and the shutdown flag. -/
theorem pollDriverForData_frame (h : s.pollDriverForData ops = .ok s') :
    s' = { s with driver := s'.driver, outgoingBuffer := s'.outgoingBuffer,
                  isShutdown := s'.isShutdown } ∧
      s.outgoingBuffer <+: s'.outgoingBuffer := by
  obtain ⟨r, d, -, rfl⟩ := pollDriverForData_ok h
  rcases r with _ | data
  · dsimp only
    split_ifs <;> simp [kill_eq]
  · exact ⟨rfl, List.prefix_append _ _⟩

/-- What polling does with the driver's answer: its bytes join the buffer, and the driver
is its new state, closed when the session is killed. -/
theorem pollDriverForData_spec (h : s.pollDriverForData ops = .ok s') :
    ∃ r d, ops.getOutgoing s.driver (-1) = .ok (r, d) ∧
      s'.outgoingBuffer = s.outgoingBuffer ++ r.getD [] ∧
          (s'.driver = d ∨ s'.driver = ops.close d) := by
  obtain ⟨r, d, hg, rfl⟩ := pollDriverForData_ok h
  refine ⟨r, d, hg, ?_⟩
  rcases r with _ | data
  · dsimp only
    split_ifs
    · rw [kill_eq]
      split_ifs <;> simp
    · simp
  · exact ⟨rfl, .inl rfl⟩

/-- The switch of `GetOutgoing` writes nothing but `NewEncryptor`, and that only when it
starts a renegotiation from an Established session with none pending. -/
theorem nextPacket_frame {m : Int} {pid : UInt16} {k : Option Bytes} {p : Option Packet}
    (h : s.nextPacket C cfg m pid k = .ok (p, s')) :
    s' = { s with newEncryptor := s'.newEncryptor } ∧
      (s'.newEncryptor = s.newEncryptor ∨
        s.state = .established ∧ s.newEncryptor = none ∧
          ∃ e, C.newEncryptor cfg.presharedSecret k = .ok e ∧ s'.newEncryptor = some e ∧
            p = some ((createENC pid s.id 0).setEncInit e.getMyPublicKey)) := by
  unfold nextPacket at h
  split_ifs at h with hping
  · obtain ⟨n, -, h⟩ := map_eq_ok.mp h
    obtain ⟨-, rfl⟩ := Prod.mk.inj h
    exact ⟨rfl, .inl rfl⟩
  · split at h
    · obtain ⟨e, -, h⟩ := map_eq_ok.mp h
      obtain ⟨-, rfl⟩ := Prod.mk.inj h
      exact ⟨rfl, .inl rfl⟩
    · obtain ⟨e, -, h⟩ := map_eq_ok.mp h
      obtain ⟨-, rfl⟩ := Prod.mk.inj h
      exact ⟨rfl, .inl rfl⟩
    · obtain ⟨-, rfl⟩ := Prod.mk.inj (Except.ok.inj h)
      exact ⟨rfl, .inl rfl⟩
    · next hst =>
      obtain ⟨due, -, h⟩ := bind_eq_ok.mp h
      split_ifs at h
      · unfold renegotiate at h
        split_ifs at h with hn
        · obtain ⟨-, rfl⟩ := Prod.mk.inj (Except.ok.inj h)
          exact ⟨rfl, .inl rfl⟩
        · split at h
          · obtain ⟨-, rfl⟩ := Prod.mk.inj (Except.ok.inj h)
            exact ⟨rfl, .inl rfl⟩
          · next e he =>
            obtain ⟨rfl, rfl⟩ := Prod.mk.inj (Except.ok.inj h)
            exact ⟨rfl, .inr ⟨hst, by simpa using hn, e, he, rfl, rfl⟩⟩
      · obtain ⟨pkt, -, h⟩ := map_eq_ok.mp h
        obtain ⟨-, rfl⟩ := Prod.mk.inj h
        exact ⟨rfl, .inl rfl⟩

theorem acceptMSG_eq (s : Session D) (msg : MSGPacket) :
    (s.acceptMSG cfg msg).1 =
      { s with missedTransmissions := 0, lastTransmit := (s.acceptMSG cfg msg).1.lastTransmit,
               theirSeq := s.theirSeq + UInt16.ofNat msg.data.length,
               outgoingBuffer := s.outgoingBuffer.drop (msg.ack - s.mySeq).toNat,
               mySeq := msg.ack } := by
  by_cases h : 0 < msg.ack - s.mySeq
  · simp only [acceptMSG, if_pos h, add_sub_cancel16]
  · have h0 := eq_zero_of_not_pos16 h
    simp only [acceptMSG]
    simp only [if_neg h]
    simp only [h0, UInt16.toNat_zero, List.drop_zero]
    rw [eq_of_sub_eq_zero16 h0]

theorem handleMSG_ok {pkt : Packet} {b : Bool} (h : s.handleMSG ops cfg pkt = .ok (s', b)) :
    (s' = s ∧ b = false) ∨
      (s.state = .established ∧ ∃ msg, pkt.msg = some msg ∧ msg.seq = s.theirSeq ∧
        (msg.ack - s.mySeq).toNat ≤ s.outgoingBuffer.length ∧
        b = (s.acceptMSG cfg msg).2 ∧
        ((msg.data = [] ∧ s' = (s.acceptMSG cfg msg).1) ∨
          (msg.data ≠ [] ∧ ∃ d, ops.dataReceived s.driver msg.data = .ok d ∧
            s' = { (s.acceptMSG cfg msg).1 with driver := d, lastTransmit := none }))) := by
  unfold handleMSG at h
  split_ifs at h with hst
  · obtain ⟨rfl, rfl⟩ := Prod.mk.inj (Except.ok.inj h)
    exact .inl ⟨rfl, rfl⟩
  · obtain ⟨msg, hmsg, h⟩ := bind_eq_ok.mp h
    split_ifs at h with hseq hack hdata
    · obtain ⟨rfl, rfl⟩ := Prod.mk.inj (Except.ok.inj h)
      exact .inl ⟨rfl, rfl⟩
    · obtain ⟨rfl, rfl⟩ := Prod.mk.inj (Except.ok.inj h)
      exact .inl ⟨rfl, rfl⟩
    · obtain ⟨rfl, rfl⟩ := Prod.mk.inj (Except.ok.inj h)
      exact .inr ⟨not_not.mp hst, msg, deref_eq_ok.mp hmsg, not_not.mp hseq, Nat.le_of_not_lt hack,
        rfl, .inl ⟨hdata, rfl⟩⟩
    · obtain ⟨d, hd, h⟩ := map_eq_ok.mp h
      obtain ⟨rfl, rfl⟩ := Prod.mk.inj h
      exact .inr ⟨not_not.mp hst, msg, deref_eq_ok.mp hmsg, not_not.mp hseq, Nat.le_of_not_lt hack,
        rfl, .inr ⟨hdata, d, hd, rfl⟩⟩

/-- Every packet the switch of `GetOutgoing` can build, and the state it builds it in. -/
theorem nextPacket_some {m : Int} {pid : UInt16} {k : Option Bytes} {pkt : Packet}
    (h : s.nextPacket C cfg m pid k = .ok (some pkt, s')) :
    (s.isPing = true ∧ ∃ n, pkt = createPING pid s.id (s.outgoingBuffer.take n)) ∨
      (s.isPing = false ∧ s.state = .beforeInit ∧ ∃ e, s.encryptor = some e ∧
        pkt = (createENC pid s.id 0).setEncInit e.getMyPublicKey) ∨
      (s.isPing = false ∧ s.state = .beforeAuth ∧ ∃ e, s.encryptor = some e ∧
        pkt = (createENC pid s.id 0).setEncAuth e.myAuthenticator.toList) ∨
      (s.isPing = false ∧ s.state = .new ∧ pkt = s.synPacket pid) ∨
      (s.isPing = false ∧ s.state = .established ∧ ∃ e : Encryptor,
        pkt = (createENC pid s.id 0).setEncInit e.getMyPublicKey) ∨
      (s.isPing = false ∧ s.state = .established ∧ ∃ n,
        pkt = createMSG pid s.id s.mySeq s.theirSeq (s.outgoingBuffer.take n)) ∨
      (s.isPing = false ∧ s.state = .established ∧
        pkt = createFIN pid s.id (ascii "Stream closed")) := by
  unfold nextPacket at h
  split_ifs at h with hping
  · obtain ⟨n, -, h⟩ := map_eq_ok.mp h
    cases h
    exact .inl ⟨hping, n, rfl⟩
  · have hp : s.isPing = false := by simpa using hping
    split at h
    · next hst =>
      obtain ⟨e, he, h⟩ := map_eq_ok.mp h
      cases h
      exact .inr (.inl ⟨hp, hst, e, deref_eq_ok.mp he, rfl⟩)
    · next hst =>
      obtain ⟨e, he, h⟩ := map_eq_ok.mp h
      cases h
      exact .inr (.inr (.inl ⟨hp, hst, e, deref_eq_ok.mp he, rfl⟩))
    · next hst =>
      cases Except.ok.inj h
      exact .inr (.inr (.inr (.inl ⟨hp, hst, rfl⟩)))
    · next hst =>
      obtain ⟨due, -, h⟩ := bind_eq_ok.mp h
      split_ifs at h
      · unfold renegotiate at h
        split_ifs at h
        · exact absurd (Prod.mk.inj (Except.ok.inj h)).1 (by simp)
        · split at h
          · exact absurd (Prod.mk.inj (Except.ok.inj h)).1 (by simp)
          · next e _ =>
            cases Except.ok.inj h
            exact .inr (.inr (.inr (.inr (.inl ⟨hp, hst, e, rfl⟩))))
      · obtain ⟨q, hq, h⟩ := map_eq_ok.mp h
        cases h
        obtain ⟨n, -, rfl⟩ := map_eq_ok.mp hq
        dsimp only
        split_ifs
        · exact .inr (.inr (.inr (.inr (.inr (.inr ⟨hp, hst, rfl⟩)))))
        · exact .inr (.inr (.inr (.inr (.inr (.inl ⟨hp, hst, n, rfl⟩)))))

/-- Only a session in `New` builds a SYN. -/
theorem nextPacket_syn {m : Int} {pid : UInt16} {k : Option Bytes} {pkt : Packet}
    (h : s.nextPacket C cfg m pid k = .ok (some pkt, s')) (ht : pkt.packetType = packetTypeSYN) :
    s.state = .new := by
  rcases nextPacket_some h with ⟨-, n, rfl⟩ | ⟨-, -, e, -, rfl⟩ | ⟨-, -, e, -, rfl⟩ | ⟨-, hst, -⟩ |
    ⟨-, -, e, rfl⟩ | ⟨-, -, n, rfl⟩ | ⟨-, -, rfl⟩
  all_goals first
    | exact hst
    | simp [createPING, createENC, createMSG, createFIN, Packet.setEncInit, Packet.setEncAuth,
        packetTypePING, packetTypeENC, packetTypeMSG, packetTypeFIN, packetTypeSYN] at ht

theorem handleSYN_ok {pkt : Packet} {b : Bool} (h : s.handleSYN pkt = .ok (s', b)) :
    (s.state ≠ .new ∧ s' = s ∧ b = false) ∨
      (s.state = .new ∧ b = true ∧ ∃ syn, pkt.syn = some syn ∧
        s' = { s with theirSeq := syn.seq, options := syn.options, missedTransmissions := 0,
                      state := .established }) := by
  unfold handleSYN at h
  split at h
  · next hst =>
    obtain ⟨syn, hsyn, h⟩ := map_eq_ok.mp h
    obtain ⟨rfl, rfl⟩ := Prod.mk.inj h
    exact .inr ⟨hst, rfl, syn, deref_eq_ok.mp hsyn, rfl⟩
  · next hst =>
    obtain ⟨rfl, rfl⟩ := Prod.mk.inj (Except.ok.inj h)
    exact .inl ⟨hst, rfl, rfl⟩

theorem handleFIN_ok {pkt : Packet} {b : Bool} (h : s.handleFIN ops pkt = .ok (s', b)) :
    b = true ∧ s' = kill ops { s with lastTransmit := none, missedTransmissions := 0 } := by
  obtain ⟨-, -, h⟩ := map_eq_ok.mp h
  obtain ⟨rfl, rfl⟩ := Prod.mk.inj h
  exact ⟨rfl, rfl⟩

theorem handleENC_ok {pkt : Packet} {b : Bool} (h : s.handleENC C cfg pkt = .ok (s', b)) :
    b = true ∧ ∃ enc, pkt.enc = some enc ∧
      ((s.state = .beforeInit ∧ enc.subtype = encSubtypeInit ∧ ∃ e e', s.encryptor = some e ∧
          e.setTheirPublicKey C enc.publicKey.toList = .ok e' ∧
          s' = { s with encryptor := some e',
                        state := if cfg.presharedSecret ≠ [] then .beforeAuth else .new }) ∨
        (s.state = .beforeAuth ∧ enc.subtype = encSubtypeAuth ∧ ∃ e, s.encryptor = some e ∧
          enc.authenticator.toList = e.theirAuthenticator.toList ∧ s' = { s with state := .new }) ∨
        (s.state = .established ∧ ∃ ne ne', s.newEncryptor = some ne ∧
          ne.setTheirPublicKey C enc.publicKey.toList = .ok ne' ∧
          s' = { s with encryptor := some ne', newEncryptor := none })) := by
  unfold handleENC at h
  split at h
  · next hst =>
    obtain ⟨enc, henc, h⟩ := bind_eq_ok.mp h
    split at h
    · exact absurd h (by simp)
    next hsub =>
    obtain ⟨e, he, h⟩ := bind_eq_ok.mp h
    split at h
    · exact absurd h (by simp)
    · next e' he' =>
      obtain ⟨rfl, rfl⟩ := Prod.mk.inj (Except.ok.inj h)
      exact ⟨rfl, enc, deref_eq_ok.mp henc,
        .inl ⟨hst, not_not.mp hsub, e, e', deref_eq_ok.mp he, he', rfl⟩⟩
  · next hst =>
    obtain ⟨enc, henc, h⟩ := bind_eq_ok.mp h
    split at h
    · exact absurd h (by simp)
    next hsub =>
    obtain ⟨e, he, h⟩ := bind_eq_ok.mp h
    split at h
    · exact absurd h (by simp)
    next hauth =>
    obtain ⟨rfl, rfl⟩ := Prod.mk.inj (Except.ok.inj h)
    exact ⟨rfl, enc, deref_eq_ok.mp henc,
      .inr (.inl ⟨hst, not_not.mp hsub, e, deref_eq_ok.mp he, not_not.mp hauth, rfl⟩)⟩
  · next hst =>
    split at h
    · exact absurd h (by simp)
    · next ne hne =>
      obtain ⟨enc, henc, h⟩ := bind_eq_ok.mp h
      split at h
      · exact absurd h (by simp)
      · next ne' hne' =>
        obtain ⟨rfl, rfl⟩ := Prod.mk.inj (Except.ok.inj h)
        exact ⟨rfl, enc, deref_eq_ok.mp henc, .inr (.inr ⟨hst, ne, ne', hne, hne', rfl⟩)⟩
  · exact absurd h (by simp)

theorem dispatch_ok {pkt : Packet} {b : Bool} (h : s.dispatch ops C cfg pkt = .ok (s', b)) :
    (s.isPing = true ∧ pkt.packetType = packetTypePING ∧ b = true ∧ ∃ ping d,
        pkt.ping = some ping ∧ ops.dataReceived s.driver ping.data = .ok d ∧
        s' = { s with driver := d }) ∨
      (pkt.packetType = packetTypeSYN ∧ s.handleSYN pkt = .ok (s', b)) ∨
      (pkt.packetType = packetTypeMSG ∧ s.handleMSG ops cfg pkt = .ok (s', b)) ∨
      (pkt.packetType = packetTypeFIN ∧ s.handleFIN ops pkt = .ok (s', b)) ∨
      (pkt.packetType = packetTypeENC ∧ s.handleENC C cfg pkt = .ok (s', b)) ∨
      (s' = s ∧ b = false) := by
  unfold dispatch at h
  split_ifs at h with hp hs hm hf he
  · obtain ⟨ping, hping, h⟩ := bind_eq_ok.mp h
    obtain ⟨d, hd, h⟩ := map_eq_ok.mp h
    obtain ⟨rfl, rfl⟩ := Prod.mk.inj h
    exact .inl ⟨hp.1, hp.2, rfl, ping, d, deref_eq_ok.mp hping, hd, rfl⟩
  · exact .inr (.inl ⟨hs, h⟩)
  · exact .inr (.inr (.inl ⟨hm, h⟩))
  · exact .inr (.inr (.inr (.inl ⟨hf, h⟩)))
  · exact .inr (.inr (.inr (.inr (.inl ⟨he, h⟩))))
  · obtain ⟨rfl, rfl⟩ := Prod.mk.inj (Except.ok.inj h)
    exact .inr (.inr (.inr (.inr (.inr ⟨rfl, rfl⟩))))

/-- A SYN goes to `handleSYN`. -/
theorem dispatch_syn {pkt : Packet} (ht : pkt.packetType = packetTypeSYN) (s : Session D) :
    s.dispatch ops C cfg pkt = s.handleSYN pkt := by
  simp [dispatch, ht, packetTypeSYN, packetTypePING]

/-- A MSG goes to `handleMSG`: the ping shortcut only takes PINGs. -/
theorem dispatch_msg {pkt : Packet} (ht : pkt.packetType = packetTypeMSG) (s : Session D) :
    s.dispatch ops C cfg pkt = s.handleMSG ops cfg pkt := by
  simp [dispatch, ht, packetTypeMSG, packetTypePING, packetTypeSYN]

/-- An ENC goes to `handleENC`. -/
theorem dispatch_enc {pkt : Packet} (ht : pkt.packetType = packetTypeENC) (s : Session D) :
    s.dispatch ops C cfg pkt = s.handleENC C cfg pkt := by
  simp [dispatch, ht, packetTypeENC, packetTypeMSG, packetTypePING, packetTypeSYN, packetTypeFIN]

/-- Only a MSG, or the SYN that establishes a session in `New`, moves `TheirSeq`. -/
theorem dispatch_theirSeq {pkt : Packet} {b : Bool} (h : s.dispatch ops C cfg pkt = .ok (s', b)) :
    s'.theirSeq = s.theirSeq ∨ pkt.packetType = packetTypeMSG ∨ s.state = .new := by
  rcases dispatch_ok h with ⟨-, -, -, ping, d, -, hd, rfl⟩ | ⟨-, h⟩ | ⟨ht, -⟩ | ⟨-, h⟩ | ⟨-, h⟩ |
    ⟨rfl, -⟩
  · exact .inl rfl
  · rcases handleSYN_ok h with ⟨-, rfl, -⟩ | ⟨hst, -⟩
    · exact .inl rfl
    · exact .inr (.inr hst)
  · exact .inr (.inl ht)
  · obtain ⟨-, rfl⟩ := handleFIN_ok h
    rw [kill_eq]
    exact .inl rfl
  · obtain ⟨-, enc, -, ⟨-, -, e, e', -, -, rfl⟩ | ⟨-, -, e, -, -, rfl⟩ | ⟨-, ne, ne', -, -, rfl⟩⟩ :=
      handleENC_ok h <;> exact .inl rfl
  · exact .inl rfl

/-- Polling leaves what decoding reads: the state, the encryptor and the options. -/
theorem decodeIncoming_poll (h : s.pollDriverForData ops = .ok s') :
    s'.decodeIncoming C cfg = s.decodeIncoming C cfg := by
  rw [(pollDriverForData_frame h).1]
  rfl

/-- A frame `DataIncoming` acts on has passed `CheckSignature` and `Decrypt` under the
session's encryptor when the session encrypts, and `Parse` in any case. -/
theorem decodeIncoming_some {data : Bytes} {pkt : Packet}
    (h : s.decodeIncoming C cfg data = .ok (some pkt)) :
    (s.shouldEncrypt cfg = true ∧ ∃ e c plain n, s.encryptor = some e ∧
        e.checkSignature C data = some c ∧ e.decrypt C c = .ok (plain, n) ∧
        parse plain s.options = .ok pkt) ∨
      (s.shouldEncrypt cfg = false ∧ parse data s.options = .ok pkt) := by
  unfold decodeIncoming at h
  obtain ⟨plain, hplain, h⟩ := map_eq_ok.mp h
  obtain ⟨p, rfl, hp⟩ := Option.bind_eq_some.mp h
  have hparse : parse p s.options = .ok pkt := by
    cases hq : parse p s.options <;> simp_all [Except.toOption]
  split at hplain
  · next henc =>
    obtain ⟨e, he, hsig⟩ := map_eq_ok.mp hplain
    obtain ⟨c, hc, hd⟩ := Option.bind_eq_some.mp hsig
    obtain ⟨⟨q, n⟩, hq, rfl⟩ := Option.map_eq_some'.mp hd
    refine .inl ⟨henc, e, c, q, n, deref_eq_ok.mp he, hc, ?_, hparse⟩
    cases hdec : e.decrypt C c <;> simp_all [Except.toOption]
  · next henc =>
    obtain rfl := Option.some.inj (Except.ok.inj hplain)
    exact .inr ⟨by simpa using henc, hparse⟩

theorem dataIncoming_ok {data : Bytes} {b : Bool} (h : s.dataIncoming ops C cfg data =
    .ok (s', b)) :
    ∃ s₁, s.pollDriverForData ops = .ok s₁ ∧
      ((s₁.decodeIncoming C cfg data = .ok none ∧ s' = s₁ ∧ b = false) ∨
        ∃ pkt, s₁.decodeIncoming C cfg data = .ok (some pkt) ∧
          s₁.dispatch ops C cfg pkt = .ok (s', b)) := by
  obtain ⟨s₁, hp, h⟩ := bind_eq_ok.mp h
  obtain ⟨o, hd, h⟩ := bind_eq_ok.mp h
  refine ⟨s₁, hp, ?_⟩
  cases o with
  | none =>
    obtain ⟨rfl, rfl⟩ := Prod.mk.inj (Except.ok.inj h)
    exact .inl ⟨hd, rfl, rfl⟩
  | some pkt => exact .inr ⟨pkt, hd, h⟩

theorem protect_ok {bytes out : Bytes} (h : s.protect C cfg bytes = .ok (out, s')) :
    (s.shouldEncrypt cfg = true ∧ ∃ e, s.encryptor = some e ∧
        out = (e.encrypt C bytes).2.sign C (e.encrypt C bytes).1 ∧
        s' = { s with encryptor := some (e.encrypt C bytes).2 }) ∨
      (s.shouldEncrypt cfg = false ∧ out = bytes ∧ s' = s) := by
  unfold protect at h
  split_ifs at h with henc
  · obtain ⟨e, he, h⟩ := map_eq_ok.mp h
    obtain ⟨rfl, rfl⟩ := Prod.mk.inj h
    exact .inl ⟨henc, e, deref_eq_ok.mp he, rfl, rfl⟩
  · obtain ⟨rfl, rfl⟩ := Prod.mk.inj (Except.ok.inj h)
    exact .inr ⟨by simpa using henc, rfl, rfl⟩

/-- `GetOutgoing` after its poll: nothing when it may not transmit yet, otherwise the
packet of the switch, serialized and protected, with the send recorded. -/
theorem transmit_ok {now : Nat} {m : Int} {pid : UInt16} {k : Option Bytes} {r : Option Bytes}
    (h : s.transmit C cfg now m pid k = .ok (r, s')) :
    (r = none ∧ s' = s) ∨
      (s.canTransmitYet cfg now = true ∧ ∃ p s₁,
        s.nextPacket C cfg (if s.shouldEncrypt cfg then m - 8 else m) pid k = .ok (p, s₁) ∧
        ((r = none ∧ s' = s₁) ∨
          ∃ pkt bytes out s₂, p = some pkt ∧ pkt.toBytes s₁.options = .ok bytes ∧
            s₁.protect C cfg bytes = .ok (out, s₂) ∧ r = some out ∧ s' = s₂.sent now)) := by
  unfold transmit at h
  split at h
  · obtain ⟨rfl, rfl⟩ := Prod.mk.inj (Except.ok.inj h)
    exact .inl ⟨rfl, rfl⟩
  next hc =>
  split at h
  · exact absurd h (by simp)
  · obtain ⟨⟨p, s₁⟩, hn, h⟩ := bind_eq_ok.mp h
    refine .inr ⟨by simpa using hc, p, s₁, hn, ?_⟩
    dsimp only at h
    split at h
    · obtain ⟨rfl, rfl⟩ := Prod.mk.inj (Except.ok.inj h)
      exact .inl ⟨rfl, rfl⟩
    · next pkt =>
      split at h
      · obtain ⟨rfl, rfl⟩ := Prod.mk.inj (Except.ok.inj h)
        exact .inl ⟨rfl, rfl⟩
      · next bytes hb =>
        obtain ⟨⟨out, s₂⟩, hpr, h⟩ := map_eq_ok.mp h
        obtain ⟨rfl, rfl⟩ := Prod.mk.inj h
        exact .inr ⟨pkt, bytes, out, s₂, rfl, hb, hpr, rfl, rfl⟩

theorem getOutgoing_ok {now : Nat} {m : Int} {pid : UInt16} {k : Option Bytes}
    {r : Option Bytes} (h : s.getOutgoing ops C cfg now m pid k = .ok (r, s')) :
    ∃ s₁, s.pollDriverForData ops = .ok s₁ ∧ s₁.transmit C cfg now m pid k = .ok (r, s') :=
  bind_eq_ok.mp h

/-- A call of `GetOutgoing` (after its poll) that emits a frame: the packet of the switch,
serialized under the session's options, then encrypted and signed under the session's
encryptor when the session encrypts. -/
theorem transmit_some {now : Nat} {m : Int} {pid : UInt16} {k : Option Bytes} {out : Bytes}
    (h : s.transmit C cfg now m pid k = .ok (some out, s')) :
    ∃ pkt s₂ bytes,
      s.nextPacket C cfg (if s.shouldEncrypt cfg then m - 8 else m) pid k = .ok (some pkt, s₂) ∧
      pkt.toBytes s.options = .ok bytes ∧
      ((s.shouldEncrypt cfg = false ∧ out = bytes ∧ s' = s₂.sent now) ∨
        (s.shouldEncrypt cfg = true ∧ ∃ e, s.encryptor = some e ∧
          out = (e.encrypt C bytes).2.sign C (e.encrypt C bytes).1 ∧
          s' = { s₂ with encryptor := some (e.encrypt C bytes).2 }.sent now)) := by
  rcases transmit_ok h with ⟨h', -⟩
      | ⟨-, p, s₁, hn, ⟨h', -⟩ | ⟨pkt, bytes, out', s₂, rfl, hb, hpr, hr, rfl⟩⟩
  · cases h'
  · cases h'
  · cases hr
    obtain ⟨hf, -⟩ := nextPacket_frame hn
    have hsh : s₁.shouldEncrypt cfg = s.shouldEncrypt cfg := by rw [hf]; rfl
    refine ⟨pkt, s₁, bytes, hn, by rw [hf] at hb; exact hb, ?_⟩
    rcases protect_ok hpr with ⟨he, e, hee, rfl, rfl⟩ | ⟨he, rfl, rfl⟩
    · exact .inr ⟨hsh ▸ he, e, by rw [hf] at hee; exact hee, rfl, rfl⟩
    · exact .inl ⟨hsh ▸ he, rfl, rfl⟩

/-- What a frame the switch of `GetOutgoing` builds says about the outgoing stream: a SYN
carries `MySeq`, a MSG `MySeq`, `TheirSeq` and the start of the buffer, a PING the start of
the buffer. -/
def Carries (s : Session D) (pkt : Packet) : Prop :=
  (pkt.packetType = packetTypeSYN → ∃ syn, pkt.syn = some syn ∧ syn.seq = s.mySeq) ∧
    (pkt.packetType = packetTypeMSG → ∃ msg, pkt.msg = some msg ∧ msg.seq = s.mySeq ∧
      msg.ack = s.theirSeq ∧ msg.data <+: s.outgoingBuffer) ∧
    (pkt.packetType = packetTypePING → ∃ ping, pkt.ping = some ping ∧
      ping.data <+: s.outgoingBuffer)

@[simp] theorem synPacket_packetType (s : Session D) (pid : UInt16) :
    (s.synPacket pid).packetType = packetTypeSYN := by
  unfold synPacket
  split_ifs <;> simp

@[simp] theorem synPacket_sessionID (s : Session D) (pid : UInt16) :
    (s.synPacket pid).sessionID = s.id := by
  unfold synPacket
  split_ifs <;> simp [createSYN]

theorem synPacket_syn (s : Session D) (pid : UInt16) :
    ∃ syn, (s.synPacket pid).syn = some syn ∧ syn.seq = s.mySeq := by
  unfold synPacket
  split_ifs <;> simp [createSYN, Packet.setName, Packet.setIsCommand]

theorem nextPacket_carries {m : Int} {pid : UInt16} {k : Option Bytes} {pkt : Packet}
    (h : s.nextPacket C cfg m pid k = .ok (some pkt, s')) : s.Carries pkt := by
  rcases nextPacket_some h with ⟨-, n, rfl⟩ | ⟨-, -, e, -, rfl⟩ | ⟨-, -, e, -, rfl⟩ | ⟨-, -, rfl⟩ |
    ⟨-, -, e, rfl⟩ | ⟨-, -, n, rfl⟩ | ⟨-, -, rfl⟩
  -- the SYN carries `MySeq`, the PING and the MSG a prefix of the buffer; every other
  -- frame has another type
  all_goals refine ⟨fun h => ?_, fun h => ?_, fun h => ?_⟩
  all_goals first
    | exact synPacket_syn _ _
    | exact ⟨_, rfl, List.take_prefix _ _⟩
    | exact ⟨_, rfl, rfl, rfl, List.take_prefix _ _⟩
    | simp [packetTypeMSG, packetTypePING, packetTypeSYN, packetTypeENC, packetTypeFIN] at h

/-- A send writes only the encryptors and the transmission record. -/
theorem transmit_frame {now : Nat} {m : Int} {pid : UInt16} {k : Option Bytes}
    {r : Option Bytes} (h : s.transmit C cfg now m pid k = .ok (r, s')) :
    s' = { s with encryptor := s'.encryptor, newEncryptor := s'.newEncryptor,
                  lastTransmit := s'.lastTransmit,
                  missedTransmissions := s'.missedTransmissions } := by
  rcases transmit_ok h with ⟨-, rfl⟩ | ⟨-, p, s₁, hn, h⟩
  · rfl
  · obtain ⟨hf, -⟩ := nextPacket_frame hn
    rcases h with ⟨-, rfl⟩ | ⟨pkt, bytes, out, s₂, -, -, hpr, -, rfl⟩
    · rw [hf]
    · rcases protect_ok hpr with ⟨-, e, -, -, rfl⟩ | ⟨-, -, rfl⟩ <;> rw [hf] <;> rfl

/-- `out` is `pkt` as `GetOutgoing` puts it on the wire from `s`: serialized, then
encrypted and signed under the session's encryptor when the session encrypts. -/
def Emits (C : Crypto) (cfg : Config) (s : Session D) (pkt : Packet) (out : Bytes) : Prop :=
  ∃ bytes, pkt.toBytes s.options = .ok bytes ∧
    ((s.shouldEncrypt cfg = false ∧ out = bytes) ∨
      (s.shouldEncrypt cfg = true ∧ ∃ e, s.encryptor = some e ∧
        out = (e.encrypt C bytes).2.sign C (e.encrypt C bytes).1))

/-- A frame `GetOutgoing` emits is a packet of its switch put on the wire from the session
after its poll; the send leaves the buffer and both sequence numbers as they were. -/
theorem getOutgoing_emits {now : Nat} {m : Int} {pid : UInt16} {k : Option Bytes} {out : Bytes}
    (h : s.getOutgoing ops C cfg now m pid k = .ok (some out, s')) :
    ∃ s₁ pkt s₂, s.pollDriverForData ops = .ok s₁ ∧
      s₁.nextPacket C cfg (if s₁.shouldEncrypt cfg then m - 8 else m) pid k = .ok (some pkt, s₂) ∧
      s₁.Emits C cfg pkt out ∧
      s'.outgoingBuffer = s₁.outgoingBuffer ∧ s'.mySeq = s₁.mySeq ∧ s'.theirSeq = s₁.theirSeq := by
  obtain ⟨s₁, hp, ht⟩ := getOutgoing_ok h
  obtain ⟨pkt, s₂, bytes, hn, hb, hout⟩ := transmit_some ht
  have hf := transmit_frame ht
  refine ⟨s₁, pkt, s₂, hp, hn, ⟨bytes, hb, ?_⟩, by rw [hf], by rw [hf], by rw [hf]⟩
  rcases hout with ⟨he, rfl, -⟩ | ⟨he, e, hee, rfl, -⟩
  · exact .inl ⟨he, rfl⟩
  · exact .inr ⟨he, e, hee, rfl⟩

/-- Every packet of the switch of `GetOutgoing` is addressed from the session's id. -/
theorem nextPacket_sessionID {m : Int} {pid : UInt16} {k : Option Bytes} {pkt : Packet}
    (h : s.nextPacket C cfg m pid k = .ok (some pkt, s')) : pkt.sessionID = s.id := by
  rcases nextPacket_some h with ⟨-, n, rfl⟩ | ⟨-, -, e, -, rfl⟩ | ⟨-, -, e, -, rfl⟩ | ⟨-, -, rfl⟩ |
    ⟨-, -, e, rfl⟩ | ⟨-, -, n, rfl⟩ | ⟨-, -, rfl⟩ <;>
    simp [createPING, createENC, createMSG, createFIN]

/-- Encrypting and signing leave the header as `ToBytes` wrote it, so the frame on the wire
carries the packet's session id where `PeekSessionID` reads it. -/
theorem peekSessionID_of_emits {pkt : Packet} {out : Bytes} (he : s.Emits C cfg pkt out) :
    peekSessionID out = .ok pkt.sessionID := by
  obtain ⟨bytes, hb, ⟨-, rfl⟩ | ⟨-, e, -, rfl⟩⟩ := he
  · exact peekSessionID_toBytes hb
  · rw [peekSessionID_congr ((Encryptor.take_sign _).trans (Encryptor.take_encrypt _))]
    exact peekSessionID_toBytes hb

theorem getOutgoing_peekSessionID {now : Nat} {m : Int} {pid : UInt16} {k : Option Bytes}
    {out : Bytes} (h : s.getOutgoing ops C cfg now m pid k = .ok (some out, s')) :
    peekSessionID out = .ok s.id := by
  obtain ⟨s₁, pkt, s₂, hp, hn, he, -⟩ := getOutgoing_emits h
  rw [peekSessionID_of_emits he, nextPacket_sessionID hn, (pollDriverForData_frame hp).1]

/-- `Kill` reaches the driver only through `Close`. -/
theorem kill_driver (s : Session D) :
    (s.kill ops).driver = s.driver ∨ (s.kill ops).driver = ops.close s.driver := by
  rw [kill_eq]
  split_ifs
  · exact .inl rfl
  · exact .inr rfl

/-- The type switch reaches the driver only through `DataReceived` and `Close`. -/
theorem dispatch_driver {pkt : Packet} {b : Bool} (h : s.dispatch ops C cfg pkt = .ok (s', b)) :
    s'.driver = s.driver ∨ s'.driver = ops.close s.driver ∨
      ∃ data, ops.dataReceived s.driver data = .ok s'.driver := by
  rcases dispatch_ok h with ⟨-, -, -, ping, d, -, hd, rfl⟩ | ⟨-, h⟩ | ⟨-, h⟩ | ⟨-, h⟩ | ⟨-, h⟩ |
    ⟨rfl, -⟩
  · exact .inr (.inr ⟨_, hd⟩)
  · rcases handleSYN_ok h with ⟨-, rfl, -⟩ | ⟨-, -, syn, -, rfl⟩ <;> exact .inl rfl
  · rcases handleMSG_ok h with ⟨rfl, -⟩ | ⟨-, msg, -, -, -, -, ⟨-, rfl⟩ | ⟨-, d, hd, rfl⟩⟩
    · exact .inl rfl
    · exact .inl (by rw [acceptMSG_eq])
    · exact .inr (.inr ⟨_, hd⟩)
  · obtain ⟨-, rfl⟩ := handleFIN_ok h
    exact (kill_driver _).imp_right .inl
  · obtain ⟨-, enc, -, ⟨-, -, e, e', -, -, rfl⟩ | ⟨-, -, e, -, -, rfl⟩ | ⟨-, ne, ne', -, -, rfl⟩⟩ :=
      handleENC_ok h <;> exact .inl rfl
  · exact .inl rfl

/-- The type switch moves the sequence numbers of the outgoing stream only by retiring
the first bytes of the buffer, in Established, `MySeq` moving on by as many. -/
theorem dispatch_retires {pkt : Packet} {b : Bool} (h : s.dispatch ops C cfg pkt = .ok (s', b)) :
    (s'.outgoingBuffer = s.outgoingBuffer ∧ s'.mySeq = s.mySeq) ∨
      (s.state = .established ∧ ∃ k, k ≤ s.outgoingBuffer.length ∧
        s'.outgoingBuffer = s.outgoingBuffer.drop k ∧ s'.mySeq = s.mySeq + UInt16.ofNat k) := by
  rcases dispatch_ok h with ⟨-, -, -, ping, d, -, hd, rfl⟩ | ⟨-, h⟩ | ⟨-, h⟩ | ⟨-, h⟩ | ⟨-, h⟩ |
    ⟨rfl, -⟩
  · exact .inl ⟨rfl, rfl⟩
  · rcases handleSYN_ok h with ⟨-, rfl, -⟩ | ⟨-, -, syn, -, rfl⟩ <;> exact .inl ⟨rfl, rfl⟩
  · rcases handleMSG_ok h with ⟨rfl, -⟩ | ⟨hst, msg, -, -, hk, hs⟩
    · exact .inl ⟨rfl, rfl⟩
    · have hseq : msg.ack = s.mySeq + UInt16.ofNat (msg.ack - s.mySeq).toNat := by
        rw [ofNat_toNat16, add_sub_cancel16]
      refine .inr ⟨hst, _, hk, ?_⟩
      rcases hs with ⟨-, ⟨-, rfl⟩ | ⟨-, d, -, rfl⟩⟩ <;> rw [acceptMSG_eq] <;> exact ⟨rfl, hseq⟩
  · obtain ⟨-, rfl⟩ := handleFIN_ok h
    rw [kill_eq]
    exact .inl ⟨rfl, rfl⟩
  · obtain ⟨-, enc, -, ⟨-, -, e, e', -, -, rfl⟩ | ⟨-, -, e, -, -, rfl⟩ | ⟨-, ne, ne', -, -, rfl⟩⟩ :=
      handleENC_ok h <;> exact .inl ⟨rfl, rfl⟩
  · exact .inl ⟨rfl, rfl⟩

/-- The handshake only moves forward: `BeforeInit` to `BeforeAuth` or `New` on the
server's ENC, `BeforeAuth` to `New` on its authenticator, `New` to `Established` on its
SYN. -/
theorem dispatch_state {pkt : Packet} {b : Bool} (h : s.dispatch ops C cfg pkt = .ok (s', b)) :
    s'.state = s.state ∨
      (s.state = .beforeInit ∧ pkt.packetType = packetTypeENC ∧
        s'.state = (if cfg.presharedSecret ≠ [] then .beforeAuth else .new)) ∨
      (s.state = .beforeAuth ∧ pkt.packetType = packetTypeENC ∧ s'.state = .new) ∨
      (s.state = .new ∧ pkt.packetType = packetTypeSYN ∧ s'.state = .established) := by
  rcases dispatch_ok h with ⟨-, -, -, ping, d, -, hd, rfl⟩ | ⟨ht, h⟩ | ⟨-, h⟩ | ⟨-, h⟩ | ⟨ht, h⟩ |
    ⟨rfl, -⟩
  · exact .inl rfl
  · rcases handleSYN_ok h with ⟨-, rfl, -⟩ | ⟨hst, -, syn, -, rfl⟩
    · exact .inl rfl
    · exact .inr (.inr (.inr ⟨hst, ht, rfl⟩))
  · rcases handleMSG_ok h with ⟨rfl, -⟩ | ⟨hst, msg, -, -, -, -, ⟨-, rfl⟩ | ⟨-, d, -, rfl⟩⟩
    · exact .inl rfl
    all_goals rw [acceptMSG_eq]; exact .inl rfl
  · obtain ⟨-, rfl⟩ := handleFIN_ok h
    rw [kill_eq]
    exact .inl rfl
  · obtain ⟨-, enc, -, ⟨hst, -, e, e', -, -, rfl⟩ | ⟨hst, -, e, -, -, rfl⟩
      | ⟨hst, ne, ne', -, -, rfl⟩⟩ :=
      handleENC_ok h
    · exact .inr (.inl ⟨hst, ht, rfl⟩)
    · exact .inr (.inr (.inl ⟨hst, ht, rfl⟩))
    · exact .inl rfl
  · exact .inl rfl

end Session

/-! ### The observed driver -/

section Observed

variable {ops : Driver D}

theorem observed_getOutgoing_ok {d d' : D × Traffic} {n : Int} {r : Option Bytes}
    (h : ops.observed.getOutgoing d n = .ok (r, d')) :
    ∃ d₁, ops.getOutgoing d.1 n = .ok (r, d₁) ∧
      d' = (d₁, { d.2 with given := d.2.given ++ r.getD [] }) := by
  obtain ⟨⟨r', d₁⟩, hq, h⟩ := map_eq_ok.mp h
  cases h
  exact ⟨d₁, hq, rfl⟩

theorem observed_dataReceived_ok {d d' : D × Traffic} {data : Bytes}
    (h : ops.observed.dataReceived d data = .ok d') :
    ∃ d₁, ops.dataReceived d.1 data = .ok d₁ ∧ d'.1 = d₁ ∧ d'.2.given = d.2.given := by
  obtain ⟨d₁, hq, rfl⟩ := map_eq_ok.mp h
  exact ⟨d₁, hq, rfl, rfl⟩

theorem observed_getOutgoing_received {d d' : D × Traffic} {n : Int} {r : Option Bytes}
    (h : ops.observed.getOutgoing d n = .ok (r, d')) : d'.2.received = d.2.received := by
  obtain ⟨q, -, h⟩ := map_eq_ok.mp h
  cases h
  rfl

theorem observed_dataReceived_received {d d' : D × Traffic} {data : Bytes}
    (h : ops.observed.dataReceived d data = .ok d') : d'.2.received = d.2.received ++ data := by
  obtain ⟨q, -, rfl⟩ := map_eq_ok.mp h
  rfl

namespace Session

variable {s s' : Session (D × Traffic)}

/-- Polling hands the driver nothing. -/
theorem pollDriverForData_received (h : s.pollDriverForData ops.observed = .ok s') :
    s'.driver.2.received = s.driver.2.received := by
  obtain ⟨r, d, hg, -, hd⟩ := pollDriverForData_spec h
  have hr := observed_getOutgoing_received hg
  rcases hd with hd | hd <;> rw [hd] <;> exact hr

end Session

end Observed

end Dnscat2
