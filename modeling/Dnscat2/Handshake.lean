import Dnscat2.Steps

/-!
The handshake of an encrypted session. The state only moves forward, `BeforeInit`,
`BeforeAuth`, `New`, `Established`; before `Established` no MSG or FIN goes out and the
type switch hands the driver nothing; with a pre-shared secret, `New` is reached only
from `BeforeAuth`, on an ENC auth frame carrying the server authenticator the session
derived. Out of `BeforeInit` every frame out is encrypted then signed, and every frame
acted on has passed `CheckSignature` and `Decrypt`, under the keys of the latest key
agreement: the one that ended `BeforeInit`, or the latest renegotiation, which replaces
the encryptor when the send counter runs high.
-/

namespace Dnscat2

/-- The order of the handshake. -/
def State.rank : State → Nat
  | .beforeInit => 0
  | .beforeAuth => 1
  | .new => 2
  | .established => 3

namespace Encryptor

/-- The four symmetric keys. -/
def keys (e : Encryptor) : Key × Key × Key × Key :=
  (e.myWriteKey, e.myMacKey, e.theirWriteKey, e.theirMacKey)

/-- The server authenticator an encryptor expects is the one it derives, when it has a
pre-shared secret. -/
def Authenticates (C : Crypto) (e : Encryptor) : Prop :=
  e.presharedSecret ≠ [] → e.theirAuthenticator = e.makeAuthenticator C (ascii "server")

variable {C : Crypto} {e e' : Encryptor} {pub : Bytes}

/-- `Encrypt` moves the counter and nothing else. -/
theorem encrypt_snd (C : Crypto) (e : Encryptor) (d : Bytes) :
    (e.encrypt C d).2 = e ∨ (e.encrypt C d).2 = { e with nonce := e.nonce + 1 } := by
  by_cases hd : headerLength ≤ d.length
  · exact .inr (by rw [encrypt_eq hd])
  · exact .inl (by simp [encrypt, Nat.lt_of_not_le hd])

@[simp] theorem keys_encrypt (C : Crypto) (e : Encryptor) (d : Bytes) :
    (e.encrypt C d).2.keys = e.keys := by
  rcases encrypt_snd C e d with h | h <;> rw [h]; rfl

@[simp] theorem presharedSecret_encrypt (C : Crypto) (e : Encryptor) (d : Bytes) :
    (e.encrypt C d).2.presharedSecret = e.presharedSecret := by
  rcases encrypt_snd C e d with h | h <;> rw [h]

theorem Authenticates.encrypt (he : e.Authenticates C) (d : Bytes) :
    (e.encrypt C d).2.Authenticates C := by
  rcases encrypt_snd C e d with h | h <;> rw [h]
  · exact he
  · exact he

theorem setTheirPublicKey_ok (h : e.setTheirPublicKey C pub = .ok e') :
    ∃ shared, e' = deriveKeys C { e with theirPublicKey := pub, sharedSecret := shared } := by
  unfold setTheirPublicKey at h
  split at h
  all_goals
    dsimp only at h
    split at h
    · cases h
    · split at h
      · cases h
      · exact ⟨_, (Except.ok.inj h).symm⟩

theorem presharedSecret_setTheirPublicKey (h : e.setTheirPublicKey C pub = .ok e') :
    e'.presharedSecret = e.presharedSecret := by
  obtain ⟨shared, rfl⟩ := setTheirPublicKey_ok h
  unfold deriveKeys
  dsimp only
  split_ifs <;> rfl

theorem authenticates_setTheirPublicKey (h : e.setTheirPublicKey C pub = .ok e') :
    e'.Authenticates C := by
  obtain ⟨shared, rfl⟩ := setTheirPublicKey_ok h
  intro hpsk
  unfold deriveKeys at hpsk ⊢
  dsimp only at hpsk ⊢
  split_ifs at hpsk ⊢ with h'
  · rfl
  · exact absurd hpsk h'

end Encryptor

theorem presharedSecret_newEncryptor {C : Crypto} {psk : Bytes} {k : Option Bytes} {e : Encryptor}
    (h : C.newEncryptor psk k = .ok e) : e.presharedSecret = psk := by
  unfold Crypto.newEncryptor at h
  split at h
  · cases h
  · cases h; rfl

namespace Session

variable {D : Type} {ops : Driver D} {C : Crypto} {cfg : Config} {s s' : Session D}

theorem new_ok {d : D} {name hostname : Bytes} {id mySeq : UInt16} {k : Option Bytes}
    (h : Session.new C cfg d name hostname id mySeq k = .ok s) :
    s.isPing = false ∧ s.newEncryptor = none ∧
      (cfg.doEncryption = true → s.state = .beforeInit ∧
        ∃ e, s.encryptor = some e ∧ e.presharedSecret = cfg.presharedSecret) := by
  unfold Session.new at h
  cases hdo : cfg.doEncryption
  · simp only [hdo] at h
    cases h
    exact ⟨rfl, rfl, fun h => by cases h⟩
  · cases hk : C.newEncryptor cfg.presharedSecret k with
    | error err => simp [hdo, hk] at h; cases h
    | ok e =>
      simp only [hdo, hk] at h
      cases h
      exact ⟨rfl, rfl, fun _ => ⟨rfl, e, rfl, presharedSecret_newEncryptor hk⟩⟩

/-! ### The state moves forward -/

theorem getOutgoing_state {now : Nat} {m : Int} {pid : UInt16} {k r : Option Bytes}
    (h : s.getOutgoing ops C cfg now m pid k = .ok (r, s')) : s'.state = s.state := by
  obtain ⟨s₁, hp, ht⟩ := getOutgoing_ok h
  rw [transmit_frame ht, (pollDriverForData_frame hp).1]

theorem dispatch_rank {pkt : Packet} {b : Bool} (h : s.dispatch ops C cfg pkt = .ok (s', b)) :
    s.state.rank ≤ s'.state.rank := by
  rcases dispatch_state h with h' | ⟨h1, -, h2⟩ | ⟨h1, -, h2⟩ | ⟨h1, -, h2⟩
  · exact Nat.le_of_eq (congrArg State.rank h').symm
  · rw [h1, h2]; split_ifs <;> decide
  all_goals rw [h1, h2]; decide

theorem step_rank {E : Type} {feed : D → E → D} {ev : Event E}
    (h : s.step ops C cfg feed ev = .ok s') : s.state.rank ≤ s'.state.rank := by
  rcases ev with (⟨now, m, pid, k⟩ | data) | e
  · obtain ⟨⟨r, s₂⟩, hg, rfl⟩ := map_eq_ok.mp h
    exact Nat.le_of_eq (congrArg State.rank (getOutgoing_state hg)).symm
  · obtain ⟨⟨s₂, b⟩, hd, rfl⟩ := map_eq_ok.mp h
    obtain ⟨s₁, hp, hdec⟩ := dataIncoming_ok hd
    have hst : s₁.state = s.state := by rw [(pollDriverForData_frame hp).1]
    rcases hdec with ⟨-, rfl, -⟩ | ⟨pkt, -, hdisp⟩
    · exact Nat.le_of_eq (congrArg State.rank hst).symm
    · exact hst ▸ dispatch_rank hdisp
  · cases h
    exact Nat.le_refl _

/-! ### Nothing of the stream before `Established` -/

theorem nextPacket_established {m : Int} {pid : UInt16} {k : Option Bytes} {pkt : Packet}
    (h : s.nextPacket C cfg m pid k = .ok (some pkt, s')) (hp : s.isPing = false)
    (ht : pkt.packetType = packetTypeMSG ∨ pkt.packetType = packetTypeFIN) :
    s.state = .established := by
  rcases nextPacket_some h with ⟨hp', -⟩ | ⟨-, -, e, -, rfl⟩ | ⟨-, -, e, -, rfl⟩ | ⟨-, -, rfl⟩ |
    ⟨-, hst, -⟩ | ⟨-, hst, -⟩ | ⟨-, hst, -⟩
  · exact absurd (hp'.symm.trans hp) (by decide)
  all_goals first
    | exact hst
    | simp [packetTypeMSG, packetTypeFIN, packetTypeENC, packetTypeSYN] at ht

/-- Out of `Established`, the type switch of a non-ping session reaches the driver at
most through `Close`: no payload is handed on. -/
theorem dispatch_quiet {pkt : Packet} {b : Bool} (hp : s.isPing = false)
    (hst : s.state ≠ .established) (h : s.dispatch ops C cfg pkt = .ok (s', b)) :
    s'.driver = s.driver ∨ s'.driver = ops.close s.driver := by
  rcases dispatch_ok h with ⟨hp', -⟩ | ⟨-, h⟩ | ⟨-, h⟩ | ⟨-, h⟩ | ⟨-, h⟩ | ⟨rfl, -⟩
  · exact absurd (hp'.symm.trans hp) (by decide)
  · rcases handleSYN_ok h with ⟨-, rfl, -⟩ | ⟨-, -, syn, -, rfl⟩ <;> exact .inl rfl
  · rcases handleMSG_ok h with ⟨rfl, -⟩ | ⟨hst', -⟩
    · exact .inl rfl
    · exact absurd hst' hst
  · obtain ⟨-, rfl⟩ := handleFIN_ok h
    exact kill_driver _
  · obtain ⟨-, enc, -, ⟨-, -, e, e', -, -, rfl⟩ | ⟨-, -, e, -, -, rfl⟩ | ⟨-, ne, ne', -, -, rfl⟩⟩ :=
      handleENC_ok h <;> exact .inl rfl
  · exact .inl rfl

/-! ### `New` through the authenticator -/

/-- With a pre-shared secret, the type switch makes a session `New` only from
`BeforeAuth`, on an ENC auth frame whose authenticator is the one the session expects. -/
theorem dispatch_new {pkt : Packet} {b : Bool} (hpsk : cfg.presharedSecret ≠ [])
    (hn : s.state ≠ .new) (h : s.dispatch ops C cfg pkt = .ok (s', b)) (hs' : s'.state = .new) :
    s.state = .beforeAuth ∧ ∃ enc e, pkt.enc = some enc ∧ enc.subtype = encSubtypeAuth ∧
      s.encryptor = some e ∧ enc.authenticator.toList = e.theirAuthenticator.toList := by
  rcases dispatch_state h with h' | ⟨-, -, h2⟩ | ⟨h1, ht, -⟩ | ⟨h1, -, -⟩
  · exact absurd (h'.symm.trans hs') hn
  · rw [if_pos hpsk] at h2
    exact absurd (h2.symm.trans hs') (by decide)
  · rw [dispatch_enc ht] at h
    obtain ⟨-, enc, henc, ⟨h1', -⟩ | ⟨-, hsub, e, he, hauth, -⟩ | ⟨h1', -⟩⟩ := handleENC_ok h
    · exact absurd (h1.symm.trans h1') (by decide)
    · exact ⟨h1, enc, e, henc, hsub, he, hauth⟩
    · exact absurd (h1.symm.trans h1') (by decide)
  · exact absurd h1 hn

/-! ### The keys of the latest key agreement -/

/-- A send changes no key: the encryptor only moves its counter, and a renegotiation only
adds a new encryptor, made with the configured secret, when none is pending. -/
theorem transmit_keys {now : Nat} {m : Int} {pid : UInt16} {k r : Option Bytes}
    (h : s.transmit C cfg now m pid k = .ok (r, s')) :
    s'.state = s.state ∧
      (s'.encryptor = s.encryptor ∨ ∃ e d, s.encryptor = some e ∧ s'.encryptor =
          some (e.encrypt C d).2) ∧
      (s'.newEncryptor = s.newEncryptor ∨ s.newEncryptor = none ∧
        ∃ k' e, C.newEncryptor cfg.presharedSecret k' = .ok e ∧ s'.newEncryptor = some e) := by
  have hst : s'.state = s.state := by rw [transmit_frame h]
  rcases transmit_ok h with ⟨-, rfl⟩ | ⟨-, p, s₁, hn, h⟩
  · exact ⟨rfl, .inl rfl, .inl rfl⟩
  obtain ⟨hf, hne⟩ := nextPacket_frame hn
  have hne' : s₁.newEncryptor = s.newEncryptor ∨ s.newEncryptor = none ∧
      ∃ k' e, C.newEncryptor cfg.presharedSecret k' = .ok e ∧ s₁.newEncryptor = some e := by
    rcases hne with hne | ⟨-, hnone, e, he, hs₁, -⟩
    · exact .inl hne
    · exact .inr ⟨hnone, k, e, he, hs₁⟩
  have henc : s₁.encryptor = s.encryptor := by rw [hf]
  rcases h with ⟨-, rfl⟩ | ⟨pkt, bytes, out, s₂, -, -, hpr, -, rfl⟩
  · exact ⟨hst, .inl henc, hne'⟩
  · rcases protect_ok hpr with ⟨-, e, he, -, rfl⟩ | ⟨-, -, rfl⟩
    · exact ⟨hst, .inr ⟨e, bytes, henc ▸ he, rfl⟩, hne'⟩
    · exact ⟨hst, .inl henc, hne'⟩

/-- The type switch changes the encryptors only at a key agreement: the server's ENC in
`BeforeInit`, which ends it, or its answer to a renegotiation, which puts the pending
encryptor in place; either time the new encryptor is what `SetTheirPublicKey` made. -/
theorem dispatch_keys {pkt : Packet} {b : Bool} (h : s.dispatch ops C cfg pkt = .ok (s', b)) :
    (s'.encryptor = s.encryptor ∧ s'.newEncryptor = s.newEncryptor ∧
        (s.state = .beforeInit → s'.state = .beforeInit)) ∨
      (s.state = .beforeInit ∧ s'.state ≠ .beforeInit ∧ s'.newEncryptor = s.newEncryptor ∧
        ∃ e pub e', s.encryptor = some e ∧ e.setTheirPublicKey C pub = .ok e' ∧
          s'.encryptor = some e') ∨
      (s.state = .established ∧ s'.state = .established ∧ s'.newEncryptor = none ∧
        ∃ ne pub ne', s.newEncryptor = some ne ∧ ne.setTheirPublicKey C pub = .ok ne' ∧
          s'.encryptor = some ne') := by
  rcases dispatch_ok h with ⟨-, -, -, ping, d, -, -, rfl⟩ | ⟨-, h⟩ | ⟨-, h⟩ | ⟨-, h⟩ | ⟨-, h⟩ |
    ⟨rfl, -⟩
  · exact .inl ⟨rfl, rfl, fun h => h⟩
  · rcases handleSYN_ok h with ⟨-, rfl, -⟩ | ⟨hst, -, syn, -, rfl⟩
    · exact .inl ⟨rfl, rfl, fun h => h⟩
    · exact .inl ⟨rfl, rfl, fun h' => absurd (h'.symm.trans hst) (by decide)⟩
  · rcases handleMSG_ok h with ⟨rfl, -⟩ | ⟨-, msg, -, -, -, -, ⟨-, rfl⟩ | ⟨-, d, -, rfl⟩⟩
    · exact .inl ⟨rfl, rfl, fun h => h⟩
    all_goals rw [acceptMSG_eq]; exact .inl ⟨rfl, rfl, fun h => h⟩
  · obtain ⟨-, rfl⟩ := handleFIN_ok h
    rw [kill_eq]
    exact .inl ⟨rfl, rfl, fun h => h⟩
  · obtain ⟨-, enc, -, ⟨hst, -, e, e', he, he', rfl⟩ | ⟨hst, -, e, -, -, rfl⟩ |
      ⟨hst, ne, ne', hne, hne', rfl⟩⟩ := handleENC_ok h
    · refine .inr (.inl ⟨hst, ?_, rfl, e, _, e', he, he', rfl⟩)
      dsimp only
      split_ifs <;> decide
    · exact .inl ⟨rfl, rfl, fun h' => absurd (h'.symm.trans hst) (by decide)⟩
    · exact .inr (.inr ⟨hst, hst, rfl, ne, _, ne', hne, hne', rfl⟩)
  · exact .inl ⟨rfl, rfl, fun h => h⟩

/-- A step changes the encryptors only at a key agreement; otherwise the encryptor only
moves its counter and a new one, made with the configured secret, may start pending. -/
theorem step_keys {E : Type} {feed : D → E → D} {ev : Event E}
    (h : s.step ops C cfg feed ev = .ok s') :
    ((s'.encryptor = s.encryptor ∨
          ∃ e d, s.encryptor = some e ∧ s'.encryptor = some (e.encrypt C d).2) ∧
        (s'.newEncryptor = s.newEncryptor ∨ s.newEncryptor = none ∧
          ∃ k' e, C.newEncryptor cfg.presharedSecret k' = .ok e ∧ s'.newEncryptor = some e) ∧
        (s.state = .beforeInit → s'.state = .beforeInit)) ∨
      (s.state = .beforeInit ∧ s'.state ≠ .beforeInit ∧ s'.newEncryptor = s.newEncryptor ∧
        ∃ e pub e', s.encryptor = some e ∧ e.setTheirPublicKey C pub = .ok e' ∧
          s'.encryptor = some e') ∨
      (s.state = .established ∧ s'.state = .established ∧ s'.newEncryptor = none ∧
        ∃ ne pub ne', s.newEncryptor = some ne ∧ ne.setTheirPublicKey C pub = .ok ne' ∧
          s'.encryptor = some ne') := by
  rcases ev with (⟨now, m, pid, k⟩ | data) | e
  · obtain ⟨⟨r, s₂⟩, hg, rfl⟩ := map_eq_ok.mp h
    obtain ⟨s₁, hp, ht⟩ := getOutgoing_ok hg
    have hf := (pollDriverForData_frame hp).1
    obtain ⟨hst, henc, hne⟩ := transmit_keys ht
    rw [hf] at henc hne hst
    exact .inl ⟨henc, hne, fun h' => hst.trans h'⟩
  · obtain ⟨⟨s₂, b⟩, hd, rfl⟩ := map_eq_ok.mp h
    obtain ⟨s₁, hp, hdec⟩ := dataIncoming_ok hd
    have hf := (pollDriverForData_frame hp).1
    rcases hdec with ⟨-, rfl, -⟩ | ⟨pkt, -, hdisp⟩
    · exact .inl ⟨.inl (by rw [hf]), .inl (by rw [hf]), fun h' => by rw [hf]; exact h'⟩
    · rw [hf] at hdisp
      rcases dispatch_keys hdisp with ⟨henc, hne, hst⟩ | h' | h'
      · exact .inl ⟨.inl henc, .inl hne, hst⟩
      · exact .inr (.inl h')
      · exact .inr (.inr h')
  · cases h
    exact .inl ⟨.inl rfl, .inl rfl, fun h' => h'⟩

/-- Out of `BeforeInit`, with encryption on, a frame `GetOutgoing` emits is encrypted then
signed under the session's encryptor. -/
theorem getOutgoing_protected (hdo : cfg.doEncryption = true) (hst : s.state ≠ .beforeInit)
    {now : Nat} {m : Int} {pid : UInt16} {k : Option Bytes} {out : Bytes}
    (h : s.getOutgoing ops C cfg now m pid k = .ok (some out, s')) :
    ∃ e bytes, s.encryptor = some e ∧ out = (e.encrypt C bytes).2.sign C (e.encrypt C bytes).1 := by
  obtain ⟨s₁, pkt, s₂, hp, -, ⟨bytes, -, hout⟩, -⟩ := getOutgoing_emits h
  have hf := (pollDriverForData_frame hp).1
  rcases hout with ⟨hsh, -⟩ | ⟨-, e, he, rfl⟩
  · rw [hf] at hsh
    simp [shouldEncrypt, hdo, hst] at hsh
  · exact ⟨e, bytes, by rw [← he, hf], rfl⟩

/-- Out of `BeforeInit`, with encryption on, `DataIncoming` acts only on a frame that has
passed `CheckSignature` and `Decrypt` under the session's encryptor. -/
theorem dataIncoming_checked (hdo : cfg.doEncryption = true) (hst : s.state ≠ .beforeInit)
    {data : Bytes} {b : Bool} (h : s.dataIncoming ops C cfg data = .ok (s', b)) :
    ∃ s₁, s.pollDriverForData ops = .ok s₁ ∧ ((s' = s₁ ∧ b = false) ∨
      ∃ pkt e c plain n, s.encryptor = some e ∧ e.checkSignature C data = some c ∧
        e.decrypt C c = .ok (plain, n) ∧ parse plain s.options = .ok pkt ∧
        s₁.dispatch ops C cfg pkt = .ok (s', b)) := by
  obtain ⟨s₁, hp, hdec⟩ := dataIncoming_ok h
  refine ⟨s₁, hp, ?_⟩
  rcases hdec with ⟨-, rfl, rfl⟩ | ⟨pkt, hd, hdisp⟩
  · exact .inl ⟨rfl, rfl⟩
  rw [decodeIncoming_poll hp] at hd
  rcases decodeIncoming_some hd with ⟨-, e, c, plain, n, he, hc, hdc, hpa⟩ | ⟨hsh, -⟩
  · exact .inr ⟨pkt, e, c, plain, n, he, hc, hdc, hpa, hdisp⟩
  · simp [shouldEncrypt, hdo, hst] at hsh

end Session

/-! ### Runs of an encrypted session -/

section Runs

variable {D E : Type} {ops : Driver D} {C : Crypto} {cfg : Config} {feed : D → E → D}
  {s s' : Session D}

/-- The ghost of the key agreements: the keys of the encryptor whenever one completes, when
the session leaves `BeforeInit` and when a renegotiation's encryptor takes over. -/
def agreedKeys (s : Session D) (_ : Event E) (s' : Session D)
    (g : Option (Key × Key × Key × Key)) : Option (Key × Key × Key × Key) :=
  if (s.state = .beforeInit ∧ s'.state ≠ .beforeInit) ∨
      (s.newEncryptor.isSome = true ∧ s'.newEncryptor.isNone = true) then
    s'.encryptor.map Encryptor.keys
  else g

/-- The invariant of an encrypted session: every encryptor it holds has the configured
secret, and out of `BeforeInit` it holds one with the keys of the latest key agreement,
expecting the server authenticator it derives. -/
structure Keyed (C : Crypto) (cfg : Config) (s : Session D) (g : Option (Key × Key × Key × Key)) :
    Prop where
  secret : ∀ e, s.encryptor = some e → e.presharedSecret = cfg.presharedSecret
  newSecret : ∀ e, s.newEncryptor = some e → e.presharedSecret = cfg.presharedSecret
  agreed : s.state ≠ .beforeInit → ∃ e, s.encryptor = some e ∧ g = some e.keys ∧ e.Authenticates C

theorem Keyed.step {g : Option (Key × Key × Key × Key)} (hs : Keyed C cfg s g) {ev : Event E}
    (h : s.step ops C cfg feed ev = .ok s') : Keyed C cfg s' (agreedKeys s ev s' g) := by
  rcases Session.step_keys h with ⟨henc, hne, hst⟩ |
    ⟨h0, h1, hne, e, pub, e', he, hset, he'⟩ | ⟨-, -, hnone, ne, pub, ne', hne, hset, hne'⟩
  · -- no key agreement: the ghost stays, and so do the keys
    have hg : agreedKeys s ev s' g = g := by
      refine if_neg (not_or.mpr ⟨fun h' => h'.2 (hst h'.1), fun h' => ?_⟩)
      rcases hne with hne | ⟨hnone, -⟩
      · rw [hne] at h'; cases hs' : s.newEncryptor <;> simp [hs'] at h'
      · rw [hnone] at h'; cases h'.1
    rw [hg]
    refine ⟨?_, ?_, fun hst' => ?_⟩
    · rcases henc with henc | ⟨e, d, he, henc⟩ <;> rw [henc] <;> intro e' he'
      · exact hs.secret e' he'
      · cases he'
        rw [Encryptor.presharedSecret_encrypt]
        exact hs.secret e he
    · rcases hne with hne | ⟨-, k', e, hk, hne⟩ <;> rw [hne] <;> intro e' he'
      · exact hs.newSecret e' he'
      · cases he'
        exact presharedSecret_newEncryptor hk
    · obtain ⟨e, he, hg', ha⟩ := hs.agreed (fun h' => hst' (hst h'))
      rcases henc with henc | ⟨e₀, d, he₀, henc⟩
      · exact ⟨e, henc.trans he, hg', ha⟩
      · rw [he] at he₀
        cases he₀
        exact ⟨_, henc, by rw [hg', Encryptor.keys_encrypt], ha.encrypt d⟩
  · -- the server's ENC ends `BeforeInit`
    have hg : agreedKeys s ev s' g = some e'.keys := by
      rw [agreedKeys, if_pos (.inl ⟨h0, h1⟩), he']; rfl
    rw [hg]
    have hsec : e'.presharedSecret = cfg.presharedSecret :=
      (Encryptor.presharedSecret_setTheirPublicKey hset).trans (hs.secret e he)
    refine ⟨fun x hx => ?_, fun x hx => hs.newSecret x (hne ▸ hx), fun _ =>
      ⟨e', he', rfl, Encryptor.authenticates_setTheirPublicKey hset⟩⟩
    rw [he'] at hx
    cases hx
    exact hsec
  · -- the server's answer to a renegotiation puts the pending encryptor in place
    have hg : agreedKeys s ev s' g = some ne'.keys := by
      rw [agreedKeys, if_pos (.inr ⟨by rw [hne]; rfl, by rw [hnone]; rfl⟩), hne']; rfl
    rw [hg]
    refine ⟨fun x hx => ?_, fun x hx => (by rw [hnone] at hx; cases hx), fun _ =>
      ⟨ne', hne', rfl, Encryptor.authenticates_setTheirPublicKey hset⟩⟩
    rw [hne'] at hx
    cases hx
    exact (Encryptor.presharedSecret_setTheirPublicKey hset).trans (hs.newSecret ne hne)

/-- Every run keeps the invariant, whatever the environment does. -/
theorem Keyed.reach {allowed : Session D → Option (Key × Key × Key × Key) → Event E → Prop}
    {s₀ : Session D} {g₀ g : Option (Key × Key × Key × Key)} (h₀ : Keyed C cfg s₀ g₀)
    (hr : Session.Reach ops C cfg feed allowed agreedKeys s₀ g₀ s g) : Keyed C cfg s g := by
  induction hr with
  | init => exact h₀
  | step _ _ hs ih => exact ih.step hs

theorem Keyed.new (hdo : cfg.doEncryption = true) {d : D} {name hostname : Bytes}
    {id mySeq : UInt16} {k : Option Bytes} (h : Session.new C cfg d name hostname id mySeq k =
        .ok s) :
    Keyed C cfg s none := by
  obtain ⟨-, hne, hen⟩ := Session.new_ok h
  obtain ⟨hst, e, he, hsec⟩ := hen hdo
  refine ⟨fun x hx => ?_, fun x hx => (by rw [hne] at hx; cases hx), fun h' => absurd hst h'⟩
  rw [he] at hx
  cases hx
  exact hsec

end Runs

/-! ### A renegotiation replaces the keys of the handshake

Once the counter passes `0xFFF0`, an Established session offers a new public key and,
when the server answers, replaces its encryptor: what it sends from then on is under
keys the handshake never made. The run below goes there from `Session.new`. -/

/-- Primitives under which a digest repeats the first byte hashed and a shared secret the
first byte of the private key: the keys of two key agreements differ when the private
keys do. -/
def Crypto.toy : Crypto where
  sha3 x := Mathlib.Vector.replicate 32 (x.headD 0)
  keystream _ _ _ := 0
  publicKey k := k
  newPublicKey _ := .ok ()
  ecdh k _ := .ok (Mathlib.Vector.replicate 32 (k.headD 0))

namespace Renegotiation

/-- Encryption on, no pre-shared secret, no delay between sends. -/
def cfg : Config := ⟨0, false, true, []⟩

/-- The server's public key, in both key agreements. -/
def serverKey : Bytes := List.replicate 64 9

/-- The server's ENC init, in the clear, to session 1. -/
def encInit : Bytes := [0, 1, 3, 0, 1, 0, 0, 0, 0] ++ serverKey

/-- The server's SYN with `seq` 5, signed and encrypted (nonce 0) under the first keys. -/
def synReply : Bytes := [0, 2, 0, 0, 1, 1, 1, 1, 1, 1, 1, 0, 0, 0, 5, 0, 0]

/-- The server's answer to the new key, signed and encrypted under the first keys. -/
def encReply : Bytes := [0, 3, 3, 0, 1, 1, 1, 1, 1, 1, 1, 0, 0, 0, 0, 0, 0] ++ serverKey

/-- `NewEncryptor` for the private key `[k]`. -/
def fresh (k : UInt8) : Encryptor :=
  { presharedSecret := [], myPrivateKey := [k], myPublicKey := [k], theirPublicKey := [],
    sharedSecret := zeros 32, myAuthenticator := zeros 32, theirAuthenticator := zeros 32,
    myWriteKey := zeros 32, myMacKey := zeros 32, theirWriteKey := zeros 32,
    theirMacKey := zeros 32, nonce := 0 }

/-- The encryptor of `[k]` once it knows `serverKey`: every key is `k` repeated. -/
def keyed (k : UInt8) : Encryptor :=
  { fresh k with
    theirPublicKey := serverKey, sharedSecret := .replicate 32 k, myWriteKey := .replicate 32 k,
    myMacKey := .replicate 32 k, theirWriteKey := .replicate 32 k, theirMacKey := .replicate 32 k }

/-- What `Session.new` makes, with id 1, `MySeq` 7 and the private key `[1]`. -/
def start : Session ConsoleDriver :=
  { id := 1, state := .beforeInit, theirSeq := 0, mySeq := 7, name := [], options := 0,
    isCommand := false, isPing := false, driver := ConsoleDriver.new, outgoingBuffer := [],
    encryptor := some (fresh 1), newEncryptor := none, lastTransmit := none,
    missedTransmissions := 0, isShutdown := false }

/-- The states the run goes through: after the key agreement, after 65521 SYNs, after the
server's SYN, after the offer of a new key, after the server's answer. -/
def handshaken : Session ConsoleDriver :=
  { start with state := .new, encryptor := some (keyed 1) }

def resent : Session ConsoleDriver :=
  { handshaken with encryptor := some { keyed 1 with nonce := 65521 }, lastTransmit := some 65521,
                    missedTransmissions := 65521 }

def synced : Session ConsoleDriver :=
  { resent with theirSeq := 5, missedTransmissions := 0, state := .established }

def offering : Session ConsoleDriver :=
  { synced with newEncryptor := some (fresh 2), encryptor := some { keyed 1 with nonce := 65522 },
                lastTransmit := some 65522, missedTransmissions := 1 }

def renegotiated : Session ConsoleDriver :=
  { offering with encryptor := some (keyed 2), newEncryptor := none }

/-- The console driver with nothing read has nothing to send. -/
theorem quiet (s : Session ConsoleDriver) (h : s.driver = ConsoleDriver.new) :
    consoleDriver.getOutgoing s.driver (-1) = .ok (some [], s.driver) := by
  rw [h]; rfl

open Session

theorem start_step_encInit : start.step consoleDriver Crypto.toy cfg ConsoleDriver.feed
    (.call (.dataIncoming encInit)) = .ok handshaken :=
  step_dataIncoming ((dataIncoming_quiet (quiet _ rfl) (decodeIncoming_plain (by rfl)
    (show parse encInit 0 = .ok ((createENC 1 1 0).setEncInit serverKey) by rfl))).trans
    ((dispatch_enc (by rfl) _).trans
      (handleENC_init (by rfl) (by rfl) (by rfl) (by rfl) (by rfl))))

/-- After the handshake: 65521 polls the server leaves unanswered, its SYN, a poll once the
counter is past `0xFFF0`, and the server's answer to the new key. -/
def events : List (Event Stdin) :=
  resends 0 1 100 0 none 65521 ++
    [.call (.dataIncoming synReply), .call (.getOutgoing 65522 100 0 (some [2])),
     .call (.dataIncoming encReply)]

/-- The server's SYN moves the session to `Established`. -/
theorem resent_dataIncoming_synReply :
    resent.dataIncoming consoleDriver Crypto.toy cfg synReply = .ok (synced, true) :=
  (dataIncoming_quiet (quiet _ rfl) (decodeIncoming_checked (by rfl) (by rfl) (by rfl) (by rfl)
    (show parse [0, 2, 0, 0, 1, 0, 5, 0, 0] 0 = .ok (createSYN 2 1 5 0) by rfl))).trans
    ((dispatch_syn (by rfl) _).trans (handleSYN_new (by rfl)
      (show (createSYN 2 1 5 0).syn = some { seq := 5, options := 0, name := [] } from rfl)))

/-- The counter is past `0xFFF0`: a new key is offered. -/
theorem synced_step_offer : synced.step consoleDriver Crypto.toy cfg ConsoleDriver.feed
    (.call (.getOutgoing 65522 100 0 (some [2]))) = .ok offering := by
  obtain ⟨out, h⟩ : ∃ out,
      synced.getOutgoing consoleDriver Crypto.toy cfg 65522 100 0 (some [2]) =
        .ok (some out, offering) :=
    getOutgoing_renegotiate (quiet synced rfl) (by rfl) (by rfl)
      (show cfg.doEncryption = true from rfl) (by rfl) (by rfl) (by rfl)
      (show Crypto.toy.newEncryptor cfg.presharedSecret (some [2]) = .ok (fresh 2) from rfl)
      (show (8 : Int) < 100 by decide) (show synced.canTransmitYet cfg 65522 = true from rfl)
  exact step_getOutgoing h

/-- The server's answer replaces the encryptor. -/
theorem offering_step_encReply : offering.step consoleDriver Crypto.toy cfg ConsoleDriver.feed
    (.call (.dataIncoming encReply)) = .ok renegotiated :=
  step_dataIncoming ((dataIncoming_quiet (quiet _ rfl) (decodeIncoming_checked (by rfl) (by rfl)
    (by rfl) (by rfl) (show parse ([0, 3, 3, 0, 1, 0, 0, 0, 0] ++ serverKey) 0 =
      .ok ((createENC 3 1 0).setEncInit serverKey) by rfl))).trans
    ((dispatch_enc (by rfl) _).trans
      (handleENC_renegotiation (by rfl) (by rfl) (by rfl) (by rfl))))

theorem handshaken_run_events :
    handshaken.run consoleDriver Crypto.toy cfg ConsoleDriver.feed events = .ok renegotiated := by
  -- 65521 unanswered SYNs
  have h₂ : handshaken.run consoleDriver Crypto.toy cfg ConsoleDriver.feed
      (resends 0 1 100 0 none 65521) = .ok resent :=
    run_resends (quiet _ rfl) (by rfl) (by rfl) (by rfl) (by rfl) (by decide) (by decide) (by rfl)
      65520
  rw [events, run_append, h₂, Except.bind,
    run_cons_ok (step_dataIncoming resent_dataIncoming_synReply), run_cons_ok synced_step_offer,
    run_cons_ok offering_step_encReply]
  rfl

/-- Under `Crypto.toy` the signature of a protected frame is the first byte of the MAC key,
repeated; a frame too short to protect goes out as it is. -/
theorem toy_signature (e : Encryptor) (d : Bytes) :
    (((e.encrypt Crypto.toy d).2.sign Crypto.toy (e.encrypt Crypto.toy d).1).drop
      headerLength).take signatureLength =
      if headerLength ≤ d.length then List.replicate signatureLength (e.myMacKey.toList.headD 0)
      else [] := by
  by_cases hd : headerLength ≤ d.length
  · have hx : headerLength ≤ (e.encrypt Crypto.toy d).1.length := by
      rw [Encryptor.encrypt_eq hd]; simp only [List.length_append, List.length_take]; omega
    rw [if_pos hd, Encryptor.sign_eq hx, List.append_assoc,
      List.drop_left' (List.length_take_of_le hx), List.take_left' (length_sig _),
      Encryptor.encrypt_eq hd]
    obtain ⟨_ | ⟨a, l⟩, hl⟩ := e.myMacKey
    · cases hl
    · rfl
  · have hs : d.length < headerLength := Nat.lt_of_not_le hd
    simp [if_neg hd, Encryptor.encrypt, Encryptor.sign, hs, Nat.le_of_lt hs]

end Renegotiation

/-! ### A handshake with a pre-shared secret -/

namespace Psk

open Renegotiation

/-- Encryption on with the pre-shared secret `[7]`. -/
def cfgPsk : Config := ⟨0, false, true, [7]⟩

/-- `NewEncryptor` for the private key `[1]` and the pre-shared secret. -/
def freshPsk : Encryptor := { fresh 1 with presharedSecret := [7] }

/-- The encryptor once it knows `serverKey`: its keys and both authenticators. -/
def authed : Encryptor :=
  { keyed 1 with presharedSecret := [7], myAuthenticator := .replicate 32 99,
                 theirAuthenticator := .replicate 32 115 }

/-- The server's ENC auth, signed and encrypted under `authed`, carrying the server
authenticator. -/
def authReply : Bytes :=
  [0, 2, 3, 0, 1, 1, 1, 1, 1, 1, 1, 0, 0, 0, 1, 0, 0] ++ List.replicate 32 115

/-- What `Session.new` makes, then the states after the key agreement and after the
authenticator. -/
def startPsk : Session ConsoleDriver := { start with encryptor := some freshPsk }

def beforeAuth : Session ConsoleDriver :=
  { startPsk with state := .beforeAuth, encryptor := some authed }

def authenticated : Session ConsoleDriver := { beforeAuth with state := .new }

open Session

theorem decodeIncoming_authReply (s : Session ConsoleDriver) (hsh : s.shouldEncrypt cfgPsk = true)
    (he : s.encryptor = some authed) :
    s.decodeIncoming Crypto.toy cfgPsk authReply =
      .ok (some ((createENC 2 1 0).setEncAuth (List.replicate 32 115))) :=
  decodeIncoming_checked hsh he (by rfl) (by rfl)
    (show parse ([0, 2, 3, 0, 1, 0, 1, 0, 0] ++ List.replicate 32 115) 0 =
      .ok ((createENC 2 1 0).setEncAuth (List.replicate 32 115)) by rfl)

theorem startPsk_step_encInit (c : Bool) :
    { startPsk with isCommand := c }.step consoleDriver Crypto.toy cfgPsk ConsoleDriver.feed
      (.call (.dataIncoming encInit)) = .ok { beforeAuth with isCommand := c } :=
  step_dataIncoming ((dataIncoming_quiet (quiet _ rfl) (decodeIncoming_plain (by rfl)
    (show parse encInit 0 = .ok ((createENC 1 1 0).setEncInit serverKey) by rfl))).trans
    ((dispatch_enc (by rfl) _).trans
      (handleENC_init (by rfl) (by rfl) (by rfl) (by rfl) (by rfl))))

theorem beforeAuth_authReply (c : Bool) :
    { beforeAuth with isCommand := c }.dataIncoming consoleDriver Crypto.toy cfgPsk authReply =
      .ok ({ authenticated with isCommand := c }, true) :=
  (dataIncoming_quiet (quiet _ rfl) (decodeIncoming_authReply _ (by rfl) rfl)).trans
    ((dispatch_enc (by rfl) _).trans
      (handleENC_auth (by rfl) (by rfl) (by rfl) (by rfl) (by rfl)))

end Psk

section Handshakes

variable {D E : Type}

/-- Over every run of a session created with encryption on (and the command flag as
`newCommandSession` sets it, or not), the handshake's guarantees at
each state `s` it reaches, `g` being the keys of the latest key agreement: every step
moves the state forward; before `Established` no MSG or FIN goes out and the type switch
hands the driver nothing; with a pre-shared secret, a step reaches `New` only from
`BeforeAuth`, on an ENC auth frame whose authenticator is the server authenticator the
session derived; a key agreement's encryptor is what `SetTheirPublicKey` made; and out of
`BeforeInit` every frame out is encrypted then signed, and every frame acted on has passed
`CheckSignature` and `Decrypt`, under an encryptor with the keys `g`. -/
theorem encrypted_handshake (ops : Driver D) (C : Crypto) (cfg : Config) (feed : D → E → D)
    (hdo : cfg.doEncryption = true) {d : D} {name hostname : Bytes} {id isn : UInt16}
    {k : Option Bytes} {s₀ s : Session D} {g : Option (Key × Key × Key × Key)}
    (hnew : Session.new C cfg d name hostname id isn k = .ok s₀) (isCommand : Bool)
    (hr : Session.Reach ops C cfg feed (fun _ _ _ => True) agreedKeys { s₀ with isCommand } none
      s g) :
    (∀ ev s', s.step ops C cfg feed ev = .ok s' → s.state.rank ≤ s'.state.rank) ∧
    (s.state ≠ .established →
      (∀ now m pid k out s', s.getOutgoing ops C cfg now m pid k = .ok (some out, s') →
        ∃ s₁ pkt s₂, s.pollDriverForData ops = .ok s₁ ∧
          s₁.nextPacket C cfg (if s₁.shouldEncrypt cfg then m - 8 else m) pid k =
            .ok (some pkt, s₂) ∧
          s₁.Emits C cfg pkt out ∧ pkt.packetType ≠ packetTypeMSG ∧
              pkt.packetType ≠ packetTypeFIN) ∧
      (∀ data s' b, s.dataIncoming ops C cfg data = .ok (s', b) →
        ∃ s₁, s.pollDriverForData ops = .ok s₁ ∧
          (s'.driver = s₁.driver ∨ s'.driver = ops.close s₁.driver))) ∧
    (cfg.presharedSecret ≠ [] → ∀ ev s', s.step ops C cfg feed ev = .ok s' →
      s.state ≠ .new → s'.state = .new →
      s.state = .beforeAuth ∧ ∃ data pkt enc e, ev = .call (.dataIncoming data) ∧
        s.decodeIncoming C cfg data = .ok (some pkt) ∧ pkt.enc = some enc ∧
        enc.subtype = encSubtypeAuth ∧ s.encryptor = some e ∧
        enc.authenticator.toList = e.theirAuthenticator.toList ∧
        e.theirAuthenticator = e.makeAuthenticator C (ascii "server")) ∧
    (∀ ev s', s.step ops C cfg feed ev = .ok s' →
      (s.state = .beforeInit ∧ s'.state ≠ .beforeInit) ∨
        (s.newEncryptor.isSome = true ∧ s'.newEncryptor.isNone = true) →
      ∃ (e : Encryptor) (pub : Bytes) (e' : Encryptor), e.setTheirPublicKey C pub = .ok e' ∧
          s'.encryptor = some e') ∧
    (s.state ≠ .beforeInit → ∃ e, s.encryptor = some e ∧ g = some e.keys ∧
      (∀ now m pid k out s', s.getOutgoing ops C cfg now m pid k = .ok (some out, s') →
        ∃ bytes, out = (e.encrypt C bytes).2.sign C (e.encrypt C bytes).1) ∧
      (∀ data s' b, s.dataIncoming ops C cfg data = .ok (s', b) →
        ∃ s₁, s.pollDriverForData ops = .ok s₁ ∧ ((s' = s₁ ∧ b = false) ∨
          ∃ pkt c plain n, e.checkSignature C data = some c ∧ e.decrypt C c = .ok (plain, n) ∧
            parse plain s.options = .ok pkt ∧ s₁.dispatch ops C cfg pkt = .ok (s', b)))) := by
  -- the command flag `newCommandSession` sets afterwards is not read by the invariant
  have h₀ := Keyed.new hdo hnew
  have hk := (show Keyed C cfg { s₀ with isCommand } none from
    ⟨h₀.secret, h₀.newSecret, h₀.agreed⟩).reach hr
  have hping : s.isPing = false := (Session.ident_reach hr).2.trans (Session.new_ok hnew).1
  refine ⟨fun ev s' h => Session.step_rank h, fun hst => ⟨?_, ?_⟩, ?_, ?_, fun hst => ?_⟩
  · -- (ii) what goes out
    intro now m pid k out s' h
    obtain ⟨s₁, pkt, s₂, hp, hn, he, -⟩ := Session.getOutgoing_emits h
    have hf := (Session.pollDriverForData_frame hp).1
    have hest : s₁.state ≠ .established := by rw [hf]; exact hst
    have hp₁ : s₁.isPing = false := by rw [hf]; exact hping
    exact ⟨s₁, pkt, s₂, hp, hn, he,
      fun ht => hest (Session.nextPacket_established hn hp₁ (.inl ht)),
      fun ht => hest (Session.nextPacket_established hn hp₁ (.inr ht))⟩
  · -- (ii) what comes in
    intro data s' b h
    obtain ⟨s₁, hp, hdec⟩ := Session.dataIncoming_ok h
    have hf := (Session.pollDriverForData_frame hp).1
    refine ⟨s₁, hp, ?_⟩
    rcases hdec with ⟨-, rfl, -⟩ | ⟨pkt, -, hdisp⟩
    · exact .inl rfl
    · exact Session.dispatch_quiet (by rw [hf]; exact hping) (by rw [hf]; exact hst) hdisp
  · -- (iii) `New` through the authenticator
    intro hpsk ev s' h hn hs'
    rcases ev with (⟨now, m, pid, k⟩ | data) | e
    · obtain ⟨⟨r, s₂⟩, hg, rfl⟩ := map_eq_ok.mp h
      exact absurd ((Session.getOutgoing_state hg).symm.trans hs') hn
    · obtain ⟨⟨s₂, b⟩, hd, rfl⟩ := map_eq_ok.mp h
      obtain ⟨s₁, hp, hdec⟩ := Session.dataIncoming_ok hd
      have hf := (Session.pollDriverForData_frame hp).1
      rcases hdec with ⟨-, rfl, -⟩ | ⟨pkt, hdc, hdisp⟩
      · exact absurd (by rw [← hs', hf]) hn
      have hst₁ : s₁.state = s.state := by rw [hf]
      have hen₁ : s₁.encryptor = s.encryptor := by rw [hf]
      obtain ⟨hba, enc, e, henc, hsub, he, hauth⟩ :=
        Session.dispatch_new hpsk (hst₁ ▸ hn) hdisp hs'
      rw [hst₁] at hba
      rw [hen₁] at he
      obtain ⟨e', he', -, ha⟩ := hk.agreed (by rw [hba]; decide)
      rw [he] at he'
      cases he'
      refine ⟨hba, data, pkt, enc, e, rfl, ?_, henc, hsub, he, hauth,
        ha (by rw [hk.secret e he]; exact hpsk)⟩
      rw [← Session.decodeIncoming_poll hp]
      exact hdc
    · cases h
      exact absurd hs' hn
  · -- a key agreement's encryptor is what `SetTheirPublicKey` made
    intro ev s' h hsw
    rcases Session.step_keys h with ⟨-, hne, hst⟩ | ⟨-, -, -, e, pub, e', -, hset, he'⟩ |
      ⟨-, -, -, ne, pub, ne', -, hset, hne'⟩
    · exfalso
      rcases hsw with ⟨h0, h1⟩ | ⟨h0, h1⟩
      · exact h1 (hst h0)
      · rcases hne with hne | ⟨hnone, -⟩
        · rw [hne] at h1; cases hs' : s.newEncryptor <;> simp [hs'] at h0 h1
        · rw [hnone] at h0; cases h0
    · exact ⟨e, pub, e', hset, he'⟩
    · exact ⟨ne, pub, ne', hset, hne'⟩
  · -- (iv) the keys of the latest key agreement
    obtain ⟨e, he, hg, -⟩ := hk.agreed hst
    refine ⟨e, he, hg, fun now m pid k out s' h => ?_, fun data s' b h => ?_⟩
    · obtain ⟨e', bytes, he', rfl⟩ := Session.getOutgoing_protected hdo hst h
      rw [he] at he'
      cases he'
      exact ⟨bytes, rfl⟩
    · obtain ⟨s₁, hp, hdec⟩ := Session.dataIncoming_checked hdo hst h
      refine ⟨s₁, hp, hdec.imp_right ?_⟩
      rintro ⟨pkt, e', c, plain, n, he', hc, hdc, hpa, hdisp⟩
      rw [he] at he'
      cases he'
      exact ⟨pkt, c, plain, n, hc, hdc, hpa, hdisp⟩

open Renegotiation Psk in
theorem encrypted_handshake_psk :
    ∃ s g, s = { beforeAuth with isCommand := true } ∧
      Session.new Crypto.toy cfgPsk ConsoleDriver.new [] [] 1 7 (some [1]) = .ok startPsk ∧
      Session.Reach consoleDriver Crypto.toy cfgPsk ConsoleDriver.feed (fun _ _ _ => True)
        agreedKeys { startPsk with isCommand := true } none s g ∧
      s.step consoleDriver Crypto.toy cfgPsk ConsoleDriver.feed (.call (.dataIncoming authReply)) =
        .ok { authenticated with isCommand := true } ∧
      (∀ ev s', s.step consoleDriver Crypto.toy cfgPsk ConsoleDriver.feed ev = .ok s' →
        s.state.rank ≤ s'.state.rank) ∧
      (s.state ≠ .established →
        (∀ now m pid k out s',
          s.getOutgoing consoleDriver Crypto.toy cfgPsk now m pid k = .ok (some out, s') →
          ∃ s₁ pkt s₂, s.pollDriverForData consoleDriver = .ok s₁ ∧
            s₁.nextPacket Crypto.toy cfgPsk (if s₁.shouldEncrypt cfgPsk then m - 8 else m) pid k =
              .ok (some pkt, s₂) ∧
            s₁.Emits Crypto.toy cfgPsk pkt out ∧ pkt.packetType ≠ packetTypeMSG ∧
              pkt.packetType ≠ packetTypeFIN) ∧
        (∀ data s' b, s.dataIncoming consoleDriver Crypto.toy cfgPsk data = .ok (s', b) →
          ∃ s₁, s.pollDriverForData consoleDriver = .ok s₁ ∧
            (s'.driver = s₁.driver ∨ s'.driver = consoleDriver.close s₁.driver))) ∧
      (cfgPsk.presharedSecret ≠ [] →
        ∀ ev s', s.step consoleDriver Crypto.toy cfgPsk ConsoleDriver.feed ev = .ok s' →
        s.state ≠ .new → s'.state = .new →
        s.state = .beforeAuth ∧ ∃ data pkt enc e, ev = .call (.dataIncoming data) ∧
          s.decodeIncoming Crypto.toy cfgPsk data = .ok (some pkt) ∧ pkt.enc = some enc ∧
          enc.subtype = encSubtypeAuth ∧ s.encryptor = some e ∧
          enc.authenticator.toList = e.theirAuthenticator.toList ∧
          e.theirAuthenticator = e.makeAuthenticator Crypto.toy (ascii "server")) ∧
      (∀ ev s', s.step consoleDriver Crypto.toy cfgPsk ConsoleDriver.feed ev = .ok s' →
        (s.state = .beforeInit ∧ s'.state ≠ .beforeInit) ∨
          (s.newEncryptor.isSome = true ∧ s'.newEncryptor.isNone = true) →
        ∃ (e : Encryptor) (pub : Bytes) (e' : Encryptor),
          e.setTheirPublicKey Crypto.toy pub = .ok e' ∧ s'.encryptor = some e') ∧
      (s.state ≠ .beforeInit → ∃ e, s.encryptor = some e ∧ g = some e.keys ∧
        (∀ now m pid k out s',
          s.getOutgoing consoleDriver Crypto.toy cfgPsk now m pid k = .ok (some out, s') →
          ∃ bytes, out = (e.encrypt Crypto.toy bytes).2.sign Crypto.toy
            (e.encrypt Crypto.toy bytes).1) ∧
        (∀ data s' b, s.dataIncoming consoleDriver Crypto.toy cfgPsk data = .ok (s', b) →
          ∃ s₁, s.pollDriverForData consoleDriver = .ok s₁ ∧ ((s' = s₁ ∧ b = false) ∨
            ∃ pkt c plain n, e.checkSignature Crypto.toy data = some c ∧
              e.decrypt Crypto.toy c = .ok (plain, n) ∧ parse plain s.options = .ok pkt ∧
              s₁.dispatch consoleDriver Crypto.toy cfgPsk pkt = .ok (s', b)))) := by
  have hr : Session.Reach consoleDriver Crypto.toy cfgPsk ConsoleDriver.feed (fun _ _ _ => True)
      agreedKeys { startPsk with isCommand := true } none { beforeAuth with isCommand := true } _ :=
    .step .init trivial (startPsk_step_encInit true)
  exact ⟨_, _, rfl, rfl, hr, Session.step_dataIncoming (beforeAuth_authReply true),
    encrypted_handshake consoleDriver Crypto.toy cfgPsk ConsoleDriver.feed rfl
      (show Session.new Crypto.toy cfgPsk ConsoleDriver.new [] [] 1 7 (some [1]) = .ok startPsk
        from rfl) true hr⟩

end Handshakes

open Renegotiation in
theorem renegotiation_replaces_handshake_keys :
    ∃ s₀ s₁ s out s',
      Session.new Crypto.toy cfg ConsoleDriver.new [] [] 1 7 (some [1]) = .ok s₀ ∧
      s₀.isPing = false ∧ s₀.state = .beforeInit ∧
      s₀.step consoleDriver Crypto.toy cfg ConsoleDriver.feed (.call (.dataIncoming encInit)) =
        .ok s₁ ∧ s₁.state ≠ .beforeInit ∧
      s₁.run consoleDriver Crypto.toy cfg ConsoleDriver.feed events = .ok s ∧
      s.getOutgoing consoleDriver Crypto.toy cfg 65523 100 0 none = .ok (some out, s') ∧
      ∃ e₀ e₁, s₀.encryptor = some e₀ ∧ e₀.setTheirPublicKey Crypto.toy serverKey = .ok e₁ ∧
        s₁.encryptor = some e₁ ∧ ∀ (e : Encryptor) (d : Bytes), e.keys = e₁.keys →
          out ≠ (e.encrypt Crypto.toy d).2.sign Crypto.toy (e.encrypt Crypto.toy d).1 := by
  obtain ⟨bytes, hlen, hout⟩ := Session.getOutgoing_msg (quiet renegotiated rfl) (by rfl) (by rfl)
    (show cfg.doEncryption = true from rfl) (show renegotiated.encryptor = some (keyed 2) from rfl)
    (by rfl) (by rfl) (show (17 : Int) ≤ 100 by decide)
    (show renegotiated.canTransmitYet cfg 65523 = true from rfl)
  refine ⟨start, handshaken, renegotiated, _, _, rfl, rfl, rfl, start_step_encInit, by decide,
    handshaken_run_events, hout, fresh 1, keyed 1, rfl, rfl, rfl, fun e d hk h => ?_⟩
  -- the signatures differ: the MAC keys start with different bytes
  have hmac : e.myMacKey = (keyed 1).myMacKey := congrArg (fun k => k.2.1) hk
  have hsig := congrArg (fun f => (f.drop headerLength).take signatureLength) h
  simp only [toy_signature, hmac, if_pos hlen] at hsig
  split_ifs at hsig <;> exact absurd hsig (by decide)

end Dnscat2
