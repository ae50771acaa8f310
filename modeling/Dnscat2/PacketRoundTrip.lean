import Dnscat2.Packet

/-!
What `Parse` gives back from `ToBytes`. The frames it can return carry exactly
one body, the one of their type; `Body` lists them, and `Body.Valid` is what a
body needs to survive the trip: strings with no NUL in them, a SYN name only
under `OptName`, and the ENC field its subtype does not select left zero, since
`ToBytes` does not write it and `Parse` leaves it zero.
-/

namespace Dnscat2

inductive Body
  | syn (b : SYNPacket)
  | msg (b : MSGPacket)
  | fin (b : FINPacket)
  | ping (b : PINGPacket)
  | enc (b : ENCPacket)

def Body.toPacket (packetID sessionID : UInt16) : Body → Packet
  | .syn b => { packetID, packetType := packetTypeSYN, sessionID, syn := some b }
  | .msg b => { packetID, packetType := packetTypeMSG, sessionID, msg := some b }
  | .fin b => { packetID, packetType := packetTypeFIN, sessionID, fin := some b }
  | .ping b => { packetID, packetType := packetTypePING, sessionID, ping := some b }
  | .enc b => { packetID, packetType := packetTypeENC, sessionID, enc := some b }

def Body.Valid : Body → Prop
  | .syn b => 0 ∉ b.name ∧ (b.options &&& optName = 0 → b.name = [])
  | .msg _ => True
  | .fin b => 0 ∉ b.reason
  | .ping b => 0 ∉ b.data
  | .enc b => (b.subtype ≠ encSubtypeInit → b.publicKey = zeros 64) ∧
      (b.subtype ≠ encSubtypeAuth → b.authenticator = zeros 32)

/-- A packet of one of the five types whose only body is the one of its type,
and a body that satisfies `Body.Valid`. -/
def Packet.Valid (p : Packet) : Prop :=
  ∃ b : Body, b.Valid ∧ p = b.toPacket p.packetID p.sessionID

theorem parse_header (p : Packet) (rest : Bytes) (o : UInt16)
    (h : (p.header ++ rest).length ≤ maxPacketSize) :
    parse (p.header ++ rest) o =
      parseBody { packetID := p.packetID, packetType := p.packetType, sessionID := p.sessionID }
        rest := by
  have h5 : ¬ (p.header ++ rest).length < 5 := by simp
  simp only [parse, h5, if_false, Nat.not_lt.mpr h]
  simp [Packet.header, readUint8, bind, Except.bind, pure, Except.pure]

theorem readNTString_writeNTString {s : Bytes} (h : 0 ∉ s) (rest : Bytes) :
    readNTString (writeNTString s ++ rest) = .ok (s, rest) := by
  simp [readNTString, splitNT_writeNTString h]

theorem readNTString_writeNTString_nil {s : Bytes} (h : 0 ∉ s) :
    readNTString (writeNTString s) = .ok (s, []) := by
  simpa using readNTString_writeNTString h []

theorem readInto_toList {n : Nat} (v : Mathlib.Vector UInt8 n) (hn : 0 < n) :
    readInto n v.toList = .ok (v, []) := by
  obtain ⟨l, hl⟩ := v
  cases l with
  | nil => simp at hl; omega
  | cons b l =>
    simp only [Mathlib.Vector.toList_mk, readInto, Except.ok.injEq, Prod.mk.injEq]
    exact ⟨Subtype.ext (copyInto_zeros _ hl), by simp [← hl]⟩

theorem parse_toBytes_body (pid sid : UInt16) (b : Body) (hb : b.Valid) (o o' : UInt16) :
    ∃ bytes, (b.toPacket pid sid).toBytes o = .ok bytes ∧
      (bytes.length ≤ maxPacketSize → parse bytes o' = .ok (b.toPacket pid sid)) := by
  cases b with
  | syn b =>
    refine ⟨_, rfl, fun h => ?_⟩
    rw [List.append_assoc, List.append_assoc, parse_header _ _ _ (by simpa using h)]
    obtain ⟨seq, options, name⟩ := b
    obtain ⟨hnul, hname⟩ := hb
    dsimp only at hnul hname
    by_cases ho : options &&& optName = 0
    · simp [parseBody, Body.toPacket, packetTypeSYN, ho, hname ho, bind, Except.bind, pure,
        Except.pure]
    · simp [parseBody, Body.toPacket, packetTypeSYN, ho, readNTString_writeNTString_nil hnul, bind,
        Except.bind, pure, Except.pure, Functor.map, Except.map]
  | msg b =>
    refine ⟨_, rfl, fun h => ?_⟩
    rw [List.append_assoc, List.append_assoc, parse_header _ _ _ (by simpa using h)]
    simp [parseBody, Body.toPacket, packetTypeSYN, packetTypeMSG, bind, Except.bind, pure,
      Except.pure]
  | fin b =>
    refine ⟨_, rfl, fun h => ?_⟩
    rw [parse_header _ _ _ (by simpa using h)]
    simp [parseBody, Body.toPacket, packetTypeSYN, packetTypeMSG, packetTypeFIN,
      readNTString_writeNTString_nil hb, bind, Except.bind, pure, Except.pure]
  | ping b =>
    refine ⟨_, rfl, fun h => ?_⟩
    rw [parse_header _ _ _ (by simpa using h)]
    simp [parseBody, Body.toPacket, packetTypeSYN, packetTypeMSG, packetTypeFIN, packetTypePING,
      readNTString_writeNTString_nil hb, bind, Except.bind, pure, Except.pure]
  | enc b =>
    refine ⟨_, rfl, fun h => ?_⟩
    rw [List.append_assoc, List.append_assoc, parse_header _ _ _ (by simpa using h)]
    obtain ⟨subtype, flags, key, auth⟩ := b
    obtain ⟨hkey, hauth⟩ := hb
    dsimp only at hkey hauth
    simp only [parseBody, Body.toPacket, packetTypeSYN, packetTypeMSG, packetTypeFIN,
      packetTypePING, packetTypeENC]
    by_cases hi : subtype = encSubtypeInit
    · simp [hi, hauth (by simp [hi, encSubtypeInit, encSubtypeAuth]), readInto_toList,
        bind, Except.bind, pure, Except.pure]
    by_cases ha : subtype = encSubtypeAuth
    · simp [ha, hkey (by simp [ha, encSubtypeInit, encSubtypeAuth]), readInto_toList,
        show encSubtypeAuth ≠ encSubtypeInit by decide,
        bind, Except.bind, pure, Except.pure]
    · simp [hi, ha, hkey hi, hauth ha, bind, Except.bind, pure, Except.pure]

/-- A valid frame serializes, and when it fits in `maxPacketSize` bytes it parses back
to itself, whatever options either side passes. -/
theorem parse_toBytes (p : Packet) (o o' : UInt16) (hp : p.Valid) :
    ∃ bytes, p.toBytes o = .ok bytes ∧ (bytes.length ≤ maxPacketSize → parse bytes o' = .ok p) := by
  obtain ⟨b, hb, hpb⟩ := hp
  rw [hpb]
  exact parse_toBytes_body _ _ b hb o o'

theorem parse_toBytes_named_syn :
    ∃ bytes, ((Body.syn ⟨7, optName, ascii "client"⟩).toPacket 1 2).toBytes 0 = .ok bytes ∧
      (bytes.length ≤ maxPacketSize →
        parse bytes 0 = .ok ((Body.syn ⟨7, optName, ascii "client"⟩).toPacket 1 2)) :=
  parse_toBytes _ 0 0 ⟨Body.syn ⟨7, optName, ascii "client"⟩, ⟨by decide, by decide⟩, rfl⟩

/-- An ENC frame whose public key (`init`, 64 bytes) or authenticator (`auth`, 32 bytes)
stops after `k`, with at least one of its bytes there: `Parse` reads `k` into a zeroed
field and accepts the frame, and `ToBytes` writes the field whole, so the frame comes back
longer than it was read, the missing bytes zeros. -/
theorem parse_short_enc_field (pid sid sub flags o o' : UInt16) (k : Bytes) (n : Nat)
    (hsub : sub = encSubtypeInit ∧ n = 64 ∨ sub = encSubtypeAuth ∧ n = 32)
    (hk : 0 < k.length) (hn : k.length < n) :
    ∃ p, parse (putUint16 pid ++ [packetTypeENC] ++ putUint16 sid ++ putUint16 sub ++
        putUint16 flags ++ k) o = .ok p ∧
      p.toBytes o' = .ok (putUint16 pid ++ [packetTypeENC] ++ putUint16 sid ++ putUint16 sub ++
        putUint16 flags ++ k ++ List.replicate (n - k.length) 0) := by
  have hlen : 73 ≤ maxPacketSize := by decide
  have hn64 : n ≤ 64 := by omega
  have hb := parse_header { packetID := pid, packetType := packetTypeENC, sessionID := sid }
    (putUint16 sub ++ putUint16 flags ++ k) o (by simp [Packet.header]; omega)
  simp only [Packet.header, List.append_assoc] at hb ⊢
  rw [hb]
  obtain ⟨a, k, rfl⟩ := List.exists_cons_of_length_pos hk
  rcases hsub with ⟨rfl, rfl⟩ | ⟨rfl, rfl⟩ <;>
    simp [parseBody, Packet.toBytes, Packet.header, packetTypeSYN, packetTypeMSG,
      packetTypeFIN, packetTypePING, packetTypeENC, encSubtypeInit, encSubtypeAuth, readInto,
      copyInto_zeros_short _ (Nat.le_of_lt hn), bind, Except.bind, pure, Except.pure]

theorem parse_short_enc_key :
    ∃ p t, parse [0, 1, 3, 0, 2, 0, 0, 0, 0, 9] 0 = .ok p ∧ p.toBytes 0 = .ok t ∧
      ¬ t <+: [0, 1, 3, 0, 2, 0, 0, 0, 0, 9] :=
  let ⟨p, hp, ht⟩ := parse_short_enc_field 1 2 encSubtypeInit 0 0 0 [9] 64 (.inl ⟨rfl, rfl⟩)
    (by decide) (by decide)
  ⟨p, _, hp, ht, fun h => absurd h.length_le (by decide)⟩

end Dnscat2
