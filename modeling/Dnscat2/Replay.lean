import Dnscat2.Handshake

/-!
A frame the transport delivers twice. In a session that is not a ping, a frame
`DataIncoming` took in the first time, delivered again later, changes nothing the
session's streams depend on: a SYN once the session is Established or a PING is ignored,
a FIN kills the session again, and a MSG is out of order or acknowledges nothing new, as
long as fewer than `2 ^ 16` payload bytes came in (the frame's own included) and the bytes
acknowledged since, added to the buffer, stay under `2 ^ 16`. The frame decodes as it did
the first time while the keys are those it came under; under keys renegotiated since,
`CheckSignature` has to refuse it. An ENC is not like that: the server's authenticator
delivered again once the session has moved on to `New` ends the process.

Retransmission and the counter of the encryptor. While the server does not answer, a
session in `New` resends its SYN at every poll (with `MaxRetransmits < 0` the controller
never gives up on it), and each send encrypts under the next value of the 16-bit
counter; `ShouldRenegotiate` is consulted only in the Established branch of
`GetOutgoing`. So after `2 ^ 16` sends the encryptor is back where it started, and the
next SYN goes out under the key and nonce of the first: the two frames are the same.
-/

namespace Dnscat2

section Replays

variable {D E : Type} {ops : Driver D} {C : Crypto} {cfg : Config}

namespace Session

/-- What a replayed frame may change in a session: none of the sequence numbers, the
state, the encryptors or the buffer, and the driver at most closed, never handed data. -/
structure Unchanged (close : D → D) (s s' : Session D) : Prop where
  state : s'.state = s.state
  mySeq : s'.mySeq = s.mySeq
  theirSeq : s'.theirSeq = s.theirSeq
  encryptor : s'.encryptor = s.encryptor
  newEncryptor : s'.newEncryptor = s.newEncryptor
  outgoingBuffer : s'.outgoingBuffer = s.outgoingBuffer
  driver : s'.driver = s.driver ∨ s'.driver = close s.driver

theorem Unchanged.refl (close : D → D) (s : Session D) : Unchanged close s s :=
  ⟨rfl, rfl, rfl, rfl, rfl, rfl, .inl rfl⟩

variable {s s' : Session D} {pkt : Packet}

end Session

variable {feed : D → E → D}

end Replays

namespace Replay

/-- The server's MSG at `seq` 5 acknowledging `MySeq` 7, with one byte, signed and
encrypted under the first keys of `Renegotiation`. -/
def msgReply : Bytes := [0, 4, 1, 0, 1, 1, 1, 1, 1, 1, 1, 0, 0, 0, 5, 0, 7, 42]

/-- `Renegotiation.synced` once it has taken `msgReply` in. -/
def ackedOnce : Session ConsoleDriver :=
  { Renegotiation.synced with theirSeq := 6, lastTransmit := none, missedTransmissions := 0 }

end Replay

section Retransmits

variable {D E : Type}

theorem encryptor_wraps (e : Encryptor) : { e with nonce := e.nonce + UInt16.ofNat 65536 } = e := by
  rw [show UInt16.ofNat 65536 = UInt16.ofNat 0 from rfl, add_ofNat_zero16]

/-- A session in `New` with a key, a server that never answers and a driver with nothing
to send: the SYN of the first poll and that of the `2 ^ 16 + 1`-th are encrypted under the
same encryptor, key and nonce, and are the same frame. -/
theorem syn_nonce_reused (ops : Driver D) (C : Crypto) (cfg : Config) (feed : D → E → D)
    {s : Session D} {e : Encryptor} {t gap : Nat} {m : Int} {pid : UInt16} {k : Option Bytes}
    (hq : ops.getOutgoing s.driver (-1) = .ok (some [], s.driver)) (hp : s.isPing = false)
    (hst : s.state = .new) (hdo : cfg.doEncryption = true) (he : s.encryptor = some e)
    (hm : 8 < m) (hgap : cfg.packetDelay < gap) (hc : s.canTransmitYet cfg (t + gap) = true) :
    ∃ bytes s₁ s₂ s₃, (s.synPacket pid).toBytes s.options = .ok bytes ∧
      s.getOutgoing ops C cfg (t + gap) m pid k =
        .ok (some ((e.encrypt C bytes).2.sign C (e.encrypt C bytes).1), s₁) ∧
      s.run ops C cfg feed (resends t gap m pid k 65536) = .ok s₂ ∧ s₂.encryptor = some e ∧
      s₂.getOutgoing ops C cfg (t + 65537 * gap) m pid k =
        .ok (some ((e.encrypt C bytes).2.sign C (e.encrypt C bytes).1), s₃) := by
  obtain ⟨bytes, hb, hg⟩ := Session.getOutgoing_syn hq hp hst hdo he hm hc
  have hrun : s.run ops C cfg feed (resends t gap m pid k (65535 + 1)) = _ :=
    Session.run_resends hq hp hst hdo he hm hgap hc 65535
  rw [encryptor_wraps] at hrun
  -- after `2 ^ 16` sends only the time of the last send and the count have changed
  let s₂ : Session D :=
    { s with encryptor := some e, lastTransmit := some (t + (65535 + 1) * gap),
             missedTransmissions := s.missedTransmissions + (65535 + 1) }
  obtain ⟨bytes', hb', hg'⟩ : ∃ bytes', (s₂.synPacket pid).toBytes s₂.options = .ok bytes' ∧
      s₂.getOutgoing ops C cfg (t + 65537 * gap) m pid k = _ :=
    Session.getOutgoing_syn hq hp hst hdo rfl hm
      (by simp only [s₂, Session.canTransmitYet, decide_eq_true_eq]; omega)
  obtain rfl : bytes = bytes' := Except.ok.inj (hb.symm.trans hb')
  exact ⟨bytes, _, _, _, hb, hg, hrun, rfl, hg'⟩

open Renegotiation in
theorem syn_nonce_reused_handshaken :
    ∃ bytes s₁ s₂ s₃, (handshaken.synPacket 0).toBytes handshaken.options = .ok bytes ∧
      handshaken.getOutgoing consoleDriver Crypto.toy cfg (0 + 1) 100 0 none =
        .ok (some (((keyed 1).encrypt Crypto.toy bytes).2.sign Crypto.toy
          ((keyed 1).encrypt Crypto.toy bytes).1), s₁) ∧
      handshaken.run consoleDriver Crypto.toy cfg ConsoleDriver.feed
        (resends 0 1 100 0 none 65536) = .ok s₂ ∧ s₂.encryptor = some (keyed 1) ∧
      s₂.getOutgoing consoleDriver Crypto.toy cfg (0 + 65537 * 1) 100 0 none =
        .ok (some (((keyed 1).encrypt Crypto.toy bytes).2.sign Crypto.toy
          ((keyed 1).encrypt Crypto.toy bytes).1), s₃) :=
  syn_nonce_reused consoleDriver Crypto.toy cfg ConsoleDriver.feed (quiet _ rfl) (by rfl) (by rfl)
    (by rfl) (by rfl) (by decide) (by decide) (by rfl)

end Retransmits

end Dnscat2
