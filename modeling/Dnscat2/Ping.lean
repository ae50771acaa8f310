import Dnscat2.Steps
import Dnscat2.PacketRoundTrip
import Mathlib.Data.List.Basic

/-!
Ping mode: `NewPingSession`, a session marked `IsPing` around the `PingDriver`, which
offers its sixteen letters once and exits when they come back. The ping shortcut of
`DataIncoming` hands every PING straight to the driver, and the `IsPing` branch of
`GetOutgoing` sends the start of the buffer in a PING without taking it off, so the
letters go out again on every send until they are echoed.

The environment of a ping is what a dnscat2 server does for one: it answers with PING
frames only, and the transport's budget holds at least a PING header. Under it the
session never leaves the state `New` put it in, so it never encrypts, even with
encryption on, since `shouldEncrypt` is false in `BeforeInit`; a run halts only with
the driver's exit 0, and exactly when a frame carrying the letters has come in. Every
send is the plain PING of as many letters as the budget leaves room for: all sixteen,
and then its echo ends the ping, or fewer, and then the echo is taken for a wrong
answer, since the driver's own length check is never reached (the session polls it with
a length of -1).
-/

namespace Dnscat2

namespace PingDriver

/-- The ping driver starts no goroutine: nothing but calls moves a ping session. -/
def feed : PingDriver → Empty → PingDriver := fun _ => Empty.elim

/-- `GetOutgoing(-1)`, the only length a session polls with: the letters the first time,
then an empty slice. -/
theorem getOutgoing_poll (d : PingDriver) :
    d.getOutgoing (-1) =
      .ok (some (if d.alreadySent then [] else d.data.toList), { d with alreadySent := true }) := by
  obtain ⟨data, isShutdown, _ | _⟩ := d <;> rfl

end PingDriver

/-- The letters echoed: a `DataIncoming` call whose frame parses to a PING that carries
them. -/
def Call.Echoes (letters : Bytes) : Call → Prop
  | .getOutgoing .. => False
  | .dataIncoming data =>
    ((parse data 0).toOption.bind Packet.ping).map PINGPacket.data = some letters

instance (letters : Bytes) : DecidablePred (Call.Echoes letters)
  | .getOutgoing .. => inferInstanceAs (Decidable False)
  | .dataIncoming _ => inferInstanceAs (Decidable (_ = _))

/-- The calls a ping session gets from a dnscat2 server and the DNS transport: a budget
that holds a PING header, and frames that, when they parse, are PINGs. -/
def Call.PingTraffic : Call → Prop
  | .getOutgoing _ maxLength _ _ => (getPINGSize : Int) ≤ maxLength
  | .dataIncoming data => ∀ pkt, parse data 0 = .ok pkt → pkt.packetType = packetTypePING

variable {C : Crypto} {cfg : Config}

namespace Session

variable (C cfg) in
/-- `NewPingSession`: `New` with the driver `NewPingDriver` makes from its draw of letters,
marked as a ping session. -/
def newPing (letters : Mathlib.Vector UInt8 pingLength) (name hostname : Bytes) (id mySeq : UInt16)
    (privateKey : Option Bytes) : Except String (Session PingDriver) :=
  (fun s => { s with isPing := true }) <$>
    Session.new C cfg (PingDriver.new letters) name hostname id mySeq privateKey

variable (cfg) in
/-- What a ping session keeps while it pings: the flag, the driver's letters, the state
`New` put it in, and a buffer that is empty until the driver has handed over the
letters and then holds all of them. -/
structure Pinging (letters : Mathlib.Vector UInt8 pingLength) (s : Session PingDriver) : Prop where
  isPing : s.isPing = true
  data : s.driver.data = letters
  state : s.state = if cfg.doEncryption then .beforeInit else .new
  buffer : s.outgoingBuffer = if s.driver.alreadySent then letters.toList else []

/-- The session once `pollDriverForData` has the letters in the buffer. -/
def polled (s : Session PingDriver) : Session PingDriver :=
  { s with driver := { s.driver with alreadySent := true }, outgoingBuffer := s.driver.data.toList }

variable {letters : Mathlib.Vector UInt8 pingLength} {s : Session PingDriver}

theorem newPing_pinging {name hostname : Bytes} {id mySeq : UInt16} {k : Option Bytes}
    (h : newPing C cfg letters name hostname id mySeq k = .ok s) : s.Pinging cfg letters := by
  obtain ⟨s₀, h₀, rfl⟩ := map_eq_ok.mp h
  unfold Session.new at h₀
  cases hdo : cfg.doEncryption
  · simp only [hdo] at h₀
    cases h₀
    exact ⟨rfl, rfl, by simp [hdo], rfl⟩
  · cases hk : C.newEncryptor cfg.presharedSecret k with
    | error err => simp [hdo, hk] at h₀; cases h₀
    | ok e =>
      simp only [hdo, hk] at h₀
      cases h₀
      exact ⟨rfl, rfl, by simp [hdo], rfl⟩

theorem Pinging.shouldEncrypt (h : s.Pinging cfg letters) : s.shouldEncrypt cfg = false := by
  cases hd : cfg.doEncryption <;> simp [Session.shouldEncrypt, h.state, hd]

theorem Pinging.poll (h : s.Pinging cfg letters) : s.polled.Pinging cfg letters :=
  ⟨h.isPing, h.data, h.state, by simp [polled, h.data]⟩

theorem Pinging.sent (h : s.Pinging cfg letters) (now : Nat) : (s.sent now).Pinging cfg letters :=
  ⟨h.isPing, h.data, h.state, h.buffer⟩

theorem pollDriverForData_pinging (h : s.Pinging cfg letters) :
    s.pollDriverForData pingDriver = .ok s.polled := by
  have hb := h.buffer
  cases ha : s.driver.alreadySent <;>
    simp [pollDriverForData, pingDriver, PingDriver.getOutgoing_poll, Functor.map, Except.map,
      polled, ha, hb, h.data]

/-! ### One call -/

/-- The `IsPing` branch of the switch: a PING of the start of the buffer, which stays. -/
theorem nextPacket_ping {D : Type} {s : Session D} {m : Int} {pid : UInt16} {k : Option Bytes}
    (hp : s.isPing = true) (hm : (getPINGSize : Int) ≤ m) :
    s.nextPacket C cfg m pid k = .ok (some (createPING pid s.id
      (s.outgoingBuffer.take (min (s.outgoingBuffer.length : Int) (m - getPINGSize)).toNat)), s) := by
  have hlen : makeLen (min (s.outgoingBuffer.length : Int) (m - getPINGSize)) =
      .ok (min (s.outgoingBuffer.length : Int) (m - getPINGSize)).toNat :=
    makeLen_eq_ok.mpr ⟨by omega, rfl⟩
  rw [nextPacket, if_pos hp, hlen]
  rfl

variable (C) in
/-- `GetOutgoing` of a pinging session: nothing inside the packet delay, otherwise the
plain PING of as many letters as the budget leaves room for. -/
theorem getOutgoing_pinging (now : Nat) (pid : UInt16) (k : Option Bytes) {m : Int}
    (h : s.Pinging cfg letters) (hm : (getPINGSize : Int) ≤ m) :
    ∃ bytes, (createPING pid s.id
        (letters.toList.take (min (pingLength : Int) (m - getPINGSize)).toNat)).toBytes 0 = .ok bytes ∧
      s.getOutgoing pingDriver C cfg now m pid k =
        if s.canTransmitYet cfg now then .ok (some bytes, s.polled.sent now)
        else .ok (none, s.polled) := by
  refine ⟨_, rfl, ?_⟩
  have hp := h.poll
  have hb : s.polled.outgoingBuffer = letters.toList := by simp [polled, h.data]
  have hc : s.polled.canTransmitYet cfg now = s.canTransmitYet cfg now := rfl
  rw [getOutgoing, pollDriverForData_pinging h]
  cases hct : s.canTransmitYet cfg now
  · simp only [Except.bind, transmit, hc, hct]
    rfl
  · simp only [Except.bind, transmit, hc, hct, hp.shouldEncrypt, Bool.true_eq_false,
      Bool.false_eq_true, if_false, false_and, if_true, nextPacket_ping hp.isPing hm, hb,
      Mathlib.Vector.toList_length, protect]
    rfl

/-- The ping shortcut of the type switch. -/
theorem dispatch_ping {D : Type} {ops : Driver D} {s : Session D} {pkt : Packet}
    {ping : PINGPacket} (hp : s.isPing = true) (ht : pkt.packetType = packetTypePING)
    (hping : pkt.ping = some ping) :
    s.dispatch ops C cfg pkt =
      (fun driver => ({ s with driver }, true)) <$> ops.dataReceived s.driver ping.data := by
  simp [dispatch, hp, ht, hping, deref, bind, Except.bind]

/-- `DataIncoming` of a PING: the driver's exit when it carries the letters, otherwise the
driver's complaint and the session as polling left it. -/
theorem dataIncoming_ping {data : Bytes} {pkt : Packet} {ping : PINGPacket}
    (h : s.Pinging cfg letters) (hparse : parse data 0 = .ok pkt)
    (ht : pkt.packetType = packetTypePING) (hping : pkt.ping = some ping) :
    s.dataIncoming pingDriver C cfg data =
      if ping.data = letters.toList then
        .error (.exit 0 "Ping response received! This seems like a valid dnscat2 server.")
      else .ok (s.polled, true) := by
  have hp := h.poll
  rw [dataIncoming, pollDriverForData_pinging h]
  simp only [Except.bind, decodeIncoming_plain hp.shouldEncrypt hparse,
    dispatch_ping hp.isPing ht hping]
  by_cases heq : ping.data = letters.toList <;>
    simp [pingDriver, PingDriver.dataReceived, polled, h.data, heq, Functor.map, Except.map]

theorem dataIncoming_pinging {data : Bytes} (h : s.Pinging cfg letters)
    (hd : (Call.dataIncoming data).PingTraffic) :
    ((Call.dataIncoming data).Echoes letters.toList ∧
        s.dataIncoming pingDriver C cfg data =
          .error (.exit 0 "Ping response received! This seems like a valid dnscat2 server.")) ∨
      (¬ (Call.dataIncoming data).Echoes letters.toList ∧
        ∃ b, s.dataIncoming pingDriver C cfg data = .ok (s.polled, b)) := by
  cases hparse : parse data 0 with
  | error e =>
    have hdec : s.polled.decodeIncoming C cfg data = .ok none := by
      simp [decodeIncoming, h.poll.shouldEncrypt, Functor.map, Except.map,
        show parse data s.polled.options = .error e from hparse, Except.toOption]
    refine .inr ⟨by simp [Call.Echoes, hparse, Except.toOption], false, ?_⟩
    simp [dataIncoming, pollDriverForData_pinging h, Except.bind, hdec]
  | ok pkt =>
    obtain ⟨ping, hping⟩ := parse_ping hparse (hd pkt hparse)
    have hecho : (Call.dataIncoming data).Echoes letters.toList ↔ ping.data = letters.toList := by
      simp [Call.Echoes, hparse, hping, Except.toOption]
    rw [dataIncoming_ping h hparse (hd pkt hparse) hping]
    by_cases heq : ping.data = letters.toList
    · exact .inl ⟨hecho.mpr heq, if_pos heq⟩
    · exact .inr ⟨mt hecho.mp heq, true, if_neg heq⟩

variable (C) in
/-- One call of a ping's traffic keeps the session pinging, or ends it with the driver's
exit 0 when it echoes the letters. -/
theorem call_pinging {c : Call} (h : s.Pinging cfg letters) (hc : c.PingTraffic) :
    (c.Echoes letters.toList ∧ s.call pingDriver C cfg c =
        .error (.exit 0 "Ping response received! This seems like a valid dnscat2 server.")) ∨
      (¬ c.Echoes letters.toList ∧ ∃ s', s.call pingDriver C cfg c = .ok s' ∧
        s'.Pinging cfg letters) := by
  cases c with
  | getOutgoing now m pid k =>
    obtain ⟨bytes, -, hg⟩ := getOutgoing_pinging C now pid k h hc
    refine .inr ⟨not_false, ?_⟩
    rw [call, hg]
    split
    · exact ⟨_, rfl, h.poll.sent now⟩
    · exact ⟨_, rfl, h.poll⟩
  | dataIncoming data =>
    rcases dataIncoming_pinging h hc with ⟨he, hd⟩ | ⟨he, b, hd⟩
    · exact .inl ⟨he, by rw [call, hd]; rfl⟩
    · exact .inr ⟨he, _, by rw [call, hd]; rfl, h.poll⟩

/-! ### Runs -/

theorem run_pinging {cs : List Call} (h : s.Pinging cfg letters) (hcs : ∀ c ∈ cs, c.PingTraffic) :
    (∃ s', s.run pingDriver C cfg PingDriver.feed (cs.map .call) = .ok s' ∧
        s'.Pinging cfg letters ∧ ∀ c ∈ cs, ¬ c.Echoes letters.toList) ∨
      (s.run pingDriver C cfg PingDriver.feed (cs.map .call) =
          .error (.exit 0 "Ping response received! This seems like a valid dnscat2 server.") ∧
        ∃ c ∈ cs, c.Echoes letters.toList) := by
  induction cs generalizing s with
  | nil => exact .inl ⟨s, rfl, h, by simp⟩
  | cons c cs ih =>
    rcases call_pinging C h (hcs c (.head _)) with ⟨he, hc⟩ | ⟨he, s₁, hc, h₁⟩
    · exact .inr ⟨by simp only [List.map_cons, run, step, hc]; rfl, c, .head _, he⟩
    · rw [List.map_cons, run_cons_ok (show s.step _ C cfg _ (.call c) = .ok s₁ from hc)]
      rcases ih h₁ fun c' hc' => hcs c' (.tail _ hc') with ⟨s', hr, h', hn⟩ | ⟨hr, c', hc', he'⟩
      · exact .inl ⟨s', hr, h', List.forall_mem_cons.mpr ⟨he, hn⟩⟩
      · exact .inr ⟨hr, c', .tail _ hc', he'⟩

/-- Every state a ping run reaches without ending is pinging. -/
theorem run_ok_pinging {cs : List Call} {s' : Session PingDriver} (h : s.Pinging cfg letters)
    (hcs : ∀ c ∈ cs, c.PingTraffic)
    (hrun : s.run pingDriver C cfg PingDriver.feed (cs.map .call) = .ok s') :
    s'.Pinging cfg letters := by
  rcases run_pinging h hcs with ⟨s'', hr, h', -⟩ | ⟨hr, -⟩ <;> rw [hrun] at hr
  · cases hr
    exact h'
  · cases hr

/-- The echo of a PING of the first `n` letters: the driver's exit exactly when it holds
all of them. -/
theorem dataIncoming_echo {pid sid : UInt16} {n : Nat} {bytes : Bytes} (h : s.Pinging cfg letters)
    (hnul : 0 ∉ letters.toList)
    (hb : (createPING pid sid (letters.toList.take n)).toBytes 0 = .ok bytes) :
    s.dataIncoming pingDriver C cfg bytes =
      if pingLength ≤ n then
        .error (.exit 0 "Ping response received! This seems like a valid dnscat2 server.")
      else .ok (s.polled, true) := by
  set taken := letters.toList.take n
  have hvalid : (Body.ping ⟨taken⟩).Valid := fun h0 => hnul (List.mem_of_mem_take h0)
  obtain ⟨bytes', hb', hparse⟩ := parse_toBytes_body pid sid (.ping ⟨taken⟩) hvalid 0 0
  obtain rfl : bytes' = bytes := Except.ok.inj (hb'.symm.trans hb)
  have hlen : bytes'.length ≤ maxPacketSize := by
    have hbytes : bytes' = (createPING pid sid taken).header ++ writeNTString taken :=
      Except.ok.inj (hb.symm.trans rfl)
    have : taken.length ≤ 16 := by
      simp only [taken, List.length_take, Mathlib.Vector.toList_length]; exact Nat.min_le_right _ _
    simp [hbytes, Packet.header, writeNTString, maxPacketSize]
    omega
  rw [dataIncoming_ping h (hparse hlen) rfl rfl]
  exact if_congr (show taken = letters.toList ↔ _ by
    rw [List.take_eq_self_iff, Mathlib.Vector.toList_length]) rfl rfl

end Session

/-- Over every run of a session made by `NewPingSession`, with any encryption setting,
against a server that answers with PINGs and a transport whose budget holds a PING
header: the run halts only with the driver's exit 0, and it halts exactly when a frame
echoing the letters has come in; until then the session stays in the state `New` put it
in (so it never encrypts), keeps the letters, and holds them in its buffer once polled. -/
theorem ping_ends_on_echo (C : Crypto) (cfg : Config) (letters : Mathlib.Vector UInt8 pingLength)
    {name hostname : Bytes} {id mySeq : UInt16} {k : Option Bytes} {s₀ : Session PingDriver}
    (hs : Session.newPing C cfg letters name hostname id mySeq k = .ok s₀) (cs : List Call)
    (hcs : ∀ c ∈ cs, c.PingTraffic) :
    (∃ s, s₀.run pingDriver C cfg PingDriver.feed (cs.map .call) = .ok s ∧
        s.Pinging cfg letters ∧ ∀ c ∈ cs, ¬ c.Echoes letters.toList) ∨
      (s₀.run pingDriver C cfg PingDriver.feed (cs.map .call) =
          .error (.exit 0 "Ping response received! This seems like a valid dnscat2 server.") ∧
        ∃ c ∈ cs, c.Echoes letters.toList) :=
  Session.run_pinging (Session.newPing_pinging hs) hcs


theorem ping_ends_on_echo_abc :
    ∃ s₀, Session.newPing Crypto.zero ⟨0, false, true, []⟩
        ⟨[97, 98, 99, 100, 101, 102, 103, 104, 105, 106, 107, 108, 109, 110, 111, 112], rfl⟩
        [] [] 1 7 (some [1]) = .ok s₀ ∧
      ((∃ s, s₀.run pingDriver Crypto.zero ⟨0, false, true, []⟩ PingDriver.feed
          ([.getOutgoing 0 100 1 none, .dataIncoming ([0, 2, 255, 0, 1, 97, 98, 99, 100, 101, 102,
            103, 104, 105, 106, 107, 108, 109, 110, 111, 112, 0])].map .call) = .ok s ∧
          s.Pinging ⟨0, false, true, []⟩
            ⟨[97, 98, 99, 100, 101, 102, 103, 104, 105, 106, 107, 108, 109, 110, 111, 112], rfl⟩ ∧
          ∀ c ∈ [Call.getOutgoing 0 100 1 none, .dataIncoming ([0, 2, 255, 0, 1, 97, 98, 99, 100,
            101, 102, 103, 104, 105, 106, 107, 108, 109, 110, 111, 112, 0])],
            ¬ c.Echoes [97, 98, 99, 100, 101, 102, 103, 104, 105, 106, 107, 108, 109, 110, 111, 112]) ∨
        (s₀.run pingDriver Crypto.zero ⟨0, false, true, []⟩ PingDriver.feed
          ([.getOutgoing 0 100 1 none, .dataIncoming ([0, 2, 255, 0, 1, 97, 98, 99, 100, 101, 102,
            103, 104, 105, 106, 107, 108, 109, 110, 111, 112, 0])].map .call) =
            .error (.exit 0 "Ping response received! This seems like a valid dnscat2 server.") ∧
          ∃ c ∈ [Call.getOutgoing 0 100 1 none, .dataIncoming ([0, 2, 255, 0, 1, 97, 98, 99, 100,
            101, 102, 103, 104, 105, 106, 107, 108, 109, 110, 111, 112, 0])],
            c.Echoes [97, 98, 99, 100, 101, 102, 103, 104, 105, 106, 107, 108, 109, 110, 111, 112])) :=
  ⟨_, rfl, @ping_ends_on_echo Crypto.zero _ _ [] [] 1 7 (some [1]) _ (by exact rfl) _ <| by
    simp only [List.mem_cons, List.mem_singleton, List.not_mem_nil, or_false]
    rintro c (rfl | rfl)
    · show (getPINGSize : Int) ≤ 100
      decide
    · intro pkt h
      cases h
      rfl⟩

/-- After any run of a ping session that has not ended, under the same environment, the
next `GetOutgoing` with a budget that holds a PING header sends nothing only inside the
packet delay, and otherwise the plain PING, from the session's own id, of as many of the
letters as the budget leaves room for. The server's echo of that very frame ends the ping
with exit 0 exactly when all sixteen letters fit; with a shorter budget the echo is handed
to the driver, which finds the wrong letters, and the session carries on: the driver's
"too long" exit is never reached, since the session polls it with a length of -1. -/
theorem ping_echo_needs_room (C : Crypto) (cfg : Config) (letters : Mathlib.Vector UInt8 pingLength)
    {name hostname : Bytes} {id mySeq : UInt16} {k : Option Bytes} {s₀ s : Session PingDriver}
    (hs : Session.newPing C cfg letters name hostname id mySeq k = .ok s₀)
    (hnul : 0 ∉ letters.toList) (cs : List Call) (hcs : ∀ c ∈ cs, c.PingTraffic)
    (hrun : s₀.run pingDriver C cfg PingDriver.feed (cs.map .call) = .ok s)
    (now : Nat) (m : Int) (pid : UInt16) (k' : Option Bytes) (hm : (getPINGSize : Int) ≤ m) :
    ∃ r s', s.getOutgoing pingDriver C cfg now m pid k' = .ok (r, s') ∧
      (r = none ↔ s.canTransmitYet cfg now = false) ∧
      ∀ bytes, r = some bytes →
        (createPING pid s₀.id
          (letters.toList.take (min (pingLength : Int) (m - getPINGSize)).toNat)).toBytes 0 =
            .ok bytes ∧
        s'.dataIncoming pingDriver C cfg bytes =
          if (getPINGSize + pingLength : Int) ≤ m then
            .error (.exit 0 "Ping response received! This seems like a valid dnscat2 server.")
          else .ok (s', true) := by
  have h := Session.run_ok_pinging (Session.newPing_pinging hs) hcs hrun
  obtain ⟨g, hreach⟩ := Session.reach_of_run (fun _ _ _ g => g) () hrun
  obtain ⟨bytes, hb, hg⟩ := Session.getOutgoing_pinging C now pid k' h hm
  rw [(Session.ident_reach hreach).1] at hb
  cases hct : s.canTransmitYet cfg now
  · exact ⟨none, s.polled, by rw [hg, hct]; rfl, by simp, fun _ h => nomatch h⟩
  refine ⟨some bytes, _, by rw [hg, hct]; rfl, by simp, ?_⟩
  rintro _ ⟨⟩
  refine ⟨hb, ?_⟩
  rw [Session.dataIncoming_echo (h.poll.sent now) hnul hb]
  exact if_congr (by simp only [getPINGSize_eq, pingLength]; omega) rfl rfl

theorem ping_echo_needs_room_abc :
    ∃ s₀ s, Session.newPing Crypto.zero ⟨0, false, true, []⟩
        ⟨[97, 98, 99, 100, 101, 102, 103, 104, 105, 106, 107, 108, 109, 110, 111, 112], rfl⟩
        [] [] 1 7 (some [1]) = .ok s₀ ∧
      s₀.run pingDriver Crypto.zero ⟨0, false, true, []⟩ PingDriver.feed
        ([Call.getOutgoing 0 100 1 none].map .call) = .ok s ∧
      ∃ r s', s.getOutgoing pingDriver Crypto.zero ⟨0, false, true, []⟩ 10 100 3 none = .ok (r, s') ∧
        (r = none ↔ s.canTransmitYet ⟨0, false, true, []⟩ 10 = false) ∧
        ∀ bytes, r = some bytes →
          (createPING 3 s₀.id ([97, 98, 99, 100, 101, 102, 103, 104, 105, 106, 107, 108, 109, 110,
            111, 112].take (min (pingLength : Int) (100 - getPINGSize)).toNat)).toBytes 0 =
              .ok bytes ∧
          s'.dataIncoming pingDriver Crypto.zero ⟨0, false, true, []⟩ bytes =
            if (getPINGSize + pingLength : Int) ≤ 100 then
              .error (.exit 0 "Ping response received! This seems like a valid dnscat2 server.")
            else .ok (s', true) :=
  ⟨_, _, rfl, rfl, @ping_echo_needs_room Crypto.zero ⟨0, false, true, []⟩
    ⟨[97, 98, 99, 100, 101, 102, 103, 104, 105, 106, 107, 108, 109, 110, 111, 112], rfl⟩
    [] [] 1 7 (some [1]) _ _ rfl (by decide) [.getOutgoing 0 100 1 none] (by
      simp only [List.mem_singleton]
      rintro c rfl
      show (getPINGSize : Int) ≤ 100
      decide) rfl 10 100 3 none (by decide)⟩

end Dnscat2
