import Dnscat2.Run

/-!
What `handleMSG` hands to the driver. The peer sends one stream, numbered from the `seq` of
its SYN, which `handleSYN` takes as `TheirSeq` when it establishes the session; each of its
MSG frames carries, at its `seq`, the stream from some position. Frames may be lost,
duplicated and reordered, as long as a frame delivered names a position less than `2 ^ 16`
away from the one the session expects. Then the payloads reach the driver as a prefix of the
stream: an accepted frame has `seq = TheirSeq`, and within that window only the expected
position has that `seq`. The driver is observed, so what it received is known; a run's ghost
is what it received from `handleMSG`.
-/

namespace Dnscat2

variable {D E : Type} {ops : Driver D} (C : Crypto) (cfg : Config)

/-- The ghost of a run: what the driver received during a `DataIncoming` whose frame
decodes to a MSG, so from `handleMSG`. -/
def handedObserver (s : Session (D × Traffic)) (e : Event E) (s' : Session (D × Traffic))
    (g : Bytes) : Bytes :=
  match e with
  | .call (.dataIncoming data) =>
    match s.decodeIncoming C cfg data with
    | .ok (some pkt) =>
      if pkt.packetType = packetTypeMSG then
        g ++ s'.driver.2.received.drop s.driver.2.received.length
      else g
    | _ => g
  | _ => g

/-- The peer's side of a run, for the stream `stream` it numbers from `isn`: the SYN that a
session in `New` takes carries `isn`, and a MSG frame an Established session is handed
carries, at its `seq`, the stream from a position `P` less than `2 ^ 16` away from the
position `g.length` the session expects. Nothing else is asked of the environment. -/
def PeerSends (isn : UInt16) (stream : Bytes) (s : Session (D × Traffic)) (g : Bytes) :
    Event E → Prop
  | .call (.dataIncoming data) =>
    ∀ pkt, s.decodeIncoming C cfg data = .ok (some pkt) →
      (pkt.packetType = packetTypeSYN → s.state = .new → ∀ syn, pkt.syn = some syn →
        syn.seq = isn) ∧
      (pkt.packetType = packetTypeMSG → s.state = .established → ∀ msg, pkt.msg = some msg →
        ∃ P, P ≤ g.length + 65535 ∧ g.length ≤ P + 65535 ∧ msg.seq = isn + UInt16.ofNat P ∧
          msg.data <+: stream.drop P)
  | _ => True

/-- The invariant: what was handed on is a prefix of the stream, nothing before the session
is established, and once it is, `TheirSeq` is the position after it. -/
structure Delivered (isn : UInt16) (stream : Bytes) (s : Session (D × Traffic)) (g : Bytes) :
    Prop where
  theirSeq : s.state = .established → s.theirSeq = isn + UInt16.ofNat g.length
  before : s.state ≠ .established → g = []
  isPrefix : g <+: stream

variable {C cfg} {isn : UInt16} {stream g : Bytes} {s s' : Session (D × Traffic)}

theorem Delivered.frame (hs : Delivered isn stream s g) (hst : s'.state = s.state)
    (hseq : s'.theirSeq = s.theirSeq) : Delivered isn stream s' g :=
  ⟨fun h => hseq ▸ hs.theirSeq (hst ▸ h), fun h => hs.before (hst ▸ h), hs.isPrefix⟩

theorem Delivered.unestablished (hs : Delivered isn stream s g) (hst : s.state ≠ .established)
    (hst' : s'.state ≠ .established) : Delivered isn stream s' g :=
  ⟨fun h => absurd h hst', fun _ => hs.before hst, hs.isPrefix⟩

theorem Delivered.poll (hs : Delivered isn stream s g) (h : s.pollDriverForData ops.observed =
    .ok s') :
    Delivered isn stream s' g := by
  have hf := (Session.pollDriverForData_frame h).1
  exact hs.frame (by rw [hf]) (by rw [hf])

theorem Delivered.getOutgoing (hs : Delivered isn stream s g) {now : Nat} {m : Int}
    {pid : UInt16} {k r : Option Bytes} (h : s.getOutgoing ops.observed C cfg now m pid k =
        .ok (r, s')) :
    Delivered isn stream s' g := by
  obtain ⟨s₁, hp, ht⟩ := Session.getOutgoing_ok h
  have hf := Session.transmit_frame ht
  exact (hs.poll hp).frame (by rw [hf]) (by rw [hf])

/-- A frame `handleMSG` accepts is at the expected position, so its payload continues the
prefix; one it refuses hands nothing on. -/
theorem Delivered.handleMSG (hs : Delivered isn stream s g) {pkt : Packet} {b : Bool}
    (hpeer : s.state = .established → ∀ msg, pkt.msg = some msg → ∃ P, P ≤ g.length + 65535 ∧
      g.length ≤ P + 65535 ∧ msg.seq = isn + UInt16.ofNat P ∧ msg.data <+: stream.drop P)
    (h : s.handleMSG ops.observed cfg pkt = .ok (s', b)) :
    Delivered isn stream s' (g ++ s'.driver.2.received.drop s.driver.2.received.length) := by
  rcases Session.handleMSG_ok h with ⟨rfl, -⟩ | ⟨hest, msg, hmsg, hseq, -, -, hs'⟩
  · rw [List.drop_length, List.append_nil]
    exact hs
  obtain ⟨P, h1, h2, hP, hpre⟩ := hpeer hest msg hmsg
  obtain rfl : P = g.length :=
    eq_of_add_ofNat_eq16 h1 h2 (by rw [← hP, hseq, hs.theirSeq hest])
  -- what the driver received is the payload, and `TheirSeq` moves past it
  have hnext : (s.acceptMSG cfg msg).1.theirSeq = isn + UInt16.ofNat (g ++ msg.data).length := by
    rw [Session.acceptMSG_eq, hs.theirSeq hest, add_ofNat_add16, List.length_append]
  have hcont : g ++ msg.data <+: stream := by
    obtain ⟨t, ht⟩ := hpre
    obtain ⟨u, hu⟩ := hs.isPrefix
    refine ⟨t, ?_⟩
    rw [List.append_assoc, ht, ← hu, List.drop_left]
  have hst : (s.acceptMSG cfg msg).1.state = .established := by
    rw [Session.acceptMSG_eq]; exact hest
  rcases hs' with ⟨hd, rfl⟩ | ⟨-, d, hd, rfl⟩
  · have hdrv : (s.acceptMSG cfg msg).1.driver = s.driver := by rw [Session.acceptMSG_eq]
    rw [hdrv, List.drop_length, List.append_nil]
    rw [hd, List.append_nil] at hnext hcont
    exact ⟨fun _ => hnext, fun h => absurd hst h, hcont⟩
  · have hrec : d.2.received.drop s.driver.2.received.length = msg.data := by
      rw [observed_dataReceived_received hd, List.drop_left]
    rw [hrec]
    exact ⟨fun _ => hnext, fun h => absurd hst h, hcont⟩

/-- The SYN a session in `New` takes carries the peer's `isn`: the session is established
with `TheirSeq` at the start of the stream, nothing handed on yet. -/
theorem Delivered.handleSYN (hs : Delivered isn stream s g) {pkt : Packet} {b : Bool}
    (hpeer : s.state = .new → ∀ syn, pkt.syn = some syn → syn.seq = isn)
    (h : s.handleSYN pkt = .ok (s', b)) : Delivered isn stream s' g := by
  rcases Session.handleSYN_ok h with ⟨-, rfl, -⟩ | ⟨hnew, -, syn, hsyn, rfl⟩
  · exact hs
  have hg : g = [] := hs.before (by rw [hnew]; decide)
  refine ⟨fun _ => ?_, fun h => absurd rfl h, hs.isPrefix⟩
  rw [hg, List.length_nil, add_ofNat_zero16]
  exact hpeer hnew syn hsyn

/-- One event of a run keeps the invariant, with the ghost the observer builds. -/
theorem Delivered.step {feed : D → E → D} (hs : Delivered isn stream s g) {e : Event E}
    (hpeer : PeerSends C cfg isn stream s g e)
    (h : s.step ops.observed C cfg (Driver.observedFeed feed) e = .ok s') :
    Delivered isn stream s' (handedObserver C cfg s e s' g) := by
  cases e with
  | driver e =>
    cases h
    exact hs.frame rfl rfl
  | call c =>
    cases c with
    | getOutgoing now m pid k =>
      obtain ⟨⟨r, s₂⟩, hg, rfl⟩ := map_eq_ok.mp h
      exact hs.getOutgoing hg
    | dataIncoming data =>
      obtain ⟨⟨s₂, b⟩, hd, rfl⟩ := map_eq_ok.mp h
      obtain ⟨s₁, hp, hdec⟩ := Session.dataIncoming_ok hd
      have hs₁ := hs.poll hp
      have hrec := Session.pollDriverForData_received hp
      have hst₁ : s₁.state = s.state := by rw [(Session.pollDriverForData_frame hp).1]
      simp only [handedObserver, ← Session.decodeIncoming_poll hp, ← hrec]
      rcases hdec with ⟨hn, rfl, -⟩ | ⟨pkt, hn, hdisp⟩
      · rw [hn]; exact hs₁
      obtain ⟨hsyn, hmsg⟩ := hpeer pkt (by rw [← Session.decodeIncoming_poll hp]; exact hn)
      by_cases ht : pkt.packetType = packetTypeMSG
      · simp only [hn, if_pos ht]
        rw [Session.dispatch_msg ht] at hdisp
        exact hs₁.handleMSG (fun h' => hmsg ht (hst₁ ▸ h')) hdisp
      simp only [hn, if_neg ht]
      by_cases hts : pkt.packetType = packetTypeSYN
      · rw [Session.dispatch_syn hts] at hdisp
        exact hs₁.handleSYN (fun h' => hsyn hts (hst₁ ▸ h')) hdisp
      -- any other frame leaves `TheirSeq`, and does not establish the session
      have hseq : s₂.theirSeq = s₁.theirSeq ∨ s₁.state = .new := by
        rcases Session.dispatch_theirSeq hdisp with h' | h' | h'
        · exact .inl h'
        · exact absurd h' ht
        · exact .inr h'
      rcases Session.dispatch_state hdisp with h' | ⟨h1, -, h'⟩ | ⟨h1, -, h'⟩ | ⟨-, h', -⟩
      · rcases hseq with hseq | hnew
        · exact hs₁.frame h' hseq
        · exact hs₁.unestablished (by rw [hnew]; decide) (by rw [h', hnew]; decide)
      · exact hs₁.unestablished (by rw [h1]; decide) (by rw [h']; split_ifs <;> decide)
      · exact hs₁.unestablished (by rw [h1]; decide) (by rw [h']; decide)
      · exact absurd h' hts

/-- Every run against such a peer keeps the invariant. -/
theorem Delivered.reach {feed : D → E → D} {s₀ : Session (D × Traffic)} {g₀ : Bytes}
    (h₀ : Delivered isn stream s₀ g₀)
    (hr : Session.Reach ops.observed C cfg (Driver.observedFeed feed) (PeerSends C cfg isn stream)
      (handedObserver C cfg) s₀ g₀ s g) :
    Delivered isn stream s g := by
  induction hr with
  | init => exact h₀
  | step _ hpeer hs ih => exact ih.step hpeer hs

/-- From a session not yet established, over every run against a peer whose SYN carries `isn`
and which sends its stream, numbered from `isn`, in MSG frames lost, duplicated and reordered
at will but each within `2 ^ 16 - 1` of the expected position: what `handleMSG` has handed to
the driver is a prefix of the peer's stream, nothing before the session is established, and
once it is, `TheirSeq` counts it from the SYN's `seq`. -/
theorem handed_prefix_stream (ops : Driver D) (C : Crypto) (cfg : Config) (feed : D → E → D)
    (isn : UInt16) (stream : Bytes) {s₀ s : Session (D × Traffic)} {g : Bytes}
    (h₀ : s₀.state ≠ .established)
    (hr : Session.Reach ops.observed C cfg (Driver.observedFeed feed)
      (PeerSends C cfg isn stream) (handedObserver C cfg) s₀ [] s g) :
    g <+: stream ∧ (s.state = .established → s.theirSeq = isn + UInt16.ofNat g.length) ∧
      (s.state ≠ .established → g = []) := by
  have h := Delivered.reach ⟨fun h => absurd h h₀, fun _ => rfl, List.nil_prefix⟩ hr
  exact ⟨h.isPrefix, h.theirSeq, h.before⟩

namespace Handed

/-- A console session in `New`, without encryption, `MySeq` 7. -/
def start : Session (ConsoleDriver × Traffic) :=
  { id := 1, state := .new, theirSeq := 0, mySeq := 7, name := [], options := 0,
    isCommand := false, isPing := false, driver := (ConsoleDriver.new, ⟨[], []⟩),
    outgoingBuffer := [], encryptor := none, newEncryptor := none, lastTransmit := none,
    missedTransmissions := 0, isShutdown := false }

/-- The server's SYN at `seq` 100, which establishes the session, then its MSG at `seq` 100
carrying `[1, 2, 3]`. -/
def synFrame : Bytes := [0, 2, 0, 0, 1, 0, 100, 0, 0]

def synced : Session (ConsoleDriver × Traffic) :=
  { start with theirSeq := 100, state := .established }

def msgFrame : Bytes := [0, 3, 1, 0, 1, 0, 100, 0, 7, 1, 2, 3]

end Handed

open Handed in
theorem handed_prefix_stream_syn :
    ∃ s g, Session.Reach consoleDriver.observed Crypto.zero ⟨0, false, false, []⟩
        (Driver.observedFeed ConsoleDriver.feed) (PeerSends Crypto.zero ⟨0, false, false, []⟩ 100
          [1, 2, 3, 4]) (handedObserver Crypto.zero ⟨0, false, false, []⟩) start [] s g ∧
      g = [1, 2, 3] ∧ start.state ≠ .established ∧
      g <+: [1, 2, 3, 4] ∧ (s.state = .established → s.theirSeq = 100 + UInt16.ofNat g.length) ∧
      (s.state ≠ .established → g = []) := by
  -- the SYN carries 100, the MSG the stream from position 0
  have h₁ : PeerSends Crypto.zero ⟨0, false, false, []⟩ 100 [1, 2, 3, 4] start []
      (.call (.dataIncoming synFrame) : Event Stdin) := fun pkt hpkt => by
    cases (show start.decodeIncoming Crypto.zero ⟨0, false, false, []⟩ synFrame =
      .ok (some (createSYN 2 1 100 0)) from rfl).symm.trans hpkt
    exact ⟨fun _ _ syn hsyn => by cases hsyn; rfl, fun ht => absurd ht (by decide)⟩
  have h₂ : PeerSends Crypto.zero ⟨0, false, false, []⟩ 100 [1, 2, 3, 4] synced []
      (.call (.dataIncoming msgFrame) : Event Stdin) := fun pkt hpkt => by
    cases (show synced.decodeIncoming Crypto.zero ⟨0, false, false, []⟩ msgFrame =
      .ok (some (createMSG 3 1 100 7 [1, 2, 3])) from rfl).symm.trans hpkt
    exact ⟨fun ht => absurd ht (by decide), fun _ _ msg hmsg => by
      cases hmsg; exact ⟨0, by decide, by decide, rfl, List.prefix_append _ _⟩⟩
  have hr : Session.Reach consoleDriver.observed Crypto.zero ⟨0, false, false, []⟩
      (Driver.observedFeed ConsoleDriver.feed) (PeerSends Crypto.zero ⟨0, false, false, []⟩ 100
        [1, 2, 3, 4]) (handedObserver Crypto.zero ⟨0, false, false, []⟩) start [] _ _ :=
    .step (.step .init h₁ (show start.step consoleDriver.observed Crypto.zero ⟨0, false, false, []⟩
      (Driver.observedFeed ConsoleDriver.feed) (.call (.dataIncoming synFrame)) = .ok synced
        from rfl)) h₂
      (show synced.step consoleDriver.observed Crypto.zero ⟨0, false, false, []⟩
        (Driver.observedFeed ConsoleDriver.feed) (.call (.dataIncoming msgFrame)) = .ok _ from rfl)
  exact ⟨_, _, hr, rfl, by decide, handed_prefix_stream consoleDriver Crypto.zero
    ⟨0, false, false, []⟩ ConsoleDriver.feed 100 [1, 2, 3, 4] (by decide) hr⟩

end Dnscat2
