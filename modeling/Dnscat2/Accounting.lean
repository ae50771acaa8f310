import Dnscat2.Run

/-!
The outgoing stream of a session whose driver keeps a queue that `GetOutgoing(-1)` hands out
whole and that only the driver's producer appends to, as `readStdin` does for the console
driver: nothing the producer appends is lost, duplicated or reordered on its way through the
queue and the session's buffer, and `MySeq` counts what acknowledgements have retired from
the `seq` of the session's SYN. The driver is observed (`Driver.observed`), so that what
`GetOutgoing` gave the session is known, and a run's ghost is everything the producer has
appended.
-/

namespace Dnscat2

variable {D E : Type}

/-- A driver whose `GetOutgoing(-1)` hands out its whole queue and empties it, and whose
queue only its producer appends to: `DataReceived` and `Close` leave it as it is, and a step
`e` of the producer appends `appended d e`. -/
structure Drains (ops : Driver D) (queue : D → Bytes) (feed : D → E → D)
    (appended : D → E → Bytes) : Prop where
  getOutgoing : ∀ d r d', ops.getOutgoing d (-1) = .ok (r, d') →
    r.getD [] = queue d ∧ queue d' = []
  dataReceived : ∀ d data d', ops.dataReceived d data = .ok d' → queue d' = queue d
  close : ∀ d, queue (ops.close d) = queue d
  feed : ∀ d e, queue (feed d e) = queue d ++ appended d e

/-- What a step of `readStdin` appends to the console driver's queue. -/
def stdinRead (_ : ConsoleDriver) : Stdin → Bytes
  | .read data => data
  | .done => []

theorem consoleDriver_drains :
    Drains consoleDriver ConsoleDriver.outgoingData ConsoleDriver.feed stdinRead where
  getOutgoing d r d' h := by
    obtain ⟨rfl, rfl⟩ := Prod.mk.inj (Except.ok.inj h)
    have hall := takeOutgoing_append d.outgoingData d.isShutdown (-1)
    rw [takeOutgoing_all_snd _ _ (by omega), List.append_nil] at hall
    exact ⟨hall, takeOutgoing_all_snd _ _ (by omega)⟩
  dataReceived d _ d' h := by cases h; rfl
  close _ := rfl
  feed d e := by
    cases e <;>
      simp [ConsoleDriver.feed, ConsoleDriver.readStdin, ConsoleDriver.stdinDone, stdinRead]

/-- The ghost of a run: every byte the producer has appended, in order. -/
def producedObserver (appended : D → E → Bytes) (s : Session (D × Traffic)) (e : Event E)
    (_ : Session (D × Traffic)) (g : Bytes) : Bytes :=
  match e with
  | .driver e => g ++ appended s.driver.1 e
  | _ => g

/-- The bytes acknowledgements have retired: what the session took from its driver and
no longer holds. -/
def Session.retired (s : Session (D × Traffic)) : Bytes :=
  s.driver.2.given.take (s.driver.2.given.length - s.outgoingBuffer.length)

/-- Every byte the producer appended is, in order, retired, in the session's buffer or still
in the driver's queue; `MySeq` counts the retired ones from `isn`, and none is retired
before the session is established. -/
structure Accounted (queue : D → Bytes) (isn : UInt16) (s : Session (D × Traffic))
    (produced : Bytes) : Prop where
  retired : ∃ R, s.driver.2.given = R ++ s.outgoingBuffer ∧ s.mySeq = isn + UInt16.ofNat R.length ∧
    (s.state ≠ .established → R = [])
  produced : produced = s.driver.2.given ++ queue s.driver.1

section

variable {ops : Driver D} {queue : D → Bytes} {feed : D → E → D} {appended : D → E → Bytes}
  (hD : Drains ops queue feed appended) (C : Crypto) (cfg : Config) {isn : UInt16}
  {s s' : Session (D × Traffic)} {g : Bytes}

include hD

theorem Accounted.poll (hs : Accounted queue isn s g)
    (h : s.pollDriverForData ops.observed = .ok s') : Accounted queue isn s' g := by
  obtain ⟨R, hR, hseq, hest⟩ := hs.retired
  obtain ⟨hf, -⟩ := Session.pollDriverForData_frame h
  obtain ⟨r, d, hg, hob, hd⟩ := Session.pollDriverForData_spec h
  obtain ⟨d₁, hg₁, rfl⟩ := observed_getOutgoing_ok hg
  obtain ⟨hr, hq⟩ := hD.getOutgoing _ _ _ hg₁
  -- the poll empties the queue into what the driver gave
  have hd' : queue s'.driver.1 = [] ∧ s'.driver.2.given = s.driver.2.given ++ queue s.driver.1 := by
    rcases hd with hd | hd <;> rw [hd]
    · exact ⟨hq, by rw [hr]⟩
    · exact ⟨(hD.close d₁).trans hq, by rw [← hr]; rfl⟩
  refine ⟨⟨R, ?_, by rw [hf]; exact hseq, by rw [hf]; exact hest⟩, ?_⟩
  · rw [hd'.2, hob, hr, hR, List.append_assoc]
  · rw [hd'.1, hd'.2, hs.produced, List.append_nil]

omit hD in
theorem Accounted.transmit (hs : Accounted queue isn s g) {now : Nat} {m : Int} {pid : UInt16}
    {k : Option Bytes} {r : Option Bytes} (h : s.transmit C cfg now m pid k = .ok (r, s')) :
    Accounted queue isn s' g := by
  rw [Session.transmit_frame h]
  exact ⟨hs.retired, hs.produced⟩

theorem Accounted.dispatch (hs : Accounted queue isn s g) {pkt : Packet} {b : Bool}
    (h : s.dispatch ops.observed C cfg pkt = .ok (s', b)) : Accounted queue isn s' g := by
  obtain ⟨R, hR, hseq, hest⟩ := hs.retired
  -- the driver's queue and what it gave are as they were
  have hdrv : queue s'.driver.1 = queue s.driver.1 ∧ s'.driver.2.given = s.driver.2.given := by
    rcases Session.dispatch_driver h with hd | hd | ⟨data, hd⟩
    · rw [hd]; exact ⟨rfl, rfl⟩
    · rw [hd]; exact ⟨hD.close _, rfl⟩
    · obtain ⟨d₁, hd₁, h1, h2⟩ := observed_dataReceived_ok hd
      rw [h1, h2]; exact ⟨hD.dataReceived _ _ _ hd₁, rfl⟩
  have hst : s'.state ≠ .established → s.state ≠ .established := by
    rcases Session.dispatch_state h with hs' | ⟨h1, -, h2⟩ | ⟨h1, -, h2⟩ | ⟨h1, -, h2⟩
    · rw [hs']; exact id
    all_goals intro; rw [h1]; decide
  refine ⟨?_, by rw [hdrv.1, hdrv.2]; exact hs.produced⟩
  rcases Session.dispatch_retires h with ⟨hob, hms⟩ | ⟨hest', n, hn, hob, hms⟩
  · exact ⟨R, by rw [hdrv.2, hob]; exact hR, by rw [hms]; exact hseq,
      fun h' => hest (hst h')⟩
  · refine ⟨R ++ s.outgoingBuffer.take n, ?_, ?_, fun h' => absurd hest' (hst h')⟩
    · rw [hdrv.2, hob, hR, List.append_assoc, List.take_append_drop]
    · rw [hms, hseq, List.length_append, List.length_take, Nat.min_eq_left hn]
      apply UInt16.toNat.inj
      simp only [toNat_add16, toNat_ofNat16]
      omega

theorem Accounted.step (hs : Accounted queue isn s g) {e : Event E}
    (h : s.step ops.observed C cfg (Driver.observedFeed feed) e = .ok s') :
    Accounted queue isn s' (producedObserver appended s e s' g) := by
  cases e with
  | call c =>
    cases c with
    | getOutgoing now m pid k =>
      obtain ⟨⟨r, s₂⟩, hg, rfl⟩ := map_eq_ok.mp h
      obtain ⟨s₁, hp, ht⟩ := Session.getOutgoing_ok hg
      exact (hs.poll hD hp).transmit C cfg ht
    | dataIncoming data =>
      obtain ⟨⟨s₂, b⟩, hd, rfl⟩ := map_eq_ok.mp h
      obtain ⟨s₁, hp, ⟨-, rfl, -⟩ | ⟨pkt, -, hdisp⟩⟩ := Session.dataIncoming_ok hd
      · exact hs.poll hD hp
      · exact (hs.poll hD hp).dispatch hD C cfg hdisp
  | driver e =>
    cases h
    refine ⟨hs.retired, ?_⟩
    show g ++ appended s.driver.1 e = s.driver.2.given ++ queue (feed s.driver.1 e)
    rw [hD.feed, hs.produced, List.append_assoc]

/-- Every run keeps the accounting, whatever the environment does. -/
theorem Accounted.reach {allowed : Session (D × Traffic) → Bytes → Event E → Prop}
    {s₀ : Session (D × Traffic)} {g₀ : Bytes} (h₀ : Accounted queue isn s₀ g₀)
    (hr : Session.Reach ops.observed C cfg (Driver.observedFeed feed) allowed
      (producedObserver appended) s₀ g₀ s g) :
    Accounted queue isn s g := by
  induction hr with
  | init => exact h₀
  | step _ _ hs ih => exact ih.step hD C cfg hs

end

theorem Session.retired_eq {s : Session (D × Traffic)} {R : Bytes}
    (h : s.driver.2.given = R ++ s.outgoingBuffer) : s.retired = R := by
  simp [Session.retired, h]

/-- A session that has not yet taken anything from its driver. -/
theorem Accounted.start {queue : D → Bytes} {s : Session (D × Traffic)}
    (hb : s.outgoingBuffer = []) (hg : s.driver.2.given = []) :
    Accounted queue s.mySeq s (queue s.driver.1) :=
  ⟨⟨[], by rw [hg, hb]; rfl, (add_ofNat_zero16 _).symm, fun _ => rfl⟩, by rw [hg]; rfl⟩

/-- Over every run of a session whose driver hands out its whole queue at each poll, whatever
the interleaving of the producer's steps, `GetOutgoing` and `DataIncoming` on any bytes: what
was retired, then the buffer, then the driver's queue are exactly the bytes the producer
appended; `MySeq` is the initial sequence number plus the retired count, and nothing is
retired before the session is established; and a frame `GetOutgoing` emits is a packet put on
the wire from the session after its poll: a SYN carrying the initial sequence number, a MSG
`MySeq`, `TheirSeq` and a prefix of the buffer, a PING a prefix of the buffer, the buffer left
as it was. -/
theorem outgoing_stream_accounted (ops : Driver D) (queue : D → Bytes) (feed : D → E → D)
    (appended : D → E → Bytes) (hD : Drains ops queue feed appended) (C : Crypto) (cfg : Config)
    {s₀ s : Session (D × Traffic)} {g : Bytes} (hb : s₀.outgoingBuffer = [])
    (hg : s₀.driver.2.given = [])
    (hr : Session.Reach ops.observed C cfg (Driver.observedFeed feed) (fun _ _ _ => True)
      (producedObserver appended) s₀ (queue s₀.driver.1) s g) :
    g = s.retired ++ s.outgoingBuffer ++ queue s.driver.1 ∧
      s.mySeq = s₀.mySeq + UInt16.ofNat s.retired.length ∧
      (s.state ≠ .established → s.retired = []) ∧
      ∀ now m pid k out s', s.getOutgoing ops.observed C cfg now m pid k = .ok (some out, s') →
        ∃ s₁ pkt, s.pollDriverForData ops.observed = .ok s₁ ∧ s₁.Emits C cfg pkt out ∧
          s₁.Carries pkt ∧ s₁.mySeq = s.mySeq ∧ s₁.theirSeq = s.theirSeq ∧
          s'.outgoingBuffer = s₁.outgoingBuffer ∧
          (pkt.packetType = packetTypeSYN → ∃ syn, pkt.syn = some syn ∧ syn.seq = s₀.mySeq) := by
  have hs := (Accounted.start hb hg).reach hD C cfg hr
  obtain ⟨R, hR, hseq, hest⟩ := hs.retired
  rw [Session.retired_eq hR]
  refine ⟨by rw [hs.produced, hR], hseq, hest, fun now m pid k out s' h => ?_⟩
  obtain ⟨s₁, pkt, s₂, hp, hn, he, hob, -, -⟩ := Session.getOutgoing_emits h
  obtain ⟨hf, -⟩ := Session.pollDriverForData_frame hp
  have hcar := Session.nextPacket_carries hn
  refine ⟨s₁, pkt, hp, he, hcar, by rw [hf], by rw [hf], hob, fun ht => ?_⟩
  -- a SYN goes out only from `New`, before anything is retired
  have hnew : s.state = .new := by rw [← Session.nextPacket_syn hn ht, hf]
  obtain ⟨syn, hsyn, hseq'⟩ := hcar.1 ht
  refine ⟨syn, hsyn, ?_⟩
  rw [hseq', hf, hseq, hest (by rw [hnew]; decide), List.length_nil, add_ofNat_zero16]

namespace Typed

/-- A console session in `New`, without encryption, `MySeq` 7. -/
def start : Session (ConsoleDriver × Traffic) :=
  { id := 1, state := .new, theirSeq := 0, mySeq := 7, name := [], options := 0,
    isCommand := false, isPing := false, driver := (ConsoleDriver.new, ⟨[], []⟩),
    outgoingBuffer := [], encryptor := none, newEncryptor := none, lastTransmit := none,
    missedTransmissions := 0, isShutdown := false }

/-- "hi" typed, the SYN sent, the server's SYN at `seq` 100, the MSG sent, and the server's
MSG acknowledging both bytes. -/
def events : List (Event Stdin) :=
  [.driver (.read [104, 105]), .call (.getOutgoing 1 100 0 none),
   .call (.dataIncoming [0, 2, 0, 0, 1, 0, 100, 0, 0]), .call (.getOutgoing 2 100 0 none),
   .call (.dataIncoming [0, 3, 1, 0, 1, 0, 100, 0, 9])]

end Typed

open Typed in
theorem outgoing_stream_accounted_hi :
    ∃ s g, start.run consoleDriver.observed Crypto.zero ⟨0, false, false, []⟩
        (Driver.observedFeed ConsoleDriver.feed) events = .ok s ∧
      Session.Reach consoleDriver.observed Crypto.zero ⟨0, false, false, []⟩
        (Driver.observedFeed ConsoleDriver.feed) (fun _ _ _ => True) (producedObserver stdinRead)
        start [] s g ∧ s.retired = [104, 105] ∧
      start.outgoingBuffer = [] ∧ start.driver.2.given = [] ∧
      g = s.retired ++ s.outgoingBuffer ++ s.driver.1.outgoingData ∧
      s.mySeq = start.mySeq + UInt16.ofNat s.retired.length ∧
      (s.state ≠ .established → s.retired = []) ∧
      ∀ now m pid k out s', s.getOutgoing consoleDriver.observed Crypto.zero ⟨0, false, false, []⟩
          now m pid k = .ok (some out, s') →
        ∃ s₁ pkt, s.pollDriverForData consoleDriver.observed = .ok s₁ ∧
          s₁.Emits Crypto.zero ⟨0, false, false, []⟩ pkt out ∧ s₁.Carries pkt ∧
          s₁.mySeq = s.mySeq ∧ s₁.theirSeq = s.theirSeq ∧ s'.outgoingBuffer = s₁.outgoingBuffer ∧
          (pkt.packetType = packetTypeSYN → ∃ syn, pkt.syn = some syn ∧ syn.seq = start.mySeq) := by
  obtain ⟨g, hr⟩ := Session.reach_of_run (producedObserver stdinRead) []
    (show start.run consoleDriver.observed Crypto.zero ⟨0, false, false, []⟩
      (Driver.observedFeed ConsoleDriver.feed) events = .ok _ from rfl)
  exact ⟨_, g, rfl, hr, rfl, rfl, rfl, outgoing_stream_accounted consoleDriver
    ConsoleDriver.outgoingData ConsoleDriver.feed stdinRead consoleDriver_drains Crypto.zero
    ⟨0, false, false, []⟩ rfl rfl hr⟩

end Dnscat2
