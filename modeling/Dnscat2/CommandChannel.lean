import Dnscat2.CommandHandlers
import Mathlib.Data.List.Forall2

/-!
The command driver over whole runs (`pkg/driver/command`). Its session hands it the server's
bytes (`DataReceived`), polls it (`GetOutgoing`) and closes it; the reader goroutine of each
tunnel hands it what it reads, or the end of the connection. Everything the driver sends goes
through one queue, `outgoingData`: whole frames join it at the end, the handlers' responses
and the tunnels' own TUNNEL_DATA and TUNNEL_CLOSE requests, and `GetOutgoing` hands out its
front, cut anywhere.

Over every run, what was handed out followed by what is still queued is those frames, in the
order they were queued. The responses answer the server's requests one for one, in order; the
TUNNEL_DATA requests carry the tunnels' reads in the order they were made, each under its
tunnel's id, so the server gets each tunnel's bytes back by sorting the requests by id. While
the driver has made fewer than `2 ^ 15` requests of its own, every frame is one `ReadPacket`
reads back whole; past that, the ids `nextRequestID` hands out no longer fit the 15 bits
`ToBytes` keeps, and the server reads them cut short.
-/

namespace Dnscat2.Command

/-- What the command driver meets: the server's bytes, a poll, a `Close` from its session,
or a step of a tunnel's reader goroutine. -/
inductive Event
  | received (data : Bytes)
  | polled (maxLength : Int)
  | closed
  | tunnel (e : Driver.TunnelEvent)

def Event.received? : Event → Option Bytes
  | .received data => some data
  | _ => none

/-- A step of a tunnel's reader goroutine, the one event on which the driver makes a
request of its own. -/
def Event.isTunnel : Event → Bool
  | .tunnel _ => true
  | _ => false

/-- The reads of a tunnel that return bytes, with the tunnel's id. -/
def Event.read? : Event → Option (UInt32 × Bytes)
  | .tunnel (.read tunnelID data) => if data = [] then none else some (tunnelID, data)
  | _ => none

/-- The tunnel and the bytes a TUNNEL_DATA request carries. -/
def Packet.tunnelData? (p : Packet) : Option (UInt32 × Bytes) :=
  p.tunnelDataRequest.map fun r => (r.tunnelID, r.data)

namespace Driver

/-- A run of the command driver under its `handlePacket`: the slices `GetOutgoing` hands
out, in order, and the driver after the events; the halt of a handler that does not
return. -/
def run (handle : Handler) (d : Driver) : List Event → Except Halt (List Bytes × Driver)
  | [] => .ok ([], d)
  | .received data :: es => (d.dataReceived handle data).bind fun d => d.run handle es
  | .polled maxLength :: es =>
    (fun r => ((d.getOutgoing maxLength).1.toList ++ r.1, r.2)) <$>
      (d.getOutgoing maxLength).2.run handle es
  | .closed :: es => d.close.run handle es
  | .tunnel e :: es => (feed d e).run handle es

@[simp] theorem streamOf_append (ps qs : List Packet) :
    streamOf (ps ++ qs) = streamOf ps ++ streamOf qs := by
  simp [streamOf]

private theorem toNat_succ32 {x : UInt32} (h : x.toNat + 1 < 2 ^ 32) : (x + 1).toNat = x.toNat + 1 := by
  simpa [UInt32.toNat, UInt32.add_def] using h

/-- Below `2 ^ 15` requests, the next request id is the count, and within the 15 bits
`ToBytes` keeps. -/
theorem nextRequestID_lt (c : Core) (h : c.requestID.toNat + 1 < 0x8000) :
    (nextRequestID c).1.toNat < 0x8000 ∧ (nextRequestID c).2.requestID.toNat = c.requestID.toNat + 1 := by
  have h1 := toNat_succ32 (x := c.requestID) (by omega)
  refine ⟨?_, h1⟩
  simp only [nextRequestID, UInt32.toUInt16, Nat.toUInt16, toNat_ofNat16, h1]
  omega

/-! ### One event -/

section Steps

variable {env : Env}

theorem answers_mem {xs rs : List Packet} (h : List.Forall₂ Answers xs rs) :
    ∀ r ∈ rs, r.isRequest = false ∧ r.Valid := by
  induction h with
  | nil => simp
  | cons hA _ ih =>
    rintro r (_ | ⟨_, hr⟩)
    · exact ⟨hA.2.1, hA.2.2.2⟩
    · exact ih r hr

/-- A response carries no tunnel data. -/
theorem tunnelData?_of_response {r : Packet} (hv : r.Valid) (hreq : r.isRequest = false) :
    r.tunnelData? = none := by
  obtain ⟨-, b, -, hb⟩ := hv
  rw [hb] at hreq ⊢
  cases b <;> simp [Body.toPacket, Packet.tunnelData?] at hreq ⊢

/-- `DataReceived` on the first bytes of a stream of requests: it answers the requests
whose frames the chunk completes, in order, and keeps the start of the next frame. -/
theorem dataReceived_step {R : List Packet} (hR : ∀ q ∈ R, q.Valid ∧ env.Returns q)
    {s data : Bytes} (hpre : s ++ data <+: streamOf R)
    (hlen : (streamOf R).length < 2 ^ 32) (c : Core) :
    ∃ k c' rs s', Driver.dataReceived (handlePacket env) ⟨s, c⟩ data = .ok ⟨s', c'⟩ ∧
      c'.outgoingData = c.outgoingData ++ streamOf rs ∧ c'.requestID = c.requestID ∧
      List.Forall₂ Answers ((R.take k).filter Answered) rs ∧
      s ++ data = streamOf (R.take k) ++ s' ∧ Pending s' (R.drop k) := by
  obtain ⟨k, s', hsplit, hs'⟩ := prefix_streamOf R hpre
  have hlen' : (streamOf (R.drop k)).length < 2 ^ 32 := by
    rw [← streamOf_take_drop R k, List.length_append] at hlen; omega
  obtain ⟨c', rs, hf, hq, hid, hrs⟩ := foldlM_answers (R.take k)
    (fun q h => (hR q (List.mem_of_mem_take h)).1) (fun q h => (hR q (List.mem_of_mem_take h)).2) c
  have hproc := processPackets_streamOf (handlePacket env) (R.take k)
    (fun q h => (hR q (List.mem_of_mem_take h)).1) (readPacket_of_pending hs' hlen')
    (by rw [← hsplit]; exact lt_of_le_of_lt hpre.length_le hlen) c
  refine ⟨k, c', rs, s', ?_, hq, hid, hrs, hsplit, hs'⟩
  rw [Driver.dataReceived, hsplit, hproc, hf]
  rfl

/-- A poll hands out the front of the queue and keeps the rest. -/
theorem getOutgoing_queue (d : Driver) (maxLength : Int) :
    (d.getOutgoing maxLength).1.toList.flatten ++ (d.getOutgoing maxLength).2.core.outgoingData =
      d.core.outgoingData := by
  have h := takeOutgoing_append d.core.outgoingData d.core.isShutdown maxLength
  cases ho : (takeOutgoing d.core.outgoingData d.core.isShutdown maxLength).1 <;>
    simp_all [getOutgoing]

/-- A step of a tunnel's reader goroutine queues at most one request of the driver's own:
a TUNNEL_DATA request with the bytes it read, or a TUNNEL_CLOSE request when the tunnel
was still open. -/
theorem feed_queue (d : Driver) (e : TunnelEvent) (h : d.core.requestID.toNat + 1 < 0x8000) :
    ∃ ps, (feed d e).core.outgoingData = d.core.outgoingData ++ streamOf ps ∧
      (∀ p ∈ ps, p.Valid ∧ p.isRequest = true) ∧
      ps.filterMap Packet.tunnelData? = (Event.tunnel e).read?.toList ∧
      (feed d e).stream = d.stream ∧ (feed d e).core.requestID.toNat ≤ d.core.requestID.toNat + 1 := by
  obtain ⟨hlt, hsucc⟩ := nextRequestID_lt d.core h
  cases e with
  | read tunnelID data =>
    by_cases h0 : data = []
    · exact ⟨[], by simp [feed, tunnelRead, h0], by simp, by simp [Event.read?, h0], rfl,
        by simp [feed, tunnelRead, h0]⟩
    · refine ⟨[createTunnelDataRequest (nextRequestID d.core).1 tunnelID data],
        by simp [feed, tunnelRead, h0, nextRequestID], ?_,
        by simp [Event.read?, h0, Packet.tunnelData?, createTunnelDataRequest], rfl, ?_⟩
      · simp only [List.mem_singleton, forall_eq]
        exact ⟨⟨hlt, .tunnelDataRequest ⟨tunnelID, data⟩, trivial, rfl⟩, rfl⟩
      · simp only [feed, tunnelRead, h0, if_false]
        exact hsucc.le
  | error tunnelID =>
    by_cases ht : d.core.tunnels.any (·.id == tunnelID)
    · refine ⟨[createTunnelCloseRequest (nextRequestID d.core).1 tunnelID
          (ascii "Server closed the connection")],
        by simp [feed, closeTunnel, ht, nextRequestID], ?_,
        by simp [Event.read?, Packet.tunnelData?, createTunnelCloseRequest], rfl, ?_⟩
      · simp only [List.mem_singleton, forall_eq]
        exact ⟨⟨hlt, .tunnelCloseRequest ⟨tunnelID, _⟩,
          show (0 : UInt8) ∉ ascii "Server closed the connection" by decide, rfl⟩, rfl⟩
      · simp only [feed, closeTunnel, ht, if_true]
        exact hsucc.le
    · exact ⟨[], by simp [feed, closeTunnel, ht], by simp, by simp [Event.read?], rfl,
        by simp [feed, closeTunnel, ht]⟩

/-! ### Runs -/

/-- From a driver whose stream holds the start of the server's remaining requests `R`, over
every run whose received bytes continue that stream: the queue is a first-in, first-out
channel of whole frames, answers and the tunnels' requests, and the stream keeps what the
next frame has sent so far. -/
theorem run_queue : ∀ (es : List Event) (R : List Packet) (d : Driver),
    (∀ q ∈ R, q.Valid ∧ env.Returns q) → Pending d.stream R → (streamOf R).length < 2 ^ 32 →
    d.stream ++ (es.filterMap Event.received?).flatten <+: streamOf R →
    d.core.requestID.toNat + (es.filter Event.isTunnel).length < 0x8000 →
    ∃ sent d' k ps, d.run (handlePacket env) es = .ok (sent, d') ∧
      sent.flatten ++ d'.core.outgoingData = d.core.outgoingData ++ streamOf ps ∧
      (∀ p ∈ ps, p.Valid) ∧
      List.Forall₂ Answers ((R.take k).filter Answered) (ps.filter fun p => !p.isRequest) ∧
      ps.filterMap Packet.tunnelData? = es.filterMap Event.read? ∧
      d.stream ++ (es.filterMap Event.received?).flatten = streamOf (R.take k) ++ d'.stream ∧
      Pending d'.stream (R.drop k)
  | [], R, d, _, hs, _, _, _ =>
    ⟨[], d, 0, [], rfl, by simp, by simp, by simp, rfl, by simp, by simpa using hs⟩
  | .received data :: es, R, ⟨s, c⟩, hR, _, hlen, hpre, hid => by
    have hrecv : ((Event.received data :: es).filterMap Event.received?).flatten =
        data ++ (es.filterMap Event.received?).flatten := rfl
    dsimp only at hid ⊢
    rw [hrecv] at hpre ⊢
    obtain ⟨k₁, c₁, rs, s₁, hd, hq, hid₁, hrs, hsplit, hs₁⟩ := dataReceived_step hR
      ((List.prefix_append _ _).trans (by rwa [List.append_assoc])) hlen c
    have hlen₁ : (streamOf (R.drop k₁)).length < 2 ^ 32 := by
      rw [← streamOf_take_drop R k₁, List.length_append] at hlen; omega
    have hpre₁ : s₁ ++ (es.filterMap Event.received?).flatten <+: streamOf (R.drop k₁) := by
      rw [← List.prefix_append_right_inj (streamOf (R.take k₁)), ← List.append_assoc, ← hsplit,
        streamOf_take_drop, List.append_assoc]
      exact hpre
    obtain ⟨sent, d', k₂, ps, hrun, hq', hv, hans, htun, hstr, hpend⟩ :=
      run_queue es (R.drop k₁) ⟨s₁, c₁⟩ (fun q h => hR q (List.mem_of_mem_drop h)) hs₁ hlen₁ hpre₁
        (by rw [hid₁]; exact hid)
    dsimp only at hq' hstr
    have hresp := answers_mem hrs
    have hrs' : rs.filter (fun p => !p.isRequest) = rs :=
      List.filter_eq_self.2 fun r hr => by simp [(hresp r hr).1]
    refine ⟨sent, d', k₁ + k₂, rs ++ ps, by rw [run, hd]; exact hrun, ?_, ?_, ?_, ?_, ?_, ?_⟩
    · rw [hq', hq, streamOf_append, List.append_assoc]
    · intro p hp
      rcases List.mem_append.mp hp with h | h
      · exact (hresp p h).2
      · exact hv p h
    · rw [List.take_add, List.filter_append, List.filter_append, hrs']
      exact List.rel_append hrs hans
    · rw [List.filterMap_append, List.filterMap_eq_nil_iff.2 fun r hr =>
        tunnelData?_of_response (hresp r hr).2 (hresp r hr).1, List.nil_append, htun]
      rfl
    · rw [List.take_add, streamOf_append, List.append_assoc, ← hstr, ← List.append_assoc s, hsplit,
        List.append_assoc]
    · rwa [← List.drop_drop]
  | .polled m :: es, R, d, hR, hs, hlen, hpre, hid => by
    obtain ⟨sent, d', k, ps, hrun, hq', hv, hans, htun, hstr, hpend⟩ :=
      run_queue es R (d.getOutgoing m).2 hR hs hlen hpre
        (Nat.lt_of_le_of_lt (by simp [getOutgoing, Event.isTunnel]) hid)
    refine ⟨(d.getOutgoing m).1.toList ++ sent, d', k, ps, by rw [run, hrun]; rfl, ?_, hv, hans,
      htun, hstr, hpend⟩
    rw [List.flatten_append, List.append_assoc, hq', ← List.append_assoc, getOutgoing_queue]
  | .closed :: es, R, d, hR, hs, hlen, hpre, hid => by
    obtain ⟨sent, d', k, ps, hrun, hq', hv, hans, htun, hstr, hpend⟩ :=
      run_queue es R d.close hR hs hlen hpre
        (Nat.lt_of_le_of_lt (by simp [close, Event.isTunnel]) hid)
    exact ⟨sent, d', k, ps, hrun, hq', hv, hans, htun, hstr, hpend⟩
  | .tunnel e :: es, R, d, hR, hs, hlen, hpre, hid => by
    simp only [List.filter_cons, Event.isTunnel, if_true, List.length_cons] at hid
    obtain ⟨ps₀, hq₀, hv₀, htun₀, hstream₀, hid₀⟩ := feed_queue d e (by omega)
    obtain ⟨sent, d', k, ps, hrun, hq', hv, hans, htun, hstr, hpend⟩ :=
      run_queue es R (feed d e) hR (hstream₀ ▸ hs) hlen (hstream₀ ▸ hpre) (by omega)
    refine ⟨sent, d', k, ps₀ ++ ps, hrun, ?_, ?_, ?_, ?_, hstream₀ ▸ hstr, hpend⟩
    · rw [hq', hq₀, streamOf_append, List.append_assoc]
    · intro p hp
      rcases List.mem_append.mp hp with h | h
      · exact (hv₀ p h).1
      · exact hv p h
    · have h₀ : ps₀.filter (fun p => !p.isRequest) = [] :=
        List.filter_eq_nil_iff.2 fun p hp => by simp [(hv₀ p hp).2]
      rwa [List.filter_append, h₀, List.nil_append]
    · rw [List.filterMap_append, htun₀, htun]
      cases h : (Event.tunnel e).read? <;> simp [List.filterMap_cons, h]

end Steps

end Driver

/-- Over every run of the command driver, the server's valid requests arriving cut into
chunks anyhow, interleaved with polls of any size, its session's `Close` and the reads and
ends of its tunnels, and as long as no handler blocks and the driver's request counter plus
the run's tunnel steps, the only events that make a request, stay below `2 ^ 15`: the run
returns, and the bytes `GetOutgoing` handed out
followed by the queue are the queue it started with followed by whole valid frames, in the
order they were queued. The responses among them answer the requests whose frames have
arrived, one for each that is not a COMMAND_ERROR, in order; the TUNNEL_DATA requests carry
the tunnels' reads that returned bytes, in order and each under its tunnel's id; and the
stream keeps only the start of the next request. -/
theorem run_answers_and_tunnels (env : Env) (qs : List Packet) (hqs : ∀ q ∈ qs, q.Valid)
    (hr : ∀ q ∈ qs, env.Returns q) (hlen : (streamOf qs).length < 2 ^ 32) (es : List Event)
    (hin : (es.filterMap Event.received?).flatten <+: streamOf qs) (c : Core)
    (hid : c.requestID.toNat + (es.filter Event.isTunnel).length < 0x8000) :
    ∃ sent d k ps, Driver.run (Driver.handlePacket env) ⟨[], c⟩ es = .ok (sent, d) ∧
      sent.flatten ++ d.core.outgoingData = c.outgoingData ++ streamOf ps ∧
      (∀ p ∈ ps, p.Valid) ∧
      List.Forall₂ Answers ((qs.take k).filter Answered) (ps.filter fun p => !p.isRequest) ∧
      ps.filterMap Packet.tunnelData? = es.filterMap Event.read? ∧
      (es.filterMap Event.received?).flatten = streamOf (qs.take k) ++ d.stream ∧
      Pending d.stream (qs.drop k) :=
  Driver.run_queue es qs ⟨[], c⟩ (fun q h => ⟨hqs q h, hr q h⟩) (Driver.pending_nil qs) hlen hin hid

theorem run_answers_and_tunnels_ping :
    ∃ (qs : List Packet) (es : List Event), qs = [(Body.pingRequest ⟨[1, 2]⟩).toPacket 5] ∧
      es = [.received ((streamOf qs).take 3), .tunnel (.read 1 [7, 8]), .polled 10,
        .received ((streamOf qs).drop 3), .polled 0, .tunnel (.error 1)] ∧
      ∃ sent d k ps, Driver.run (Driver.handlePacket ⟨none, none, false, fun _ => none,
          fun _ _ => false, fun _ _ => false, false⟩) ⟨[], Driver.new.core⟩ es = .ok (sent, d) ∧
        sent.flatten ++ d.core.outgoingData = Driver.new.core.outgoingData ++ streamOf ps ∧
        (∀ p ∈ ps, p.Valid) ∧
        List.Forall₂ Answers ((qs.take k).filter Answered) (ps.filter fun p => !p.isRequest) ∧
        ps.filterMap Packet.tunnelData? = es.filterMap Event.read? ∧
        (es.filterMap Event.received?).flatten = streamOf (qs.take k) ++ d.stream ∧
        Pending d.stream (qs.drop k) :=
  by
  refine ⟨_, _, rfl, rfl, ?_⟩
  exact run_answers_and_tunnels _ _
    (fun p hp => by
      rw [List.mem_singleton.mp hp]
      exact ⟨by decide, .pingRequest ⟨[1, 2]⟩, show (0 : UInt8) ∉ [1, 2] by decide, rfl⟩)
    (fun p hp _ => by
      rw [List.mem_singleton.mp hp]
      exact ⟨by decide, by decide, fun h => absurd h (by decide)⟩)
    (by decide) _ (by exact ⟨[], rfl⟩) _ (by decide)

end Dnscat2.Command
