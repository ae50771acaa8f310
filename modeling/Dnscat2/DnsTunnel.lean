import Dnscat2.Routing
import Dnscat2.DnsDriver

/-!
The DNS driver's loop (`pkg/tunnel/dns`, driver file): `doSend` asks the controller for the
next frame, within `MaxDNSCatLength` bytes, and sends it as the name of a query; `Run` sends
once, then, turn after turn, either times out, runs `Heartbeat` and sends again, or receives a
datagram, parses it, decodes the first answer and hands the bytes to the controller's
`DataIncoming`, sending again when the controller took them. What the loop takes from the
environment at a send is `Draw`: the clock, the packet id and private key `GetOutgoing` may
draw, the query's random transaction id and the record type `getType` picks from `Types`.

Each turn of the loop is a run of the controller (`turn_steps`): so whatever the controller
guarantees over its runs holds over every run of the client. Every query the loop sends names
a frame that a live session emitted, under that session's id, and the server gets the frame
back by taking the domain off the name and decoding the hex.
-/

namespace Dnscat2.Dns

variable {D : Type} (ops : Dnscat2.Driver D) (C : Crypto) (cfg : Config)

def maxDNSLength : Nat := 255

/-- Half a name's length for the hex digits, less the domain and the periods. -/
def Driver.maxDNSCatLength (d : Driver) : Int :=
  let domainLen := if d.domain = [] then wildcardPrefix.length else d.domain.length
  (maxDNSLength / 2 : Nat) - domainLen - 1 - (maxDNSLength / maxFieldLength + 1 : Nat)

/-! ### The name budget -/

theorem length_encodeLabels_le (ps : List Bytes) :
    (encodeLabels ps).length ≤ ([46].intercalate ps).length + 1 := by
  induction ps with
  | nil => simp
  | cons p ps ih =>
    have hp : (if 0 < p.length then p.length.toUInt8 :: p else []).length ≤ p.length + 1 := by
      split <;> simp
    rw [encodeLabels_cons, List.length_append]
    cases ps with
    | nil => simpa [List.intercalate] using hp
    | cons q qs =>
      rw [intercalate_cons_cons]
      simp only [List.length_append, List.length_cons] at ih ⊢
      omega

theorem length_encodeDNSName_le (name : Bytes) : (encodeDNSName name).length ≤ name.length + 2 := by
  have h := length_encodeLabels_le (name.splitOn 46)
  rw [List.intercalate_splitOn] at h
  simp only [encodeDNSName, List.length_append, List.length_singleton]
  omega

/-- `MaxDNSCatLength` is a sound budget: a payload within it goes out under a name of at
most `MaxDNSLength` octets on the wire. -/
theorem query_name_fits (d : Driver) (data : Bytes) (h : (data.length : Int) ≤ d.maxDNSCatLength) :
    (encodeDNSName (d.encodeDNSName data)).length ≤ maxDNSLength := by
  have hs := length_sections 0 (hexEncodeToString data)
  rw [length_hexEncodeToString] at hs
  have hw : wildcardPrefix.length = 6 := rfl
  refine (length_encodeDNSName_le _).trans ?_
  unfold Driver.maxDNSCatLength at h
  by_cases hd : d.domain = [] <;>
    simp only [Driver.encodeDNSName, hd, if_true, if_false, List.length_append, List.length_cons,
      List.length_nil, List.length_singleton, hw, maxDNSLength, maxFieldLength, ne_eq, not_true,
      not_false_eq_true] at h ⊢ <;>
    omega

theorem query_name_fits_x_io :
    ((List.replicate 117 (0 : UInt8)).length : Int) ≤ (⟨ascii "x.io"⟩ : Driver).maxDNSCatLength ∧
      (encodeDNSName ((⟨ascii "x.io"⟩ : Driver).encodeDNSName (List.replicate 117 0))).length ≤
        maxDNSLength :=
  ⟨by decide, query_name_fits _ _ (by decide)⟩

/-- What a send draws from the environment: the clock, the query's id and its type. -/
structure Draw where
  now : Nat
  packetID : UInt16
  privateKey : Option Bytes
  queryID : UInt16
  dnsType : UInt16

/-- The next session's frame as the name of a query; `none` when `getNextActive` does not
return. -/
def Driver.doSend (d : Driver) (c : Controller D) (fuel : Nat) (draw : Draw) :
    Option (Except Halt (Option Bytes × Controller D)) :=
  (c.getOutgoing ops C cfg fuel draw.now d.maxDNSCatLength draw.packetID draw.privateKey).map
    fun r => r.bind fun ((data, hasActiveSessions), c) =>
      if !hasActiveSessions then .error (.exit 0 "There are no active sessions left! Goodbye!")
      else if data.getD [] = [] then .ok (none, c)
      else .ok (some (buildDNSQuery draw.queryID (d.encodeDNSName (data.getD [])) draw.dnsType), c)

/-- The body of `Run`'s loop for a datagram; `none` when the parser or `getNextActive` does
not return. -/
def Driver.receive (d : Driver) (c : Controller D) (fuel : Nat) (datagram : Bytes) (draw : Draw) :
    Option (Except Halt (Option Bytes × Controller D)) :=
  (parseDNSResponse fuel datagram).run.bind fun
    | .error _ => some (.ok (none, c))
    | .ok response =>
      if response.rcode ≠ 0 then some (.ok (none, c))
      else if response.answers = [] then some (.ok (none, c))
      else match d.decodeDNSResponse response with
        | .error h => some (.error h)
        | .ok (.error _) => some (.ok (none, c))
        | .ok (.ok data) =>
          if data ≠ [] then
            match c.dataIncoming ops C cfg data with
            | .error h => some (.error h)
            | .ok (c, true) => d.doSend ops C cfg c fuel draw
            | .ok (c, false) => some (.ok (none, c))
          else d.doSend ops C cfg c fuel draw

inductive Input
  | timeout (draw : Draw)
  | datagram (bytes : Bytes) (draw : Draw)
  | readError

/-- One turn of `Run`'s loop: the query it sends, if any, and the controller after it. -/
def Driver.turn (d : Driver) (maxRetransmits : Int) (fuel : Nat) (c : Controller D) :
    Input → Option (Except Halt (Option Bytes × Controller D))
  | .timeout draw => d.doSend ops C cfg (c.heartbeat ops maxRetransmits) fuel draw
  | .datagram bytes draw => d.receive ops C cfg c fuel bytes draw
  | .readError => some (.ok (none, c))

/-- A turn of `Run`'s loop, or a call of the controller from elsewhere. -/
inductive Event (D E : Type)
  | turn (input : Input)
  | other (a : Controller.Action D E)

def Event.other? {E : Type} : Event D E → Option (Controller.Action D E)
  | .turn _ => none
  | .other a => some a

/-- `Run`'s loop over the client's events: the queries it sends, and the controller. -/
def Driver.loop {E : Type} (feed : D → E → D) (d : Driver) (maxRetransmits : Int) (fuel : Nat)
    (c : Controller D) : List (Event D E) → Option (Except Halt (List Bytes × Controller D))
  | [] => some (.ok ([], c))
  | .turn input :: es => (d.turn ops C cfg maxRetransmits fuel c input).bind fun
    | .ok (q, c) => (d.loop feed maxRetransmits fuel c es).map (Except.map fun r => (q.toList ++ r.1, r.2))
    | .error h => some (.error h)
  | .other a :: es => (c.step ops C cfg feed maxRetransmits fuel a).bind fun
    | .ok c => d.loop feed maxRetransmits fuel c es
    | .error h => some (.error h)

def Driver.run {E : Type} (feed : D → E → D) (d : Driver) (maxRetransmits : Int) (fuel : Nat)
    (c : Controller D) (draw : Draw) (es : List (Event D E)) :
    Option (Except Halt (List Bytes × Controller D)) :=
  (d.doSend ops C cfg c fuel draw).bind fun
    | .ok (q, c) => (d.loop ops C cfg feed maxRetransmits fuel c es).map (Except.map fun r => (q.toList ++ r.1, r.2))
    | .error h => some (.error h)

variable {ops C cfg}

theorem doSend_ok {d : Driver} {c c' : Controller D} {fuel : Nat} {draw : Draw}
    {q : Option Bytes} (h : d.doSend ops C cfg c fuel draw = some (.ok (q, c'))) :
    ∃ o, c.getOutgoing ops C cfg fuel draw.now d.maxDNSCatLength draw.packetID draw.privateKey =
        some (.ok ((o, true), c')) ∧
      (q = none ∨ ∃ data, o = some data ∧ data ≠ [] ∧
        q = some (buildDNSQuery draw.queryID (d.encodeDNSName data) draw.dnsType)) := by
  obtain ⟨r, hg, hr⟩ := Option.map_eq_some'.mp h
  obtain ⟨⟨⟨o, b⟩, c₁⟩, rfl, hb⟩ := bind_eq_ok.mp hr
  dsimp only at hb
  split_ifs at hb with hb₁ hb₂
  cases hb
  · rw [Bool.not_eq_true', Bool.not_eq_false] at hb₁
    subst hb₁
    exact ⟨o, hg, .inl rfl⟩
  · rcases o with _ | data
    · exact absurd rfl hb₂
    · rw [Bool.not_eq_true', Bool.not_eq_false] at hb₁
      subst hb₁
      cases hb
      exact ⟨some data, hg, .inr ⟨data, rfl, hb₂, rfl⟩⟩

/-- Every query names a frame a live session emitted, with that session's id, and the
server gets the frame back from the name. -/
theorem doSend_query {d : Driver} {c c' : Controller D} {fuel : Nat} {draw : Draw}
    {query : Bytes} (h : d.doSend ops C cfg c fuel draw = some (.ok (some query, c'))) :
    ∃ s frame s', c.sessions[c'.currentIndex]? = some s ∧ s.isShutdown = false ∧
      s.getOutgoing ops C cfg draw.now d.maxDNSCatLength draw.packetID draw.privateKey =
        .ok (some frame, s') ∧
      peekSessionID frame = .ok s.id ∧
      query = buildDNSQuery draw.queryID (d.encodeDNSName frame) draw.dnsType ∧
      decodeHex (d.removeDomain (d.encodeDNSName frame)) = .ok frame := by
  obtain ⟨o, hg, hq⟩ := doSend_ok h
  rcases hq with hq | ⟨frame, rfl, -, hq⟩
  · cases hq
  obtain ⟨⟨r, c₁⟩, hn, hF⟩ := Option.map_eq_some'.mp hg
  rcases r with _ | s
  · cases hF
  obtain ⟨⟨o, s'⟩, hs, hc⟩ := map_eq_ok.mp hF
  cases hc
  obtain ⟨hget, hlive⟩ := Controller.getNextActive_some hn
  exact ⟨s, frame, s', hget, hlive, hs, Session.getOutgoing_peekSessionID hs, Option.some.inj hq,
    decodeHex_removeDomain_encodeDNSName d frame⟩

theorem doSend_query_syn :
    ∃ (d : Driver) (c c' : Controller ConsoleDriver) (draw : Draw) (query : Bytes),
      d = ⟨ascii "x.io"⟩ ∧ c = ⟨[{ Renegotiation.start with state := .new, encryptor := none }], 0⟩ ∧
      draw = ⟨1, 0, none, 7, typeTXT⟩ ∧
      d.doSend consoleDriver Crypto.zero ⟨0, false, false, []⟩ c 1 draw = some (.ok (some query, c')) ∧
      ∃ s frame s', c.sessions[c'.currentIndex]? = some s ∧ s.isShutdown = false ∧
        s.getOutgoing consoleDriver Crypto.zero ⟨0, false, false, []⟩ draw.now d.maxDNSCatLength
          draw.packetID draw.privateKey = .ok (some frame, s') ∧
        peekSessionID frame = .ok s.id ∧
        query = buildDNSQuery draw.queryID (d.encodeDNSName frame) draw.dnsType ∧
        decodeHex (d.removeDomain (d.encodeDNSName frame)) = .ok frame :=
  ⟨_, _, _, _, _, rfl, rfl, rfl, rfl, @doSend_query _ consoleDriver Crypto.zero ⟨0, false, false, []⟩
    ⟨ascii "x.io"⟩ _ _ 1 ⟨1, 0, none, 7, typeTXT⟩ _ rfl⟩

/-! ### The loop drives the controller through its calls -/

/-- On a timeout turn, the one that runs `Heartbeat`, a query carries the frame of a session
that was live before the heartbeat and within `MaxRetransmits`. -/
theorem timeout_query_within_retransmits {d : Driver} {maxRetransmits : Int} {fuel : Nat}
    {c c' : Controller D} {draw : Draw} {query : Bytes} (hM : 0 ≤ maxRetransmits)
    (h : d.turn ops C cfg maxRetransmits fuel c (.timeout draw) = some (.ok (some query, c'))) :
    ∃ s frame s', c.sessions[c'.currentIndex]? = some s ∧ s.isShutdown = false ∧
      (s.missedTransmissions : Int) ≤ maxRetransmits ∧
      s.getOutgoing ops C cfg draw.now d.maxDNSCatLength draw.packetID draw.privateKey =
        .ok (some frame, s') ∧
      query = buildDNSQuery draw.queryID (d.encodeDNSName frame) draw.dnsType := by
  obtain ⟨s, frame, s', hs, hsh, hg, -, hq, -⟩ := doSend_query h
  obtain ⟨hs₀, hm⟩ := Controller.heartbeat_live hM hs hsh
  exact ⟨s, frame, s', hs₀, hsh, hm, hg, hq⟩

theorem timeout_query_within_retransmits_syn :
    ∃ (c c' : Controller ConsoleDriver) (query : Bytes),
      c = ⟨[{ Renegotiation.start with state := .new, encryptor := none }], 0⟩ ∧
      (0 : Int) ≤ 20 ∧
      (⟨ascii "x.io"⟩ : Driver).turn consoleDriver Crypto.zero ⟨0, false, false, []⟩ 20 1 c
        (.timeout ⟨1, 0, none, 7, typeTXT⟩) = some (.ok (some query, c')) ∧
      ∃ s frame s', c.sessions[c'.currentIndex]? = some s ∧ s.isShutdown = false ∧
        (s.missedTransmissions : Int) ≤ 20 ∧
        s.getOutgoing consoleDriver Crypto.zero ⟨0, false, false, []⟩ 1
          (⟨ascii "x.io"⟩ : Driver).maxDNSCatLength 0 none = .ok (some frame, s') ∧
        query = buildDNSQuery 7 ((⟨ascii "x.io"⟩ : Driver).encodeDNSName frame) typeTXT :=
  ⟨_, _, _, rfl, by decide, rfl, @timeout_query_within_retransmits _ consoleDriver Crypto.zero
    ⟨0, false, false, []⟩ ⟨ascii "x.io"⟩ 20 1 _ _ ⟨1, 0, none, 7, typeTXT⟩ _ (by decide) rfl⟩

/-- Once every session is shut down, the next timeout ends the client with status 0. -/
theorem timeout_goodbye (d : Driver) (maxRetransmits : Int) {fuel : Nat} {c : Controller D}
    (draw : Draw) (hx : c.Inv) (hf : c.sessions.length ≤ fuel)
    (hall : ∀ s ∈ c.sessions, s.isShutdown = true) :
    d.turn ops C cfg maxRetransmits fuel c (.timeout draw) =
      some (.error (.exit 0 "There are no active sessions left! Goodbye!")) := by
  obtain ⟨c', hn⟩ := Controller.getNextActive_all_shutdown hx hf hall
  simp only [Driver.turn, Controller.heartbeat_of_all_shutdown maxRetransmits hall, Driver.doSend,
    Controller.getOutgoing, hn]
  rfl

theorem timeout_goodbye_closed :
    (⟨[{ Renegotiation.start with isShutdown := true }], 0⟩ : Controller ConsoleDriver).Inv ∧
      [{ Renegotiation.start with isShutdown := true }].length ≤ 1 ∧
      (∀ s ∈ [{ Renegotiation.start with isShutdown := true }], s.isShutdown = true) ∧
      (⟨ascii "x.io"⟩ : Driver).turn consoleDriver Crypto.zero ⟨0, false, false, []⟩ 20 1
        ⟨[{ Renegotiation.start with isShutdown := true }], 0⟩ (.timeout ⟨1, 0, none, 7, typeTXT⟩) =
        some (.error (.exit 0 "There are no active sessions left! Goodbye!")) :=
  have hall : ∀ s ∈ [{ Renegotiation.start with isShutdown := true }], s.isShutdown = true := by
    simp
  ⟨.inr rfl, by decide, hall, timeout_goodbye _ _ _ (.inr rfl) (by decide) hall⟩

section Steps

variable {E : Type} {feed : D → E → D} {maxRetransmits : Int} {fuel : Nat}

theorem steps_getOutgoing {c c' : Controller D} {now : Nat} {m : Int} {pid : UInt16}
    {k : Option Bytes} {o : Option Bytes × Bool}
    (hg : c.getOutgoing ops C cfg fuel now m pid k = some (.ok (o, c'))) :
    c.steps ops C cfg feed maxRetransmits fuel [.getOutgoing now m pid k] = some (.ok c') := by
  simp [Controller.steps, Controller.step, hg, Functor.map, Except.map]

theorem steps_dataIncoming {c c' : Controller D} {data : Bytes} {b : Bool}
    (hd : c.dataIncoming ops C cfg data = .ok (c', b)) (as : List (Controller.Action D E)) :
    c.steps ops C cfg feed maxRetransmits fuel (.dataIncoming data :: as) =
      c'.steps ops C cfg feed maxRetransmits fuel as := by
  simp [Controller.steps, Controller.step, hd, Functor.map, Except.map]

theorem doSend_steps {d : Driver} {c c' : Controller D} {draw : Draw} {q : Option Bytes}
    (h : d.doSend ops C cfg c fuel draw = some (.ok (q, c'))) :
    c.steps ops C cfg feed maxRetransmits fuel
      [.getOutgoing draw.now d.maxDNSCatLength draw.packetID draw.privateKey] = some (.ok c') :=
  let ⟨_, hg, _⟩ := doSend_ok h
  steps_getOutgoing hg

variable (feed) in
/-- A turn that returns is a run of the controller's calls that registers nothing. -/
theorem turn_steps {d : Driver} {c c' : Controller D} {input : Input} {q : Option Bytes}
    (h : d.turn ops C cfg maxRetransmits fuel c input = some (.ok (q, c'))) :
    ∃ as : List (Controller.Action D E), (∀ R, Controller.registered R as = R) ∧
      c.steps ops C cfg feed maxRetransmits fuel as = some (.ok c') := by
  cases input with
  | timeout draw =>
    exact ⟨[.heartbeat, .getOutgoing draw.now d.maxDNSCatLength draw.packetID draw.privateKey],
      fun _ => rfl, doSend_steps h⟩
  | readError => cases h; exact ⟨[], fun _ => rfl, rfl⟩
  | datagram bytes draw =>
    obtain ⟨r, -, hr⟩ := Option.bind_eq_some.mp h
    rcases r with _ | response
    · cases hr; exact ⟨[], fun _ => rfl, rfl⟩
    dsimp only at hr
    split_ifs at hr with h₁ h₂
    · cases hr; exact ⟨[], fun _ => rfl, rfl⟩
    · cases hr; exact ⟨[], fun _ => rfl, rfl⟩
    split at hr
    · cases hr
    · cases hr; exact ⟨[], fun _ => rfl, rfl⟩
    rename_i data _
    split_ifs at hr with h₃
    · split at hr
      · cases hr
      · rename_i c₁ hd
        refine ⟨[.dataIncoming data,
          .getOutgoing draw.now d.maxDNSCatLength draw.packetID draw.privateKey], fun _ => rfl, ?_⟩
        rw [steps_dataIncoming hd]
        exact doSend_steps hr
      · rename_i c₁ hd
        cases hr
        refine ⟨[.dataIncoming data], fun _ => rfl, ?_⟩
        rw [steps_dataIncoming hd]
        rfl
    · exact ⟨[.getOutgoing draw.now d.maxDNSCatLength draw.packetID draw.privateKey],
        fun _ => rfl, doSend_steps hr⟩

theorem steps_append {c c₁ : Controller D} :
    ∀ {as₁ : List (Controller.Action D E)} (as₂ : List (Controller.Action D E)),
      c.steps ops C cfg feed maxRetransmits fuel as₁ = some (.ok c₁) →
        c.steps ops C cfg feed maxRetransmits fuel (as₁ ++ as₂) =
          c₁.steps ops C cfg feed maxRetransmits fuel as₂
  | [], _, h => by cases h; rfl
  | a :: as₁, as₂, h => by
    obtain ⟨r, h₁, h₂⟩ := Option.bind_eq_some.mp h
    rcases r with e | c₂
    · cases h₂
    · rw [List.cons_append, Controller.steps, h₁, Option.some_bind]
      exact steps_append as₂ h₂

theorem registered_append (R : List (Session D)) :
    ∀ as₁ as₂ : List (Controller.Action D E),
      Controller.registered R (as₁ ++ as₂) =
        Controller.registered (Controller.registered R as₁) as₂
  | [], _ => rfl
  | a :: as₁, as₂ => by
    rw [List.cons_append, Controller.registered_cons, Controller.registered_cons R a as₁]
    exact registered_append _ as₁ as₂

theorem steps_then {c c₁ c' : Controller D} {as₁ as₂ : List (Controller.Action D E)}
    {L : List (Controller.Action D E)}
    (hs₁ : c.steps ops C cfg feed maxRetransmits fuel as₁ = some (.ok c₁))
    (hreg₁ : ∀ R, Controller.registered R as₁ = R)
    (hreg₂ : ∀ R, Controller.registered R as₂ = Controller.registered R L)
    (hs₂ : c₁.steps ops C cfg feed maxRetransmits fuel as₂ = some (.ok c')) :
    ∃ as : List (Controller.Action D E),
      (∀ R, Controller.registered R as = Controller.registered R L) ∧
        c.steps ops C cfg feed maxRetransmits fuel as = some (.ok c') :=
  ⟨as₁ ++ as₂, fun R => by rw [registered_append, hreg₁, hreg₂],
    by rw [steps_append as₂ hs₁]; exact hs₂⟩

/-- The loop is a run of the controller with the same registrations. -/
theorem loop_steps {d : Driver} :
    ∀ {es : List (Event D E)} {c c' : Controller D} {sent : List Bytes},
      d.loop ops C cfg feed maxRetransmits fuel c es = some (.ok (sent, c')) →
        ∃ as : List (Controller.Action D E),
          (∀ R, Controller.registered R as = Controller.registered R (es.filterMap Event.other?)) ∧
            c.steps ops C cfg feed maxRetransmits fuel as = some (.ok c')
  | [], _, _, _, h => by cases h; exact ⟨[], fun _ => rfl, rfl⟩
  | .turn input :: es, c, c', sent, h => by
    obtain ⟨r, h₁, h₂⟩ := Option.bind_eq_some.mp h
    rcases r with e | ⟨q, c₁⟩
    · cases h₂
    obtain ⟨r', h₃, h₄⟩ := Option.map_eq_some'.mp h₂
    rcases r' with e | ⟨sent', c₂⟩
    · cases h₄
    cases h₄
    obtain ⟨as₁, hreg₁, hs₁⟩ := turn_steps feed h₁
    obtain ⟨as₂, hreg₂, hs₂⟩ := loop_steps h₃
    exact steps_then hs₁ hreg₁ hreg₂ hs₂
  | .other a :: es, c, c', sent, h => by
    obtain ⟨r, h₁, h₂⟩ := Option.bind_eq_some.mp h
    rcases r with e | c₁
    · cases h₂
    obtain ⟨as, hreg, hs⟩ := loop_steps h₂
    refine ⟨a :: as, fun R => ?_, by rw [Controller.steps, h₁, Option.some_bind]; exact hs⟩
    rw [Controller.registered_cons, hreg]
    exact (Controller.registered_cons R a _).symm

theorem run_steps {d : Driver} {draw : Draw} {es : List (Event D E)} {c c' : Controller D}
    {sent : List Bytes} (h : d.run ops C cfg feed maxRetransmits fuel c draw es = some (.ok (sent, c'))) :
    ∃ as : List (Controller.Action D E),
      (∀ R, Controller.registered R as = Controller.registered R (es.filterMap Event.other?)) ∧
        c.steps ops C cfg feed maxRetransmits fuel as = some (.ok c') := by
  obtain ⟨r, h₁, h₂⟩ := Option.bind_eq_some.mp h
  rcases r with e | ⟨q, c₁⟩
  · cases h₂
  obtain ⟨r', h₃, h₄⟩ := Option.map_eq_some'.mp h₂
  rcases r' with e | ⟨sent', c₂⟩
  · cases h₄
  cases h₄
  obtain ⟨as, hreg, hs⟩ := loop_steps h₃
  exact steps_then (doSend_steps h₁) (fun _ => rfl) hreg hs

end Steps

/-- Over every run of the client, each place of the controller's list holds the session
registered there since the last `Destroy`, moved on only by its own steps and by kills, and
every frame handed to it carries its id. -/
theorem client_refines_sessions {E : Type} (feed : D → E → D) (d : Driver) (maxRetransmits : Int)
    (fuel : Nat) (draw : Draw) {c₀ c : Controller D} {es : List (Event D E)} {sent : List Bytes}
    (h : d.run ops C cfg feed maxRetransmits fuel c₀ draw es = some (.ok (sent, c))) :
    (Controller.registered c₀.sessions (es.filterMap Event.other?)).length = c.sessions.length ∧
      ∀ i s₀ s, (Controller.registered c₀.sessions (es.filterMap Event.other?))[i]? = some s₀ →
        c.sessions[i]? = some s →
        Session.Evolves ops C cfg feed
          (Controller.Routed (Controller.registered c₀.sessions (es.filterMap Event.other?)) i) s₀ s := by
  obtain ⟨as, hreg, hs⟩ := run_steps h
  rw [← hreg]
  exact Controller.steps_refines (Controller.refines_refl _) hs

theorem client_refines_sessions_syn :
    ∃ (c₀ : Controller ConsoleDriver) (es : List (Event ConsoleDriver Stdin)) (sent : List Bytes)
      (c : Controller ConsoleDriver),
      c₀ = ⟨[{ Renegotiation.start with state := .new, encryptor := none }], 0⟩ ∧
      es = [.turn (.timeout ⟨2, 1, none, 8, typeTXT⟩), .other (.driver 0 (.read [1, 2])),
        .other (.addSession { Renegotiation.start with id := 2, state := .new, encryptor := none }),
        .turn .readError] ∧
      (⟨ascii "x.io"⟩ : Driver).run consoleDriver Crypto.zero ⟨0, false, false, []⟩
        ConsoleDriver.feed 20 2 c₀ ⟨1, 0, none, 7, typeTXT⟩ es = some (.ok (sent, c)) ∧
      ((Controller.registered c₀.sessions (es.filterMap Event.other?)).length = c.sessions.length ∧
        ∀ i s₀ s, (Controller.registered c₀.sessions (es.filterMap Event.other?))[i]? = some s₀ →
          c.sessions[i]? = some s →
          Session.Evolves consoleDriver Crypto.zero ⟨0, false, false, []⟩ ConsoleDriver.feed
            (Controller.Routed (Controller.registered c₀.sessions (es.filterMap Event.other?)) i) s₀ s) :=
  ⟨_, _, _, _, rfl, rfl, rfl,
    client_refines_sessions ConsoleDriver.feed ⟨ascii "x.io"⟩ 20 2 ⟨1, 0, none, 7, typeTXT⟩ rfl⟩

end Dnscat2.Dns
