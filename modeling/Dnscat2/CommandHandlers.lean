import Dnscat2.CommandStream
import Dnscat2.SessionSpec

/-!
The command driver's handlers (`pkg/driver/command`, driver file). `handlePacket` switches on
the command id; each handler answers a request with one response, or with none, and leaves
every packet that is not a request unanswered. What the handlers reach outside the driver is
`Env`: the callbacks the service installs, the file system, the network and the platform. A
TUNNEL_DATA or TUNNEL_CLOSE request locks `d.mu`, which `processPackets` holds while it runs
the handler, so its handler blocks for good. The reader goroutine of a tunnel, and
`closeTunnel`, queue requests of the client's own under ids from `nextRequestID`.

For request frames none of which blocks, however the server's bytes are cut, the driver
queues one response for each request but a COMMAND_ERROR one, in order, under the request's
id, and each response is a frame the protocol's `ReadPacket` reads back whole.
-/

namespace Dnscat2.Command

/-- What the handlers reach outside the driver: the callbacks (`none` when nil), the file
system, `net.Dial` and `runtime.GOOS`. -/
structure Env where
  createSession : Option (Bytes → Bytes → UInt16)
  onShutdown : Option (Except Halt Unit)
  onDelayChange : Bool
  readFile : Bytes → Option Bytes
  writeFile : Bytes → Bytes → Bool
  dial : Bytes → UInt16 → Bool
  isWindows : Bool

namespace Driver

variable (env : Env)

/-- The 32-bit counter moves on, and the id is its low 16 bits. -/
def nextRequestID (c : Core) : UInt16 × Core :=
  ((c.requestID + 1).toUInt16, { c with requestID := c.requestID + 1 })

def nextTunnelID (c : Core) : UInt32 × Core :=
  (c.tunnelID + 1, { c with tunnelID := c.tunnelID + 1 })

/-- The `if !pkt.IsRequest { return nil }` that every handler but the error one starts with. -/
def onRequest (c : Core) (pkt : Packet) (handle : Except Halt (Core × Option Packet)) :
    Except Halt (Core × Option Packet) :=
  if pkt.isRequest then handle else .ok (c, none)

def handlePing (c : Core) (pkt : Packet) : Except Halt (Core × Option Packet) :=
  onRequest c pkt <|
    (fun r => (c, some (createPingResponse pkt.requestID r.data))) <$> deref pkt.pingRequest

def handleShell (c : Core) (pkt : Packet) : Except Halt (Core × Option Packet) :=
  onRequest c pkt <|
    match env.createSession with
    | none =>
      .ok (c, some (createErrorResponse pkt.requestID 0xFFFF (ascii "Session creation not supported")))
    | some createSession =>
      let shellCmd := ascii (if env.isWindows then "cmd.exe" else "sh")
      .ok (c, some (createShellResponse pkt.requestID (createSession shellCmd shellCmd)))

def handleExec (c : Core) (pkt : Packet) : Except Halt (Core × Option Packet) :=
  onRequest c pkt <|
    match env.createSession with
    | none =>
      .ok (c, some (createErrorResponse pkt.requestID 0xFFFF (ascii "Session creation not supported")))
    | some createSession =>
      (fun r => (c, some (createExecResponse pkt.requestID (createSession r.name r.command)))) <$>
        deref pkt.execRequest

def handleDownload (c : Core) (pkt : Packet) : Except Halt (Core × Option Packet) :=
  onRequest c pkt <|
    (fun r => (c, some (match env.readFile r.filename with
      | none => createErrorResponse pkt.requestID 0xFFFF (ascii "Error opening file for reading")
      | some data => createDownloadResponse pkt.requestID data))) <$> deref pkt.downloadRequest

def handleUpload (c : Core) (pkt : Packet) : Except Halt (Core × Option Packet) :=
  onRequest c pkt <|
    (fun r => (c, some (if env.writeFile r.filename r.data then createUploadResponse pkt.requestID
      else createErrorResponse pkt.requestID 0xFFFF (ascii "Error opening file for writing")))) <$>
      deref pkt.uploadRequest

def handleShutdown (c : Core) (pkt : Packet) : Except Halt (Core × Option Packet) :=
  onRequest c pkt <|
    (fun _ => (c, some (createShutdownResponse pkt.requestID))) <$> env.onShutdown.getD (.ok ())

def handleDelay (c : Core) (pkt : Packet) : Except Halt (Core × Option Packet) :=
  onRequest c pkt <|
    (fun _ => (c, some (createDelayResponse pkt.requestID))) <$>
      if env.onDelayChange then (fun _ => ()) <$> deref pkt.delayRequest else .ok ()

/-- `d.tunnels[tunnelID] = tunnel`: a tunnel of the same id is replaced. -/
def insertTunnel (t : Tunnel) (tunnels : List Tunnel) : List Tunnel :=
  t :: tunnels.filter (·.id != t.id)

def handleTunnelConnect (c : Core) (pkt : Packet) : Except Halt (Core × Option Packet) :=
  onRequest c pkt <|
    (fun r =>
      if env.dial r.host r.port then
        let (tunnelID, c) := nextTunnelID c
        ({ c with tunnels := insertTunnel ⟨tunnelID, r.host, r.port⟩ c.tunnels },
          some (createTunnelConnectResponse pkt.requestID tunnelID))
      else (c, some (createErrorResponse pkt.requestID tunnelStatusFail
        (ascii "The dnscat2 client couldn't connect to the remote host!")))) <$>
      deref pkt.tunnelConnectRequest

/-- A request locks `d.mu`, which `processPackets` holds: it blocks. -/
def handleTunnelData (c : Core) (pkt : Packet) : Except Halt (Core × Option Packet) :=
  onRequest c pkt (.error .deadlock)

def handleTunnelClose (c : Core) (pkt : Packet) : Except Halt (Core × Option Packet) :=
  onRequest c pkt (.error .deadlock)

def handleError (c : Core) (pkt : Packet) : Except Halt (Core × Option Packet) :=
  (fun _ => (c, none)) <$>
    if pkt.isRequest then (fun _ => ()) <$> deref pkt.errorRequest
    else (fun _ => ()) <$> deref pkt.errorResponse

def handlePacket : Handler := fun c pkt =>
  if pkt.commandID = commandPing then handlePing c pkt
  else if pkt.commandID = commandShell then handleShell env c pkt
  else if pkt.commandID = commandExec then handleExec env c pkt
  else if pkt.commandID = commandDownload then handleDownload env c pkt
  else if pkt.commandID = commandUpload then handleUpload env c pkt
  else if pkt.commandID = commandShutdown then handleShutdown env c pkt
  else if pkt.commandID = commandDelay then handleDelay env c pkt
  else if pkt.commandID = tunnelConnect then handleTunnelConnect env c pkt
  else if pkt.commandID = tunnelData then handleTunnelData c pkt
  else if pkt.commandID = tunnelClose then handleTunnelClose c pkt
  else if pkt.commandID = commandError then handleError c pkt
  else .ok (c, some (createErrorResponse pkt.requestID 0xFFFF (ascii "Not implemented yet!")))

/-- A read that returns bytes queues a TUNNEL_DATA request under the next request id. -/
def tunnelRead (c : Core) (tunnelID : UInt32) (data : Bytes) : Core :=
  if data = [] then c
  else
    let (requestID, c) := nextRequestID c
    { c with outgoingData := c.outgoingData ++ (createTunnelDataRequest requestID tunnelID data).toBytes }

def closeTunnel (c : Core) (tunnelID : UInt32) (reason : Bytes) : Core :=
  if c.tunnels.any (·.id == tunnelID) then
    let (requestID, c) := nextRequestID { c with tunnels := c.tunnels.filter (·.id != tunnelID) }
    { c with outgoingData := c.outgoingData ++
        (createTunnelCloseRequest requestID tunnelID reason).toBytes }
  else c

/-- A step of a tunnel's reader goroutine: a read, or the error (`EOF` included) ending it. -/
inductive TunnelEvent
  | read (tunnelID : UInt32) (data : Bytes)
  | error (tunnelID : UInt32)

def feed (d : Driver) : TunnelEvent → Driver
  | .read tunnelID data => { d with core := tunnelRead d.core tunnelID data }
  | .error tunnelID =>
    { d with core := closeTunnel d.core tunnelID (ascii "Server closed the connection") }

end Driver

/-- A response to the request `p`: under its id, in the other direction, of its command or
COMMAND_ERROR, and a frame `ReadPacket` reads back whole. -/
def Answers (p r : Packet) : Prop :=
  r.requestID = p.requestID ∧ r.isRequest = false ∧
    (r.commandID = p.commandID ∨ r.commandID = commandError) ∧ r.Valid

def Answered (p : Packet) : Bool := p.isRequest && p.commandID != commandError

/-- A packet whose handler returns. -/
def Env.Returns (env : Env) (p : Packet) : Prop :=
  p.isRequest = true → p.commandID ≠ tunnelData ∧ p.commandID ≠ tunnelClose ∧
    (p.commandID = commandShutdown → ∀ h, env.onShutdown ≠ some (.error h))

namespace Driver

variable {env : Env}

theorem answers_of_eq {p : Packet} (hp : p.requestID.toNat < 0x8000) (b : Body) (hb : b.Valid)
    {r : Packet} (hr : r = b.toPacket p.requestID) (hreq : r.isRequest = false)
    (hcmd : r.commandID = p.commandID ∨ r.commandID = commandError) : Answers p r := by
  subst hr
  exact ⟨Body.toPacket_requestID _ _, hreq, hcmd, by rw [Body.toPacket_requestID]; exact hp, b, hb,
    by rw [Body.toPacket_requestID]⟩

/-- A valid packet whose handler returns is answered exactly when it is a request other
than COMMAND_ERROR. -/
theorem handlePacket_valid {c : Core} {p : Packet} (hp : p.Valid) (hr : env.Returns p) :
    ∃ c' o, handlePacket env c p = .ok (c', o) ∧ c'.outgoingData = c.outgoingData ∧
      c'.requestID = c.requestID ∧ (o = none ∧ Answered p = false ∨ ∃ r, o = some r ∧ Answered p = true ∧ Answers p r) := by
  obtain ⟨hrid, b, hb, hpb⟩ := hp
  generalize p.requestID = rid at hrid hpb
  subst hpb
  cases b <;> simp [handlePacket, Body.toPacket, commandPing, commandShell, commandExec,
    commandDownload, commandUpload, commandShutdown, commandDelay, tunnelConnect, tunnelData,
    tunnelClose, commandError, handlePing, handleShell, handleExec, handleDownload, handleUpload,
    handleShutdown, handleDelay, handleTunnelConnect, handleTunnelData, handleTunnelClose,
    handleError, onRequest, Answered, Env.Returns, deref, Functor.map, Except.map] at hr ⊢
  case pingRequest b =>
    exact ⟨_, _, ⟨rfl, rfl⟩, rfl, rfl, _, rfl,
      answers_of_eq hrid (.pingResponse ⟨b.data⟩) hb rfl rfl (.inl rfl)⟩
  case shellRequest b =>
    split
    · exact ⟨_, _, rfl, rfl, rfl, _, rfl, answers_of_eq hrid
        (.errorResponse ⟨0xFFFF, ascii "Session creation not supported"⟩)
        (show 0 ∉ ascii "Session creation not supported" by decide) rfl rfl
        (.inr rfl)⟩
    · exact ⟨_, _, rfl, rfl, rfl, _, rfl, answers_of_eq hrid (.shellResponse ⟨_⟩) trivial rfl rfl
        (.inl rfl)⟩
  case execRequest b =>
    split
    · exact ⟨_, _, rfl, rfl, rfl, _, rfl, answers_of_eq hrid
        (.errorResponse ⟨0xFFFF, ascii "Session creation not supported"⟩)
        (show 0 ∉ ascii "Session creation not supported" by decide) rfl rfl
        (.inr rfl)⟩
    · exact ⟨_, _, rfl, rfl, rfl, _, rfl, answers_of_eq hrid (.execResponse ⟨_⟩) trivial rfl rfl
        (.inl rfl)⟩
  case downloadRequest b =>
    refine ⟨_, _, ⟨rfl, rfl⟩, rfl, rfl, _, rfl, ?_⟩
    split
    · exact answers_of_eq hrid (.errorResponse ⟨0xFFFF, ascii "Error opening file for reading"⟩)
        (show 0 ∉ ascii "Error opening file for reading" by decide) rfl rfl (.inr rfl)
    · exact answers_of_eq hrid (.downloadResponse ⟨_⟩) trivial rfl rfl (.inl rfl)
  case uploadRequest b =>
    refine ⟨_, _, ⟨rfl, rfl⟩, rfl, rfl, _, rfl, ?_⟩
    split
    · exact answers_of_eq hrid .uploadResponse trivial rfl rfl (.inl rfl)
    · exact answers_of_eq hrid (.errorResponse ⟨0xFFFF, ascii "Error opening file for writing"⟩)
        (show 0 ∉ ascii "Error opening file for writing" by decide) rfl rfl (.inr rfl)
  case shutdownRequest =>
    obtain ⟨u, hu⟩ : ∃ u, env.onShutdown.getD (.ok ()) = .ok u := by
      rcases h : env.onShutdown with _ | (e | u)
      · exact ⟨(), rfl⟩
      · exact absurd h (hr e)
      · exact ⟨u, rfl⟩
    rw [hu]
    exact ⟨_, _, rfl, rfl, rfl, _, rfl, answers_of_eq hrid .shutdownResponse trivial rfl rfl (.inl rfl)⟩
  case delayRequest b =>
    exact ⟨_, _, ⟨rfl, rfl⟩, rfl, rfl, _, rfl, answers_of_eq hrid .delayResponse trivial rfl rfl (.inl rfl)⟩
  case tunnelConnectRequest b =>
    split
    · exact ⟨_, _, rfl, rfl, rfl, _, rfl,
        answers_of_eq hrid (.tunnelConnectResponse ⟨0, _⟩) rfl rfl rfl (.inl rfl)⟩
    · exact ⟨_, _, rfl, rfl, rfl, _, rfl, answers_of_eq hrid (.errorResponse ⟨tunnelStatusFail,
        ascii "The dnscat2 client couldn't connect to the remote host!"⟩)
        (show 0 ∉ ascii "The dnscat2 client couldn't connect to the remote host!" by decide)
        rfl rfl (.inr rfl)⟩
  all_goals exact ⟨_, _, ⟨rfl, rfl⟩, rfl, rfl, rfl⟩

theorem foldlM_answers (ps : List Packet) (hps : ∀ p ∈ ps, p.Valid)
    (hr : ∀ p ∈ ps, env.Returns p) (c : Core) :
    ∃ c' rs, ps.foldlM (dispatch (handlePacket env)) c = .ok c' ∧
      c'.outgoingData = c.outgoingData ++ streamOf rs ∧ c'.requestID = c.requestID ∧
      List.Forall₂ Answers (ps.filter Answered) rs := by
  induction ps generalizing c with
  | nil => exact ⟨c, [], rfl, by simp, rfl, .nil⟩
  | cons p ps ih =>
    obtain ⟨c₁, o, hh, hq, hid, ho⟩ :=
      @handlePacket_valid env c p (hps p (.head _)) (hr p (.head _))
    have hps' : ∀ q ∈ ps, q.Valid := fun q h => hps q (.tail _ h)
    have hr' : ∀ q ∈ ps, env.Returns q := fun q h => hr q (.tail _ h)
    rw [List.foldlM_cons]
    rcases ho with ⟨rfl, hA⟩ | ⟨r, rfl, hA, hans⟩
    · have hd : dispatch (handlePacket env) c p = .ok c₁ := by rw [dispatch, hh]; rfl
      obtain ⟨c', rs, hf, hq', hid', hrs⟩ := ih hps' hr' c₁
      refine ⟨c', rs, by rw [hd]; exact hf, by rw [hq', hq], hid'.trans hid, ?_⟩
      rwa [List.filter_cons_of_neg (by rw [hA]; decide)]
    · have hd : dispatch (handlePacket env) c p =
          .ok { c₁ with outgoingData := c₁.outgoingData ++ r.toBytes } := by
        rw [dispatch, hh]; rfl
      obtain ⟨c', rs, hf, hq', hid', hrs⟩ :=
        ih hps' hr' { c₁ with outgoingData := c₁.outgoingData ++ r.toBytes }
      refine ⟨c', r :: rs, by rw [hd]; exact hf, ?_, hid'.trans hid, ?_⟩
      · rw [hq', streamOf_cons, ← List.append_assoc]
        exact congrArg (· ++ _) (congrArg (· ++ _) hq)
      · rw [List.filter_cons_of_pos hA]
        exact .cons hans hrs

/-! ### The handlers that block -/

theorem deref_ne_deadlock {α : Type} (o : Option α) : deref o ≠ .error .deadlock := by
  cases o <;> simp [deref]

theorem map_ne_deadlock {α β : Type} {g : α → β} {x : Except Halt α}
    (h : x ≠ .error .deadlock) : g <$> x ≠ .error .deadlock := by
  cases x <;> simp_all [Functor.map, Except.map]

theorem onRequest_ne_deadlock {c : Core} {pkt : Packet} {x : Except Halt (Core × Option Packet)}
    (h : x ≠ .error .deadlock) : onRequest c pkt x ≠ .error .deadlock := by
  unfold onRequest; split_ifs <;> simp_all

/-- With the SHUTDOWN callback blocking, the packets whose handler blocks are the SHUTDOWN,
TUNNEL_DATA and TUNNEL_CLOSE requests. -/
theorem handlePacket_deadlock (henv : env.onShutdown = some (.error .deadlock)) (c : Core)
    (f : Packet) : handlePacket env c f = .error .deadlock ↔ f.isRequest = true ∧
      (f.commandID = tunnelData ∨ f.commandID = tunnelClose ∨ f.commandID = commandShutdown) := by
  by_cases hb : f.commandID = tunnelData ∨ f.commandID = tunnelClose ∨ f.commandID = commandShutdown
  · -- the three handlers that block on a request
    simp only [hb, and_true]
    rcases hb with h | h | h <;>
      simp [handlePacket, h, commandPing, commandShell, commandExec, commandDownload, commandUpload,
        commandShutdown, commandDelay, tunnelConnect, tunnelData, tunnelClose, handleTunnelData,
        handleTunnelClose, handleShutdown, henv, onRequest, Functor.map, Except.map]
  · -- every other handler returns or panics
    refine iff_of_false ?_ fun h => hb h.2
    simp only [handlePacket]
    by_cases h₁ : f.commandID = commandPing
    · rw [if_pos h₁]; exact onRequest_ne_deadlock (map_ne_deadlock (deref_ne_deadlock _))
    rw [if_neg h₁]
    by_cases h₂ : f.commandID = commandShell
    · rw [if_pos h₂, handleShell]; exact onRequest_ne_deadlock (by split <;> simp)
    rw [if_neg h₂]
    by_cases h₃ : f.commandID = commandExec
    · rw [if_pos h₃, handleExec]
      exact onRequest_ne_deadlock (by split; simp; exact map_ne_deadlock (deref_ne_deadlock _))
    rw [if_neg h₃]
    by_cases h₄ : f.commandID = commandDownload
    · rw [if_pos h₄]; exact onRequest_ne_deadlock (map_ne_deadlock (deref_ne_deadlock _))
    rw [if_neg h₄]
    by_cases h₅ : f.commandID = commandUpload
    · rw [if_pos h₅]; exact onRequest_ne_deadlock (map_ne_deadlock (deref_ne_deadlock _))
    rw [if_neg h₅, if_neg fun h => hb (.inr (.inr h))]
    by_cases h₇ : f.commandID = commandDelay
    · rw [if_pos h₇, handleDelay]
      exact onRequest_ne_deadlock (map_ne_deadlock
        (by split; exact map_ne_deadlock (deref_ne_deadlock _); simp))
    rw [if_neg h₇]
    by_cases h₈ : f.commandID = tunnelConnect
    · rw [if_pos h₈]; exact onRequest_ne_deadlock (map_ne_deadlock (deref_ne_deadlock _))
    rw [if_neg h₈, if_neg fun h => hb (.inl h), if_neg fun h => hb (.inr (.inl h))]
    by_cases h₁₁ : f.commandID = commandError
    · rw [if_pos h₁₁, handleError]
      exact map_ne_deadlock (by split <;> exact map_ne_deadlock (deref_ne_deadlock _))
    rw [if_neg h₁₁]
    simp

theorem pending_nil (ps : List Packet) : Pending [] ps := by
  cases ps with
  | nil => rfl
  | cons p _ =>
    refine ⟨List.nil_prefix, ?_⟩
    rw [toBytes_eq]
    simp only [List.length_append, length_putUint32, List.length_nil]
    omega

end Driver

/-- However the server's request frames are cut into chunks, as long as no handler blocks,
the command driver queues one response for each request but a COMMAND_ERROR one, in the
order of the requests: under the request's id, marked as a response, of the request's
command or COMMAND_ERROR, and valid, so that `ReadPacket` reads each back whole. It answers
no packet that is not a request. -/
theorem dataReceived_answers (env : Env) (ps : List Packet) (hps : ∀ p ∈ ps, p.Valid)
    (hr : ∀ p ∈ ps, env.Returns p) (chunks : List Bytes) (hc : chunks.flatten = streamOf ps)
    (hlen : (streamOf ps).length < 2 ^ 32) (c : Core) :
    ∃ c' rs, chunks.foldlM (Driver.dataReceived (Driver.handlePacket env)) ⟨[], c⟩ =
        .ok ⟨[], c'⟩ ∧
      c'.outgoingData = c.outgoingData ++ streamOf rs ∧
      List.Forall₂ Answers (ps.filter Answered) rs := by
  obtain ⟨c', rs, hf, hq, -, hrs⟩ := Driver.foldlM_answers ps hps hr c
  refine ⟨c', rs, ?_, hq, hrs⟩
  rw [foldlM_dataReceived (Driver.handlePacket env) chunks ps [] c hps (Driver.pending_nil ps)
    (by rw [List.nil_append]; exact hc) hlen, hf]
  rfl

theorem dataReceived_answers_ping :
    ∃ c' rs, [streamOf [(Body.pingRequest ⟨[1, 2]⟩).toPacket 5]].foldlM
        (Driver.dataReceived (Driver.handlePacket ⟨none, none, false, fun _ => none,
          fun _ _ => false, fun _ _ => false, false⟩)) ⟨[], Driver.new.core⟩ = .ok ⟨[], c'⟩ ∧
      c'.outgoingData = Driver.new.core.outgoingData ++ streamOf rs ∧
      List.Forall₂ Answers ([(Body.pingRequest ⟨[1, 2]⟩).toPacket 5].filter Answered) rs :=
  dataReceived_answers _ _
    (fun p hp => by
      rw [List.mem_singleton.mp hp]
      exact ⟨by decide, .pingRequest ⟨[1, 2]⟩, show (0 : UInt8) ∉ [1, 2] by decide, rfl⟩)
    (fun p hp _ => by
      rw [List.mem_singleton.mp hp]
      exact ⟨by decide, by decide, fun h => absurd h (by decide)⟩)
    _ (List.flatten_singleton _) (by decide) _

end Dnscat2.Command
