import Dnscat2.CommandHandlers

/-!
The mutexes on the path of a frame from the transport to the command driver's handlers,
and the order in which each call on that path takes them. Each function of the path has
its lock skeleton here, under its own name: the `Lock` and `Unlock` calls it makes, in
order, with the calls it makes in between. Go's `sync.Mutex` is not reentrant, so a call
chain that locks a mutex it already holds blocks for ever.

`processPackets` holds the command driver's `d.mu` for its whole loop, and the handlers
of a TUNNEL_DATA or TUNNEL_CLOSE request lock `d.mu` again. `Session.DataIncoming` holds
the command session's `s.mu` while the driver handles the data, and the SHUTDOWN
request's callback, `KillAllSessions`, asks every session, that one included, whether it
is shut down, under its `s.mu`. So each of these three requests, arriving in a MSG of the
command session, blocks the call chain that carries it.
-/

namespace Dnscat2

/-- The controller's mutex, and the `i`-th session's `s.mu` and its driver's `d.mu`. -/
inductive Mutex
  | controller
  | session (i : Nat)
  | driver (i : Nat)
deriving DecidableEq, Repr

inductive LockOp
  | acquire (m : Mutex)
  | release (m : Mutex)
deriving DecidableEq, Repr

/-- The mutexes held at the end, or the one the chain blocks on, taken while held. -/
def runLocks (held : List Mutex) : List LockOp → Except Mutex (List Mutex)
  | [] => .ok held
  | .acquire m :: ops => if m ∈ held then .error m else runLocks (m :: held) ops
  | .release m :: ops => runLocks (held.erase m) ops

section Semantics

variable {held : List Mutex} {m : Mutex} {ops ops' : List LockOp}

theorem runLocks_append (held : List Mutex) (ops ops' : List LockOp) :
    runLocks held (ops ++ ops') = (runLocks held ops).bind fun h => runLocks h ops' := by
  induction ops generalizing held with
  | nil => rfl
  | cons o ops ih =>
    cases o with
    | acquire m => by_cases hm : m ∈ held <;> simp [runLocks, hm, ih, Except.bind]
    | release m => exact ih _

@[simp] theorem runLocks_acquire_release (hm : m ∉ held) :
    runLocks held (.acquire m :: .release m :: ops) = runLocks held ops := by
  simp [runLocks, hm]

theorem runLocks_acquire_held (hm : m ∈ held) : runLocks held (.acquire m :: ops) = .error m := by
  simp [runLocks, hm]

theorem runLocks_append_error (h : runLocks held ops = .error m) :
    runLocks held (ops ++ ops') = .error m := by
  rw [runLocks_append, h]; rfl

end Semantics

namespace Locks

open Command

def isShutdown (i : Nat) : List LockOp := [.acquire (.session i), .release (.session i)]

def close (i : Nat) : List LockOp := [.acquire (.driver i), .release (.driver i)]

def kill (i : Nat) (isShutdown : Bool) : List LockOp := if isShutdown then [] else close i

/-- The loop of `KillAllSessions` from the `j`-th session, over the `isShutdown` flags. -/
def killAllSessionsFrom (j : Nat) : List Bool → List LockOp
  | [] => []
  | b :: bs => isShutdown j ++ (if b then [] else kill j b) ++ killAllSessionsFrom (j + 1) bs

def killAllSessions (shut : List Bool) : List LockOp :=
  .acquire .controller :: killAllSessionsFrom 0 shut ++ [.release .controller]

/-- `AddSession`, which the `CreateSession` callback ends with. -/
def addSession : List LockOp := [.acquire .controller, .release .controller]

/-- The locks of the handlers, with the service's callbacks: TUNNEL_DATA takes `d.mu` for
its lookup, TUNNEL_CLOSE for its lookup and again to close a tunnel it found. -/
def handlePacket (i : Nat) (shut : List Bool) (c : Core) (pkt : Command.Packet) : List LockOp :=
  if !pkt.isRequest then []
  else if pkt.commandID = commandShell ∨ pkt.commandID = commandExec then addSession
  else if pkt.commandID = commandShutdown then killAllSessions shut
  else if pkt.commandID = tunnelData then [.acquire (.driver i), .release (.driver i)]
  else if pkt.commandID = tunnelClose then
    [.acquire (.driver i), .release (.driver i)] ++
      match pkt.tunnelCloseRequest with
      | some r =>
        if c.tunnels.any fun t => t.id == r.tunnelID then
          [.acquire (.driver i), .release (.driver i)]
        else []
      | none => []
  else []

/-- The loop of `processPackets`, by the recursion of `Command.processPackets`. -/
def processPacketsLoop (i : Nat) (shut : List Bool) (handle : Handler) (stream : Bytes)
    (c : Core) : List LockOp :=
  match h : readPacket stream with
  | (.ok (some pkt), rest) =>
    handlePacket i shut c pkt ++
      match dispatch handle c pkt with
      | .ok c' => processPacketsLoop i shut handle rest c'
      | .error _ => []
  | _ => []
termination_by stream.length
decreasing_by exact readPacket_shorter h

def processPackets (i : Nat) (shut : List Bool) (handle : Handler) (stream : Bytes) (c : Core) :
    List LockOp :=
  .acquire (.driver i) :: processPacketsLoop i shut handle stream c ++ [.release (.driver i)]

def dataReceived (i : Nat) (shut : List Bool) (handle : Handler) (d : Command.Driver)
    (data : Bytes) : List LockOp :=
  [.acquire (.driver i), .release (.driver i)] ++
    processPackets i shut handle (d.stream ++ data) d.core

def getOutgoing (i : Nat) : List LockOp := [.acquire (.driver i), .release (.driver i)]

/-- `Session.DataIncoming`: `s.mu` for the whole call, around the poll (and `Kill` when the
driver is done) and the `DataReceived` of what `handleMSG` hands on. -/
def sessionDataIncoming (i : Nat) (shut : List Bool) (handle : Handler) (d : Command.Driver)
    (pollKills : Bool) (handed : Option Bytes) : List LockOp :=
  .acquire (.session i) :: getOutgoing i ++ (if pollKills then kill i false else []) ++
    (match handed with
      | some data => dataReceived i shut handle d data
      | none => []) ++ [.release (.session i)]

def controllerDataIncoming (i : Nat) (shut : List Bool) (handle : Handler) (d : Command.Driver)
    (pollKills : Bool) (handed : Option Bytes) : List LockOp :=
  [.acquire .controller, .release .controller] ++
    sessionDataIncoming i shut handle d pollKills handed

/-! ### The loops -/

theorem processPacketsLoop_frame (i : Nat) (shut : List Bool) (handle : Handler)
    {f : Command.Packet} {rest : Bytes} (hf : f.Valid) (hlen : (f.toBytes ++ rest).length < 2 ^ 32)
    (c : Core) :
    ∃ tail, processPacketsLoop i shut handle (f.toBytes ++ rest) c =
      handlePacket i shut c f ++ tail := by
  rw [processPacketsLoop]
  split
  · next heq =>
    rw [readPacket_valid_frame f rest hf hlen] at heq
    simp only [Prod.mk.injEq, Except.ok.injEq, Option.some.injEq] at heq
    obtain ⟨rfl, rfl⟩ := heq
    exact ⟨_, rfl⟩
  · next heq => simp [readPacket_valid_frame f rest hf hlen] at heq

/-- `KillAllSessions` run by a call chain that holds the `i`-th session's `s.mu` and none
of the mutexes of the sessions before it: it blocks at that session's `IsShutdown`. -/
theorem killAllSessionsFrom_blocks {held : List Mutex} {i : Nat}
    (hi : Mutex.session i ∈ held)
    (hfree : ∀ j < i, Mutex.session j ∉ held ∧ Mutex.driver j ∉ held) :
    ∀ (bs : List Bool) (j : Nat), j ≤ i → i < j + bs.length → ∀ ops,
      runLocks held (killAllSessionsFrom j bs ++ ops) = .error (.session i)
  | [], _, hj, hij, _ => absurd hij (by simp; omega)
  | b :: bs, j, hj, hij, ops => by
    rcases Nat.lt_or_ge j i with hlt | hge
    · obtain ⟨hs, hd⟩ := hfree j hlt
      have hk : runLocks held ((if b then [] else kill j b) ++
          (killAllSessionsFrom (j + 1) bs ++ ops)) =
          runLocks held (killAllSessionsFrom (j + 1) bs ++ ops) := by
        cases b
        · simp [kill, close, hd]
        · rfl
      simp only [killAllSessionsFrom, isShutdown, List.append_assoc, List.cons_append,
        List.nil_append, runLocks_acquire_release hs, hk]
      exact killAllSessionsFrom_blocks hi hfree bs (j + 1) hlt (by simp at hij; omega) ops
    · obtain rfl : j = i := by omega
      simp only [killAllSessionsFrom, isShutdown, List.append_assoc, List.cons_append]
      exact runLocks_acquire_held hi

/-- Under the session's `s.mu` and its driver's `d.mu`, the handler of a TUNNEL_DATA or
TUNNEL_CLOSE request blocks on `d.mu`, and that of a SHUTDOWN request on `s.mu`. -/
theorem handlePacket_blocks {i : Nat} {shut : List Bool} (hi : i < shut.length) (c : Core)
    {f : Command.Packet} (hreq : f.isRequest = true)
    (hcmd : f.commandID = tunnelData ∨ f.commandID = tunnelClose ∨ f.commandID = commandShutdown) :
    runLocks [.driver i, .session i] (handlePacket i shut c f) =
      .error (if f.commandID = commandShutdown then .session i else .driver i) := by
  rcases hcmd with h | h | h <;>
    simp only [handlePacket, hreq, h, Bool.not_true, commandShell, commandExec, commandShutdown,
      tunnelData, tunnelClose] <;> simp only [Bool.false_eq_true, if_false, if_true]
  · simp [runLocks]
  · simp [runLocks]
  · rw [if_neg (by decide), killAllSessions, List.cons_append, runLocks, if_neg (by simp)]
    exact killAllSessionsFrom_blocks
      (show Mutex.session i ∈ [.controller, .driver i, .session i] by simp)
      (fun j hj => ⟨by simp; omega, by simp; omega⟩) shut 0 (Nat.zero_le _) (by omega) _

theorem handlePacket_blocks_iff {i : Nat} {shut : List Bool} (hi : i < shut.length) (c : Core)
    (f : Command.Packet) :
    (∃ m, runLocks [.driver i, .session i] (handlePacket i shut c f) = .error m) ↔
      f.isRequest = true ∧
        (f.commandID = tunnelData ∨ f.commandID = tunnelClose ∨ f.commandID = commandShutdown) := by
  refine ⟨fun ⟨m, hm⟩ => ?_, fun ⟨hreq, hcmd⟩ => ⟨_, handlePacket_blocks hi c hreq hcmd⟩⟩
  by_contra hn
  -- any other packet: no lock, or the controller's taken and given back
  obtain ⟨h, hh⟩ : ∃ h, runLocks [.driver i, .session i] (handlePacket i shut c f) = .ok h := by
    unfold handlePacket
    by_cases hreq : f.isRequest = true
    · have hb := fun h => hn ⟨hreq, h⟩
      rw [if_neg (by simp [hreq])]
      by_cases hse : f.commandID = commandShell ∨ f.commandID = commandExec
      · rw [if_pos hse]; exact ⟨[.driver i, .session i], by simp [addSession, runLocks]⟩
      rw [if_neg hse, if_neg fun h => hb (.inr (.inr h)), if_neg fun h => hb (.inl h),
        if_neg fun h => hb (.inr (.inl h))]
      exact ⟨_, rfl⟩
    · rw [if_pos (by simpa using hreq)]
      exact ⟨_, rfl⟩
  rw [hh] at hm
  cases hm

/-- The skeleton keeps step with the handlers it shadows: with `KillAllSessions` as the
SHUTDOWN callback, it blocks exactly when `Command.Driver.handlePacket` ends in `deadlock`. -/
theorem handlePacket_blocks_iff_deadlock (env : Env)
    (henv : env.onShutdown = some (.error .deadlock)) {i : Nat} {shut : List Bool}
    (hi : i < shut.length) (c : Core) (f : Command.Packet) :
    (∃ m, runLocks [.driver i, .session i] (handlePacket i shut c f) = .error m) ↔
      Command.Driver.handlePacket env c f = .error .deadlock :=
  (handlePacket_blocks_iff hi c f).trans (Command.Driver.handlePacket_deadlock henv c f).symm

end Locks

open Command Locks in
theorem incoming_request_deadlocks (i : Nat) (shut : List Bool) (hi : i < shut.length)
    (handle : Handler) (d : Command.Driver) (hd : d.stream = []) (pollKills : Bool) (f : Command.Packet)
    (hf : f.Valid) (hreq : f.isRequest = true)
    (hcmd : f.commandID = tunnelData ∨ f.commandID = tunnelClose ∨ f.commandID = commandShutdown)
    (rest : Bytes) (hlen : (f.toBytes ++ rest).length < 2 ^ 32) :
    runLocks [] (controllerDataIncoming i shut handle d pollKills (some (f.toBytes ++ rest))) =
      .error (if f.commandID = commandShutdown then .session i else .driver i) := by
  obtain ⟨tail, htail⟩ := processPacketsLoop_frame i shut handle hf hlen d.core
  have hpoll : runLocks [.session i] (if pollKills then kill i false else []) =
      .ok [.session i] := by
    cases pollKills <;> simp [kill, close, runLocks]
  simp only [controllerDataIncoming, sessionDataIncoming, Locks.dataReceived, Locks.processPackets,
    Locks.getOutgoing, hd, List.nil_append, htail, List.append_assoc, List.cons_append,
    runLocks_acquire_release (show Mutex.controller ∉ [] by simp)]
  rw [runLocks, if_neg (by simp), runLocks_acquire_release (by simp), runLocks_append, hpoll]
  simp only [Except.bind]
  rw [runLocks_acquire_release (by simp), runLocks, if_neg (by simp),
    runLocks_append_error (handlePacket_blocks hi d.core hreq hcmd)]

theorem incoming_shutdown_deadlocks :
    runLocks [] (Locks.controllerDataIncoming 0 [false] (fun c _ => .ok (c, none)) Command.Driver.new
      false (some ((Command.Body.shutdownRequest.toPacket 5).toBytes ++ []))) = .error (.session 0) :=
  incoming_request_deadlocks 0 [false] (by decide) _ _ rfl false _
    ⟨by decide, .shutdownRequest, trivial, rfl⟩ rfl (.inr (.inr rfl)) [] (by decide)

end Dnscat2
