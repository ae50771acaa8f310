import Dnscat2.Wire

/-!
The application side of a session (`pkg/driver`): the `Driver` interface and
the console, exec and ping drivers. A driver's state is a value. The goroutines
that feed a console or exec driver (`readStdin`, `readOutput`, the `cmd.Wait`
watcher) are operations of their own, for a run to interleave with the
session's calls; what `DataReceived` writes to stdout or to a process goes out
of the model. A call that never returns ends in a `Halt`: `os.Exit` with the
line printed before it, a runtime panic, or a goroutine blocked for good on a
mutex.
-/

namespace Dnscat2

inductive Halt
  | exit (code : Nat) (message : String)
  | panic (message : String)
  | deadlock
deriving DecidableEq, Repr

/-- The `driver.Driver` interface over the state `D` of one implementation. -/
structure Driver (D : Type) where
  dataReceived : D → Bytes → Except Halt D
  getOutgoing : D → Int → Except Halt (Option Bytes × D)
  close : D → D
  isClosed : D → Bool

/-- The `GetOutgoing` the console, exec and command drivers share: `nil` once shut down
with nothing queued, otherwise the first `maxLength` queued bytes (all when `≤ 0`). -/
def takeOutgoing (outgoingData : Bytes) (isShutdown : Bool) (maxLength : Int) :
    Option Bytes × Bytes :=
  if isShutdown = true ∧ outgoingData = [] then (none, outgoingData)
  else if outgoingData = [] then (some [], outgoingData)
  else
    let sendLen :=
      if 0 < maxLength ∧ maxLength < outgoingData.length then maxLength.toNat
      else outgoingData.length
    (some (outgoingData.take sendLen), outgoingData.drop sendLen)

theorem takeOutgoing_all (q : Bytes) (isShutdown : Bool) {maxLength : Int} (hm : maxLength ≤ 0) :
    (∃ r, (takeOutgoing q isShutdown maxLength).1 = some r ∧ r = q) ∨
      ((takeOutgoing q isShutdown maxLength).1 = none ∧ q = []) := by
  unfold takeOutgoing
  split_ifs with h1 h2 h3
  · exact .inr ⟨rfl, h1.2⟩
  · exact .inl ⟨_, rfl, h2.symm⟩
  · omega
  · exact .inl ⟨_, rfl, List.take_length q⟩

@[simp] theorem takeOutgoing_all_snd (q : Bytes) (isShutdown : Bool) {maxLength : Int}
    (hm : maxLength ≤ 0) : (takeOutgoing q isShutdown maxLength).2 = [] := by
  unfold takeOutgoing
  split_ifs with h1 h2 h3
  · exact h1.2
  · exact h2
  · omega
  · exact List.drop_length q

theorem takeOutgoing_append (q : Bytes) (isShutdown : Bool) (maxLength : Int) :
    (takeOutgoing q isShutdown maxLength).1.getD [] ++ (takeOutgoing q isShutdown maxLength).2 =
        q := by
  unfold takeOutgoing
  split_ifs <;> simp_all

/-- What passes through a driver, in order: the bytes handed to `DataReceived` and those
`GetOutgoing` gave out. -/
structure Traffic where
  received : Bytes
  given : Bytes
deriving DecidableEq, Repr

def Driver.observed {D : Type} (ops : Driver D) : Driver (D × Traffic) where
  dataReceived d data :=
    (fun d' => (d', { d.2 with received := d.2.received ++ data })) <$> ops.dataReceived d.1 data
  getOutgoing d n :=
    (fun r => (r.1, (r.2, { d.2 with given := d.2.given ++ r.1.getD [] }))) <$>
      ops.getOutgoing d.1 n
  close d := (ops.close d.1, d.2)
  isClosed d := ops.isClosed d.1

/-- A step of the driver's own goroutines, which the record does not see. -/
def Driver.observedFeed {D E : Type} (feed : D → E → D) (d : D × Traffic) (e : E) : D × Traffic :=
  (feed d.1 e, d.2)

/-! ### The console driver -/

structure ConsoleDriver where
  outgoingData : Bytes
  isShutdown : Bool
deriving DecidableEq, Repr

namespace ConsoleDriver

/-- `NewConsoleDriver`, before its reader has read anything. -/
def new : ConsoleDriver := { outgoingData := [], isShutdown := false }

def readStdin (d : ConsoleDriver) (data : Bytes) : ConsoleDriver :=
  { d with outgoingData := d.outgoingData ++ data }

def stdinDone (d : ConsoleDriver) : ConsoleDriver := { d with isShutdown := true }

def getOutgoing (d : ConsoleDriver) (maxLength : Int) : Option Bytes × ConsoleDriver :=
  let r := takeOutgoing d.outgoingData d.isShutdown maxLength
  (r.1, { d with outgoingData := r.2 })

def close (d : ConsoleDriver) : ConsoleDriver := { d with isShutdown := true }

end ConsoleDriver

/-- A step of the `readStdin` goroutine: a read, or the error (`EOF` included) ending it. -/
inductive Stdin
  | read (data : Bytes)
  | done

def ConsoleDriver.feed (d : ConsoleDriver) : Stdin → ConsoleDriver
  | .read data => d.readStdin data
  | .done => d.stdinDone

def consoleDriver : Driver ConsoleDriver where
  dataReceived d _ := .ok d
  getOutgoing d maxLength := .ok (d.getOutgoing maxLength)
  close := ConsoleDriver.close
  isClosed := ConsoleDriver.isShutdown

/-! ### The exec driver -/

structure ExecDriver where
  outgoingData : Bytes
  isShutdown : Bool
deriving DecidableEq, Repr

namespace ExecDriver

def readOutput (d : ExecDriver) (data : Bytes) : ExecDriver :=
  { d with outgoingData := d.outgoingData ++ data }

def exited (d : ExecDriver) : ExecDriver := { d with isShutdown := true }

def getOutgoing (d : ExecDriver) (maxLength : Int) : Option Bytes × ExecDriver :=
  let r := takeOutgoing d.outgoingData d.isShutdown maxLength
  (r.1, { d with outgoingData := r.2 })

/-- `Close` kills the process once; a second call finds the driver shut down. -/
def close (d : ExecDriver) : ExecDriver :=
  if d.isShutdown then d else { d with isShutdown := true }

end ExecDriver

def execDriver : Driver ExecDriver where
  dataReceived d _ := .ok d
  getOutgoing d maxLength := .ok (d.getOutgoing maxLength)
  close := ExecDriver.close
  isClosed := ExecDriver.isShutdown

/-! ### The ping driver -/

def pingLength : Nat := 16

structure PingDriver where
  data : Mathlib.Vector UInt8 pingLength
  isShutdown : Bool
  alreadySent : Bool
deriving DecidableEq

namespace PingDriver

/-- `NewPingDriver`, with the sixteen random letters it draws. -/
def new (data : Mathlib.Vector UInt8 pingLength) : PingDriver :=
  { data, isShutdown := false, alreadySent := false }

def dataReceived (d : PingDriver) (data : Bytes) : Except Halt PingDriver :=
  if data = d.data.toList then
    .error (.exit 0 "Ping response received! This seems like a valid dnscat2 server.")
  else .ok d

def getOutgoing (d : PingDriver) (maxLength : Int) : Except Halt (Option Bytes × PingDriver) :=
  if d.alreadySent then .ok (some [], d)
  else if maxLength < pingLength ∧ 0 < maxLength then
    .error (.exit 1 "Sorry, the ping packet is too long to respect the protocol's length restrictions :(")
  else .ok (some d.data.toList, { d with alreadySent := true })

def close (d : PingDriver) : PingDriver := { d with isShutdown := true }

end PingDriver

def pingDriver : Driver PingDriver where
  dataReceived := PingDriver.dataReceived
  getOutgoing := PingDriver.getOutgoing
  close := PingDriver.close
  isClosed := PingDriver.isShutdown

end Dnscat2
