import Dnscat2.Driver
import Dnscat2.CommandPacket

/-!
The command driver (`pkg/driver/command`, driver file). Received bytes collect in
`stream`; `processPackets` cuts complete frames off its front with `ReadPacket`,
hands each to `handlePacket` and appends the response it returns to
`outgoingData`, until a frame is incomplete or fails to parse. The handlers never
touch the stream: they see the rest of the driver, `Core`, and the loop here is
stated for any handler of that type. `d.mu` is held for the whole loop, which
is what makes a handler that takes it again block.
-/

namespace Dnscat2.Command

/-- An open tunnel: its id and the host and port it was dialled to; the connection
itself is outside the model. -/
structure Tunnel where
  id : UInt32
  host : Bytes
  port : UInt16
deriving DecidableEq, Repr

/-- The command driver without its stream: what the handlers read and write. -/
structure Core where
  outgoingData : Bytes
  isShutdown : Bool
  tunnels : List Tunnel
  requestID : UInt32
  tunnelID : UInt32
deriving DecidableEq, Repr

structure Driver where
  stream : Bytes
  core : Core
deriving DecidableEq, Repr

/-- `NewDriver`. -/
def Driver.new : Driver :=
  ⟨[], { outgoingData := [], isShutdown := false, tunnels := [], requestID := 0, tunnelID := 0 }⟩

/-- A `handlePacket`: the driver's state and a packet, to the new state and the response,
or a call that never returns. -/
abbrev Handler := Core → Packet → Except Halt (Core × Option Packet)

/-- `out := d.handlePacket(pkt)`, then `out.ToBytes()` appended to `outgoingData` when
`out` is not `nil`. -/
def dispatch (handle : Handler) (c : Core) (pkt : Packet) : Except Halt Core :=
  (fun r => match r.2 with
    | some out => { r.1 with outgoingData := r.1.outgoingData ++ out.toBytes }
    | none => r.1) <$> handle c pkt

theorem readPacket_shorter {buf rest : Bytes} {p : Packet}
    (h : readPacket buf = (.ok (some p), rest)) : rest.length < buf.length := by
  unfold readPacket at h
  split at h
  · dsimp only at h
    split_ifs at h
    · simp at h
    · simp at h
    · rw [← (Prod.mk.inj h).2]
      simp only [List.length_drop, List.length_cons]
      omega
  · simp at h

/-- The loop of `processPackets` on the stream: the stream it leaves and the new state. An
error of `ReadPacket` ends the loop like a missing frame does. -/
def processPackets (handle : Handler) (stream : Bytes) (c : Core) : Except Halt (Bytes × Core) :=
  match h : readPacket stream with
  | (.ok (some pkt), rest) =>
    match dispatch handle c pkt with
    | .ok c' => processPackets handle rest c'
    | .error e => .error e
  | (_, rest) => .ok (rest, c)
termination_by stream.length
decreasing_by exact readPacket_shorter h

/-- `DataReceived`: the data joins the stream, then `processPackets`. -/
def Driver.dataReceived (handle : Handler) (d : Driver) (data : Bytes) : Except Halt Driver :=
  (fun r => ⟨r.1, r.2⟩) <$> processPackets handle (d.stream ++ data) d.core

def Driver.getOutgoing (d : Driver) (maxLength : Int) : Option Bytes × Driver :=
  let r := takeOutgoing d.core.outgoingData d.core.isShutdown maxLength
  (r.1, { d with core := { d.core with outgoingData := r.2 } })

/-- `Close` shuts the driver down and closes and forgets every tunnel. -/
def Driver.close (d : Driver) : Driver :=
  { d with core := { d.core with isShutdown := true, tunnels := [] } }

/-- The command driver behind the `driver.Driver` interface, with its `handlePacket`. -/
def commandDriver (handle : Handler) : Dnscat2.Driver Driver where
  dataReceived := Driver.dataReceived handle
  getOutgoing d maxLength := .ok (d.getOutgoing maxLength)
  close := Driver.close
  isClosed d := d.core.isShutdown

end Dnscat2.Command
