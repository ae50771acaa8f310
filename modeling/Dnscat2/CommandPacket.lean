import Dnscat2.Wire

/-!
The command sub-protocol (`pkg/driver/command`, protocol file): a frame is a
four-byte big-endian length, then a packed request id and direction bit, a
command id and the body of that command in that direction. `Packet` is the Go
struct with its twenty optional bodies. `parsePacket` discards the errors of
`binary.Read` and `readNTString` as the source does, so a short field reads as
zero and a missing NUL ends the string at the end of the frame.
-/

namespace Dnscat2.Command

def commandPing : UInt16 := 0x0000
def commandShell : UInt16 := 0x0001
def commandExec : UInt16 := 0x0002
def commandDownload : UInt16 := 0x0003
def commandUpload : UInt16 := 0x0004
def commandShutdown : UInt16 := 0x0005
def commandDelay : UInt16 := 0x0006
def tunnelConnect : UInt16 := 0x1000
def tunnelData : UInt16 := 0x1001
def tunnelClose : UInt16 := 0x1002
def commandError : UInt16 := 0xFFFF

def tunnelStatusFail : UInt16 := 0x8000

structure PingRequest where data : Bytes
deriving DecidableEq
structure ShellRequest where name : Bytes
deriving DecidableEq
structure ExecRequest where
  name : Bytes
  command : Bytes
deriving DecidableEq
structure DownloadRequest where filename : Bytes
deriving DecidableEq
structure UploadRequest where
  filename : Bytes
  data : Bytes
deriving DecidableEq
structure ShutdownRequest
deriving DecidableEq
structure DelayRequest where delay : UInt32
deriving DecidableEq
structure TunnelConnectRequest where
  options : UInt32
  host : Bytes
  port : UInt16
deriving DecidableEq
structure TunnelDataRequest where
  tunnelID : UInt32
  data : Bytes
deriving DecidableEq
structure TunnelCloseRequest where
  tunnelID : UInt32
  reason : Bytes
deriving DecidableEq
structure ErrorRequest where
  status : UInt16
  reason : Bytes
deriving DecidableEq

structure PingResponse where data : Bytes
deriving DecidableEq
structure ShellResponse where sessionID : UInt16
deriving DecidableEq
structure ExecResponse where sessionID : UInt16
deriving DecidableEq
structure DownloadResponse where data : Bytes
deriving DecidableEq
structure UploadResponse
deriving DecidableEq
structure ShutdownResponse
deriving DecidableEq
structure DelayResponse
deriving DecidableEq
structure TunnelConnectResponse where
  status : UInt16
  tunnelID : UInt32
deriving DecidableEq
structure ErrorResponse where
  status : UInt16
  reason : Bytes
deriving DecidableEq

structure Packet where
  requestID : UInt16
  commandID : UInt16
  isRequest : Bool
  pingRequest : Option PingRequest := none
  shellRequest : Option ShellRequest := none
  execRequest : Option ExecRequest := none
  downloadRequest : Option DownloadRequest := none
  uploadRequest : Option UploadRequest := none
  shutdownRequest : Option ShutdownRequest := none
  delayRequest : Option DelayRequest := none
  tunnelConnectRequest : Option TunnelConnectRequest := none
  tunnelDataRequest : Option TunnelDataRequest := none
  tunnelCloseRequest : Option TunnelCloseRequest := none
  errorRequest : Option ErrorRequest := none
  pingResponse : Option PingResponse := none
  shellResponse : Option ShellResponse := none
  execResponse : Option ExecResponse := none
  downloadResponse : Option DownloadResponse := none
  uploadResponse : Option UploadResponse := none
  shutdownResponse : Option ShutdownResponse := none
  delayResponse : Option DelayResponse := none
  tunnelConnectResponse : Option TunnelConnectResponse := none
  errorResponse : Option ErrorResponse := none
deriving DecidableEq

/-- The command package's `readNTString`: on `EOF` the bytes read so far come back
with the error, and the reader is left empty. -/
def readNTString (r : Bytes) : (Bytes × Option String) × Bytes :=
  match splitNT r with
  | (s, some rest) => ((s, none), rest)
  | (s, none) => ((s, some "EOF"), [])

/-- `binary.Read` whose error is dropped: the variable keeps its zero value and the
reader is drained. -/
def readUint16Or (r : Bytes) : UInt16 × Bytes :=
  match readUint16 r with
  | .ok v => v
  | .error _ => (0, [])

def readUint32Or (r : Bytes) : UInt32 × Bytes :=
  match readUint32 r with
  | .ok v => v
  | .error _ => (0, [])

/-- The command switch of `parsePacket`, after the packed id and the command id. -/
def parseBody (p : Packet) (r : Bytes) : Except String Packet :=
  if p.commandID = commandPing then
    if p.isRequest then .ok { p with pingRequest := some ⟨(readNTString r).1.1⟩ }
    else .ok { p with pingResponse := some ⟨(readNTString r).1.1⟩ }
  else if p.commandID = commandShell then
    if p.isRequest then .ok { p with shellRequest := some ⟨(readNTString r).1.1⟩ }
    else .ok { p with shellResponse := some ⟨(readUint16Or r).1⟩ }
  else if p.commandID = commandExec then
    if p.isRequest then
      let ((name, _), r) := readNTString r
      let ((command, _), _) := readNTString r
      .ok { p with execRequest := some { name, command } }
    else .ok { p with execResponse := some ⟨(readUint16Or r).1⟩ }
  else if p.commandID = commandDownload then
    if p.isRequest then .ok { p with downloadRequest := some ⟨(readNTString r).1.1⟩ }
    else .ok { p with downloadResponse := some ⟨r⟩ }
  else if p.commandID = commandUpload then
    if p.isRequest then
      let ((filename, _), r) := readNTString r
      .ok { p with uploadRequest := some { filename, data := r } }
    else .ok { p with uploadResponse := some ⟨⟩ }
  else if p.commandID = commandShutdown then
    if p.isRequest then .ok { p with shutdownRequest := some ⟨⟩ }
    else .ok { p with shutdownResponse := some ⟨⟩ }
  else if p.commandID = commandDelay then
    if p.isRequest then .ok { p with delayRequest := some ⟨(readUint32Or r).1⟩ }
    else .ok { p with delayResponse := some ⟨⟩ }
  else if p.commandID = tunnelConnect then
    if p.isRequest then
      let (options, r) := readUint32Or r
      let ((host, _), r) := readNTString r
      let (port, _) := readUint16Or r
      .ok { p with tunnelConnectRequest := some { options, host, port } }
    else .ok { p with
      tunnelConnectResponse := some { status := 0, tunnelID := (readUint32Or r).1 } }
  else if p.commandID = tunnelData then
    if p.isRequest then
      let (tunnelID, r) := readUint32Or r
      .ok { p with tunnelDataRequest := some { tunnelID, data := r } }
    else .ok p
  else if p.commandID = tunnelClose then
    if p.isRequest then
      let (tunnelID, r) := readUint32Or r
      .ok { p with tunnelCloseRequest := some { tunnelID, reason := (readNTString r).1.1 } }
    else .ok p
  else if p.commandID = commandError then
    let (status, r) := readUint16Or r
    let reason := (readNTString r).1.1
    if p.isRequest then .ok { p with errorRequest := some { status, reason } }
    else .ok { p with errorResponse := some { status, reason } }
  else .error s!"unknown command_id: 0x{hex 4 p.commandID.toNat}"

def parsePacket (data : Bytes) : Except String Packet :=
  if data.length < 4 then .error "packet too short"
  else
    let (packedID, r) := readUint16Or data
    let (cmdID, r) := readUint16Or r
    parseBody
      { requestID := packedID &&& 0x7FFF, commandID := cmdID,
        isRequest := packedID &&& 0x8000 = 0 } r

/-- The `if p.IsRequest && req != nil { .. } else if !p.IsRequest && resp != nil { .. }`
shape of `ToBytes`. -/
def either {α β : Type} (isRequest : Bool) (req : Option α) (resp : Option β) (f : α → Bytes)
    (g : β → Bytes) : Bytes :=
  match isRequest, req, resp with
  | true, some a, _ => f a
  | false, _, some b => g b
  | _, _, _ => []

def Packet.bodyBytes (p : Packet) : Bytes :=
  let none' : Option Unit := none
  if p.commandID = commandPing then
    either p.isRequest p.pingRequest p.pingResponse (writeNTString ·.data) (writeNTString ·.data)
  else if p.commandID = commandShell then
    either p.isRequest p.shellRequest p.shellResponse (writeNTString ·.name)
      (putUint16 ·.sessionID)
  else if p.commandID = commandExec then
    either p.isRequest p.execRequest p.execResponse
      (fun r => writeNTString r.name ++ writeNTString r.command) (putUint16 ·.sessionID)
  else if p.commandID = commandDownload then
    either p.isRequest p.downloadRequest p.downloadResponse (writeNTString ·.filename) (·.data)
  else if p.commandID = commandUpload then
    either p.isRequest p.uploadRequest none' (fun r => writeNTString r.filename ++ r.data)
      (fun _ => [])
  else if p.commandID = commandShutdown then []
  else if p.commandID = commandDelay then
    either p.isRequest p.delayRequest none' (putUint32 ·.delay) (fun _ => [])
  else if p.commandID = tunnelConnect then
    either p.isRequest p.tunnelConnectRequest p.tunnelConnectResponse
      (fun r => putUint32 r.options ++ writeNTString r.host ++ putUint16 r.port)
      (putUint32 ·.tunnelID)
  else if p.commandID = tunnelData then
    either p.isRequest p.tunnelDataRequest none' (fun r => putUint32 r.tunnelID ++ r.data)
      (fun _ => [])
  else if p.commandID = tunnelClose then
    either p.isRequest p.tunnelCloseRequest none'
      (fun r => putUint32 r.tunnelID ++ writeNTString r.reason) (fun _ => [])
  else if p.commandID = commandError then
    either p.isRequest p.errorRequest p.errorResponse
      (fun r => putUint16 r.status ++ writeNTString r.reason)
      (fun r => putUint16 r.status ++ writeNTString r.reason)
  else []

def Packet.packedID (p : Packet) : UInt16 :=
  if p.isRequest then p.requestID &&& 0x7FFF else (p.requestID &&& 0x7FFF) ||| 0x8000

/-- `ToBytes`: the frame after its length, then `uint32(len(data))` in front of it. -/
def Packet.toBytes (p : Packet) : Bytes :=
  let data := putUint16 p.packedID ++ putUint16 p.commandID ++ p.bodyBytes
  putUint32 (UInt32.ofNat data.length) ++ data

/-- `ReadPacket` on the stream: `ok none` is "not enough data yet"; the stream after
the call comes back in every case. A frame whose declared length passes the check
but is not all in the buffer is read as far as it goes and padded with zeros, as
`buf.Read` into `make([]byte, length)` does. -/
def readPacket (buf : Bytes) : Except String (Option Packet) × Bytes :=
  match buf with
  | b0 :: b1 :: b2 :: b3 :: rest =>
    let length := getUint32 b0 b1 b2 b3
    if length + 4 < length then (.error "overflow in command packet", buf)
    else if UInt32.ofNat buf.length < length + 4 then (.ok none, buf)
    else
      let data := rest.take length.toNat ++ List.replicate (length.toNat - rest.length) 0
      ((some ·) <$> parsePacket data, rest.drop length.toNat)
  | _ => (.ok none, buf)

/-! ### The factory functions -/

def createPingResponse (requestID : UInt16) (data : Bytes) : Packet :=
  { requestID, commandID := commandPing, isRequest := false, pingResponse := some ⟨data⟩ }

def createShellResponse (requestID sessionID : UInt16) : Packet :=
  { requestID, commandID := commandShell, isRequest := false, shellResponse := some ⟨sessionID⟩ }

def createExecResponse (requestID sessionID : UInt16) : Packet :=
  { requestID, commandID := commandExec, isRequest := false, execResponse := some ⟨sessionID⟩ }

def createDownloadResponse (requestID : UInt16) (data : Bytes) : Packet :=
  { requestID, commandID := commandDownload, isRequest := false, downloadResponse := some ⟨data⟩ }

def createUploadResponse (requestID : UInt16) : Packet :=
  { requestID, commandID := commandUpload, isRequest := false, uploadResponse := some ⟨⟩ }

def createShutdownResponse (requestID : UInt16) : Packet :=
  { requestID, commandID := commandShutdown, isRequest := false, shutdownResponse := some ⟨⟩ }

def createDelayResponse (requestID : UInt16) : Packet :=
  { requestID, commandID := commandDelay, isRequest := false, delayResponse := some ⟨⟩ }

/-- The response leaves `Status` at its zero value. -/
def createTunnelConnectResponse (requestID : UInt16) (tunnelID : UInt32) : Packet :=
  { requestID, commandID := tunnelConnect, isRequest := false,
    tunnelConnectResponse := some { status := 0, tunnelID } }

def createTunnelDataRequest (requestID : UInt16) (tunnelID : UInt32) (data : Bytes) : Packet :=
  { requestID, commandID := tunnelData, isRequest := true,
    tunnelDataRequest := some { tunnelID, data } }

def createTunnelCloseRequest (requestID : UInt16) (tunnelID : UInt32) (reason : Bytes) : Packet :=
  { requestID, commandID := tunnelClose, isRequest := true,
    tunnelCloseRequest := some { tunnelID, reason } }

def createErrorResponse (requestID status : UInt16) (reason : Bytes) : Packet :=
  { requestID, commandID := commandError, isRequest := false,
    errorResponse := some { status, reason } }

end Dnscat2.Command
