import Dnscat2.CommandPacket
import Mathlib.Data.Nat.Bitwise

/-!
What `ReadPacket` gives back from `ToBytes`. `Body` lists the twenty-two shapes
`parsePacket` produces, one per command and direction, each setting exactly the
fields `parsePacket` sets; `Body.Valid` asks for NUL-free strings and a zero
tunnel-connect status, which `ToBytes` does not write. The four-byte length
bounds the trip: a frame of `2 ^ 32` bytes or more overflows it.
-/

namespace Dnscat2.Command

private theorem and_low_of_lt {x : Nat} (h : x < 2 ^ 15) : x &&& (2 ^ 15 - 1) = x :=
  Nat.and_pow_two_sub_one_of_lt_two_pow h

private theorem and_high_of_lt {x : Nat} (h : x < 2 ^ 15) : x &&& 2 ^ 15 = 0 := by
  rw [Nat.and_two_pow, Nat.testBit_eq_false_of_lt h]; rfl

private theorem or_high_and_low {x : Nat} (h : x < 2 ^ 15) :
    (x ||| 2 ^ 15) &&& (2 ^ 15 - 1) = x := by
  rw [Nat.and_pow_two_sub_one_eq_mod]
  apply Nat.eq_of_testBit_eq
  intro i
  rw [Nat.testBit_mod_two_pow, Nat.testBit_or, Nat.testBit_two_pow]
  by_cases hi : i < 15
  · simp [hi]; omega
  · simp [hi, Nat.testBit_eq_false_of_lt
      (lt_of_lt_of_le h (Nat.pow_le_pow_right (by decide) (Nat.le_of_not_lt hi)))]

private theorem or_high_and_high (x : Nat) : (x ||| 2 ^ 15) &&& 2 ^ 15 ≠ 0 := by
  rw [Nat.and_two_pow, Nat.testBit_or, Nat.testBit_two_pow_self]; simp

private theorem toNat_and16 (a b : UInt16) : (a &&& b).toNat = a.toNat &&& b.toNat :=
  BitVec.toNat_and _ _

private theorem toNat_or16 (a b : UInt16) : (a ||| b).toNat = a.toNat ||| b.toNat :=
  BitVec.toNat_or _ _

theorem packedID_of_request {p : Packet} (hr : p.isRequest = true) :
    p.packedID = p.requestID &&& 0x7FFF := by
  simp [Packet.packedID, hr]

theorem packedID_of_response {p : Packet} (hr : p.isRequest = false) :
    p.packedID = (p.requestID &&& 0x7FFF) ||| 0x8000 := by
  simp [Packet.packedID, hr]

private theorem toNat_low : (0x7FFF : UInt16).toNat = 2 ^ 15 - 1 := rfl
private theorem toNat_high : (0x8000 : UInt16).toNat = 2 ^ 15 := rfl

/-- The low fifteen bits of the packed field give the request id back. -/
theorem packedID_and_low (p : Packet) (h : p.requestID.toNat < 0x8000) :
    p.packedID &&& 0x7FFF = p.requestID := by
  apply UInt16.toNat.inj
  have h' : p.requestID.toNat < 2 ^ 15 := h
  cases hr : p.isRequest
  · rw [packedID_of_response hr, toNat_and16, toNat_or16, toNat_and16, toNat_low, toNat_high,
      and_low_of_lt h', or_high_and_low h']
  · rw [packedID_of_request hr, toNat_and16, toNat_and16, toNat_low, and_low_of_lt h',
      and_low_of_lt h']

/-- The high bit of the packed field is clear exactly on requests. -/
theorem packedID_and_high (p : Packet) (h : p.requestID.toNat < 0x8000) :
    decide (p.packedID &&& 0x8000 = 0) = p.isRequest := by
  have h' : p.requestID.toNat < 2 ^ 15 := h
  have hz : (0 : UInt16).toNat = 0 := rfl
  cases hr : p.isRequest
  · rw [decide_eq_false_iff_not, packedID_of_response hr]
    intro heq
    have := congrArg UInt16.toNat heq
    rw [toNat_and16, toNat_or16, toNat_and16, toNat_low, toNat_high, hz, and_low_of_lt h'] at this
    exact or_high_and_high _ this
  · rw [decide_eq_true_eq, packedID_of_request hr]
    apply UInt16.toNat.inj
    rw [toNat_and16, toNat_and16, toNat_low, toNat_high, hz, and_low_of_lt h', and_high_of_lt h']

theorem readNTString_writeNTString {s : Bytes} (h : 0 ∉ s) (rest : Bytes) :
    readNTString (writeNTString s ++ rest) = ((s, none), rest) := by
  simp [readNTString, splitNT_writeNTString h]

@[simp] theorem readUint16Or_putUint16 (v : UInt16) (rest : Bytes) :
    readUint16Or (putUint16 v ++ rest) = (v, rest) := by
  simp [readUint16Or]

@[simp] theorem readUint32Or_putUint32 (v : UInt32) (rest : Bytes) :
    readUint32Or (putUint32 v ++ rest) = (v, rest) := by
  simp [readUint32Or]

@[simp] theorem readUint16Or_putUint16_nil (v : UInt16) : readUint16Or (putUint16 v) = (v, []) := by
  simpa using readUint16Or_putUint16 v []

@[simp] theorem readUint32Or_putUint32_nil (v : UInt32) : readUint32Or (putUint32 v) = (v, []) := by
  simpa using readUint32Or_putUint32 v []

theorem readNTString_writeNTString_nil {s : Bytes} (h : 0 ∉ s) :
    readNTString (writeNTString s) = ((s, none), []) := by
  simpa using readNTString_writeNTString h []

inductive Body
  | pingRequest (b : PingRequest)
  | pingResponse (b : PingResponse)
  | shellRequest (b : ShellRequest)
  | shellResponse (b : ShellResponse)
  | execRequest (b : ExecRequest)
  | execResponse (b : ExecResponse)
  | downloadRequest (b : DownloadRequest)
  | downloadResponse (b : DownloadResponse)
  | uploadRequest (b : UploadRequest)
  | uploadResponse
  | shutdownRequest
  | shutdownResponse
  | delayRequest (b : DelayRequest)
  | delayResponse
  | tunnelConnectRequest (b : TunnelConnectRequest)
  | tunnelConnectResponse (b : TunnelConnectResponse)
  | tunnelDataRequest (b : TunnelDataRequest)
  | tunnelDataResponse
  | tunnelCloseRequest (b : TunnelCloseRequest)
  | tunnelCloseResponse
  | errorRequest (b : ErrorRequest)
  | errorResponse (b : ErrorResponse)

/-- The packet `parsePacket` builds for a body: its command, its direction, and the one
field it sets (none for the tunnel data and close responses). -/
def Body.toPacket (requestID : UInt16) : Body → Packet
  | .pingRequest b => { requestID, commandID := commandPing, isRequest := true, pingRequest := b }
  | .pingResponse b =>
    { requestID, commandID := commandPing, isRequest := false, pingResponse := b }
  | .shellRequest b =>
    { requestID, commandID := commandShell, isRequest := true, shellRequest := b }
  | .shellResponse b =>
    { requestID, commandID := commandShell, isRequest := false, shellResponse := b }
  | .execRequest b => { requestID, commandID := commandExec, isRequest := true, execRequest := b }
  | .execResponse b =>
    { requestID, commandID := commandExec, isRequest := false, execResponse := b }
  | .downloadRequest b =>
    { requestID, commandID := commandDownload, isRequest := true, downloadRequest := b }
  | .downloadResponse b =>
    { requestID, commandID := commandDownload, isRequest := false, downloadResponse := b }
  | .uploadRequest b =>
    { requestID, commandID := commandUpload, isRequest := true, uploadRequest := b }
  | .uploadResponse =>
    { requestID, commandID := commandUpload, isRequest := false, uploadResponse := some ⟨⟩ }
  | .shutdownRequest =>
    { requestID, commandID := commandShutdown, isRequest := true, shutdownRequest := some ⟨⟩ }
  | .shutdownResponse =>
    { requestID, commandID := commandShutdown, isRequest := false, shutdownResponse := some ⟨⟩ }
  | .delayRequest b =>
    { requestID, commandID := commandDelay, isRequest := true, delayRequest := b }
  | .delayResponse =>
    { requestID, commandID := commandDelay, isRequest := false, delayResponse := some ⟨⟩ }
  | .tunnelConnectRequest b =>
    { requestID, commandID := tunnelConnect, isRequest := true, tunnelConnectRequest := b }
  | .tunnelConnectResponse b =>
    { requestID, commandID := tunnelConnect, isRequest := false, tunnelConnectResponse := b }
  | .tunnelDataRequest b =>
    { requestID, commandID := tunnelData, isRequest := true, tunnelDataRequest := b }
  | .tunnelDataResponse => { requestID, commandID := tunnelData, isRequest := false }
  | .tunnelCloseRequest b =>
    { requestID, commandID := tunnelClose, isRequest := true, tunnelCloseRequest := b }
  | .tunnelCloseResponse => { requestID, commandID := tunnelClose, isRequest := false }
  | .errorRequest b =>
    { requestID, commandID := commandError, isRequest := true, errorRequest := b }
  | .errorResponse b =>
    { requestID, commandID := commandError, isRequest := false, errorResponse := b }

def Body.Valid : Body → Prop
  | .pingRequest b => 0 ∉ b.data
  | .pingResponse b => 0 ∉ b.data
  | .shellRequest b => 0 ∉ b.name
  | .execRequest b => 0 ∉ b.name ∧ 0 ∉ b.command
  | .downloadRequest b => 0 ∉ b.filename
  | .uploadRequest b => 0 ∉ b.filename
  | .tunnelConnectRequest b => 0 ∉ b.host
  | .tunnelConnectResponse b => b.status = 0
  | .tunnelCloseRequest b => 0 ∉ b.reason
  | .errorRequest b => 0 ∉ b.reason
  | .errorResponse b => 0 ∉ b.reason
  | _ => True

/-- A request id that fits the packed field, and the fields of one of the shapes
`parsePacket` produces, with a valid body. -/
def Packet.Valid (p : Packet) : Prop :=
  p.requestID.toNat < 0x8000 ∧ ∃ b : Body, b.Valid ∧ p = b.toPacket p.requestID

private theorem tunnelConnectResponse_eq {b : TunnelConnectResponse} (h : b.status = 0) :
    ({ status := 0, tunnelID := b.tunnelID } : TunnelConnectResponse) = b := by
  cases b; simp_all

theorem parseBody_bodyBytes (rid : UInt16) (b : Body) (hb : b.Valid) :
    parseBody
        { requestID := rid, commandID := (b.toPacket rid).commandID,
          isRequest := (b.toPacket rid).isRequest }
        (b.toPacket rid).bodyBytes = .ok (b.toPacket rid) := by
  cases b <;> simp_all [Body.toPacket, Body.Valid, parseBody, Packet.bodyBytes, either,
    tunnelConnectResponse_eq,
    commandPing, commandShell, commandExec, commandDownload, commandUpload, commandShutdown,
    commandDelay, tunnelConnect, tunnelData, tunnelClose, commandError,
    readNTString_writeNTString, readNTString_writeNTString_nil]

@[simp] theorem Body.toPacket_requestID (rid : UInt16) (b : Body) :
    (b.toPacket rid).requestID = rid := by
  cases b <;> rfl

theorem parsePacket_data (p : Packet) (hp : p.Valid) :
    parsePacket (putUint16 p.packedID ++ putUint16 p.commandID ++ p.bodyBytes) = .ok p := by
  obtain ⟨hr, b, hb, hpb⟩ := hp
  rw [parsePacket, if_neg (by simp only [List.length_append, length_putUint16]; omega)]
  simp only [List.append_assoc, readUint16Or_putUint16, packedID_and_low p hr,
    packedID_and_high p hr]
  rw [hpb]
  simpa only [Body.toPacket_requestID] using parseBody_bodyBytes p.requestID b hb

private theorem toNat_add32 (a b : UInt32) : (a + b).toNat = (a.toNat + b.toNat) % 2 ^ 32 := by
  simp [UInt32.toNat, UInt32.add_def]

private theorem lt_iff_toNat32 {a b : UInt32} : a < b ↔ a.toNat < b.toNat := BitVec.lt_def

/-- `ReadPacket` on a stream shorter than `2 ^ 32` bytes whose length field `n` passes the
overflow check: wait while the frame is incomplete, otherwise parse its `n` bytes and
leave the rest. -/
theorem readPacket_putUint32 (n : UInt32) (rest : Bytes) (hn : n.toNat + 4 < 2 ^ 32)
    (hlen : rest.length + 4 < 2 ^ 32) :
    readPacket (putUint32 n ++ rest) =
      if rest.length < n.toNat then (.ok none, putUint32 n ++ rest)
      else ((some ·) <$> parsePacket (rest.take n.toNat), rest.drop n.toNat) := by
  have h4 : (4 : UInt32).toNat = 4 := rfl
  have hcmp : UInt32.ofNat (rest.length + 1 + 1 + 1 + 1) < n + 4 ↔ rest.length < n.toNat := by
    rw [lt_iff_toNat32, toNat_add32, h4, toNat_ofNat32]; omega
  simp only [putUint32, List.cons_append, List.nil_append, readPacket, getUint32_putUint32,
    List.length_cons, hcmp]
  rw [if_neg (by rw [lt_iff_toNat32, toNat_add32, h4]; omega)]
  split_ifs with h
  · rfl
  · simp [Nat.sub_eq_zero_of_le (Nat.le_of_not_lt h)]

/-- The frame `ToBytes` writes: the length of the data, then the data. -/
theorem toBytes_eq (p : Packet) :
    p.toBytes = putUint32 (UInt32.ofNat (putUint16 p.packedID ++ putUint16 p.commandID ++
      p.bodyBytes).length) ++ (putUint16 p.packedID ++ putUint16 p.commandID ++ p.bodyBytes) :=
  rfl

/-- A valid packet's frame comes back whole from the front of a stream shorter than
`2 ^ 32` bytes. -/
theorem readPacket_valid_frame (p : Packet) (rest : Bytes) (hp : p.Valid)
    (hlen : (p.toBytes ++ rest).length < 2 ^ 32) :
    readPacket (p.toBytes ++ rest) = (.ok (some p), rest) := by
  have hpd := parsePacket_data p hp
  rw [toBytes_eq] at hlen ⊢
  generalize putUint16 p.packedID ++ putUint16 p.commandID ++ p.bodyBytes = data at hlen hpd ⊢
  simp only [List.length_append, length_putUint32] at hlen
  have hn : (UInt32.ofNat data.length).toNat = data.length := by
    simp only [toNat_ofNat32]; omega
  rw [List.append_assoc,
    readPacket_putUint32 _ _ (by omega) (by simp only [List.length_append]; omega),
    if_neg (by simp [hn])]
  simp [hn, hpd, Functor.map, Except.map]

/-- A stream holding only the first bytes of a frame reads as "not enough data yet". -/
theorem readPacket_pending (p : Packet) {s : Bytes} (hs : s <+: p.toBytes)
    (hlt : s.length < p.toBytes.length) (hlen : p.toBytes.length < 2 ^ 32) :
    readPacket s = (.ok none, s) := by
  rw [toBytes_eq] at hs hlt hlen
  generalize putUint16 p.packedID ++ putUint16 p.commandID ++ p.bodyBytes = data at hs hlt hlen
  simp only [List.length_append, length_putUint32] at hlt hlen
  by_cases h4 : s.length < 4
  · match s, h4 with
    | [], _ => rfl
    | [_], _ => rfl
    | [_, _], _ => rfl
    | [_, _, _], _ => rfl
  · have hs' := List.prefix_iff_eq_take.mp hs
    rw [List.take_append_eq_append_take,
      List.take_of_length_le (by simp only [length_putUint32]; omega), length_putUint32] at hs'
    have hn : (UInt32.ofNat data.length).toNat = data.length := by
      simp only [toNat_ofNat32]; omega
    rw [hs', readPacket_putUint32 _ _ (by omega) (by simp only [List.length_take]; omega),
      if_pos (by simp only [List.length_take, hn]; omega)]

/-- `ReadPacket` takes a whole frame off the front of the stream and leaves the rest,
as long as the stream stays below `2 ^ 32` bytes. -/
theorem readPacket_toBytes (p : Packet) (rest : Bytes) (hp : p.Valid)
    (hlen : (p.toBytes ++ rest).length < 2 ^ 32) :
    readPacket (p.toBytes ++ rest) = (.ok (some p), rest) :=
  readPacket_valid_frame p rest hp hlen

theorem readPacket_toBytes_shutdown :
    readPacket ((Body.shutdownRequest.toPacket 5).toBytes ++ [1, 2]) =
      (.ok (some (Body.shutdownRequest.toPacket 5)), [1, 2]) :=
  readPacket_toBytes _ _ ⟨by decide, .shutdownRequest, trivial, rfl⟩ (by decide)

/-- A download response of `2 ^ 32 - 8` bytes: its length field reads `2 ^ 32 - 4`, so
`length + 4` overflows and `ReadPacket` refuses the frame, leaving the stream as it was. -/
theorem readPacket_long_download (d : Bytes) (hd : d.length = 2 ^ 32 - 8) :
    readPacket ((Body.downloadResponse ⟨d⟩).toPacket 0).toBytes =
      (.error "overflow in command packet", ((Body.downloadResponse ⟨d⟩).toPacket 0).toBytes) := by
  have hto : ((Body.downloadResponse ⟨d⟩).toPacket 0).toBytes =
      putUint32 (UInt32.ofNat (d.length + 4)) ++ (putUint16 0x8000 ++ putUint16 3 ++ d) := by
    simp [Packet.toBytes, Packet.bodyBytes, Packet.packedID, Body.toPacket, either, commandPing,
      commandShell, commandExec, commandDownload]
    rw [show (0 &&& 32767 ||| 32768 : UInt16) = 32768 by decide,
      show 2 + (2 + d.length) = d.length + 4 by omega]
  rw [hto, hd]
  simp only [putUint32, List.cons_append, List.nil_append, readPacket, getUint32_putUint32]
  rw [if_pos (by decide)]

/-- A download response carrying `2 ^ 32 - 8` bytes is a valid command packet, but its
length field reads `2 ^ 32 - 4`, and `ReadPacket`'s `length + 4` overflows: the frame is
refused with an error instead of being read back. -/
theorem readPacket_overflow :
    ((Body.downloadResponse ⟨List.replicate (2 ^ 32 - 8) 0⟩).toPacket 0).Valid ∧
      (readPacket (((Body.downloadResponse ⟨List.replicate (2 ^ 32 - 8) 0⟩).toPacket 0).toBytes ++
        [])).1 = .error "overflow in command packet" :=
  ⟨⟨by decide, .downloadResponse _, trivial, rfl⟩, by
    rw [List.append_nil, readPacket_long_download _ (List.length_replicate _ _)]⟩

private theorem and_low_of_request {rid : UInt16} (hr : rid.toNat < 0x8000) :
    rid &&& 0x7FFF = rid :=
  UInt16.toNat.inj (by rw [toNat_and16, toNat_low, and_low_of_lt hr])

/-- A frame whose packed field has its high bit clear is a request with that id. -/
theorem parsePacket_request (rid cmd : UInt16) (hr : rid.toNat < 0x8000) (r : Bytes) :
    parsePacket (putUint16 rid ++ putUint16 cmd ++ r) =
      parseBody { requestID := rid, commandID := cmd, isRequest := true } r := by
  have hhigh : rid &&& 0x8000 = 0 :=
    UInt16.toNat.inj (by rw [toNat_and16, toNat_high, and_high_of_lt hr]; rfl)
  rw [parsePacket, if_neg (by simp only [List.length_append, length_putUint16]; omega)]
  simp [and_low_of_request hr, hhigh]

/-- Fewer than four bytes: `binary.Read` fails, the field stays zero, the reader drains. -/
theorem readUint32Or_short {r : Bytes} (h : r.length < 4) : readUint32Or r = (0, []) := by
  rcases r with _ | ⟨a, _ | ⟨b, _ | ⟨c, _ | ⟨d, r⟩⟩⟩⟩ <;> first | rfl | (simp at h; omega)

/-- A request whose fixed-width field is cut short parses with that field zero, and a
request string with no NUL after it parses as the rest of the frame: `ToBytes` then writes
the whole field, or the string and its NUL, past the end of the frame that was read. -/
theorem parsePacket_truncated (rid : UInt16) (hr : rid.toNat < 0x8000) (r s : Bytes)
    (hr4 : r.length < 4) (hs : 0 ∉ s) :
    (∃ p, parsePacket (putUint16 rid ++ putUint16 commandDelay ++ r) = .ok p ∧
      p.toBytes = putUint32 8 ++ (putUint16 rid ++ putUint16 commandDelay ++ putUint32 0)) ∧
    (∃ p, parsePacket (putUint16 rid ++ putUint16 commandPing ++ s) = .ok p ∧
      p.toBytes = putUint32 (UInt32.ofNat (s.length + 5)) ++
        (putUint16 rid ++ putUint16 commandPing ++ s ++ [0])) := by
  rw [parsePacket_request _ _ hr, parsePacket_request _ _ hr]
  refine ⟨⟨_, rfl, ?_⟩, ⟨_, rfl, ?_⟩⟩
  · simp [Packet.toBytes, Packet.bodyBytes, either, readUint32Or_short hr4, Packet.packedID,
      and_low_of_request hr, commandPing, commandShell, commandExec, commandDownload,
      commandUpload, commandShutdown, commandDelay]
  · have hlen : 2 + (2 + (s.length + 1)) = s.length + 5 := by omega
    simp [Packet.toBytes, Packet.bodyBytes, either, readNTString, splitNT_of_not_mem hs,
      Packet.packedID, and_low_of_request hr, commandPing, writeNTString, hlen]

theorem parsePacket_truncated_delay :
    ∃ p, parsePacket [0, 1, 0, 6] = .ok p ∧ ¬ p.toBytes.drop 4 <+: [0, 1, 0, 6] :=
  let ⟨p, hp, ht⟩ := (parsePacket_truncated 1 (by decide) [] [] (by decide) (by decide)).1
  ⟨p, hp, by rw [ht]; decide⟩

end Dnscat2.Command