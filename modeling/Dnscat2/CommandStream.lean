import Dnscat2.CommandDriver
import Dnscat2.CommandRoundTrip

/-!
How the command driver cuts its stream into frames. Between two calls the stream
holds the first bytes of the next frame and nothing more (`Pending`); a call of
`DataReceived` hands on every frame its chunk completes, in order, and leaves the
bytes of the next incomplete one. So a stream of valid frames, cut into chunks any
way, reaches the handler as the same packets in the same order, once each, and
the stream ends empty. The bound is the one of `ReadPacket`: below `2 ^ 32` bytes
its length check neither overflows nor wraps.
-/

namespace Dnscat2.Command

/-- The bytes of a sequence of packets, frame after frame. -/
def streamOf (ps : List Packet) : Bytes := (ps.map Packet.toBytes).flatten

@[simp] theorem streamOf_nil : streamOf [] = [] := rfl

@[simp] theorem streamOf_cons (p : Packet) (ps : List Packet) :
    streamOf (p :: ps) = p.toBytes ++ streamOf ps := rfl

theorem streamOf_take_drop (ps : List Packet) (k : Nat) :
    streamOf (ps.take k) ++ streamOf (ps.drop k) = streamOf ps := by
  simp only [streamOf, ← List.flatten_append, ← List.map_append, List.take_append_drop]

/-- What the stream may hold between two calls, when `R` are the frames still to come:
a proper prefix of the next one, or nothing when none is left. -/
def Pending (s : Bytes) : List Packet → Prop
  | [] => s = []
  | p :: _ => s <+: p.toBytes ∧ s.length < p.toBytes.length

theorem readPacket_of_pending {s : Bytes} {R : List Packet} (h : Pending s R)
    (hlen : (streamOf R).length < 2 ^ 32) : readPacket s = (.ok none, s) := by
  cases R with
  | nil => rw [show s = [] from h]; rfl
  | cons p R =>
    simp only [streamOf_cons, List.length_append] at hlen
    exact readPacket_pending p h.1 h.2 (by omega)

/-- The stream cannot hold all of what is still to come unless nothing is. -/
theorem pending_streamOf {R : List Packet} (h : Pending (streamOf R) R) : R = [] := by
  cases R with
  | nil => rfl
  | cons p R => simp only [Pending, streamOf_cons, List.length_append] at h; omega

/-- Any prefix of a stream of frames is some whole frames, then what `Pending` allows. -/
theorem prefix_streamOf (R : List Packet) {P : Bytes} (hP : P <+: streamOf R) :
    ∃ k s, P = streamOf (R.take k) ++ s ∧ Pending s (R.drop k) := by
  induction R generalizing P with
  | nil => exact ⟨0, [], by simpa using hP, rfl⟩
  | cons q R ih =>
    have hq : q.toBytes <+: streamOf (q :: R) := List.prefix_append _ _
    by_cases hlt : P.length < q.toBytes.length
    · exact ⟨0, P, by simp, List.prefix_of_prefix_length_le hP hq hlt.le, hlt⟩
    · obtain ⟨P', rfl⟩ := List.prefix_of_prefix_length_le hq hP (Nat.le_of_not_lt hlt)
      obtain ⟨k, s, rfl, hs⟩ := ih ((List.prefix_append_right_inj _).mp hP)
      exact ⟨k + 1, s, by simp, hs⟩

theorem processPackets_of_some {handle : Handler} {stream rest : Bytes} {pkt : Packet}
    (h : readPacket stream = (.ok (some pkt), rest)) (c : Core) :
    processPackets handle stream c = (dispatch handle c pkt).bind (processPackets handle rest) := by
  rw [processPackets]
  split
  · next heq =>
    simp only [h, Prod.mk.injEq, Except.ok.injEq, Option.some.injEq] at heq
    obtain ⟨rfl, rfl⟩ := heq
    split <;> simp_all [Except.bind]
  · next heq => simp_all

/-- When `ReadPacket` gives no packet, missing data or an error alike, the loop stops with
the stream `ReadPacket` leaves. -/
theorem processPackets_of_wait {handle : Handler} {stream rest : Bytes}
    {r : Except String (Option Packet)} (h : readPacket stream = (r, rest))
    (hr : ∀ pkt, r ≠ .ok (some pkt)) (c : Core) :
    processPackets handle stream c = .ok (rest, c) := by
  rw [processPackets]
  split
  · next heq => rw [h] at heq; exact absurd (Prod.mk.inj heq).1 (hr _)
  · next heq => rw [h] at heq; exact congrArg (fun r => Except.ok (r, c)) (Prod.mk.inj heq).2.symm

/-- `processPackets` hands whole valid frames at the front of the stream to the handler,
in order, then goes on with what follows them. -/
theorem processPackets_frames (handle : Handler) (qs : List Packet) (hq : ∀ q ∈ qs, q.Valid)
    (s : Bytes) (hlen : (streamOf qs ++ s).length < 2 ^ 32) (c : Core) :
    processPackets handle (streamOf qs ++ s) c =
      (qs.foldlM (dispatch handle) c).bind (processPackets handle s) := by
  induction qs generalizing c with
  | nil => rfl
  | cons q qs ih =>
    simp only [streamOf_cons, List.append_assoc] at hlen ⊢
    rw [processPackets_of_some (readPacket_valid_frame q _ (hq q (.head _)) hlen), List.foldlM_cons]
    cases dispatch handle c q with
    | error e => rfl
    | ok c' =>
      exact ih (fun q' h => hq q' (.tail _ h))
        (by simp only [List.length_append] at hlen ⊢; omega) c'

/-- `processPackets` on whole valid frames and then what `Pending` allows hands the
frames' packets to the handler in order and leaves the rest. -/
theorem processPackets_streamOf (handle : Handler) (qs : List Packet) (hq : ∀ q ∈ qs, q.Valid)
    {s : Bytes} (hs : readPacket s = (.ok none, s)) (hlen : (streamOf qs ++ s).length < 2 ^ 32)
    (c : Core) :
    processPackets handle (streamOf qs ++ s) c =
      (fun c' => (s, c')) <$> qs.foldlM (dispatch handle) c := by
  rw [processPackets_frames handle qs hq s hlen]
  cases qs.foldlM (dispatch handle) c with
  | error e => rfl
  | ok c' => exact processPackets_of_wait hs (by simp) c'

/-- The run of `DataReceived` calls over the chunks, from a stream holding what
`Pending` allows before the frames `R`. -/
theorem foldlM_dataReceived (handle : Handler) (chunks : List Bytes) :
    ∀ (R : List Packet) (s : Bytes) (c : Core), (∀ p ∈ R, p.Valid) → Pending s R →
      s ++ chunks.flatten = streamOf R → (streamOf R).length < 2 ^ 32 →
      chunks.foldlM (Driver.dataReceived handle) ⟨s, c⟩ =
        (fun c' => ⟨[], c'⟩) <$> R.foldlM (dispatch handle) c := by
  induction chunks with
  | nil =>
    intro R s c _ hs hj _
    simp only [List.flatten_nil, List.append_nil] at hj
    subst hj
    obtain rfl := pending_streamOf hs
    rfl
  | cons ch chs ih =>
    intro R s c hR hs hj hlen
    have hpre : s ++ ch <+: streamOf R :=
        ⟨chs.flatten, by rw [← hj, List.flatten_cons, List.append_assoc]⟩
    obtain ⟨k, s', hsplit, hs'⟩ := prefix_streamOf R hpre
    have hrest : s' ++ chs.flatten = streamOf (R.drop k) := by
      have h2 : streamOf (R.take k) ++ (s' ++ chs.flatten) =
          streamOf (R.take k) ++ streamOf (R.drop k) := by
        rw [← List.append_assoc, ← hsplit, List.append_assoc, ← List.flatten_cons, hj,
          streamOf_take_drop]
      exact List.append_cancel_left h2
    have hlen' : (streamOf (R.drop k)).length < 2 ^ 32 := by
      rw [← streamOf_take_drop R k, List.length_append] at hlen; omega
    have hproc := processPackets_streamOf handle (R.take k)
      (fun p h => hR p (List.mem_of_mem_take h)) (readPacket_of_pending hs' hlen')
      (by rw [← hsplit]; exact lt_of_le_of_lt hpre.length_le hlen) c
    rw [List.foldlM_cons, Driver.dataReceived, hsplit, hproc, ← List.take_append_drop k R,
      List.foldlM_append, List.take_append_drop]
    cases (R.take k).foldlM (dispatch handle) c with
    | error e => rfl
    | ok c' =>
      exact ih (R.drop k) s' c' (fun p h => hR p (List.mem_of_mem_drop h)) hs' hrest hlen'

/-- However a stream of valid frames shorter than `2 ^ 32` bytes is cut into chunks,
feeding the chunks to `DataReceived` in order hands the packets to the handler once
each, in order, and leaves the stream empty. -/
theorem dataReceived_chunks (handle : Handler) (ps : List Packet) (hps : ∀ p ∈ ps, p.Valid)
    (chunks : List Bytes) (hc : chunks.flatten = streamOf ps) (hlen : (streamOf ps).length < 2 ^ 32)
    (c : Core) :
    chunks.foldlM (Driver.dataReceived handle) ⟨[], c⟩ =
      (fun c' => ⟨[], c'⟩) <$> ps.foldlM (dispatch handle) c :=
  foldlM_dataReceived handle chunks ps [] c hps
    (by cases ps with
      | nil => rfl
      | cons p _ =>
        refine ⟨List.nil_prefix, ?_⟩
        rw [toBytes_eq]
        simp only [List.length_append, length_putUint32, List.length_nil]
        omega)
    hc hlen

theorem dataReceived_chunks_split :
    [(Body.shutdownRequest.toPacket 5).toBytes.take 3,
        (Body.shutdownRequest.toPacket 5).toBytes.drop 3].foldlM
        (Driver.dataReceived fun c _ => .ok (c, none)) ⟨[], Driver.new.core⟩ =
      (fun c' => ⟨[], c'⟩) <$>
        [Body.shutdownRequest.toPacket 5].foldlM (dispatch fun c _ => .ok (c, none))
          Driver.new.core :=
  dataReceived_chunks _ _
    (List.forall_mem_singleton.mpr ⟨by decide, .shutdownRequest, trivial, rfl⟩)
    _ (by simp [streamOf]) (by decide) _

private theorem dataReceived_long_download (d : Bytes) (hd : d.length = 2 ^ 32 - 8)
    (handle : Handler) (c : Core) :
    [((Body.downloadResponse ⟨d⟩).toPacket 0).toBytes].foldlM (Driver.dataReceived handle) ⟨[], c⟩ =
      .ok ⟨((Body.downloadResponse ⟨d⟩).toPacket 0).toBytes, c⟩ := by
  rw [List.foldlM_cons, Driver.dataReceived, List.nil_append,
    processPackets_of_wait (readPacket_long_download d hd) (by simp)]
  rfl

/-- One valid frame of `2 ^ 32 - 4` bytes, given to `DataReceived` whole: `ReadPacket`
refuses it, so no handler sees it and it stays in the stream. -/
theorem dataReceived_overflow :
    ((Body.downloadResponse ⟨List.replicate (2 ^ 32 - 8) 0⟩).toPacket 0).Valid ∧
      ∀ (handle : Handler) (c : Core),
        [((Body.downloadResponse ⟨List.replicate (2 ^ 32 - 8) 0⟩).toPacket 0).toBytes].foldlM
            (Driver.dataReceived handle) ⟨[], c⟩ =
          .ok ⟨((Body.downloadResponse ⟨List.replicate (2 ^ 32 - 8) 0⟩).toPacket 0).toBytes, c⟩ :=
  ⟨⟨by decide, .downloadResponse _, trivial, rfl⟩,
    dataReceived_long_download _ (List.length_replicate _ _)⟩

/-- A command id none of the eleven branches of `parsePacket` knows: the frame is refused. -/
theorem parsePacket_unknown (packed cmd : UInt16) (body : Bytes)
    (hcmd : cmd ∉ [commandPing, commandShell, commandExec, commandDownload, commandUpload,
      commandShutdown, commandDelay, tunnelConnect, tunnelData, tunnelClose, commandError]) :
    parsePacket (putUint16 packed ++ putUint16 cmd ++ body) =
      .error s!"unknown command_id: 0x{hex 4 cmd.toNat}" := by
  simp only [List.mem_cons, List.not_mem_nil, or_false, not_or] at hcmd
  obtain ⟨h₁, h₂, h₃, h₄, h₅, h₆, h₇, h₈, h₉, h₁₀, h₁₁⟩ := hcmd
  rw [parsePacket, if_neg (by simp only [List.length_append, length_putUint16]; omega)]
  simp [parseBody, h₁, h₂, h₃, h₄, h₅, h₆, h₇, h₈, h₉, h₁₀, h₁₁]

/-- Whole valid frames, then a frame of a command id `parsePacket` does not know (any
packed id, any body), then anything: `DataReceived` hands the frames before it to the
handler, and then stops. The unknown frame gets no response, and what follows it stays in
the stream, handed to no handler, until the next call. -/
theorem dataReceived_unknown_command (handle : Handler) (c : Core) (qs : List Packet)
    (hq : ∀ q ∈ qs, q.Valid) (packed cmd : UInt16) (body rest : Bytes)
    (hcmd : cmd ∉ [commandPing, commandShell, commandExec, commandDownload, commandUpload,
      commandShutdown, commandDelay, tunnelConnect, tunnelData, tunnelClose, commandError])
    (hlen : (streamOf qs ++ putUint32 (UInt32.ofNat (body.length + 4)) ++
      (putUint16 packed ++ putUint16 cmd ++ body) ++ rest).length < 2 ^ 32) :
    Driver.dataReceived handle ⟨[], c⟩ (streamOf qs ++ putUint32 (UInt32.ofNat (body.length + 4)) ++
        (putUint16 packed ++ putUint16 cmd ++ body) ++ rest) =
      (fun c' => ⟨rest, c'⟩) <$> qs.foldlM (dispatch handle) c := by
  have hd : (putUint16 packed ++ putUint16 cmd ++ body).length = body.length + 4 := by
    simp only [List.length_append, length_putUint16]; omega
  simp only [List.length_append, length_putUint32, hd] at hlen
  have hn : (UInt32.ofNat (body.length + 4)).toNat = body.length + 4 := by
    simp only [toNat_ofNat32]; omega
  have hread : readPacket (putUint32 (UInt32.ofNat (body.length + 4)) ++
      ((putUint16 packed ++ putUint16 cmd ++ body) ++ rest)) =
        (.error s!"unknown command_id: 0x{hex 4 cmd.toNat}", rest) := by
    rw [readPacket_putUint32 _ _ (by omega) (by simp only [List.length_append, hd]; omega),
      if_neg (by simp only [hn, List.length_append, hd]; omega), hn, List.take_left' hd,
      List.drop_left' hd, parsePacket_unknown packed cmd body hcmd]
    rfl
  have hlen' : (streamOf qs ++ (putUint32 (UInt32.ofNat (body.length + 4)) ++
      ((putUint16 packed ++ putUint16 cmd ++ body) ++ rest))).length < 2 ^ 32 := by
    simp only [List.length_append, length_putUint32, hd]; omega
  rw [Driver.dataReceived, List.nil_append, List.append_assoc, List.append_assoc,
    processPackets_frames handle qs hq _ hlen']
  cases qs.foldlM (dispatch handle) c with
  | error e => rfl
  | ok c' => exact congrArg (Functor.map _) (processPackets_of_wait hread (by simp) c')

theorem dataReceived_unknown_command_stalls :
    Driver.dataReceived (fun c _ => .ok (c, none)) ⟨[], Driver.new.core⟩
        ([0, 0, 0, 4, 0, 1, 0, 7] ++ (Body.shutdownRequest.toPacket 5).toBytes) =
      .ok ⟨(Body.shutdownRequest.toPacket 5).toBytes, Driver.new.core⟩ :=
  dataReceived_unknown_command _ _ [] (by simp) 1 7 [] _ (by decide) (by decide)

end Dnscat2.Command
