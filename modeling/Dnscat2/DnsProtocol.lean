import Mathlib.Data.List.Basic
import Dnscat2.Wire

/-!
The DNS wire format of the tunnel (`pkg/tunnel/dns/protocol.go`): the query the
client sends and the parser of the responses it receives. A Go `string` is a
list of octets here, like a `[]byte`. `decodeDNSName` follows compression
pointers with no bound on the number of jumps, so its loop runs on fuel, one
unit per turn. A parse is an `ExceptT String Option`: `none` when a name loop
still runs after its last unit of fuel, otherwise Go's result or error text.
The transaction id, `rand.Intn(0xFFFF)` in Go, is a parameter of the query.

The parser reads `data[i]` only at indices the Go code has checked against
`len(data)` first, so a read is `getD` with a default that is never used.
-/

namespace Dnscat2.Dns

/-- A run of the parser: `none` while a name loop is still going when its fuel is
spent, otherwise what Go returns. -/
abbrev Parse := ExceptT String Option

def flagRD : UInt16 := 0x0100

def typeA : UInt16 := 1
def typeCNAME : UInt16 := 5
def typeMX : UInt16 := 15
def typeTXT : UInt16 := 16
def typeAAAA : UInt16 := 28

/-- `binary.BigEndian.Uint16(data[i:i+2])`. -/
def readU16 (data : Bytes) (i : Nat) : UInt16 := getUint16 (data.getD i 0) (data.getD (i + 1) 0)

/-- `binary.BigEndian.Uint32(data[i:i+4])`. -/
def readU32 (data : Bytes) (i : Nat) : UInt32 :=
  getUint32 (data.getD i 0) (data.getD (i + 1) 0) (data.getD (i + 2) 0) (data.getD (i + 3) 0)

/-- `data[i:i+n]`. -/
def slice (data : Bytes) (i n : Nat) : Bytes := (data.drop i).take n

structure DNSQuestion where
  name : Bytes
  type : UInt16
  dnsClass : UInt16
deriving DecidableEq, Repr

structure DNSAnswer where
  name : Bytes
  type : UInt16
  dnsClass : UInt16
  ttl : UInt32
  data : Bytes
deriving DecidableEq, Repr

structure DNSResponse where
  id : UInt16
  flags : UInt16
  rcode : UInt16
  questions : List DNSQuestion
  answers : List DNSAnswer
deriving DecidableEq, Repr

/-! ### The query -/

/-- The loop of `encodeDNSName` over the parts of the dotted name: each non-empty
part behind its length byte. -/
def encodeLabels (parts : List Bytes) : Bytes :=
  parts.flatMap fun part => if 0 < part.length then part.length.toUInt8 :: part else []

def encodeDNSName (name : Bytes) : Bytes := encodeLabels (name.splitOn 46) ++ [0]

def buildDNSQuery (id : UInt16) (name : Bytes) (qtype : UInt16) : Bytes :=
  putUint16 id ++ putUint16 flagRD ++ putUint16 1 ++ putUint16 0 ++ putUint16 0 ++ putUint16 0 ++
    encodeDNSName name ++ putUint16 qtype ++ putUint16 1

/-! ### Names -/

/-- The variables of `decodeDNSName`'s loop. -/
structure NameCursor where
  offset : Nat
  parts : List Bytes
  jumped : Bool
  jumpOffset : Nat
deriving DecidableEq, Repr

/-- How one turn of the loop ends: an error, the name with the offset after it,
or the next turn. -/
inductive NameStep
  | fail (err : String)
  | done (name : Bytes) (next : Nat)
  | next (c : NameCursor)
deriving DecidableEq, Repr

/-- One turn of `decodeDNSName`'s loop: the terminator, a compression pointer, or
a label. -/
def nameStep (data : Bytes) (c : NameCursor) : NameStep :=
  if data.length ≤ c.offset then .fail "DNS name extends beyond packet" else
  let b := data.getD c.offset 0
  if b = 0 then
    .done ([46].intercalate c.parts) (if c.jumped then c.jumpOffset else c.offset + 1)
  else if b &&& 0xC0 = 0xC0 then
    if data.length ≤ c.offset + 1 then .fail "DNS compression pointer truncated" else
    let pointer := (readU16 data c.offset &&& 0x3FFF).toNat
    .next { c with
      offset := pointer, jumped := true
      jumpOffset := if c.jumped then c.jumpOffset else c.offset + 2 }
  else
    let offset := c.offset + 1
    if data.length < offset + b.toNat then .fail "DNS name label extends beyond packet" else
    .next { c with offset := offset + b.toNat, parts := c.parts ++ [slice data offset b.toNat] }

def decodeDNSName.loop (data : Bytes) : Nat → NameCursor → Parse (Bytes × Nat)
  | 0, _ => ExceptT.mk none
  | fuel + 1, c =>
    match nameStep data c with
    | .fail err => throw err
    | .done name next => pure (name, next)
    | .next c' => loop data fuel c'

/-- The name at `offset` and the offset after it, on `fuel` turns of the loop. -/
def decodeDNSName (fuel : Nat) (data : Bytes) (offset : Nat) : Parse (Bytes × Nat) :=
  decodeDNSName.loop data fuel ⟨offset, [], false, 0⟩

/-! ### The response -/

def parseQuestions (fuel : Nat) (data : Bytes) : Nat → Nat → Parse (List DNSQuestion × Nat)
  | 0, offset => pure ([], offset)
  | n + 1, offset => do
    let (name, offset) ← decodeDNSName fuel data offset
    if data.length < offset + 4 then throw "DNS response truncated in question"
    let (qs, next) ← parseQuestions fuel data n (offset + 4)
    pure (⟨name, readU16 data offset, readU16 data (offset + 2)⟩ :: qs, next)

/-- The name in a CNAME or MX answer: `nil` when it does not decode. -/
def nameOrNil (fuel : Nat) (data : Bytes) (offset : Nat) : Parse Bytes :=
  tryCatch ((·.1) <$> decodeDNSName fuel data offset) fun _ => pure []

/-- The switch on the answer type: what `a.Data` holds for the RDATA of
`rdLength` bytes at `offset`. -/
def answerData (fuel : Nat) (data : Bytes) (type : UInt16) (offset rdLength : Nat) : Parse Bytes :=
  if type = typeA then pure (if 4 ≤ rdLength then slice data offset 4 else [])
  else if type = typeAAAA then pure (if 16 ≤ rdLength then slice data offset 16 else [])
  else if type = typeMX then if 2 ≤ rdLength then nameOrNil fuel data (offset + 2) else pure []
  else if type = typeCNAME then nameOrNil fuel data offset
  else if type = typeTXT then
    pure <| if 1 ≤ rdLength then
        let txtLen := (data.getD offset 0).toNat
        if offset + 1 + txtLen ≤ data.length then slice data (offset + 1) txtLen else []
      else []
  else pure (slice data offset rdLength)

def parseAnswers (fuel : Nat) (data : Bytes) : Nat → Nat → Parse (List DNSAnswer × Nat)
  | 0, offset => pure ([], offset)
  | n + 1, offset => do
    let (name, h) ← decodeDNSName fuel data offset
    if data.length < h + 10 then throw "DNS response truncated in answer header"
    let type := readU16 data h
    let rdLength := (readU16 data (h + 8)).toNat
    if data.length < h + 10 + rdLength then throw "DNS response truncated in answer data"
    let rdata ← answerData fuel data type (h + 10) rdLength
    let (as, next) ← parseAnswers fuel data n (h + 10 + rdLength)
    pure (⟨name, type, readU16 data (h + 2), readU32 data (h + 4), rdata⟩ :: as, next)

def parseDNSResponse (fuel : Nat) (data : Bytes) : Parse DNSResponse := do
  if data.length < 12 then throw "DNS response too short"
  let flags := readU16 data 2
  let (questions, offset) ← parseQuestions fuel data (readU16 data 4).toNat 12
  let (answers, _) ← parseAnswers fuel data (readU16 data 6).toNat offset
  pure { id := readU16 data 0, flags, rcode := flags &&& 0x000F, questions, answers }

/-! ### Reading back what was written -/

theorem getD_append_add (pre rest : Bytes) (i : Nat) : (pre ++ rest).getD (pre.length + i) 0 = rest.getD i 0 := by
  simp [List.getD_eq_getElem?_getD, List.getElem?_append_right]

theorem slice_append (pre l rest : Bytes) : slice (pre ++ l ++ rest) pre.length l.length = l := by
  simp [slice]

theorem getD_append_length (pre rest : Bytes) : (pre ++ rest).getD pre.length 0 = rest.getD 0 0 := by
  simpa using getD_append_add pre rest 0

theorem readU16_append (pre rest : Bytes) (v : UInt16) :
    readU16 (pre ++ putUint16 v ++ rest) pre.length = v := by
  simp only [readU16, List.append_assoc, getD_append_length, getD_append_add]
  exact getUint16_putUint16 v

/-! ### One turn of the name loop -/

/-- A length byte of a label of at most 63 octets is neither the terminator nor a
pointer. -/
theorem labelByte {n : Nat} (h0 : 0 < n) (h : n ≤ 63) :
    n.toUInt8 ≠ 0 ∧ n.toUInt8 &&& 0xC0 ≠ 0xC0 ∧ n.toUInt8.toNat = n := by
  have hp : ∀ n < 64, n.toUInt8 &&& 0xC0 ≠ 0xC0 := by decide
  refine ⟨fun h' => ?_, hp n (by omega), by simp; omega⟩
  have := congrArg UInt8.toNat h'
  simp at this
  omega

theorem nameStep_end {data : Bytes} {c : NameCursor} (h : c.offset < data.length)
    (hb : data.getD c.offset 0 = 0) :
    nameStep data c = .done ([46].intercalate c.parts) (if c.jumped then c.jumpOffset else c.offset + 1) := by
  simp only [nameStep, Nat.not_le.2 h, hb, ite_true, ite_false]

theorem nameStep_label {data : Bytes} {c : NameCursor} (hb : data.getD c.offset 0 ≠ 0)
    (hp : data.getD c.offset 0 &&& 0xC0 ≠ 0xC0)
    (h : c.offset + 1 + (data.getD c.offset 0).toNat ≤ data.length) :
    nameStep data c = .next { c with
      offset := c.offset + 1 + (data.getD c.offset 0).toNat
      parts := c.parts ++ [slice data (c.offset + 1) (data.getD c.offset 0).toNat] } := by
  simp only [nameStep, Nat.not_le.2 (by omega : c.offset < data.length), hb, hp, Nat.not_lt.2 h,
    ite_false]

theorem nameStep_pointer {data : Bytes} {c : NameCursor} (hp : data.getD c.offset 0 &&& 0xC0 = 0xC0)
    (h : c.offset + 1 < data.length) :
    nameStep data c = .next { c with
      offset := (readU16 data c.offset &&& 0x3FFF).toNat, jumped := true
      jumpOffset := if c.jumped then c.jumpOffset else c.offset + 2 } := by
  have hb : data.getD c.offset 0 ≠ 0 := fun h0 => absurd (h0 ▸ hp) (by decide)
  simp only [nameStep, Nat.not_le.2 (by omega : c.offset < data.length), hb, hp, Nat.not_le.2 h,
    ite_true, ite_false]

theorem loop_next {data : Bytes} {c c' : NameCursor} (h : nameStep data c = .next c') (fuel : Nat) :
    decodeDNSName.loop data (fuel + 1) c = decodeDNSName.loop data fuel c' := by
  simp [decodeDNSName.loop, h]

theorem loop_done {data name : Bytes} {c : NameCursor} {next : Nat} (h : nameStep data c = .done name next)
    (fuel : Nat) : decodeDNSName.loop data (fuel + 1) c = pure (name, next) := by
  simp [decodeDNSName.loop, h]

theorem nameStep_end_append {data pre rest : Bytes} {c : NameCursor} (hd : data = pre ++ 0 :: rest)
    (hc : c.offset = pre.length) :
    nameStep data c = .done ([46].intercalate c.parts) (if c.jumped then c.jumpOffset else c.offset + 1) :=
  nameStep_end (by simp [hd, hc]) (by rw [hd, hc, getD_append_length]; rfl)

theorem nameStep_label_append {data pre l rest : Bytes} {c : NameCursor}
    (hd : data = pre ++ l.length.toUInt8 :: l ++ rest) (hc : c.offset = pre.length)
    (h0 : 0 < l.length) (h : l.length ≤ 63) :
    nameStep data c = .next { c with offset := pre.length + 1 + l.length, parts := c.parts ++ [l] } := by
  obtain ⟨hb, hp, hn⟩ := labelByte h0 h
  have hget : data.getD c.offset 0 = l.length.toUInt8 := by
    rw [hd, hc, List.append_assoc, getD_append_length]; rfl
  have hslice : slice data (pre.length + 1) l.length = l := by
    simpa [hd] using slice_append (pre ++ [l.length.toUInt8]) l rest
  have hlen : c.offset + 1 + (data.getD c.offset 0).toNat ≤ data.length := by
    rw [hget, hn, hc, hd]; simp; omega
  rw [nameStep_label (hget ▸ hb) (hget ▸ hp) hlen, hget, hn, hc, hslice]

@[simp] theorem encodeLabels_nil : encodeLabels [] = [] := rfl

theorem encodeLabels_cons (p : Bytes) (ps : List Bytes) :
    encodeLabels (p :: ps) = (if 0 < p.length then p.length.toUInt8 :: p else []) ++ encodeLabels ps := by
  simp [encodeLabels]

/-- The loop reads back the labels `encodeLabels` writes: one turn for each
non-empty part and one for the terminator. -/
theorem loop_encodeLabels (pre post : Bytes) (ps : List Bytes) (hps : ∀ p ∈ ps, p.length ≤ 63)
    (parts : List Bytes) (j fuel : Nat) (hfuel : (ps.filter fun p => 0 < p.length).length < fuel) :
    decodeDNSName.loop (pre ++ encodeLabels ps ++ 0 :: post) fuel ⟨pre.length, parts, false, j⟩ =
      pure ([46].intercalate (parts ++ ps.filter fun p => 0 < p.length),
        pre.length + (encodeLabels ps).length + 1) := by
  induction ps generalizing pre parts fuel with
  | nil =>
    obtain ⟨fuel, rfl⟩ : ∃ f, fuel = f + 1 := ⟨fuel - 1, by simp at hfuel; omega⟩
    rw [loop_done (nameStep_end_append (by simp : pre ++ encodeLabels [] ++ 0 :: post = pre ++ 0 :: post)
      rfl)]
    simp
  | cons p ps ih =>
    have hps' := fun q hq => hps q (.tail _ hq)
    by_cases hp : 0 < p.length
    · obtain ⟨fuel, rfl⟩ : ∃ f, fuel = f + 1 := ⟨fuel - 1, by simp [hp] at hfuel; omega⟩
      have hd : pre ++ encodeLabels (p :: ps) ++ 0 :: post =
          (pre ++ p.length.toUInt8 :: p) ++ encodeLabels ps ++ 0 :: post := by
        simp [encodeLabels_cons, hp]
      have hlen : pre.length + 1 + p.length = (pre ++ p.length.toUInt8 :: p).length := by simp; omega
      rw [loop_next (@nameStep_label_append _ pre p (encodeLabels ps ++ 0 :: post) _ (by rw [hd]; simp)
        rfl hp (hps p (.head _))), hd]
      simp only [hlen]
      rw [ih _ hps' _ _ (by simpa [hp] using hfuel)]
      simp [hp, encodeLabels_cons]
      congr 2
      omega
    · have hd : encodeLabels (p :: ps) = encodeLabels ps := by simp [encodeLabels_cons, hp]
      simpa [hd, hp] using ih pre hps' parts fuel (by simpa [hp] using hfuel)

/-- The name decoder reads back what the name encoder wrote, wherever it stands in
a packet: the dotted name with its empty parts dropped, and the offset after it. -/
theorem decodeDNSName_encodeDNSName (pre post name : Bytes) (hname : ∀ p ∈ name.splitOn 46, p.length ≤ 63)
    (fuel : Nat) (hfuel : (name.splitOn 46).length < fuel) :
    decodeDNSName fuel (pre ++ encodeDNSName name ++ post) pre.length =
      pure ([46].intercalate ((name.splitOn 46).filter fun p => 0 < p.length),
        pre.length + (encodeDNSName name).length) := by
  have := loop_encodeLabels pre post (name.splitOn 46) hname [] 0 fuel
    (lt_of_le_of_lt (List.length_filter_le _ _) hfuel)
  simpa [decodeDNSName, encodeDNSName, Nat.add_assoc] using this

@[simp] theorem readU16_putUint16 (v : UInt16) (rest : Bytes) : readU16 (putUint16 v ++ rest) 0 = v :=
  readU16_append [] rest v

@[simp] theorem readU16_putUint16_add (v : UInt16) (rest : Bytes) (i : Nat) :
    readU16 (putUint16 v ++ rest) (i + 2) = readU16 rest i := rfl

theorem buildDNSQuery_header (id qtype : UInt16) (name : Bytes) :
    readU16 (buildDNSQuery id name qtype) 0 = id ∧ readU16 (buildDNSQuery id name qtype) 2 = flagRD ∧
      readU16 (buildDNSQuery id name qtype) 4 = 1 ∧ readU16 (buildDNSQuery id name qtype) 6 = 0 := by
  simp [buildDNSQuery]

theorem parseQuestions_succ {fuel : Nat} {data name : Bytes} {offset o : Nat} (n : Nat)
    (hd : decodeDNSName fuel data offset = pure (name, o)) (hl : o + 4 ≤ data.length) :
    parseQuestions fuel data (n + 1) offset =
      (fun r => (⟨name, readU16 data o, readU16 data (o + 2)⟩ :: r.1, r.2)) <$>
        parseQuestions fuel data n (o + 4) := by
  simp [parseQuestions, hd, Nat.not_lt.2 hl]

/-- The parser reads a query back as a response with the query's id and flags, no
answers, and the one question the query asks. -/
theorem parseDNSResponse_buildDNSQuery (id qtype : UInt16) (name : Bytes)
    (hname : ∀ p ∈ name.splitOn 46, p.length ≤ 63) (fuel : Nat) (hfuel : (name.splitOn 46).length < fuel) :
    parseDNSResponse fuel (buildDNSQuery id name qtype) =
      pure ⟨id, flagRD, 0,
        [⟨[46].intercalate ((name.splitOn 46).filter fun p => 0 < p.length), qtype, 1⟩], []⟩ := by
  obtain ⟨h0, h2, h4, h6⟩ := buildDNSQuery_header id qtype name
  set hdr := putUint16 id ++ putUint16 flagRD ++ putUint16 1 ++ putUint16 0 ++ putUint16 0 ++ putUint16 0
  have hq : buildDNSQuery id name qtype = hdr ++ encodeDNSName name ++ (putUint16 qtype ++ putUint16 1) := by
    simp [buildDNSQuery, hdr]
  have h12 : hdr.length = 12 := rfl
  have hdec := decodeDNSName_encodeDNSName hdr (putUint16 qtype ++ putUint16 1) name hname fuel hfuel
  have ht := readU16_append (hdr ++ encodeDNSName name) (putUint16 1) qtype
  have hc := readU16_append (hdr ++ encodeDNSName name ++ putUint16 qtype) [] 1
  simp only [List.append_nil, List.length_append, h12, length_putUint16] at ht hc
  rw [← hq, h12] at hdec
  rw [List.append_assoc (hdr ++ encodeDNSName name), ← hq] at ht hc
  have hlen : (buildDNSQuery id name qtype).length = 12 + (encodeDNSName name).length + 4 := by
    rw [hq]; simp [h12, length_putUint16]; omega
  rw [parseDNSResponse, if_neg (by omega), h4, h6]
  rw [show (1 : UInt16).toNat = 0 + 1 from rfl, parseQuestions_succ 0 hdec (by omega)]
  have hr : flagRD &&& 0x000F = 0 := rfl
  simp [parseQuestions, parseAnswers, h0, h2, ht, hc, hr]

/-! ### Compression pointers -/

/-- A parse still looping stays so through the rest of the computation. -/
@[simp] theorem mk_none_bind {α β : Type} (f : α → Parse β) :
    (ExceptT.mk none : Parse α) >>= f = ExceptT.mk none := rfl

/-- A turn of the loop that ends where it began repeats forever: no amount of
fuel is enough. -/
theorem loop_fixed {data : Bytes} {c : NameCursor} (h : nameStep data c = .next c) (fuel : Nat) :
    decodeDNSName.loop data fuel c = ExceptT.mk none := by
  induction fuel with
  | zero => rfl
  | succ n ih => rw [loop_next h, ih]

/-- A compression pointer to itself: after the first jump the cursor no longer
changes, so the name never ends. -/
theorem decodeDNSName_self_pointer {data : Bytes} {o : Nat} (hp : data.getD o 0 &&& 0xC0 = 0xC0)
    (hlen : o + 1 < data.length) (hself : (readU16 data o &&& 0x3FFF).toNat = o) (fuel : Nat) :
    decodeDNSName fuel data o = ExceptT.mk none := by
  have hjump : nameStep data ⟨o, [], true, o + 2⟩ = .next ⟨o, [], true, o + 2⟩ := by
    rw [@nameStep_pointer data ⟨o, [], true, o + 2⟩ hp hlen]; simp [hself]
  cases fuel with
  | zero => rfl
  | succ n =>
    rw [decodeDNSName, loop_next (@nameStep_pointer data ⟨o, [], false, 0⟩ hp hlen)]
    simpa [hself] using loop_fixed hjump n

theorem parseQuestions_spins {fuel : Nat} {data : Bytes} {offset : Nat} (n : Nat)
    (hd : decodeDNSName fuel data offset = ExceptT.mk none) :
    parseQuestions fuel data (n + 1) offset = ExceptT.mk none := by
  simp [parseQuestions, hd]

/-- A response whose first question's name is a pointer to itself, the two bytes
`0xC0 0x0C` at offset 12, keeps the parser looping whatever its fuel. -/
theorem parseDNSResponse_self_pointer (data : Bytes) (hlen : 14 ≤ data.length) (hqd : readU16 data 4 ≠ 0)
    (h12 : data.getD 12 0 = 0xC0) (h13 : data.getD 13 0 = 12) :
    ∀ fuel, (parseDNSResponse fuel data).run = none := by
  intro fuel
  obtain ⟨n, hn⟩ : ∃ n, (readU16 data 4).toNat = n + 1 :=
    ⟨(readU16 data 4).toNat - 1, by have := UInt16.toNat.inj.mt hqd; simp at this; omega⟩
  have hself : (readU16 data 12 &&& 0x3FFF).toNat = 12 := by rw [readU16, h12, h13]; rfl
  rw [parseDNSResponse, if_neg (by omega), hn,
    parseQuestions_spins n (decodeDNSName_self_pointer (by rw [h12]; rfl) (by omega) hself fuel)]
  rfl

/-- The fourteen-byte response with one question whose name points at itself. -/
theorem parseDNSResponse_self_pointer_spins :
    (parseDNSResponse 1000 [0, 0, 0x81, 0x80, 0, 1, 0, 0, 0, 0, 0, 0, 0xC0, 0x0C]).run = none :=
  parseDNSResponse_self_pointer _ (by decide) (by decide) (by decide) (by decide) 1000

end Dnscat2.Dns
