import Dnscat2.DnsProtocol
import Dnscat2.Driver

/-!
The DNS tunnel driver (`pkg/tunnel/dns/dns.go`): how the client's outgoing bytes
become a query name, and how the answers of a response become incoming bytes.
Of the Go `Driver` these functions read only `Domain`; the server address, the
socket and the record types belong to the I/O loop `Run`, which is not modelled.
`hex.EncodeToString` and `hex.DecodeString` are modelled after `encoding/hex`,
whose errors are values of their own (`InvalidByteError`, `ErrLength`), so the
error of `decodeDNSResponse` is either one of its own `fmt.Errorf` texts or a
hex error. A runtime panic in `decodeDNSResponse` is a `Halt`.
-/

namespace Dnscat2.Dns

def maxFieldLength : Nat := 62

def wildcardPrefix : Bytes := ascii "dnscat"

structure Driver where
  domain : Bytes
deriving DecidableEq, Repr

/-! ### encoding/hex -/

def hextable : Bytes := ascii "0123456789abcdef"

/-- `hex.EncodeToString`: each byte as two lowercase digits, `v>>4` then `v&0x0f`. -/
def hexEncodeToString (src : Bytes) : Bytes :=
  src.flatMap fun v => [hextable.getD (v / 16).toNat 0, hextable.getD (v % 16).toNat 0]

/-- The value of one hexadecimal digit of either case. -/
def fromHexChar (c : UInt8) : Option UInt8 :=
  if 48 ≤ c ∧ c ≤ 57 then some (c - 48)
  else if 97 ≤ c ∧ c ≤ 102 then some (c - 87)
  else if 65 ≤ c ∧ c ≤ 70 then some (c - 55)
  else none

inductive HexError
  | invalidByte (b : UInt8)
  | length
deriving DecidableEq, Repr

/-- `hex.DecodeString`: the digits in pairs from the left, `(a<<4)|b` for each; a
bad digit is reported before an odd length. -/
def hexDecodeString : Bytes → Except HexError Bytes
  | [] => pure []
  | [c] => throw (if (fromHexChar c).isSome then .length else .invalidByte c)
  | p :: q :: rest =>
    match fromHexChar p, fromHexChar q with
    | none, _ => throw (.invalidByte p)
    | some _, none => throw (.invalidByte q)
    | some a, some b => ((a * 16 + b) :: ·) <$> hexDecodeString rest

/-! ### Names -/

/-- The loop of `encodeDNSName` over the hex digits: a period once a section
reaches 61 digits (`sectionLen+1 >= MaxFieldLength`), never after the last digit. -/
def sections (sectionLen : Nat) : Bytes → Bytes
  | [] => []
  | c :: rest =>
    if rest ≠ [] ∧ maxFieldLength ≤ sectionLen + 1 + 1 then c :: 46 :: sections 0 rest
    else c :: sections (sectionLen + 1) rest

def Driver.encodeDNSName (d : Driver) (data : Bytes) : Bytes :=
  (if d.domain = [] then wildcardPrefix ++ [46] else []) ++ sections 0 (hexEncodeToString data) ++
    (if d.domain ≠ [] then 46 :: d.domain else [])

/-- `strings.TrimPrefix`. -/
def trimPrefix (s pre : Bytes) : Bytes := if pre.isPrefixOf s then s.drop pre.length else s

/-- `strings.TrimSuffix`. -/
def trimSuffix (s suf : Bytes) : Bytes :=
  if suf.isSuffixOf s then s.take (s.length - suf.length) else s

def Driver.removeDomain (d : Driver) (name : Bytes) : Bytes :=
  if d.domain ≠ [] then
    if !d.domain.isSuffixOf name then []
    else if name = d.domain then []
    else trimSuffix name (46 :: d.domain)
  else if !wildcardPrefix.isPrefixOf name then []
  else trimPrefix name (wildcardPrefix ++ [46])

/-- `decodeHex`, whose receiver is unused: the periods taken out, then
`hex.DecodeString`. -/
def decodeHex (data : Bytes) : Except HexError Bytes := hexDecodeString (data.filter (· ≠ 46))

/-! ### Responses -/

/-- `s[i]`, which panics out of range. -/
def index (s : Bytes) (i : Nat) : Except Halt UInt8 :=
  let n := s.length
  if h : i < n then pure (s.get ⟨i, h⟩)
  else throw (.panic s!"runtime error: index out of range [{i}] with length {n}")

/-- The comparator both `sort.Slice` calls pass, `Answers[i].Data[0] < Answers[j].Data[0]`,
with its two reads in Go's order. -/
def firstByteLess (a b : DNSAnswer) : Except Halt Bool := do
  let x ← index a.data 0
  let y ← index b.data 0
  pure (x < y)

/-- The inner loop of Go's `insertionSort_func` for one element `x`, over the
sorted prefix nearest element first: `x` moves left while it is less than its
neighbour. -/
def insertRev {α : Type} (less : α → α → Except Halt Bool) (x : α) : List α → Except Halt (List α)
  | [] => pure [x]
  | y :: ys => do
    if ← less x y then return y :: (← insertRev less x ys) else return x :: y :: ys

/-- `sort.Slice` as Go runs it on at most twelve elements, `insertionSort_func`:
each element in turn inserted into the sorted prefix before it. Past twelve Go
runs pdqsort, which this model does not have. -/
def sortSlice {α : Type} (less : α → α → Except Halt Bool) (xs : List α) : Except Halt (List α) :=
  List.reverse <$> xs.foldlM (fun acc x => insertRev less x acc) []

inductive DecodeError
  | text (msg : String)
  | hex (e : HexError)
deriving DecidableEq, Repr

/-- The A and AAAA branches of `decodeDNSResponse`, for records of `size` bytes: a
sequence byte, then `size - 1` bytes of the stream, which starts with its length. -/
def recordPayload (kind : String) (size : Nat) (answers : List DNSAnswer) :
    Except Halt (Except DecodeError Bytes) := do
  let answers ← sortSlice firstByteLess answers
  let buf := answers.flatMap fun a => if size ≤ a.data.length then slice a.data 1 (size - 1) else []
  if buf.length < 1 then return .error (.text s!"{kind} record response too short")
  let length := (buf.getD 0 0).toNat
  if buf.length - 1 < length then return .error (.text s!"{kind} record length mismatch")
  return .ok (slice buf 1 length)

def Driver.decodeDNSResponse (d : Driver) (response : DNSResponse) :
    Except Halt (Except DecodeError Bytes) :=
  match response.answers with
  | [] => pure (.error (.text "no answers in response"))
  | answer :: _ =>
    let t := answer.type
    if t = typeTXT then pure ((decodeHex answer.data).mapError .hex)
    else if t = typeCNAME ∨ t = typeMX then
      let name := d.removeDomain answer.data
      if name = [] then pure (.error (.text "empty response after removing domain"))
      else pure ((decodeHex name).mapError .hex)
    else if t = typeA then recordPayload "A" 4 response.answers
    else if t = typeAAAA then recordPayload "AAAA" 16 response.answers
    else pure (.error (.text s!"unknown DNS type: {t}"))

/-! ### The hex codec -/

theorem fromHexChar_hextable {n : Nat} (h : n < 16) : fromHexChar (hextable.getD n 0) = some n.toUInt8 :=
  (by decide : ∀ n < 16, fromHexChar (hextable.getD n 0) = some n.toUInt8) n h

theorem hextable_ne_dot {n : Nat} (h : n < 16) : hextable.getD n 0 ≠ 46 :=
  (by decide : ∀ n < 16, hextable.getD n 0 ≠ 46) n h

theorem toUInt8_toNat (b : UInt8) : b.toNat.toUInt8 = b := by
  apply UInt8.toNat.inj
  have : b.toNat < 256 := b.toNat_lt_size
  simp only [toNat_toUInt8]
  omega

theorem nibbles_lt (b : UInt8) : (b / 16).toNat < 16 ∧ (b % 16).toNat < 16 := by
  have : b.toNat < 256 := b.toNat_lt_size
  have h16 : (16 : UInt8).toNat = 16 := rfl
  rw [UInt8.toNat_div, UInt8.toNat_mod, h16]
  omega

theorem div_mul_add_mod (b : UInt8) : b / 16 * 16 + b % 16 = b := by
  apply UInt8.toNat.inj
  have h := b.toNat_lt_size
  have h1 := UInt8.toNat_div b 16
  have h2 := UInt8.toNat_mod b 16
  simp [UInt8.toNat, UInt8.add_def, UInt8.mul_def] at *
  omega

@[simp] theorem hexEncodeToString_cons (b : UInt8) (bs : Bytes) :
    hexEncodeToString (b :: bs) =
      hextable.getD (b / 16).toNat 0 :: hextable.getD (b % 16).toNat 0 :: hexEncodeToString bs := rfl

theorem length_hexEncodeToString (data : Bytes) : (hexEncodeToString data).length = 2 * data.length := by
  induction data with
  | nil => rfl
  | cons b bs ih => simp only [hexEncodeToString_cons, List.length_cons, ih]; omega

theorem hexDecodeString_hexEncodeToString (data : Bytes) :
    hexDecodeString (hexEncodeToString data) = .ok data := by
  induction data with
  | nil => rfl
  | cons b bs ih =>
    have ⟨h1, h2⟩ := nibbles_lt b
    rw [hexEncodeToString_cons, hexDecodeString, fromHexChar_hextable h1, fromHexChar_hextable h2, ih]
    simp only [toUInt8_toNat, div_mul_add_mod]
    rfl

theorem dot_not_mem_hexEncodeToString (data : Bytes) : 46 ∉ hexEncodeToString data := by
  induction data with
  | nil => simp [hexEncodeToString]
  | cons b bs ih =>
    have ⟨h1, h2⟩ := nibbles_lt b
    simp only [hexEncodeToString_cons, List.mem_cons, not_or]
    exact ⟨(hextable_ne_dot h1).symm, (hextable_ne_dot h2).symm, ih⟩

/-! ### Labels -/

theorem intercalate_cons_cons {α : Type} (s : α) (a b : List α) (L : List (List α)) :
    [s].intercalate (a :: b :: L) = a ++ s :: [s].intercalate (b :: L) := by
  simp [List.intercalate, List.intersperse_cons_cons]

theorem cons_intercalate {α : Type} (s c : α) (f : List α) (L : List (List α)) :
    c :: [s].intercalate (f :: L) = [s].intercalate ((c :: f) :: L) := by
  cases L <;> simp [List.intercalate, List.intersperse_cons_cons]

theorem intercalate_append {α : Type} (s : α) (L₁ L₂ : List (List α)) (h₁ : L₁ ≠ []) (h₂ : L₂ ≠ []) :
    [s].intercalate (L₁ ++ L₂) = [s].intercalate L₁ ++ s :: [s].intercalate L₂ := by
  induction L₁ with
  | nil => contradiction
  | cons a L ih =>
    obtain ⟨b, L₂, rfl⟩ := List.exists_cons_of_ne_nil h₂
    cases L with
    | nil => simp [intercalate_cons_cons, List.intercalate]
    | cons a' L =>
      rw [List.cons_append, List.cons_append, intercalate_cons_cons, ← List.cons_append, ih (by simp),
        intercalate_cons_cons]
      simp

/-- No part of a split holds the separator. -/
theorem not_mem_of_mem_splitOn {x : UInt8} {xs l : Bytes} (h : l ∈ xs.splitOn x) : x ∉ l := by
  induction xs generalizing l with
  | nil => simp [List.splitOn, List.splitOnP_nil] at h; simp [h]
  | cons y ys ih =>
    simp only [List.splitOn, List.splitOnP_cons] at h ih
    obtain ⟨a, as, has⟩ := List.exists_cons_of_ne_nil (List.splitOnP_ne_nil (· == x) ys)
    split_ifs at h with hy
    · rcases List.mem_cons.1 h with rfl | h
      · simp
      · exact ih h
    · rw [has, List.modifyHead_cons] at h
      rcases List.mem_cons.1 h with rfl | h
      · simp only [List.mem_cons, not_or]
        exact ⟨fun e => hy (by simp [e]), ih (has ▸ List.mem_cons_self a as)⟩
      · exact ih (has ▸ List.mem_cons_of_mem a h)

/-- `decodeHex` skips the periods `encodeDNSName` puts between sections. -/
theorem filter_sections (k : Nat) (s : Bytes) : (sections k s).filter (· ≠ 46) = s.filter (· ≠ 46) := by
  induction s generalizing k with
  | nil => rfl
  | cons c rest ih =>
    simp only [ne_eq, decide_not] at ih
    unfold sections
    split_ifs <;> simp [List.filter_cons, ih]

/-- A period for every 61 digits at most: the length of the sections, scaled by 61, is
within 62 for each digit and the digits the current section already holds. -/
theorem length_sections (k : Nat) (s : Bytes) : 61 * (sections k s).length ≤ 62 * s.length + k := by
  induction s generalizing k with
  | nil => simp [sections]
  | cons c rest ih =>
    unfold sections
    split_ifs with hcut
    · have := ih 0
      simp only [maxFieldLength] at hcut
      simp only [List.length_cons] at this ⊢
      omega
    · have := ih (k + 1)
      simp only [List.length_cons] at this ⊢
      omega

/-- The hex digits cut into sections: the first has room for what the current
section already holds, the others at most 61 digits; none is empty or holds a
period. -/
theorem sections_labels (s : Bytes) (hs : s ≠ []) (h46 : 46 ∉ s) (k : Nat) (hk : k ≤ 60) :
    ∃ first secs, sections k s = [46].intercalate (first :: secs) ∧
      (first ≠ [] ∧ 46 ∉ first ∧ k + first.length ≤ 61) ∧
      ∀ l ∈ secs, l ≠ [] ∧ 46 ∉ l ∧ l.length ≤ 61 := by
  induction s generalizing k with
  | nil => contradiction
  | cons c rest ih =>
    have hc : c ≠ 46 := fun h => h46 (h ▸ List.mem_cons_self _ _)
    have hr : 46 ∉ rest := fun h => h46 (List.mem_cons_of_mem _ h)
    by_cases hne : rest = []
    · subst hne
      exact ⟨[c], [], by simp [sections, List.intercalate], ⟨by simp, by simp [Ne.symm hc], by simp; omega⟩,
        by simp⟩
    by_cases hcut : maxFieldLength ≤ k + 1 + 1
    · obtain ⟨f, secs, heq, hf, hsecs⟩ := ih hne hr 0 (by omega)
      refine ⟨[c], f :: secs, ?_, ⟨by simp, by simp [Ne.symm hc], ?_⟩, ?_⟩
      · rw [sections, if_pos ⟨hne, hcut⟩, heq, intercalate_cons_cons]; rfl
      · simp only [maxFieldLength] at hcut; simp; omega
      · rintro l (_ | ⟨_, hl⟩)
        · exact ⟨hf.1, hf.2.1, by omega⟩
        · exact hsecs l hl
    · obtain ⟨f, secs, heq, hf, hsecs⟩ := ih hne hr (k + 1) (by simp only [maxFieldLength] at hcut; omega)
      refine ⟨c :: f, secs, ?_, ⟨by simp, by simp [Ne.symm hc, hf.2.1], by simp; omega⟩, hsecs⟩
      rw [sections, if_neg (fun h => hcut h.2), heq, cons_intercalate]

theorem hexEncodeToString_ne_nil {data : Bytes} (h : data ≠ []) : hexEncodeToString data ≠ [] := by
  obtain ⟨b, bs, rfl⟩ := List.exists_cons_of_ne_nil h
  simp

/-- The name the driver builds is a list of labels joined by periods, each label
non-empty, at most 63 octets and free of periods. -/
theorem encodeDNSName_labels (d : Driver)
    (hd : d.domain = [] ∨ ∀ l ∈ d.domain.splitOn 46, l ≠ [] ∧ l.length ≤ 63) (data : Bytes) (hdata : data ≠ []) :
    ∃ L : List Bytes, L ≠ [] ∧ d.encodeDNSName data = [46].intercalate L ∧
      ∀ l ∈ L, l ≠ [] ∧ 46 ∉ l ∧ l.length ≤ 63 := by
  obtain ⟨f, secs, hS, hf, hsecs⟩ :=
    sections_labels _ (hexEncodeToString_ne_nil hdata) (dot_not_mem_hexEncodeToString data) 0 (Nat.zero_le _)
  have hsec : ∀ l ∈ f :: secs, l ≠ [] ∧ 46 ∉ l ∧ l.length ≤ 63 := by
    rintro l (_ | ⟨_, hl⟩)
    · exact ⟨hf.1, hf.2.1, by omega⟩
    · exact (hsecs l hl).imp_right (And.imp_right (by omega))
  by_cases h0 : d.domain = []
  · refine ⟨wildcardPrefix :: f :: secs, by simp, ?_, ?_⟩
    · simp [Driver.encodeDNSName, h0, hS, intercalate_cons_cons]
    · rintro l (_ | ⟨_, hl⟩)
      · decide
      · exact hsec l hl
  · have hparts := hd.resolve_left h0
    have hne : d.domain.splitOn 46 ≠ [] := List.splitOnP_ne_nil _ _
    refine ⟨(f :: secs) ++ d.domain.splitOn 46, by simp, ?_, ?_⟩
    · rw [intercalate_append _ _ _ (by simp) hne, List.intercalate_splitOn]
      simp [Driver.encodeDNSName, h0, hS]
    · intro l hl
      rcases List.mem_append.1 hl with hl | hl
      · exact hsec l hl
      · exact ⟨(hparts l hl).1, not_mem_of_mem_splitOn hl, (hparts l hl).2⟩

/-- Taking the domain or the wildcard prefix off a name the driver built leaves its
dotted hex digits. -/
theorem removeDomain_encodeDNSName (d : Driver) (data : Bytes) :
    d.removeDomain (d.encodeDNSName data) = sections 0 (hexEncodeToString data) := by
  by_cases h0 : d.domain = []
  · have hpre : wildcardPrefix.isPrefixOf (d.encodeDNSName data) = true := by
      simp [Driver.encodeDNSName, h0, List.isPrefixOf_iff_prefix]
    have hpre' : (wildcardPrefix ++ [46]).isPrefixOf (d.encodeDNSName data) = true := by
      simp [Driver.encodeDNSName, h0, List.isPrefixOf_iff_prefix]
    simp [Driver.removeDomain, h0, hpre, trimPrefix, hpre', Driver.encodeDNSName]
  · have hname : d.encodeDNSName data = sections 0 (hexEncodeToString data) ++ 46 :: d.domain := by
      simp [Driver.encodeDNSName, h0]
    have hsuf' : (46 :: d.domain) <:+ d.encodeDNSName data := hname ▸ List.suffix_append _ _
    have hsuf : d.domain <:+ d.encodeDNSName data := (List.suffix_cons _ _).trans hsuf'
    have hne : d.encodeDNSName data ≠ d.domain := fun h => by
      have := congrArg List.length h
      simp [hname] at this
      omega
    simp only [Driver.removeDomain, if_pos h0, List.isSuffixOf_iff_suffix.2 hsuf, if_neg hne, trimSuffix,
      List.isSuffixOf_iff_suffix.2 hsuf', Bool.not_true, Bool.false_eq_true, ite_false]
    rw [hname, List.take_left' (by simp)]
    exact if_pos trivial

/-- Hex text has no periods for `decodeHex` to take out. -/
theorem decodeHex_hexEncodeToString (data : Bytes) : decodeHex (hexEncodeToString data) = .ok data := by
  rw [decodeHex, List.filter_eq_self.2 fun x hx => by
      simpa using fun h : x = 46 => dot_not_mem_hexEncodeToString data (h ▸ hx),
    hexDecodeString_hexEncodeToString]

/-- The server's side of a name: taking the domain off and decoding the hex gives the bytes. -/
theorem decodeHex_removeDomain_encodeDNSName (d : Driver) (data : Bytes) :
    decodeHex (d.removeDomain (d.encodeDNSName data)) = .ok data := by
  rw [removeDomain_encodeDNSName, decodeHex, filter_sections]
  exact decodeHex_hexEncodeToString data

/-- Bytes the driver sends come back out of the query it builds: the parser reads
one question carrying the driver's name and the query's type, and taking the
domain off that name and decoding its hex gives the bytes again. -/
theorem encodeDNSName_round_trip (d : Driver)
    (hd : d.domain = [] ∨ ∀ l ∈ d.domain.splitOn 46, l ≠ [] ∧ l.length ≤ 63)
    (data : Bytes) (hdata : data ≠ []) (id t : UInt16) (fuel : Nat)
    (hfuel : ((d.encodeDNSName data).splitOn 46).length < fuel) :
    parseDNSResponse fuel (buildDNSQuery id (d.encodeDNSName data) t) =
        pure ⟨id, flagRD, 0, [⟨d.encodeDNSName data, t, 1⟩], []⟩ ∧
      decodeHex (d.removeDomain (d.encodeDNSName data)) = .ok data := by
  obtain ⟨L, hL, hname, hlabels⟩ := encodeDNSName_labels d hd data hdata
  have hsplit : (d.encodeDNSName data).splitOn 46 = L := by
    rw [hname]; exact List.splitOn_intercalate L 46 (fun l hl => (hlabels l hl).2.1) hL
  have hfilter : (L.filter fun p => 0 < p.length) = L :=
    List.filter_eq_self.2 fun l hl => by simpa [List.length_pos] using (hlabels l hl).1
  have hhex : (hexEncodeToString data).filter (· ≠ 46) = hexEncodeToString data :=
    List.filter_eq_self.2 fun c hc => by
      simpa using fun h : c = 46 => dot_not_mem_hexEncodeToString data (h ▸ hc)
  constructor
  · rw [parseDNSResponse_buildDNSQuery id t _ (hsplit ▸ fun l hl => (hlabels l hl).2.2) fuel hfuel, hsplit,
      hfilter, ← hname]
  · rw [removeDomain_encodeDNSName, decodeHex, filter_sections, hhex, hexDecodeString_hexEncodeToString]

/-- One byte under the domain `x.io`, asked as a TXT record. -/
theorem encodeDNSName_round_trip_one_byte :
    parseDNSResponse 4 (buildDNSQuery 7 ((⟨ascii "x.io"⟩ : Driver).encodeDNSName [0xAB]) typeTXT) =
        pure ⟨7, flagRD, 0, [⟨(⟨ascii "x.io"⟩ : Driver).encodeDNSName [0xAB], typeTXT, 1⟩], []⟩ ∧
      decodeHex ((⟨ascii "x.io"⟩ : Driver).removeDomain ((⟨ascii "x.io"⟩ : Driver).encodeDNSName [0xAB])) =
        .ok [0xAB] :=
  encodeDNSName_round_trip ⟨ascii "x.io"⟩ (.inr (by decide)) [0xAB] (by simp) 7 typeTXT 4 (by decide)

/-! ### Sorting the answers -/

@[simp] theorem error_bind {ε α β : Type} (e : ε) (f : α → Except ε β) :
    (Except.error e : Except ε α) >>= f = .error e := rfl

theorem index_nil : index [] 0 = .error (.panic "runtime error: index out of range [0] with length 0") := rfl

@[simp] theorem index_cons_zero (x : UInt8) (xs : Bytes) : index (x :: xs) 0 = pure x := by
  simp [index]

/-- The comparator panics as soon as either answer has no data. -/
theorem firstByteLess_panics {a b : DNSAnswer} (h : a.data = [] ∨ b.data = []) :
    firstByteLess a b = .error (.panic "runtime error: index out of range [0] with length 0") := by
  by_cases ha : a.data = []
  · simp [firstByteLess, ha, index_nil]
  · obtain ⟨x, xs, hx⟩ := List.exists_cons_of_ne_nil ha
    simp [firstByteLess, hx, h.resolve_left ha, index_nil]

theorem firstByteLess_ok {a b : DNSAnswer} (ha : a.data ≠ []) (hb : b.data ≠ []) :
    ∃ r, firstByteLess a b = .ok r := by
  obtain ⟨x, xs, hx⟩ := List.exists_cons_of_ne_nil ha
  obtain ⟨y, ys, hy⟩ := List.exists_cons_of_ne_nil hb
  exact ⟨_, by simp [firstByteLess, hx, hy]; rfl⟩

/-- Inserting an answer with data into a prefix of answers with data compares
without a panic, and the prefix then holds the answer and what it held. -/
theorem insertRev_ok {x : DNSAnswer} (hx : x.data ≠ []) (acc : List DNSAnswer) (hacc : ∀ y ∈ acc, y.data ≠ []) :
    ∃ acc', insertRev firstByteLess x acc = .ok acc' ∧ x ∈ acc' ∧ ∀ z ∈ acc', z = x ∨ z ∈ acc := by
  induction acc with
  | nil => exact ⟨[x], rfl, by simp, by simp⟩
  | cons y ys ih =>
    obtain ⟨r, hr⟩ := firstByteLess_ok hx (hacc y (.head _))
    obtain ⟨acc', h', hx', hmem⟩ := ih fun z hz => hacc z (.tail _ hz)
    cases r
    · exact ⟨x :: y :: ys, by simp [insertRev, hr]; rfl, by simp, by simp⟩
    · refine ⟨y :: acc', by simp [insertRev, hr, h']; rfl, .tail _ hx', ?_⟩
      rintro z (_ | ⟨_, hz⟩)
      · simp
      · rcases hmem z hz with h | h <;> simp [h]

theorem insertRev_panics {x y : DNSAnswer} (ys : List DNSAnswer) (h : x.data = [] ∨ y.data = []) :
    insertRev firstByteLess x (y :: ys) =
      .error (.panic "runtime error: index out of range [0] with length 0") := by
  simp [insertRev, firstByteLess_panics h]

/-- Once the sorted prefix is non-empty and its answers all have data, an answer
with no data still to come makes the sort panic. -/
theorem foldlM_insertRev_panics (xs : List DNSAnswer) (hxs : ∃ b ∈ xs, b.data = []) (acc : List DNSAnswer)
    (hacc : acc ≠ []) (hdata : ∀ y ∈ acc, y.data ≠ []) :
    xs.foldlM (fun acc x => insertRev firstByteLess x acc) acc =
      .error (.panic "runtime error: index out of range [0] with length 0") := by
  induction xs generalizing acc with
  | nil => simp at hxs
  | cons x xs ih =>
    obtain ⟨y, ys, rfl⟩ := List.exists_cons_of_ne_nil hacc
    by_cases hx : x.data = []
    · simp [List.foldlM_cons, insertRev_panics ys (.inl hx)]
    · obtain ⟨acc', h', hx', hmem⟩ := insertRev_ok hx _ hdata
      have hb : ∃ b ∈ xs, b.data = [] := by
        obtain ⟨b, hb, hbd⟩ := hxs
        rcases List.mem_cons.1 hb with rfl | hb
        · exact absurd hbd hx
        · exact ⟨b, hb, hbd⟩
      rw [List.foldlM_cons, h']
      exact ih hb acc' (List.ne_nil_of_mem hx') fun z hz => (hmem z hz).elim (· ▸ hx) (hdata z)

/-- Two or more answers, one of them with no data: `sort.Slice` panics. -/
theorem sortSlice_panics {x₀ x₁ : DNSAnswer} {rest : List DNSAnswer}
    (h : ∃ b ∈ x₀ :: x₁ :: rest, b.data = []) :
    sortSlice firstByteLess (x₀ :: x₁ :: rest) =
      .error (.panic "runtime error: index out of range [0] with length 0") := by
  have hfold : List.foldlM (fun acc x => insertRev firstByteLess x acc) [x₀] (x₁ :: rest) =
      .error (.panic "runtime error: index out of range [0] with length 0") := by
    by_cases h₀ : x₀.data = []
    · rw [List.foldlM_cons, insertRev_panics [] (.inr h₀)]; rfl
    · obtain ⟨b, hb, hbd⟩ := h
      rcases List.mem_cons.1 hb with rfl | hb
      · exact absurd hbd h₀
      · exact foldlM_insertRev_panics _ ⟨b, hb, hbd⟩ [x₀] (by simp) (by simpa using h₀)
  rw [sortSlice, List.foldlM_cons]
  show List.reverse <$> (pure [x₀] >>= fun a => List.foldlM _ a (x₁ :: rest)) = _
  rw [pure_bind, hfold]
  rfl

/-- An A or AAAA response of two to twelve answers, one of them with no data,
makes `decodeDNSResponse` panic inside the comparator of `sort.Slice`. -/
theorem decodeDNSResponse_panics (d : Driver) (r : DNSResponse) (a b : DNSAnswer) (rest : List DNSAnswer)
    (hr : r.answers = a :: b :: rest) (ht : a.type = typeA ∨ a.type = typeAAAA)
    (_h12 : r.answers.length ≤ 12) (hempty : ∃ c ∈ r.answers, c.data = []) :
    d.decodeDNSResponse r = .error (.panic "runtime error: index out of range [0] with length 0") := by
  have hpay : ∀ kind size, recordPayload kind size (a :: b :: rest) =
      .error (.panic "runtime error: index out of range [0] with length 0") := fun kind size => by
    rw [recordPayload, sortSlice_panics (hr ▸ hempty)]; rfl
  simp only [Driver.decodeDNSResponse, hr]
  rcases ht with ht | ht
  · rw [if_neg (by rw [ht]; decide), if_neg (by rw [ht]; decide), if_pos ht, hpay]
  · rw [if_neg (by rw [ht]; decide), if_neg (by rw [ht]; decide), if_neg (by rw [ht]; decide), if_pos ht,
      hpay]

/-- A response of two A answers, the second with RDLENGTH 0, so no data. -/
theorem decodeDNSResponse_panics_empty_record :
    parseDNSResponse 1 [0, 0, 0x81, 0x80, 0, 0, 0, 2, 0, 0, 0, 0,
        0, 0, 1, 0, 1, 0, 0, 0, 0, 0, 4, 1, 2, 3, 4,
        0, 0, 1, 0, 1, 0, 0, 0, 0, 0, 0] =
      pure ⟨0, 0x8180, 0, [], [⟨[], typeA, 1, 0, [1, 2, 3, 4]⟩, ⟨[], typeA, 1, 0, []⟩]⟩ ∧
    (⟨[]⟩ : Driver).decodeDNSResponse ⟨0, 0x8180, 0, [], [⟨[], typeA, 1, 0, [1, 2, 3, 4]⟩, ⟨[], typeA, 1, 0, []⟩]⟩ =
      .error (.panic "runtime error: index out of range [0] with length 0") :=
  ⟨rfl, decodeDNSResponse_panics _ _ _ _ [] rfl (.inl rfl) (by decide) ⟨_, .tail _ (.head _), rfl⟩⟩

end Dnscat2.Dns
