import Dnscat2.DnsDriver
import Mathlib.Data.List.Sort

/-!
The A and AAAA answers of a response carry a frame in pieces: the first byte of each
record is its sequence number and the rest a piece of the stream, which starts with the
frame's length. Resolvers may hand the records back in any order. `decodeDNSResponse`
sorts them on the sequence byte with Go's `sort.Slice`, which on at most twelve records is
`insertionSort_func`, the `sortSlice` of the model.

`sortSlice firstByteLess` is Mathlib's insertion sort under "not less", read backwards;
sorted on distinct sequence bytes, a permutation of the records is the records in order.
So whatever order the resolver hands back, the frame comes out whole.
-/

namespace Dnscat2.Dns

/-- The byte `sort.Slice` compares, `Data[0]`, as a number. -/
def seqByte (a : DNSAnswer) : Nat := (a.data.headD 0).toNat

/-- The order `insertRev` keeps its prefix in, nearest element first: no answer is less
than the one after it. -/
def SeqGe (a b : DNSAnswer) : Prop := seqByte b ≤ seqByte a

instance : DecidableRel SeqGe := fun a b => inferInstanceAs (Decidable (seqByte b ≤ seqByte a))

instance : IsTotal DNSAnswer SeqGe := ⟨fun a b => Nat.le_total (seqByte b) (seqByte a)⟩

instance : IsTrans DNSAnswer SeqGe := ⟨fun _ _ _ hab hbc => Nat.le_trans hbc hab⟩

/-- Answers as a server sends them for the stream pieces `chunks`, numbered from `i`: the
sequence byte, then the piece. -/
def seqRecords : Nat → List Bytes → List Bytes
  | _, [] => []
  | i, c :: cs => (i.toUInt8 :: c) :: seqRecords (i + 1) cs

/-! ### The sort -/

theorem firstByteLess_eq {a b : DNSAnswer} (ha : a.data ≠ []) (hb : b.data ≠ []) :
    firstByteLess a b = .ok (decide (seqByte a < seqByte b)) := by
  obtain ⟨x, xs, hx⟩ := List.exists_cons_of_ne_nil ha
  obtain ⟨y, ys, hy⟩ := List.exists_cons_of_ne_nil hb
  simp [firstByteLess, seqByte, hx, hy]
  rfl

theorem insertRev_eq {x : DNSAnswer} (hx : x.data ≠ []) :
    ∀ {acc : List DNSAnswer}, (∀ y ∈ acc, y.data ≠ []) →
      insertRev firstByteLess x acc = .ok (acc.orderedInsert SeqGe x)
  | [], _ => rfl
  | y :: ys, hacc => by
    have ih := insertRev_eq hx fun z hz => hacc z (.tail _ hz)
    by_cases hlt : seqByte x < seqByte y
    · simp [insertRev, firstByteLess_eq hx (hacc y (.head _)), hlt, Nat.not_le.mpr hlt, ih, SeqGe,
        bind, Except.bind, Functor.map, Except.map, pure, Except.pure]
    · simp [insertRev, firstByteLess_eq hx (hacc y (.head _)), hlt, Nat.not_lt.mp hlt, SeqGe,
        bind, Except.bind, pure, Except.pure]

theorem foldlM_insertRev_eq :
    ∀ {xs acc : List DNSAnswer}, (∀ x ∈ xs, x.data ≠ []) → (∀ y ∈ acc, y.data ≠ []) →
      xs.foldlM (fun acc x => insertRev firstByteLess x acc) acc =
        .ok (xs.foldl (fun acc x => acc.orderedInsert SeqGe x) acc)
  | [], _, _, _ => rfl
  | x :: xs, acc, hxs, hacc => by
    have hins : ∀ y ∈ acc.orderedInsert SeqGe x, y.data ≠ [] := fun y hy => by
      rcases (List.mem_orderedInsert SeqGe).mp hy with rfl | hy
      · exact hxs y (.head _)
      · exact hacc y hy
    rw [List.foldlM_cons, insertRev_eq (hxs x (.head _)) hacc]
    exact foldlM_insertRev_eq (fun y hy => hxs y (.tail _ hy)) hins

/-- On answers that all have data, the sort is Mathlib's insertion sort of the reversed
list under `SeqGe`, reversed. -/
theorem sortSlice_eq {xs : List DNSAnswer} (hxs : ∀ x ∈ xs, x.data ≠ []) :
    sortSlice firstByteLess xs = .ok (List.insertionSort SeqGe xs.reverse).reverse := by
  have hfold : ∀ l : List DNSAnswer, l.foldr (List.orderedInsert SeqGe) [] =
      List.insertionSort SeqGe l := fun l => by
    induction l with
    | nil => rfl
    | cons a l ih => rw [List.foldr_cons, ih]; rfl
  rw [sortSlice, foldlM_insertRev_eq hxs (by simp), ← hfold, List.foldr_reverse]
  rfl

/-- The sort leaves a permutation of the answers, with the sequence bytes rising. -/
theorem sortSlice_sorted {xs : List DNSAnswer} (hxs : ∀ x ∈ xs, x.data ≠ []) :
    ∃ ys, sortSlice firstByteLess xs = .ok ys ∧ ys.Perm xs ∧
      ys.Pairwise fun a b => seqByte a ≤ seqByte b :=
  ⟨_, sortSlice_eq hxs,
    (List.reverse_perm _).trans ((List.perm_insertionSort _ _).trans (List.reverse_perm _)),
    List.pairwise_reverse.mpr (List.sorted_insertionSort SeqGe _)⟩

/-! ### The records -/

section Records

variable {size : Nat}

theorem seqRecords_keys (i : Nat) (cs : List Bytes) (h : i + cs.length ≤ 256) :
    (seqRecords i cs).map (fun r => (r.headD 0).toNat) = List.range' i cs.length := by
  induction cs generalizing i with
  | nil => rfl
  | cons c cs ih =>
    simp only [seqRecords, List.map_cons, List.headD_cons, List.length_cons, List.range'_succ]
    rw [ih (i + 1) (by simp only [List.length_cons] at h; omega), toNat_toUInt8]
    congr 1
    simp only [List.length_cons] at h
    omega

theorem seqRecords_ne_nil (i : Nat) (cs : List Bytes) : ∀ r ∈ seqRecords i cs, r ≠ [] := by
  induction cs generalizing i with
  | nil => simp [seqRecords]
  | cons c cs ih =>
    rintro r (_ | ⟨_, hr⟩)
    · simp
    · exact ih (i + 1) r hr

/-- What the loop of `decodeDNSResponse` takes from each record: bytes 1 to `size - 1`
of a record at least `size` long. -/
theorem flatMap_seqRecords (i : Nat) {cs : List Bytes} (hc : ∀ c ∈ cs, c.length = size - 1)
    (hs : 0 < size) :
    (seqRecords i cs).flatMap (fun r => if size ≤ r.length then slice r 1 (size - 1) else []) =
      cs.flatten := by
  induction cs generalizing i with
  | nil => rfl
  | cons c cs ih =>
    have hlen := hc c (.head _)
    rw [seqRecords, List.flatMap_cons, ih (i + 1) fun c' h => hc c' (.tail _ h), List.flatten_cons,
      if_pos (by simp only [List.length_cons]; omega)]
    simp [slice, List.take_of_length_le (le_of_eq hlen)]

theorem length_flatten_chunks {cs : List Bytes} (hc : ∀ c ∈ cs, c.length = size - 1) :
    cs.flatten.length = cs.length * (size - 1) := by
  induction cs with
  | nil => simp
  | cons c cs ih =>
    rw [List.flatten_cons, List.length_append, hc c (.head _), ih fun c' h => hc c' (.tail _ h),
      List.length_cons, Nat.succ_mul, Nat.add_comm]

end Records

/-- A permutation, sorted on the sequence bytes, of records whose sequence bytes rise
strictly is those records in order. -/
theorem eq_of_perm_of_keys {zs rs : List Bytes} (hp : zs.Perm rs)
    (hz : zs.Pairwise fun u v => (u.headD 0).toNat ≤ (v.headD 0).toNat)
    (hr : rs.Pairwise fun u v => (u.headD 0).toNat < (v.headD 0).toNat) : zs = rs := by
  have : IsAntisymm Bytes fun u v => (u.headD 0).toNat < (v.headD 0).toNat :=
    ⟨fun _ _ h₁ h₂ => absurd (Nat.lt_trans h₁ h₂) (Nat.lt_irrefl _)⟩
  have hnd : (zs.map fun u => (u.headD 0).toNat).Nodup :=
    (hp.map _).nodup_iff.mpr (List.pairwise_map.mpr (hr.imp Nat.ne_of_lt))
  refine List.eq_of_perm_of_sorted hp ?_ hr
  exact (hz.and (List.pairwise_map.mp hnd)).imp fun h => Nat.lt_of_le_of_ne h.1 h.2

/-! ### Decoding -/

/-- The A and AAAA branch on the records of a frame in any order: the frame. -/
theorem recordPayload_seqRecords (kind : String) {size : Nat} (hs : 0 < size)
    {answers : List DNSAnswer} {chunks : List Bytes} {f : Bytes}
    (hc : ∀ c ∈ chunks, c.length = size - 1) (hn : chunks.length ≤ 12) (hf : f.length < 256)
    (hbuf : f.length.toUInt8 :: f <+: chunks.flatten)
    (hperm : (answers.map DNSAnswer.data).Perm (seqRecords 0 chunks)) :
    recordPayload kind size answers = .ok (.ok f) := by
  have hdata : ∀ a ∈ answers, a.data ≠ [] := fun a ha =>
    seqRecords_ne_nil 0 chunks _ (hperm.subset (List.mem_map_of_mem _ ha))
  obtain ⟨ys, hsort, hyp, hys⟩ := sortSlice_sorted hdata
  have hkeys := seqRecords_keys 0 chunks (by omega)
  have hys' : ys.map DNSAnswer.data = seqRecords 0 chunks :=
    eq_of_perm_of_keys ((hyp.map _).trans hperm) (List.pairwise_map.mpr hys)
      (List.pairwise_map.mp (hkeys ▸ List.pairwise_lt_range' 0 _))
  have hflat : ys.flatMap (fun a => if size ≤ a.data.length then slice a.data 1 (size - 1) else []) =
      chunks.flatten := by
    rw [← flatMap_seqRecords 0 hc hs, ← hys', List.flatMap_map]
  obtain ⟨rest, hrest⟩ := hbuf
  simp only [recordPayload, hsort, hflat, ← hrest, bind, Except.bind, pure, Except.pure]
  simp [slice, toNat_toUInt8, Nat.mod_eq_of_lt hf]

/-- Whatever order a resolver hands the A or AAAA records of a frame back in,
`decodeDNSResponse` gives the frame. The records are those a server makes from the frame
behind its length byte, cut into pieces of three bytes (A) or fifteen (AAAA), padded
anyhow, each behind its sequence number; there are at most twelve, where Go's `sort.Slice`
is the insertion sort the model runs. -/
theorem records_reordered_decode (d : Driver) (response : DNSResponse) {t : UInt16} {size : Nat}
    (ht : t = typeA ∧ size = 4 ∨ t = typeAAAA ∧ size = 16) (f : Bytes) (chunks : List Bytes)
    (hc : ∀ c ∈ chunks, c.length = size - 1) (hn : chunks.length ≤ 12)
    (hbuf : f.length.toUInt8 :: f <+: chunks.flatten)
    (htype : ∀ a ∈ response.answers, a.type = t)
    (hperm : (response.answers.map DNSAnswer.data).Perm (seqRecords 0 chunks)) :
    d.decodeDNSResponse response = .ok (.ok f) := by
  have hsize : 0 < size ∧ size ≤ 16 := by rcases ht with ⟨-, rfl⟩ | ⟨-, rfl⟩ <;> decide
  have hf : f.length < 256 := by
    have h := hbuf.length_le
    rw [length_flatten_chunks hc, List.length_cons] at h
    have : chunks.length * (size - 1) ≤ 12 * 15 := Nat.mul_le_mul hn (by omega)
    omega
  have hpay := recordPayload_seqRecords (if t = typeA then "A" else "AAAA") hsize.1 hc hn hf hbuf hperm
  cases has : response.answers with
  | nil =>
    rw [has, List.map_nil, List.nil_perm] at hperm
    cases chunks with
    | nil => exact absurd (List.prefix_nil.mp hbuf) (List.cons_ne_nil _ _)
    | cons c cs => cases hperm
  | cons a as =>
    have hat := htype a (has ▸ .head _)
    rw [has] at hpay
    rcases ht with ⟨rfl, rfl⟩ | ⟨rfl, rfl⟩ <;>
      simpa [Driver.decodeDNSResponse, has, hat, typeA, typeAAAA, typeTXT, typeCNAME, typeMX] using hpay

/-! ### Every encoding of a frame -/

/-- The answers a server sends to carry the frame `f`, as `decodeDNSResponse` reads them:
a TXT record of the hex of `f`; a CNAME or MX record of the name the driver itself builds
for `f`; or A or AAAA records of the pieces of `f` behind its length byte, in any order. -/
inductive Encodes (d : Driver) (f : Bytes) : List DNSAnswer → Prop
  | txt {a : DNSAnswer} (as : List DNSAnswer) : a.type = typeTXT →
      a.data = hexEncodeToString f → Encodes d f (a :: as)
  | name {a : DNSAnswer} (as : List DNSAnswer) : a.type = typeCNAME ∨ a.type = typeMX →
      a.data = d.encodeDNSName f → Encodes d f (a :: as)
  | records {t : UInt16} {size : Nat} {answers : List DNSAnswer} (chunks : List Bytes) :
      t = typeA ∧ size = 4 ∨ t = typeAAAA ∧ size = 16 → (∀ c ∈ chunks, c.length = size - 1) →
      chunks.length ≤ 12 → f.length.toUInt8 :: f <+: chunks.flatten →
      (∀ a ∈ answers, a.type = t) → (answers.map DNSAnswer.data).Perm (seqRecords 0 chunks) →
      Encodes d f answers

theorem removeDomain_encodeDNSName_ne_nil (d : Driver) {f : Bytes} (hf : f ≠ []) :
    d.removeDomain (d.encodeDNSName f) ≠ [] := by
  obtain ⟨c, cs, hcs⟩ := List.exists_cons_of_ne_nil (hexEncodeToString_ne_nil hf)
  rw [removeDomain_encodeDNSName, hcs, sections]
  split_ifs <;> simp

/-- `decodeDNSResponse` undoes every encoding of a non-empty frame: TXT, CNAME and MX
records carrying it as text, and A and AAAA records carrying it in pieces in whatever order
the resolver hands them back. -/
theorem decodeDNSResponse_encodes (d : Driver) (response : DNSResponse) {f : Bytes} (hf : f ≠ [])
    (h : Encodes d f response.answers) : d.decodeDNSResponse response = .ok (.ok f) := by
  generalize ha : response.answers = answers at h
  cases h with
  | txt as ht hd =>
    simp [Driver.decodeDNSResponse, ha, ht, hd, decodeHex_hexEncodeToString, Except.mapError, pure,
      Except.pure]
  | name as ht hd =>
    rcases ht with ht | ht <;>
      simp [Driver.decodeDNSResponse, ha, ht, hd, typeTXT, typeCNAME, typeMX,
        removeDomain_encodeDNSName_ne_nil d hf, decodeHex_removeDomain_encodeDNSName,
        Except.mapError, pure, Except.pure]
  | records chunks ht hc hn hbuf htype hperm =>
    exact records_reordered_decode d response ht f chunks hc hn hbuf (ha ▸ htype) (ha ▸ hperm)

theorem decodeDNSResponse_encodes_swapped :
    (⟨ascii "x.io"⟩ : Driver).decodeDNSResponse
        ⟨0, 0x8180, 0, [], [⟨[], typeA, 1, 0, [1, 9, 10, 0]⟩, ⟨[], typeA, 1, 0, [0, 4, 7, 8]⟩]⟩ =
      .ok (.ok [7, 8, 9, 10]) :=
  decodeDNSResponse_encodes _ _ (by decide) (.records [[4, 7, 8], [9, 10, 0]] (.inl ⟨rfl, rfl⟩)
    (by decide) (by decide) ⟨[0], rfl⟩ (by decide) (by decide))

end Dnscat2.Dns
