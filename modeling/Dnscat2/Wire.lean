import Mathlib.Data.Vector.Defs
import Mathlib.Algebra.Group.Nat.Basic
import Mathlib.Data.Nat.Defs

/-!
Octet strings shared by the two wire formats of the client. A Go `[]byte` and a
Go `string` are both a list of octets here. Big-endian integers are written as
`binary.Write` writes them, and a `bytes.Reader` is the list of its unread bytes:
a read returns its value and the reader after it, or the error `io` reports. On
a short fixed-size read `binary.Read` drains the reader, which the command
parser, the only caller that ignores the error, relies on.
-/

namespace Dnscat2

abbrev Bytes := List UInt8

/-- The octets of an ASCII string literal of the source. -/
def ascii (s : String) : Bytes := s.toList.map fun c => c.toNat.toUInt8

/-- `%0nx`: `n` in lowercase hexadecimal, zero-padded to `width` digits. -/
def hex (width n : Nat) : String :=
  String.mk (List.replicate (width - (Nat.toDigits 16 n).length) '0' ++ Nat.toDigits 16 n)

/-- `binary.BigEndian.PutUint16`: `byte(v >> 8), byte(v)`. -/
def putUint16 (v : UInt16) : Bytes := [(v.toNat / 256).toUInt8, v.toNat.toUInt8]

/-- `binary.BigEndian.PutUint32`. -/
def putUint32 (v : UInt32) : Bytes :=
  [(v.toNat / 2 ^ 24).toUInt8, (v.toNat / 2 ^ 16).toUInt8, (v.toNat / 256).toUInt8,
    v.toNat.toUInt8]

/-- `binary.BigEndian.Uint16`. -/
def getUint16 (b0 b1 : UInt8) : UInt16 := UInt16.ofNat (b0.toNat * 256 + b1.toNat)

/-- `binary.BigEndian.Uint32`. -/
def getUint32 (b0 b1 b2 b3 : UInt8) : UInt32 :=
  UInt32.ofNat (((b0.toNat * 256 + b1.toNat) * 256 + b2.toNat) * 256 + b3.toNat)

def readUint8 : Bytes → Except String (UInt8 × Bytes)
  | b :: rest => .ok (b, rest)
  | [] => .error "EOF"

def readUint16 : Bytes → Except String (UInt16 × Bytes)
  | b0 :: b1 :: rest => .ok (getUint16 b0 b1, rest)
  | [] => .error "EOF"
  | [_] => .error "unexpected EOF"

def readUint32 : Bytes → Except String (UInt32 × Bytes)
  | b0 :: b1 :: b2 :: b3 :: rest => .ok (getUint32 b0 b1 b2 b3, rest)
  | [] => .error "EOF"
  | _ => .error "unexpected EOF"

/-- The bytes before the first NUL, and what follows that NUL if there is one:
the loop shared by both packages' `readNTString`. -/
def splitNT : Bytes → Bytes × Option Bytes
  | [] => ([], none)
  | b :: rest => if b = 0 then ([], some rest) else ((b :: (splitNT rest).1), (splitNT rest).2)

def writeNTString (s : Bytes) : Bytes := s ++ [0]

/-- `copy(dst[:], src)` into a fixed-size array. -/
def copyInto {n : Nat} (dst : Mathlib.Vector UInt8 n) (src : Bytes) : Mathlib.Vector UInt8 n :=
  ⟨src.take n ++ dst.toList.drop (min n src.length), by
    simp only [List.length_append, List.length_take, List.length_drop,
      Mathlib.Vector.toList_length]; omega⟩

/-- A zeroed Go array `[n]byte`. -/
def zeros (n : Nat) : Mathlib.Vector UInt8 n := Mathlib.Vector.replicate n 0

@[simp] theorem toNat_toUInt8 (n : Nat) : n.toUInt8.toNat = n % 256 := by
  simp [UInt8.ofNat, UInt8.toNat]

@[simp] theorem toNat_ofNat16 (n : Nat) : (UInt16.ofNat n).toNat = n % 65536 := by
  simp [UInt16.ofNat, UInt16.toNat]

@[simp] theorem toNat_ofNat32 (n : Nat) : (UInt32.ofNat n).toNat = n % 2 ^ 32 := by
  simp [UInt32.ofNat, UInt32.toNat]

theorem toNat_add16 (a b : UInt16) : (a + b).toNat = (a.toNat + b.toNat) % 65536 := by
  simp [UInt16.toNat, UInt16.add_def]

theorem toNat_sub16 (a b : UInt16) : (a - b).toNat = (65536 - b.toNat + a.toNat) % 65536 := by
  simp [UInt16.toNat, UInt16.sub_def, BitVec.toNat_sub]

theorem lt_iff_toNat16 {a b : UInt16} : a < b ↔ a.toNat < b.toNat := Iff.rfl

theorem eq_zero_of_not_pos16 {x : UInt16} (h : ¬ 0 < x) : x = 0 := by
  rw [lt_iff_toNat16] at h
  apply UInt16.toNat.inj
  simp only [UInt16.toNat_zero] at h ⊢
  omega

@[simp] theorem ofNat_toNat16 (x : UInt16) : UInt16.ofNat x.toNat = x := by
  apply UInt16.toNat.inj
  have : x.toNat < 65536 := x.toNat_lt_size
  rw [toNat_ofNat16]
  omega

theorem add_sub_cancel16 (a b : UInt16) : b + (a - b) = a := by
  apply UInt16.toNat.inj
  have : a.toNat < 65536 := a.toNat_lt_size
  have : b.toNat < 65536 := b.toNat_lt_size
  rw [toNat_add16, toNat_sub16]
  omega

theorem eq_of_sub_eq_zero16 {a b : UInt16} (h : a - b = 0) : a = b := by
  apply UInt16.toNat.inj
  have : a.toNat < 65536 := a.toNat_lt_size
  have : b.toNat < 65536 := b.toNat_lt_size
  have h' := congrArg UInt16.toNat h
  rw [toNat_sub16, UInt16.toNat_zero] at h'
  omega

@[simp] theorem add_ofNat_zero16 (a : UInt16) : a + UInt16.ofNat 0 = a := by
  apply UInt16.toNat.inj
  have : a.toNat < 65536 := a.toNat_lt_size
  simp only [toNat_add16, toNat_ofNat16]
  omega

theorem add_ofNat_add16 (a : UInt16) (m n : Nat) :
    a + UInt16.ofNat m + UInt16.ofNat n = a + UInt16.ofNat (m + n) := by
  apply UInt16.toNat.inj
  have : a.toNat < 65536 := a.toNat_lt_size
  simp only [toNat_add16, toNat_ofNat16]
  omega

/-- Two positions less than `2 ^ 16` apart are told apart by their 16-bit sequence
numbers. -/
theorem eq_of_add_ofNat_eq16 {a : UInt16} {m n : Nat} (h1 : m ≤ n + 65535) (h2 : n ≤ m + 65535)
    (h : a + UInt16.ofNat m = a + UInt16.ofNat n) : m = n := by
  have h' := congrArg UInt16.toNat h
  have : a.toNat < 65536 := a.toNat_lt_size
  simp only [toNat_add16, toNat_ofNat16] at h'
  omega

theorem toNat_add_ofNat_sub16 (a : UInt16) {k : Nat} (h : k < 65536) :
    (a + UInt16.ofNat k - a).toNat = k := by
  have : a.toNat < 65536 := a.toNat_lt_size
  rw [toNat_sub16, toNat_add16, toNat_ofNat16]
  omega

/-- An acknowledgement `A` bytes behind `MySeq` asks to retire `2 ^ 16 - A` bytes. -/
theorem toNat_sub_add_ofNat16 (a : UInt16) {A : Nat} (h0 : 0 < A) (h : A < 65536) :
    (a - (a + UInt16.ofNat A)).toNat = 65536 - A := by
  have : a.toNat < 65536 := a.toNat_lt_size
  rw [toNat_sub16, toNat_add16, toNat_ofNat16]
  omega

theorem getUint16_putUint16 (v : UInt16) :
    getUint16 (v.toNat / 256).toUInt8 v.toNat.toUInt8 = v := by
  apply UInt16.toNat.inj
  have : v.toNat < 65536 := v.toNat_lt_size
  simp only [getUint16, toNat_ofNat16, toNat_toUInt8]
  omega

theorem getUint32_putUint32 (v : UInt32) :
    getUint32 (v.toNat / 2 ^ 24).toUInt8 (v.toNat / 2 ^ 16).toUInt8 (v.toNat / 256).toUInt8
      v.toNat.toUInt8 = v := by
  apply UInt32.toNat.inj
  have : v.toNat < 2 ^ 32 := v.toNat_lt_size
  simp only [getUint32, toNat_ofNat32, toNat_toUInt8]
  omega

@[simp] theorem readUint16_putUint16 (v : UInt16) (rest : Bytes) :
    readUint16 (putUint16 v ++ rest) = .ok (v, rest) := by
  simp [putUint16, readUint16, getUint16_putUint16]

@[simp] theorem readUint32_putUint32 (v : UInt32) (rest : Bytes) :
    readUint32 (putUint32 v ++ rest) = .ok (v, rest) := by
  simp only [putUint32, readUint32, List.cons_append, List.nil_append, getUint32_putUint32]

@[simp] theorem readUint16_putUint16_nil (v : UInt16) : readUint16 (putUint16 v) = .ok (v, []) := by
  simpa using readUint16_putUint16 v []

@[simp] theorem length_putUint16 (v : UInt16) : (putUint16 v).length = 2 := rfl

@[simp] theorem length_putUint32 (v : UInt32) : (putUint32 v).length = 4 := rfl

theorem splitNT_writeNTString {s : Bytes} (h : 0 ∉ s) (rest : Bytes) :
    splitNT (writeNTString s ++ rest) = (s, some rest) := by
  simp only [writeNTString, List.append_assoc, List.singleton_append]
  induction s with
  | nil => simp [splitNT]
  | cons b s ih =>
    simp only [List.mem_cons, not_or] at h
    simp [splitNT, Ne.symm h.1, ih h.2]

/-- With no NUL, the whole input is read and there is no rest. -/
theorem splitNT_of_not_mem {s : Bytes} (h : 0 ∉ s) : splitNT s = (s, none) := by
  induction s with
  | nil => rfl
  | cons b s ih =>
    simp only [List.mem_cons, not_or] at h
    simp [splitNT, Ne.symm h.1, ih h.2]

@[simp] theorem toList_zeros (n : Nat) : (zeros n).toList = List.replicate n 0 := rfl

theorem copyInto_zeros {n : Nat} (src : Bytes) (h : src.length = n) :
    (copyInto (zeros n) src).toList = src := by
  subst h
  simp [copyInto]

/-- A source shorter than the array leaves the rest of it zero. -/
theorem copyInto_zeros_short {n : Nat} (src : Bytes) (h : src.length ≤ n) :
    (copyInto (zeros n) src).toList = src ++ List.replicate (n - src.length) 0 := by
  simp [copyInto, List.take_of_length_le h, Nat.min_eq_right h]

end Dnscat2
