import Dnscat2.Packet

/-!
The encryption layer of `pkg/crypto/encryptor.go`. Its primitives are the fields
of `Crypto`: SHA3-256 is an arbitrary function to 32-byte digests, Salsa20 is
the XOR of the data with a keystream fixed by key and nonce, and P-256 key
agreement is a partial function of our private key and their public key. A
frame keeps its five header bytes in the clear; `encrypt` puts the two-byte
nonce after them and `sign` the six-byte truncated MAC.
-/

namespace Dnscat2

abbrev Key := Mathlib.Vector UInt8 32

def headerLength : Nat := 5
def signatureLength : Nat := 6

structure Crypto where
  /-- SHA3-256 of everything written to the hash, in order. -/
  sha3 : Bytes → Key
  /-- Byte `i` of the Salsa20 keystream of a key and an 8-byte nonce. -/
  keystream : Key → Bytes → Nat → UInt8
  /-- `PublicKey().Bytes()` of a private key: the uncompressed point. -/
  publicKey : Bytes → Bytes
  /-- `curve.NewPublicKey`: the error of an invalid point. -/
  newPublicKey : Bytes → Except String Unit
  /-- `ECDH` of our private key and their (valid) public key. -/
  ecdh : Bytes → Bytes → Except String Key

structure Encryptor where
  presharedSecret : Bytes
  myPrivateKey : Bytes
  myPublicKey : Bytes
  theirPublicKey : Bytes
  sharedSecret : Key
  myAuthenticator : Key
  theirAuthenticator : Key
  myWriteKey : Key
  myMacKey : Key
  theirWriteKey : Key
  theirMacKey : Key
  nonce : UInt16
deriving DecidableEq

namespace Crypto

variable (C : Crypto)

/-- `salsa20.XORKeyStream`. -/
def xorKeyStream (src nonce : Bytes) (key : Key) : Bytes :=
  src.mapIdx fun i b => b ^^^ C.keystream key nonce i

/-- `NewEncryptor`: `none` is the error of the random source, which fails the call. -/
def newEncryptor (presharedSecret : Bytes) (privateKey : Option Bytes) :
    Except String Encryptor :=
  match privateKey with
  | none => .error "failed to generate key"
  | some k => .ok
    { presharedSecret, myPrivateKey := k, myPublicKey := C.publicKey k, theirPublicKey := [],
      sharedSecret := zeros 32, myAuthenticator := zeros 32, theirAuthenticator := zeros 32,
      myWriteKey := zeros 32, myMacKey := zeros 32, theirWriteKey := zeros 32,
      theirMacKey := zeros 32, nonce := 0 }

end Crypto

/-- The 8-byte Salsa20 nonce: six zero bytes, then the counter big-endian. -/
def nonceBytes (n : UInt16) : Bytes := [0, 0, 0, 0, 0, 0] ++ putUint16 n

namespace Encryptor

variable (C : Crypto) (e : Encryptor)

/-- The 64-byte `X ‖ Y` form: the `0x04` prefix of an uncompressed point is dropped. -/
def getMyPublicKey : Bytes :=
  if e.myPublicKey.length = 65 ∧ e.myPublicKey.head? = some 0x04 then e.myPublicKey.drop 1
  else e.myPublicKey

def makeKey (keyName : Bytes) : Key := C.sha3 (e.sharedSecret.toList ++ keyName)

def makeAuthenticator (authString : Bytes) : Key :=
  C.sha3 (authString ++ e.sharedSecret.toList ++ e.getMyPublicKey ++ e.theirPublicKey ++
    e.presharedSecret)

/-- The keys derived once the shared secret is known, and the authenticators when a
pre-shared secret is set. -/
def deriveKeys : Encryptor :=
  let e := { e with
    myWriteKey := e.makeKey C (ascii "client_write_key")
    myMacKey := e.makeKey C (ascii "client_mac_key")
    theirWriteKey := e.makeKey C (ascii "server_write_key")
    theirMacKey := e.makeKey C (ascii "server_mac_key") }
  if e.presharedSecret ≠ [] then
    { e with
      myAuthenticator := e.makeAuthenticator C (ascii "client")
      theirAuthenticator := e.makeAuthenticator C (ascii "server") }
  else e

def setTheirPublicKey (theirPubKey : Bytes) : Except String Encryptor :=
  let fullPubKey := if theirPubKey.length = 64 then 0x04 :: theirPubKey else theirPubKey
  match C.newPublicKey fullPubKey with
  | .error err => .error s!"invalid public key: {err}"
  | .ok () =>
    match C.ecdh e.myPrivateKey fullPubKey with
    | .error err => .error s!"ECDH failed: {err}"
    | .ok shared =>
      .ok (deriveKeys C { e with theirPublicKey := theirPubKey, sharedSecret := shared })

def getNonce : UInt16 × Encryptor := (e.nonce, { e with nonce := e.nonce + 1 })

def shouldRenegotiate : Bool := e.nonce > 0xFFF0

/-- Header and body without the signature when the signature is `H(mac ‖ header ‖ body)`
truncated to six bytes; `none` for the `(nil, false)` of the source. -/
def checkSignature (data : Bytes) : Option Bytes :=
  if data.length < headerLength + signatureLength then none
  else
    let header := data.take headerLength
    let theirSig := (data.drop headerLength).take signatureLength
    let body := data.drop (headerLength + signatureLength)
    let goodSig := C.sha3 (e.theirMacKey.toList ++ header ++ body)
    if theirSig = goodSig.toList.take signatureLength then some (header ++ body) else none

def decrypt (data : Bytes) : Except String (Bytes × UInt16) :=
  if data.length < headerLength + 2 then .error "data too short"
  else
    let header := data.take headerLength
    let nonceField := (data.drop headerLength).take 2
    let nonce := getUint16 (nonceField.getD 0 0) (nonceField.getD 1 0)
    let body := data.drop (headerLength + 2)
    .ok (header ++ C.xorKeyStream body (nonceBytes nonce) e.theirWriteKey, nonce)

def sign (data : Bytes) : Bytes :=
  if data.length < headerLength then data
  else
    let header := data.take headerLength
    let body := data.drop headerLength
    let sig := C.sha3 (e.myMacKey.toList ++ header ++ body)
    header ++ sig.toList.take signatureLength ++ body

def encrypt (data : Bytes) : Bytes × Encryptor :=
  if data.length < headerLength then (data, e)
  else
    let header := data.take headerLength
    let body := data.drop headerLength
    let (nonce, e') := e.getNonce
    (header ++ putUint16 nonce ++ C.xorKeyStream body (nonceBytes nonce) e.myWriteKey, e')

end Encryptor

theorem xor_xor_cancel (a b : UInt8) : (a ^^^ b) ^^^ b = a := by
  apply UInt8.eq_of_toBitVec_eq
  show (a.toBitVec ^^^ b.toBitVec) ^^^ b.toBitVec = a.toBitVec
  rw [BitVec.xor_assoc, BitVec.xor_self, BitVec.xor_zero]

@[simp] theorem Crypto.length_xorKeyStream (C : Crypto) (src nonce : Bytes) (key : Key) :
    (C.xorKeyStream src nonce key).length = src.length := by
  simp [Crypto.xorKeyStream]

theorem Crypto.xorKeyStream_xorKeyStream (C : Crypto) (src nonce : Bytes) (key : Key) :
    C.xorKeyStream (C.xorKeyStream src nonce key) nonce key = src := by
  apply List.ext_getElem (by simp)
  intro i _ _
  simp [Crypto.xorKeyStream, xor_xor_cancel]

@[simp] theorem length_sig (k : Key) :
    (k.toList.take signatureLength).length = signatureLength := by
  simp [signatureLength, Nat.min_def]

namespace Encryptor

variable {C : Crypto} {e e' : Encryptor} {d : Bytes}

theorem sign_eq (hd : headerLength ≤ d.length) :
    e.sign C d = d.take headerLength ++
      (C.sha3 (e.myMacKey.toList ++ d.take headerLength ++ d.drop headerLength)).toList.take
        signatureLength ++ d.drop headerLength := by
  simp [sign, Nat.not_lt.mpr hd]

theorem encrypt_eq (hd : headerLength ≤ d.length) :
    e.encrypt C d = (d.take headerLength ++ putUint16 e.nonce ++
      C.xorKeyStream (d.drop headerLength) (nonceBytes e.nonce) e.myWriteKey,
      { e with nonce := e.nonce + 1 }) := by
  simp [encrypt, getNonce, Nat.not_lt.mpr hd]

/-- A frame signed under our MAC key passes the check of a peer whose "their" MAC key
it is, and comes back without its signature. -/
theorem checkSignature_sign (hm : e'.theirMacKey = e.myMacKey) (hd : headerLength ≤ d.length) :
    e'.checkSignature C (e.sign C d) = some d := by
  have h5 : (d.take headerLength).length = headerLength := List.length_take_of_le hd
  rw [sign_eq hd, checkSignature, if_neg (by
    simp only [List.length_append, h5, length_sig, List.length_drop]
    simp only [headerLength, signatureLength] at hd ⊢; omega)]
  simp only [List.append_assoc, List.take_left' h5, List.drop_left' h5, hm]
  rw [List.take_left' (length_sig _), ← List.drop_drop, List.drop_left' h5,
    List.drop_left' (length_sig _)]
  simp

/-- A frame encrypted under our write key decrypts, under the peer's matching key,
back to itself and the nonce it was sent with. -/
theorem decrypt_encrypt (hw : e'.theirWriteKey = e.myWriteKey) (hd : headerLength ≤ d.length) :
    e'.decrypt C (e.encrypt C d).1 = .ok (d, e.nonce) := by
  have h5 : (d.take headerLength).length = headerLength := List.length_take_of_le hd
  rw [encrypt_eq hd, decrypt, if_neg (by
    simp only [List.length_append, h5, length_putUint16, Crypto.length_xorKeyStream]; omega)]
  simp only [List.append_assoc, List.take_left' h5, List.drop_left' h5]
  rw [← List.drop_drop, List.drop_left' h5, List.drop_left' (length_putUint16 _), hw]
  simp [putUint16, getUint16_putUint16, Crypto.xorKeyStream_xorKeyStream]

theorem take_encrypt (d : Bytes) :
    (e.encrypt C d).1.take headerLength = d.take headerLength := by
  by_cases hd : headerLength ≤ d.length
  · rw [encrypt_eq hd, List.append_assoc, List.take_left' (List.length_take_of_le hd)]
  · simp [encrypt, Nat.lt_of_not_le hd]

theorem take_sign (d : Bytes) : (e.sign C d).take headerLength = d.take headerLength := by
  by_cases hd : headerLength ≤ d.length
  · rw [sign_eq hd, List.append_assoc, List.take_left' (List.length_take_of_le hd)]
  · simp [sign, Nat.lt_of_not_le hd]

theorem take_of_checkSignature {c : Bytes} (h : e.checkSignature C d = some c) :
    c.take headerLength = d.take headerLength := by
  simp only [checkSignature] at h
  split at h
  · cases h
  · split at h
    · cases h
      rw [List.take_left' (List.length_take_of_le (by omega))]
    · cases h

theorem take_of_decrypt {c : Bytes} {n : UInt16} (h : e.decrypt C d = .ok (c, n)) :
    c.take headerLength = d.take headerLength := by
  unfold decrypt at h
  split_ifs at h with hlen
  cases h
  rw [List.take_left' (List.length_take_of_le (by omega))]

end Encryptor

theorem peekSessionID_take (d : Bytes) : peekSessionID (d.take headerLength) = peekSessionID d := by
  rcases d with _ | ⟨a, _ | ⟨b, _ | ⟨c, _ | ⟨x, _ | ⟨y, rest⟩⟩⟩⟩⟩ <;> rfl

theorem peekSessionID_congr {d d' : Bytes} (h : d.take headerLength = d'.take headerLength) :
    peekSessionID d = peekSessionID d' := by
  rw [← peekSessionID_take d, h, peekSessionID_take]

/-- Protecting a frame and unprotecting it under the matching keys: the signature check
passes, decryption gives the frame back with the nonce it was sent under, the sender's
counter moves on by one, and none of the four steps touches the five header bytes, so
the controller routes the protected frame by the session id of its plaintext header. -/
theorem checkSignature_sign_encrypt (C : Crypto) (A B : Encryptor) (b : Bytes)
    (hb : headerLength ≤ b.length) (hw : A.myWriteKey = B.theirWriteKey)
    (hm : A.myMacKey = B.theirMacKey) :
    ∃ c, B.checkSignature C ((A.encrypt C b).2.sign C (A.encrypt C b).1) = some c ∧
      B.decrypt C c = .ok (b, A.nonce) ∧
      (A.encrypt C b).2.nonce = A.nonce + 1 ∧
      (∀ d, (A.encrypt C d).1.take headerLength = d.take headerLength) ∧
      (∀ d, ((A.encrypt C b).2.sign C d).take headerLength = d.take headerLength) ∧
      (∀ d c, B.checkSignature C d = some c → c.take headerLength = d.take headerLength) ∧
      (∀ d c n, B.decrypt C d = .ok (c, n) → c.take headerLength = d.take headerLength) ∧
      peekSessionID ((A.encrypt C b).2.sign C (A.encrypt C b).1) = peekSessionID b := by
  have henc := Encryptor.encrypt_eq (C := C) (e := A) hb
  have hlen : headerLength ≤ (A.encrypt C b).1.length := by
    rw [henc]; simp only [List.length_append, List.length_take]; omega
  refine ⟨(A.encrypt C b).1, ?_, ?_, by rw [henc], Encryptor.take_encrypt, Encryptor.take_sign,
    fun _ _ => Encryptor.take_of_checkSignature, fun _ _ _ => Encryptor.take_of_decrypt, ?_⟩
  · exact Encryptor.checkSignature_sign (by rw [henc]; exact hm.symm) hlen
  · exact Encryptor.decrypt_encrypt hw.symm hb
  · apply peekSessionID_congr
    rw [Encryptor.take_sign, Encryptor.take_encrypt]

/-- Primitives to evaluate the model with: every digest and keystream byte zero, every
point valid. -/
def Crypto.zero : Crypto where
  sha3 _ := zeros 32
  keystream _ _ _ := 0
  publicKey k := k
  newPublicKey _ := .ok ()
  ecdh _ _ := .ok (zeros 32)

/-- An encryptor whose counter is about to wrap. -/
def Encryptor.lastNonce : Encryptor :=
  { presharedSecret := [], myPrivateKey := [], myPublicKey := [], theirPublicKey := [],
    sharedSecret := zeros 32, myAuthenticator := zeros 32, theirAuthenticator := zeros 32,
    myWriteKey := zeros 32, myMacKey := zeros 32, theirWriteKey := zeros 32,
    theirMacKey := zeros 32, nonce := 0xFFFF }

theorem checkSignature_sign_encrypt_lastNonce :
    ∃ c, Encryptor.lastNonce.checkSignature Crypto.zero
        ((Encryptor.lastNonce.encrypt Crypto.zero [0, 1, 3, 0, 7, 42]).2.sign Crypto.zero
          (Encryptor.lastNonce.encrypt Crypto.zero [0, 1, 3, 0, 7, 42]).1) = some c ∧
      Encryptor.lastNonce.decrypt Crypto.zero c = .ok ([0, 1, 3, 0, 7, 42], 0xFFFF) ∧
      (Encryptor.lastNonce.encrypt Crypto.zero [0, 1, 3, 0, 7, 42]).2.nonce = 0xFFFF + 1 ∧
      (∀ d, (Encryptor.lastNonce.encrypt Crypto.zero d).1.take headerLength =
        d.take headerLength) ∧
      (∀ d, ((Encryptor.lastNonce.encrypt Crypto.zero [0, 1, 3, 0, 7, 42]).2.sign Crypto.zero
        d).take headerLength = d.take headerLength) ∧
      (∀ d c, Encryptor.lastNonce.checkSignature Crypto.zero d = some c →
        c.take headerLength = d.take headerLength) ∧
      (∀ d c n, Encryptor.lastNonce.decrypt Crypto.zero d = .ok (c, n) →
        c.take headerLength = d.take headerLength) ∧
      peekSessionID ((Encryptor.lastNonce.encrypt Crypto.zero [0, 1, 3, 0, 7, 42]).2.sign
        Crypto.zero (Encryptor.lastNonce.encrypt Crypto.zero [0, 1, 3, 0, 7, 42]).1) =
        peekSessionID [0, 1, 3, 0, 7, 42] :=
  checkSignature_sign_encrypt Crypto.zero Encryptor.lastNonce Encryptor.lastNonce _ (by decide)
    rfl rfl

end Dnscat2
