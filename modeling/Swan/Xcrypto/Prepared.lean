import Swan.Xcrypto.Keying

/-! # Prepared ciphers

The keyed states that a codec of the data plane builds once and uses for every packet: the cipher
with its AES key and salt, and the HMAC with its key. `sealTo_eq`, `openTo_eq` and
`PreparedIntegrity.sign_eq`: they compute what the unprepared ones compute, so that opening undoes
sealing (`openTo_sealTo`) and a signature verifies (`PreparedIntegrity.verify_sign`). -/

namespace Swan.Xcrypto

open Swan.Lib

/-- A cipher whose AES key and salt are fixed. -/
structure PreparedEncryption where
  alg : EncryptionAlg
  /-- The key of the AES block. -/
  aesKey : Bytes
  /-- The AEAD salt. -/
  salt : Bytes
  deriving DecidableEq, Repr

/-- An HMAC whose key is fixed. -/
structure PreparedIntegrity where
  outputLen : ℕ
  hash : HashKind
  key : Bytes
  deriving DecidableEq, Repr

def Integrity.prepare (i : Integrity) (key : Bytes) : Except Err PreparedIntegrity :=
  match i.newHMAC with
  | none => .error (.errorf "xcrypto: no integrity transform (AEAD carries its own tag)")
  | some hash =>
    if key.length ≠ i.keyLen then
      .error (.errorf s!"xcrypto: integrity key length {key.length}, want {i.keyLen}")
    else .ok ⟨i.outputLen, hash, key⟩

variable [Crypto]

/-- Fix the key material of a cipher. -/
def EncryptionAlg.prepare (a : EncryptionAlg) (key : Bytes) : Except Err PreparedEncryption :=
  if key.length ≠ a.keyLen then
    .error (.errorf s!"xcrypto: {a.name} key length {key.length}, want {a.keyLen}")
  else if !a.aead then do
    let _ ← newCipher key
    .ok ⟨a, key, []⟩
  else if a.isCCM then do
    let _ ← newCipher (key.take a.transformKeyLen)
    .ok ⟨a, key.take a.transformKeyLen, key.drop a.transformKeyLen⟩
  else do
    let (aesKey, salt) := a.splitAEADKey key
    let _ ← newCipher aesKey
    .ok ⟨a, aesKey, salt⟩

namespace PreparedEncryption

def checkIV (p : PreparedEncryption) (iv : Bytes) : Except Err Unit :=
  if iv.length ≠ p.alg.ivLen then
    .error (.errorf s!"xcrypto: {p.alg.name} IV length {iv.length}, want {p.alg.ivLen}")
  else .ok ()

def cbcSeal (p : PreparedEncryption) (dst iv plain : Bytes) : Except Err Bytes :=
  if plain.length % 16 ≠ 0 then
    .error (.errorf s!"xcrypto: AES-CBC plaintext length {plain.length} not a multiple of 16")
  else .ok (dst ++ Crypto.cbcEncrypt p.aesKey iv plain)

def cbcOpenTo (p : PreparedEncryption) (dst iv ciphertext : Bytes) : Except Err Bytes :=
  if ciphertext.length % 16 ≠ 0 then
    .error (.errorf s!"xcrypto: AES-CBC ciphertext length {ciphertext.length} not a multiple of 16")
  else .ok (dst ++ Crypto.cbcDecrypt p.aesKey iv ciphertext)

def gcmSeal (p : PreparedEncryption) (dst iv aad plain : Bytes) : Except Err Bytes :=
  .ok (dst ++ Crypto.gcmEncrypt p.alg.icvLen p.aesKey (p.salt ++ iv) aad plain)

def gcmOpenTo (p : PreparedEncryption) (dst iv aad ciphertext : Bytes) : Except Err Bytes :=
  match Crypto.gcmDecrypt p.alg.icvLen p.aesKey (p.salt ++ iv) aad ciphertext with
  | some plain => .ok (dst ++ plain)
  | none => .error (.wrapf "xcrypto: AES-GCM auth/open: "
      (.errorf "cipher: message authentication failed"))

def ccmSeal (p : PreparedEncryption) (dst iv aad plain : Bytes) : Except Err Bytes :=
  let block := Crypto.aes p.aesKey
  let nonce := p.salt ++ iv
  let stream := ctrStream block (ccmCounterIV nonce) (16 + plain.length)
  let fullTag := xorBytes (ccmMAC block nonce aad plain p.alg.icvLen) (stream.take 16)
  .ok (dst ++ (xorBytes plain (stream.drop 16) ++ fullTag.take p.alg.icvLen))

def ccmOpenTo (p : PreparedEncryption) (dst iv aad ciphertext : Bytes) : Except Err Bytes :=
  if ciphertext.length < p.alg.icvLen then
    .error (.errorf s!"xcrypto: AES-CCM ciphertext too short: {ciphertext.length}")
  else
    let dataLen := ciphertext.length - p.alg.icvLen
    let block := Crypto.aes p.aesKey
    let nonce := p.salt ++ iv
    let stream := ctrStream block (ccmCounterIV nonce) (16 + dataLen)
    let out := xorBytes (ciphertext.take dataLen) (stream.drop 16)
    let tag := xorBytes (ciphertext.drop dataLen) (stream.take 16)
    if tag ≠ (ccmMAC block nonce aad out p.alg.icvLen).take p.alg.icvLen then
      .error (.errorf "xcrypto: AES-CCM auth failed")
    else .ok (dst ++ out)

/-- Append the ciphertext, and the tag of an AEAD mode, to `dst`. -/
def sealTo (p : PreparedEncryption) (dst iv aad plain : Bytes) : Except Err Bytes := do
  p.checkIV iv
  if !p.alg.aead then p.cbcSeal dst iv plain
  else if p.alg.isCCM then p.ccmSeal dst iv aad plain
  else p.gcmSeal dst iv aad plain

/-- Append the plaintext to `dst`. -/
def openTo (p : PreparedEncryption) (dst iv aad ciphertext : Bytes) : Except Err Bytes := do
  p.checkIV iv
  if !p.alg.aead then p.cbcOpenTo dst iv ciphertext
  else if p.alg.isCCM then p.ccmOpenTo dst iv aad ciphertext
  else p.gcmOpenTo dst iv aad ciphertext

end PreparedEncryption

namespace PreparedIntegrity

/-- The truncated ICV of a message. -/
def sign (p : PreparedIntegrity) (msg : Bytes) : Except Err Bytes :=
  .ok ((Crypto.hmac p.hash p.key msg).take p.outputLen)

def verify (p : PreparedIntegrity) (msg icv : Bytes) : Bool :=
  match p.sign msg with
  | .error _ => false
  | .ok got => decide (got = icv)

theorem sign_eq {i : Integrity} {key : Bytes} {p : PreparedIntegrity} (h : i.prepare key = .ok p)
    (msg : Bytes) : p.sign msg = i.sign key msg := by
  unfold Integrity.prepare at h
  unfold Integrity.sign
  cases hhash : i.newHMAC with
  | none =>
    rw [hhash] at h
    cases h
  | some hash =>
    rw [hhash] at h
    dsimp only at h ⊢
    split_ifs at h with hkey
    obtain rfl := Except.ok.inj h
    exact (if_neg hkey).symm

theorem verify_eq {i : Integrity} {key : Bytes} {p : PreparedIntegrity} (h : i.prepare key = .ok p)
    (msg icv : Bytes) : p.verify msg icv = i.verify key msg icv := by
  have hs := sign_eq h msg
  unfold verify Integrity.verify
  cases hi : i.sign key msg with
  | error e => simp only [hs, hi]
  | ok got => simp only [hs, hi]

theorem verify_sign {i : Integrity} {key msg icv : Bytes} {p : PreparedIntegrity}
    (h : i.prepare key = .ok p) (hs : p.sign msg = .ok icv) :
    p.verify msg icv = true ∧ icv.length = i.outputLen := by
  rw [sign_eq h] at hs
  rw [verify_eq h]
  exact Xcrypto.verify_sign hs

end PreparedIntegrity

/-! ### Prepared and unprepared ciphers -/

theorem EncryptionAlg.prepare_eq_ok {a : EncryptionAlg} {key : Bytes} {p : PreparedEncryption}
    (h : a.prepare key = .ok p) : key.length = a.keyLen ∧ p.alg = a ∧
      newCipher p.aesKey = .ok (Crypto.aes p.aesKey) ∧
      if a.aead then p.aesKey = key.take a.transformKeyLen ∧ p.salt = key.drop a.transformKeyLen
      else p.aesKey = key := by
  unfold EncryptionAlg.prepare at h
  split_ifs at h with hlen haead hccm
  all_goals
    obtain ⟨block, hb, hp⟩ := bind_eq_ok.mp h
    obtain rfl := Except.ok.inj hp
    rw [newCipher_eq_ok hb] at hb
    refine ⟨not_not.mp hlen, rfl, hb, ?_⟩
  · rw [Bool.not_eq_true'] at haead
    rw [haead]
    rfl
  all_goals
    rw [Bool.not_eq_true', Bool.not_eq_false] at haead
    rw [haead]
    exact ⟨rfl, rfl⟩

namespace PreparedEncryption

variable {a : EncryptionAlg} {key : Bytes} {p : PreparedEncryption}

theorem sealTo_eq (h : a.prepare key = .ok p) (dst iv aad plain : Bytes) :
    p.sealTo dst iv aad plain = (dst ++ ·) <$> a.seal' key iv aad plain := by
  obtain ⟨hlen, rfl, hcipher, hkey⟩ := EncryptionAlg.prepare_eq_ok h
  have hck : p.alg.checkKeyIV key iv = p.checkIV iv := by
    rw [EncryptionAlg.checkKeyIV, checkIV, if_neg (not_not.mpr hlen)]
  rw [sealTo, EncryptionAlg.seal', hck]
  cases p.checkIV iv with
  | error e => rfl
  | ok u =>
    simp only [ok_bind]
    cases haead : p.alg.aead with
    | false =>
      rw [haead] at hkey
      obtain rfl : p.aesKey = key := hkey
      simp only [Bool.not_false, if_true, cbcSeal, Xcrypto.cbcSeal, hcipher, ok_bind]
      split_ifs <;> rfl
    | true =>
      rw [haead] at hkey
      obtain ⟨hkey, hsalt⟩ : _ ∧ _ := hkey
      cases hccm : p.alg.isCCM with
      | true =>
        simp only [Bool.not_true, Bool.false_eq_true, if_false, if_true, ccmSeal, Xcrypto.ccmSeal,
          ← hkey, hcipher, ok_bind, ccmNonce, EncryptionAlg.splitAEADKey, ← hsalt]
        rfl
      | false =>
        simp only [Bool.not_true, Bool.false_eq_true, if_false, gcmSeal, Xcrypto.gcmSeal,
          EncryptionAlg.splitAEADKey, ← hkey, ← hsalt, hcipher, ok_bind]
        rfl

theorem openTo_eq (h : a.prepare key = .ok p) (dst iv aad ciphertext : Bytes) :
    p.openTo dst iv aad ciphertext = (dst ++ ·) <$> a.open' key iv aad ciphertext := by
  obtain ⟨hlen, rfl, hcipher, hkey⟩ := EncryptionAlg.prepare_eq_ok h
  have hck : p.alg.checkKeyIV key iv = p.checkIV iv := by
    rw [EncryptionAlg.checkKeyIV, checkIV, if_neg (not_not.mpr hlen)]
  rw [openTo, EncryptionAlg.open', hck]
  cases p.checkIV iv with
  | error e => rfl
  | ok u =>
    simp only [ok_bind]
    cases haead : p.alg.aead with
    | false =>
      rw [haead] at hkey
      obtain rfl : p.aesKey = key := hkey
      simp only [Bool.not_false, if_true, cbcOpenTo, cbcOpen, hcipher, ok_bind]
      split_ifs <;> rfl
    | true =>
      rw [haead] at hkey
      obtain ⟨hkey, hsalt⟩ : _ ∧ _ := hkey
      cases hccm : p.alg.isCCM with
      | true =>
        simp only [Bool.not_true, Bool.false_eq_true, if_false, if_true, ccmOpenTo, ccmOpen,
          ← hkey, hcipher, ok_bind, ccmNonce, EncryptionAlg.splitAEADKey, ← hsalt]
        split_ifs <;> rfl
      | false =>
        simp only [Bool.not_true, Bool.false_eq_true, if_false, gcmOpenTo, gcmOpen,
          EncryptionAlg.splitAEADKey, ← hkey, ← hsalt, hcipher, ok_bind]
        cases Crypto.gcmDecrypt p.alg.icvLen p.aesKey (p.salt ++ iv) aad ciphertext <;> rfl

theorem openTo_sealTo (h : a.prepare key = .ok p) {dst iv aad plain c : Bytes}
    (hs : p.sealTo dst iv aad plain = .ok c) :
    ∃ body, c = dst ++ body ∧ body.length = plain.length + a.icvLen ∧
      p.openTo [] iv aad body = .ok plain := by
  rw [sealTo_eq h] at hs
  cases hbody : a.seal' key iv aad plain with
  | error e => rw [hbody] at hs; cases hs
  | ok body =>
    rw [hbody] at hs
    obtain rfl := Except.ok.inj hs
    obtain ⟨hopen, hl⟩ := open_seal hbody
    exact ⟨body, rfl, hl, by rw [openTo_eq h, hopen]; rfl⟩

end PreparedEncryption

end Swan.Xcrypto
