import Swan.Xcrypto.Primitives

/-! # Encryption algorithms

The AES variants of the registry: CBC, whose padding and authentication are the caller's, and the
AEAD modes CCM and GCM. An `EncryptionAlg` carries the facts that hold of every registered variant,
so a variant outside the registry cannot be built. CCM is written out over the block cipher, as in
the source; CBC and GCM are the modes of the standard library.

`open_seal`: opening with the same key, IV and additional data undoes sealing. -/

namespace Swan.Xcrypto

open Swan.Lib

/-! ### The registry -/

def transformEncryptionAESCBC : UInt16 := 12
def transformEncryptionAESCCM8 : UInt16 := 14
def transformEncryptionAESCCM12 : UInt16 := 15
def transformEncryptionAESCCM16 : UInt16 := 16
def transformEncryptionAESGCM12 : UInt16 := 19
def transformEncryptionAESGCM16 : UInt16 := 20

/-- One symmetric algorithm variant. -/
structure EncryptionAlg where
  transformID : UInt16
  name : String
  /-- The key length of the transform, in bytes. -/
  transformKeyLen : ℕ
  /-- The key material of the cipher: the transform key and the AEAD salt. -/
  keyLen : ℕ
  saltLen : ℕ
  /-- The explicit IV on the wire. -/
  ivLen : ℕ
  /-- The padding block size. -/
  blockLen : ℕ
  /-- The AEAD tag length. -/
  icvLen : ℕ
  aead : Bool
  transformKeyLen_aes : transformKeyLen = 16 ∨ transformKeyLen = 32
  keyLen_eq : keyLen = transformKeyLen + saltLen
  ivLen_pos : 0 < ivLen
  blockLen_eq : blockLen = if aead then 1 else 16
  icvLen_le : icvLen ≤ 16
  icvLen_cbc : aead = false → icvLen = 0
  deriving DecidableEq, Repr

def newEncryption (transformID keyLen : UInt16) : Except Err EncryptionAlg :=
  if hk : keyLen ≠ 16 ∧ keyLen ≠ 32 then
    .error (.errorf s!"xcrypto: unsupported AES key length {keyLen}")
  else
    have haes : keyLen.toNat = 16 ∨ keyLen.toNat = 32 := by
      rw [not_and_or, not_not, not_not] at hk
      rcases hk with rfl | rfl <;> decide
    let baseName := if keyLen.toNat = 32 then "aes256" else "aes128"
    if transformID = transformEncryptionAESCBC then
      .ok { transformID, name := baseName, transformKeyLen := keyLen.toNat, keyLen := keyLen.toNat
            saltLen := 0, ivLen := 16, blockLen := 16, icvLen := 0, aead := false
            transformKeyLen_aes := haes, keyLen_eq := rfl, ivLen_pos := by decide
            blockLen_eq := rfl, icvLen_le := by decide, icvLen_cbc := fun _ => rfl }
    else if transformID = transformEncryptionAESCCM8 ∨ transformID = transformEncryptionAESCCM12 ∨
        transformID = transformEncryptionAESCCM16 then
      let tag := if transformID = transformEncryptionAESCCM12 then 12
        else if transformID = transformEncryptionAESCCM16 then 16 else 8
      .ok { transformID, name := s!"{baseName}ccm{tag}", transformKeyLen := keyLen.toNat
            keyLen := keyLen.toNat + 3, saltLen := 3, ivLen := 8, blockLen := 1, icvLen := tag
            aead := true, transformKeyLen_aes := haes, keyLen_eq := rfl, ivLen_pos := by decide
            blockLen_eq := rfl, icvLen_le := by simp only [tag]; split_ifs <;> decide
            icvLen_cbc := fun h => by cases h }
    else if transformID = transformEncryptionAESGCM12 ∨ transformID = transformEncryptionAESGCM16
    then
      let tag := if transformID = transformEncryptionAESGCM16 then 16 else 12
      .ok { transformID, name := s!"{baseName}gcm{tag}", transformKeyLen := keyLen.toNat
            keyLen := keyLen.toNat + 4, saltLen := 4, ivLen := 8, blockLen := 1, icvLen := tag
            aead := true, transformKeyLen_aes := haes, keyLen_eq := rfl, ivLen_pos := by decide
            blockLen_eq := rfl, icvLen_le := by simp only [tag]; split_ifs <;> decide
            icvLen_cbc := fun h => by cases h }
    else .error (.errorf s!"xcrypto: unsupported encryption transform {transformID}")

variable {transformID keyLen : UInt16} {alg : EncryptionAlg}

theorem keyLen_of_newEncryption (h : newEncryption transformID keyLen = .ok alg) :
    alg.keyLen ≤ 36 := by
  have haes := alg.transformKeyLen_aes
  have hlen := alg.keyLen_eq
  have hsalt : alg.saltLen ≤ 4 := by
    unfold newEncryption at h
    split_ifs at h <;> obtain rfl := Except.ok.inj h <;> simp
  omega

theorem ids_of_newEncryption (h : newEncryption transformID keyLen = .ok alg) :
    alg.transformID = transformID ∧ alg.transformKeyLen = keyLen.toNat := by
  unfold newEncryption at h
  split_ifs at h <;> obtain rfl := Except.ok.inj h <;> exact ⟨rfl, rfl⟩

theorem newEncryption_self (h : newEncryption transformID keyLen = .ok alg) :
    newEncryption alg.transformID (UInt16.ofNat alg.transformKeyLen) = .ok alg := by
  have hid := ids_of_newEncryption h
  rw [hid.1, hid.2, UInt16.ofNat_toNat, h]

variable [Crypto]

namespace EncryptionAlg

def isCCM (a : EncryptionAlg) : Bool :=
  decide (a.transformID ≥ transformEncryptionAESCCM8 ∧ a.transformID ≤ transformEncryptionAESCCM16)

def checkKeyIV (a : EncryptionAlg) (key iv : Bytes) : Except Err Unit :=
  if key.length ≠ a.keyLen then
    .error (.errorf s!"xcrypto: {a.name} key length {key.length}, want {a.keyLen}")
  else if iv.length ≠ a.ivLen then
    .error (.errorf s!"xcrypto: {a.name} IV length {iv.length}, want {a.ivLen}")
  else .ok ()

/-- The AES key and the salt of the key material. -/
def splitAEADKey (a : EncryptionAlg) (key : Bytes) : Bytes × Bytes :=
  (key.take a.transformKeyLen, key.drop a.transformKeyLen)

end EncryptionAlg

def newCipher (key : Bytes) : Except Err (Bytes → Bytes) :=
  if key.length = 16 ∨ key.length = 24 ∨ key.length = 32 then .ok (Crypto.aes key)
  else .error (.errorf s!"crypto/aes: invalid key size {key.length}")

/-! ### CBC -/

def cbcSeal (key iv plain : Bytes) : Except Err Bytes :=
  if plain.length % 16 ≠ 0 then
    .error (.errorf
      s!"xcrypto: AES-CBC plaintext length {plain.length} not a multiple of 16")
  else do
    let _ ← newCipher key
    .ok (Crypto.cbcEncrypt key iv plain)

def cbcOpen (key iv ciphertext : Bytes) : Except Err Bytes :=
  if ciphertext.length % 16 ≠ 0 then
    .error (.errorf
      s!"xcrypto: AES-CBC ciphertext length {ciphertext.length} not a multiple of 16")
  else do
    let _ ← newCipher key
    .ok (Crypto.cbcDecrypt key iv ciphertext)

/-! ### GCM -/

def gcmSeal (a : EncryptionAlg) (key iv aad plain : Bytes) : Except Err Bytes := do
  let (aesKey, salt) := a.splitAEADKey key
  let _ ← newCipher aesKey
  .ok (Crypto.gcmEncrypt a.icvLen aesKey (salt ++ iv) aad plain)

def gcmOpen (a : EncryptionAlg) (key iv aad ciphertext : Bytes) : Except Err Bytes := do
  let (aesKey, salt) := a.splitAEADKey key
  let _ ← newCipher aesKey
  match Crypto.gcmDecrypt a.icvLen aesKey (salt ++ iv) aad ciphertext with
  | some plain => .ok plain
  | none => .error (.wrapf "xcrypto: AES-GCM auth/open: "
      (.errorf "cipher: message authentication failed"))

/-! ### CCM -/

def ccmLenParameter : ℕ := 4

/-- The nonce: the salt of the key material and the explicit IV. -/
def ccmNonce (a : EncryptionAlg) (key iv : Bytes) : Bytes := (a.splitAEADKey key).2 ++ iv

def ccmCounterIV (nonce : Bytes) : Bytes :=
  UInt8.ofNat (ccmLenParameter - 1) :: nonce ++ List.replicate (15 - nonce.length) 0

/-- The first `n` bytes of the counter-mode key stream from a counter block. -/
def ctrStream (block : Bytes → Bytes) (iv : Bytes) (n : ℕ) : Bytes :=
  ((List.range (chunkCount 16 n)).map fun i => block (beBytes 16 (beNat iv + i))).flatten.take n

/-- The length-prefixed, zero-padded blocks of the additional data. -/
def aadEncoding (aad : Bytes) : Bytes :=
  if aad.length = 0 then []
  else
    let out := if aad.length < 0xFF00 then beBytes 2 aad.length ++ aad
      else [0xFF, 0xFE] ++ putUint32 (UInt32.ofNat aad.length) ++ aad
    let pad := out.length % 16
    if pad ≠ 0 then out ++ List.replicate (16 - pad) 0 else out

/-- Fold the zero-padded 16-byte blocks of `data` into the running state of the CBC-MAC. -/
def ccmProcess (block : Bytes → Bytes) (x data : Bytes) : Bytes :=
  (chunks 16 data).foldl
    (fun x b => block (xorBytes (b ++ List.replicate (16 - b.length) 0) x)) x

/-- The CBC-MAC over the first block, the additional data and the message. -/
def ccmMAC (block : Bytes → Bytes) (nonce aad msg : Bytes) (tagLen : ℕ) : Bytes :=
  let flags : UInt8 := (UInt8.ofNat ((tagLen - 2) / 2) <<< 3) |||
    (if aad.length ≠ 0 then 0x40 else 0) ||| UInt8.ofNat (ccmLenParameter - 1)
  let b0 := flags :: nonce ++ beBytes ccmLenParameter msg.length
  ccmProcess block (ccmProcess block (block b0) (aadEncoding aad)) msg

def ccmSeal (a : EncryptionAlg) (key iv aad plain : Bytes) : Except Err Bytes := do
  let block ← newCipher (key.take a.transformKeyLen)
  let nonce := ccmNonce a key iv
  let stream := ctrStream block (ccmCounterIV nonce) (16 + plain.length)
  -- the first 16 bytes of the key stream mask the tag, the others the plaintext
  let fullTag := xorBytes (ccmMAC block nonce aad plain a.icvLen) (stream.take 16)
  .ok (xorBytes plain (stream.drop 16) ++ fullTag.take a.icvLen)

def ccmOpen (a : EncryptionAlg) (key iv aad ciphertext : Bytes) : Except Err Bytes :=
  if ciphertext.length < a.icvLen then
    .error (.errorf s!"xcrypto: AES-CCM ciphertext too short: {ciphertext.length}")
  else do
    let dataLen := ciphertext.length - a.icvLen
    let block ← newCipher (key.take a.transformKeyLen)
    let nonce := ccmNonce a key iv
    let stream := ctrStream block (ccmCounterIV nonce) (16 + dataLen)
    let out := xorBytes (ciphertext.take dataLen) (stream.drop 16)
    let tag := xorBytes (ciphertext.drop dataLen) (stream.take 16)
    if tag ≠ (ccmMAC block nonce aad out a.icvLen).take a.icvLen then
      .error (.errorf "xcrypto: AES-CCM auth failed")
    else .ok out

/-! ### Sealing and opening -/

namespace EncryptionAlg

/-- Encrypt: ciphertext and tag for an AEAD mode, the bare ciphertext for CBC. -/
def seal' (a : EncryptionAlg) (key iv aad plain : Bytes) : Except Err Bytes := do
  a.checkKeyIV key iv
  if !a.aead then cbcSeal key iv plain
  else if a.isCCM then ccmSeal a key iv aad plain
  else gcmSeal a key iv aad plain

/-- Reverse `seal'`; a wrong tag of an AEAD mode and a truncated CBC ciphertext are errors. -/
def open' (a : EncryptionAlg) (key iv aad ciphertext : Bytes) : Except Err Bytes := do
  a.checkKeyIV key iv
  if !a.aead then cbcOpen key iv ciphertext
  else if a.isCCM then ccmOpen a key iv aad ciphertext
  else gcmOpen a key iv aad ciphertext

end EncryptionAlg

/-! ### Opening undoes sealing -/

theorem length_ctrStream (key iv : Bytes) (n : ℕ) :
    (ctrStream (Crypto.aes key) iv n).length = n := by
  have hflat : (((List.range (chunkCount 16 n)).map fun i =>
      Crypto.aes key (beBytes 16 (beNat iv + i))).flatten).length = chunkCount 16 n * 16 := by
    rw [List.length_flatten, List.map_map]
    simp [Function.comp_def, Crypto.length_aes]
  rw [ctrStream, List.length_take, hflat]
  exact min_eq_left (le_chunkCount_mul (by decide) n)

variable {key iv plain c aad : Bytes} {a : EncryptionAlg}

theorem newCipher_eq_ok {block : Bytes → Bytes} (h : newCipher key = .ok block) :
    block = Crypto.aes key := by
  unfold newCipher at h
  split_ifs at h
  exact (Except.ok.inj h).symm

theorem length_ccmProcess (key x data : Bytes) (hx : x.length = 16) :
    (ccmProcess (Crypto.aes key) x data).length = 16 := by
  unfold ccmProcess
  induction chunks 16 data generalizing x with
  | nil => exact hx
  | cons b bs ih => exact ih _ (Crypto.length_aes _ _)

theorem length_ccmMAC (key nonce aad msg : Bytes) (tagLen : ℕ) :
    (ccmMAC (Crypto.aes key) nonce aad msg tagLen).length = 16 :=
  length_ccmProcess _ _ _ (length_ccmProcess _ _ _ (Crypto.length_aes _ _))

theorem cbcOpen_cbcSeal (h : cbcSeal key iv plain = .ok c) :
    cbcOpen key iv c = .ok plain ∧ c.length = plain.length := by
  unfold cbcSeal at h
  split_ifs at h with hp
  obtain ⟨block, hn, hc⟩ := bind_eq_ok.mp h
  obtain rfl := Except.ok.inj hc
  have hl := Crypto.length_cbcEncrypt key iv plain
  refine ⟨?_, hl⟩
  rw [cbcOpen, hl, if_neg hp, hn, ok_bind, Crypto.cbcDecrypt_cbcEncrypt key iv plain (not_not.mp hp)]

theorem gcmOpen_gcmSeal (h : gcmSeal a key iv aad plain = .ok c) :
    gcmOpen a key iv aad c = .ok plain ∧ c.length = plain.length + a.icvLen := by
  simp only [gcmSeal, EncryptionAlg.splitAEADKey] at h
  obtain ⟨block, hn, hc⟩ := bind_eq_ok.mp h
  obtain rfl := Except.ok.inj hc
  refine ⟨?_, Crypto.length_gcmEncrypt _ _ _ _ _⟩
  simp only [gcmOpen, EncryptionAlg.splitAEADKey, hn, ok_bind, Crypto.gcmDecrypt_gcmEncrypt]

theorem ccmOpen_ccmSeal (h : ccmSeal a key iv aad plain = .ok c) :
    ccmOpen a key iv aad c = .ok plain ∧ c.length = plain.length + a.icvLen := by
  simp only [ccmSeal] at h
  obtain ⟨block, hn, hc⟩ := bind_eq_ok.mp h
  obtain rfl := newCipher_eq_ok hn
  obtain rfl := Except.ok.inj hc
  set aes := Crypto.aes (key.take a.transformKeyLen)
  set nonce := ccmNonce a key iv with hnonce
  set stream := ctrStream aes (ccmCounterIV nonce) (16 + plain.length) with hstream
  set mac := ccmMAC aes nonce aad plain a.icvLen with hmac
  have hs : stream.length = 16 + plain.length := length_ctrStream _ _ _
  have hm : mac.length = 16 := length_ccmMAC _ _ _ _ _
  have hi := a.icvLen_le
  have hdata : (xorBytes plain (stream.drop 16)).length = plain.length := by simp [hs]
  have htag : ((xorBytes mac (stream.take 16)).take a.icvLen).length = a.icvLen := by
    simp [hs, hm, hi]
  have hlen : (xorBytes plain (stream.drop 16) ++
      (xorBytes mac (stream.take 16)).take a.icvLen).length = plain.length + a.icvLen := by
    rw [List.length_append, hdata, htag]
  have hout : xorBytes (xorBytes plain (stream.drop 16)) (stream.drop 16) = plain :=
    xorBytes_xorBytes (by simp [hs])
  -- the mask of the tag is used up to the tag length only
  have hunmask : xorBytes ((xorBytes mac (stream.take 16)).take a.icvLen) (stream.take 16)
      = mac.take a.icvLen := by
    rw [take_xorBytes, ← xorBytes_take_right]
    simp only [length_xorBytes, List.length_take, hm, hs]
    rw [show min (min a.icvLen 16) (min a.icvLen (min 16 (16 + plain.length))) = a.icvLen by omega]
    exact xorBytes_xorBytes (by simp [hs, hm])
  refine ⟨?_, hlen⟩
  simp only [ccmOpen, hlen, Nat.add_sub_cancel, hn, ok_bind, List.take_left' hdata,
    List.drop_left' hdata, ← hnonce, ← hstream, hout, hunmask, ← hmac]
  rw [if_neg (by omega), if_neg (by simp)]

/-- **Opening with the same key, IV and additional data undoes sealing**, and the sealed text is
longer than the plaintext by the tag. -/
theorem open_seal (h : a.seal' key iv aad plain = .ok c) :
    a.open' key iv aad c = .ok plain ∧ c.length = plain.length + a.icvLen := by
  obtain ⟨u, hk, h⟩ := bind_eq_ok.mp h
  simp only [EncryptionAlg.open', hk, ok_bind]
  cases ha : a.aead with
  | false =>
    rw [ha] at h
    simpa [a.icvLen_cbc ha] using cbcOpen_cbcSeal h
  | true =>
    rw [ha] at h
    cases hc : a.isCCM with
    | true => rw [hc] at h; exact ccmOpen_ccmSeal h
    | false => rw [hc] at h; exact gcmOpen_gcmSeal h

end Swan.Xcrypto
