import Swan.Xcrypto.Suite

/-! # An instance of the primitives

Primitives that keep the laws of `Crypto` and nothing else: the ciphers do not encrypt, and tags and
digests are checksums. With it the model runs on concrete inputs. -/

namespace Swan.Xcrypto

open Swan.Lib

def checksum (b : Bytes) : UInt8 := b.foldl (fun acc x => acc * 31 + x + 1) 7

/-- The first `n` bytes, filled up with zeros. -/
def padTo (n : ℕ) (b : Bytes) : Bytes := (b ++ List.replicate n 0).take n

theorem length_padTo (n : ℕ) (b : Bytes) : (padTo n b).length = n := by
  simp [padTo]

theorem padTo_padTo (n : ℕ) (b : Bytes) : padTo n (padTo n b) = padTo n b := by
  conv_lhs => rw [padTo, List.take_left' (length_padTo n b)]

theorem xorBytes_comm (a b : Bytes) : xorBytes a b = xorBytes b a :=
  List.zipWith_comm_of_comm fun x y => UInt8.xor_comm x y

abbrev plainCrypto : Crypto where
  aes _ block := padTo 16 block
  length_aes _ block := length_padTo 16 block
  cbcEncrypt _ _ plain := plain
  cbcDecrypt _ _ cipher := cipher
  length_cbcEncrypt _ _ _ := rfl
  cbcDecrypt_cbcEncrypt _ _ _ _ := rfl
  gcmEncrypt tag key nonce aad plain :=
    plain ++ List.replicate tag (checksum (key ++ nonce ++ aad ++ plain))
  gcmDecrypt tag key nonce aad cipher :=
    let plain := cipher.take (cipher.length - tag)
    if cipher = plain ++ List.replicate tag (checksum (key ++ nonce ++ aad ++ plain)) then some plain
    else none
  length_gcmEncrypt _ _ _ _ _ := by simp
  gcmDecrypt_gcmEncrypt _ _ _ _ _ := by simp
  hmac h key data := List.replicate h.outputLen (checksum (UInt8.ofNat h.outputLen :: key ++ data))
  length_hmac _ _ _ := by simp
  x25519Public priv := padTo 32 priv
  length_x25519Public priv := length_padTo 32 priv
  x25519 priv pub := some (xorBytes (padTo 32 priv) (padTo 32 pub))
  x25519_comm a b := by rw [padTo_padTo, padTo_padTo, xorBytes_comm]

/-- AES-128-CBC with HMAC-SHA2-256 and Curve25519. -/
def cbcSelection : Selection where
  encryption := (newEncryption transformEncryptionAESCBC 16).toOption.get rfl
  integrity := (newIntegrity transformIntegrityHMACSHA2256128).toOption.get rfl
  prf := (newPRF transformPRFHMACSHA256).toOption.get rfl
  dh := some ⟨transformDHCurve25519, "curve25519"⟩

/-- Keys of the lengths of `cbcSelection`, different in the two directions. -/
def cbcKeys : IKEKeys where
  skd := List.replicate 32 1
  skai := List.replicate 32 2
  skar := List.replicate 32 3
  skei := List.replicate 16 4
  sker := List.replicate 16 5
  skpi := List.replicate 32 6
  skpr := List.replicate 32 7

/-- Keys of a child with the algorithms of `cbcSelection`. -/
def cbcChildKeys : ChildKeys where
  skei := List.replicate 16 8
  skai := List.replicate 32 9
  sker := List.replicate 16 10
  skar := List.replicate 32 11

/-- A source whose draws all succeed with zeros. -/
def zeroRng : Rng := fun _ => some fun _ => 0

/-- A source whose draws all succeed, each with a byte of its own. -/
def countingRng : Rng := fun k => some fun _ => UInt8.ofNat (k + 1)

end Swan.Xcrypto
