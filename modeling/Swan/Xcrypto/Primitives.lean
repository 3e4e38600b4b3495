import Swan.Lib.ByteString
import Swan.Lib.Effect
import Swan.Lib.Reassembly

/-! # The cryptographic primitives

The block cipher, the modes, the hash functions and the curve that the program takes from its
standard library are an arbitrary instance of `Crypto`. The laws of the class are the assumptions
on them: decryption undoes encryption, outputs have their lengths, and the curve is commutative.
Nothing is assumed about secrecy.

`Rng` is the random source of the operating system, an arbitrary stream of draws of which each may
fail. -/

namespace Swan.Xcrypto

open Swan.Lib

/-- The registered digests. -/
inductive HashKind where
  | sha1
  | sha256
  | sha384
  | sha512
  deriving DecidableEq, Repr

def HashKind.outputLen : HashKind → ℕ
  | .sha1 => 20
  | .sha256 => 32
  | .sha384 => 48
  | .sha512 => 64

/-- The primitives of the standard library and what is assumed of them. -/
class Crypto where
  /-- AES on one block, under a key. -/
  aes : Bytes → Bytes → Bytes
  length_aes : ∀ key block, (aes key block).length = 16
  /-- AES in CBC mode under a key and an IV. -/
  cbcEncrypt : Bytes → Bytes → Bytes → Bytes
  cbcDecrypt : Bytes → Bytes → Bytes → Bytes
  length_cbcEncrypt : ∀ key iv plain, (cbcEncrypt key iv plain).length = plain.length
  cbcDecrypt_cbcEncrypt : ∀ key iv plain, plain.length % 16 = 0 →
    cbcDecrypt key iv (cbcEncrypt key iv plain) = plain
  /-- AES in GCM mode with a tag length, under a key, a nonce and additional data. -/
  gcmEncrypt : ℕ → Bytes → Bytes → Bytes → Bytes → Bytes
  gcmDecrypt : ℕ → Bytes → Bytes → Bytes → Bytes → Option Bytes
  length_gcmEncrypt : ∀ tag key nonce aad plain,
    (gcmEncrypt tag key nonce aad plain).length = plain.length + tag
  gcmDecrypt_gcmEncrypt : ∀ tag key nonce aad plain,
    gcmDecrypt tag key nonce aad (gcmEncrypt tag key nonce aad plain) = some plain
  /-- HMAC under a key. -/
  hmac : HashKind → Bytes → Bytes → Bytes
  length_hmac : ∀ h key data, (hmac h key data).length = h.outputLen
  /-- The public key of an X25519 private key. -/
  x25519Public : Bytes → Bytes
  length_x25519Public : ∀ priv, (x25519Public priv).length = 32
  /-- The X25519 shared secret of a private and a public key, if it is not the zero point. -/
  x25519 : Bytes → Bytes → Option Bytes
  x25519_comm : ∀ a b, x25519 a (x25519Public b) = x25519 b (x25519Public a)

/-! ### Random bytes -/

/-- The random source: the draws still to come, each a failure or a supply of bytes. -/
def Rng : Type := ℕ → Option (ℕ → UInt8)

/-- `n` random bytes. -/
def fill (n : ℕ) : Eff Rng Bytes := fun rng =>
  (match rng 0 with
    | some bytes => .ok ((List.range n).map bytes)
    | none => .error (.errorf "crypto/rand: read failed"),
   fun k => rng (k + 1))

theorem length_of_fill {n : ℕ} {rng rng' : Rng} {b : Bytes}
    (h : (fill n).run rng = (.ok b, rng')) : b.length = n := by
  have h1 := congrArg Prod.fst h
  simp only [fill, Eff.run] at h1
  split at h1
  · rw [← Except.ok.inj h1]; simp
  · cases h1

/-- Every draw still to come succeeds. -/
def Rng.Healthy (rng : Rng) : Prop := ∀ k, (rng k).isSome

def Rng.Drawn : Rng → Rng → Prop := Shifted

instance : Std.Refl Rng.Drawn := inferInstanceAs (Std.Refl Shifted)

instance : IsTrans Rng Rng.Drawn := inferInstanceAs (IsTrans _ Shifted)

theorem Rng.Healthy.drawn {rng rng' : Rng} (h : rng.Healthy) (hd : rng.Drawn rng') :
    rng'.Healthy := by
  obtain ⟨n, rfl⟩ := hd
  exact fun k => h (k + n)

theorem drawn_fill (n : ℕ) : (fill n).Within Rng.Drawn := fun _ => ⟨1, rfl⟩

theorem fill_of_healthy (n : ℕ) {rng : Rng} (h : rng.Healthy) :
    ∃ b rng', (fill n).run rng = (.ok b, rng') ∧ rng'.Healthy := by
  obtain ⟨bytes, hb⟩ := Option.isSome_iff_exists.mp (h 0)
  exact ⟨(List.range n).map bytes, fun k => rng (k + 1), by simp [fill, Eff.run, hb],
    fun k => h (k + 1)⟩

/-! ### Combining byte strings -/

/-- The bytewise exclusive or, as long as the shorter of the two. -/
def xorBytes (a b : Bytes) : Bytes := List.zipWith (· ^^^ ·) a b

@[simp] theorem length_xorBytes (a b : Bytes) :
    (xorBytes a b).length = min a.length b.length := by
  simp [xorBytes]

theorem xorBytes_xorBytes : ∀ {a b : Bytes}, a.length ≤ b.length → xorBytes (xorBytes a b) b = a
  | [], _, _ => rfl
  | x :: a, [], h => by simp at h
  | x :: a, y :: b, h => by
    have ih := xorBytes_xorBytes (a := a) (b := b) (by simpa using h)
    simp only [xorBytes, List.zipWith_cons_cons] at ih ⊢
    rw [ih, UInt8.xor_assoc, UInt8.xor_self, UInt8.xor_zero]

theorem take_xorBytes (n : ℕ) (a b : Bytes) :
    (xorBytes a b).take n = xorBytes (a.take n) (b.take n) := by
  simp [xorBytes, List.take_zipWith]

theorem xorBytes_take_right : ∀ a b : Bytes, xorBytes a (b.take a.length) = xorBytes a b
  | [], _ => rfl
  | _ :: _, [] => rfl
  | x :: a, y :: b => by
    have ih := xorBytes_take_right a b
    simp only [xorBytes] at ih ⊢
    simp [ih]

end Swan.Xcrypto
