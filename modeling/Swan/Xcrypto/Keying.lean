import Swan.Xcrypto.Cipher

/-! # Integrity algorithms, pseudorandom functions and key derivation

The HMAC transforms, the key expansion `PRF.plus` and the keys of an IKE SA and of a child SA cut
from it, and the X25519 key exchange. `verify_sign`: a signature verifies. `exists_deriveIKEKeys`: the
key expansion is long enough for the keys of any suite. -/

namespace Swan.Xcrypto

open Swan.Lib

/-! ### Integrity -/

def transformIntegrityNone : UInt16 := 0
def transformIntegrityHMACSHA196 : UInt16 := 2
def transformIntegrityHMACSHA2256128 : UInt16 := 12
def transformIntegrityHMACSHA2384192 : UInt16 := 13
def transformIntegrityHMACSHA2512256 : UInt16 := 14

/-- One integrity transform. The one without a hash goes with the AEAD ciphers. -/
structure Integrity where
  transformID : UInt16
  /-- The length of the ICV on the wire. -/
  outputLen : ℕ
  keyLen : ℕ
  newHMAC : Option HashKind
  keyLen_eq : keyLen = (newHMAC.map HashKind.outputLen).getD 0
  outputLen_le : outputLen ≤ keyLen
  deriving DecidableEq, Repr

def newIntegrity (id : UInt16) : Except Err Integrity :=
  if id = transformIntegrityNone then .ok ⟨id, 0, 0, none, rfl, le_rfl⟩
  else if id = transformIntegrityHMACSHA196 then .ok ⟨id, 12, 20, some .sha1, rfl, by decide⟩
  else if id = transformIntegrityHMACSHA2256128 then
    .ok ⟨id, 16, 32, some .sha256, rfl, by decide⟩
  else if id = transformIntegrityHMACSHA2384192 then
    .ok ⟨id, 24, 48, some .sha384, rfl, by decide⟩
  else if id = transformIntegrityHMACSHA2512256 then
    .ok ⟨id, 32, 64, some .sha512, rfl, by decide⟩
  else .error (.errorf s!"xcrypto: unsupported integrity transform {id}")

theorem transformID_of_newIntegrity {id : UInt16} {i : Integrity} (h : newIntegrity id = .ok i) :
    i.transformID = id := by
  unfold newIntegrity at h
  split_ifs at h <;> obtain rfl := Except.ok.inj h <;> rfl

variable [Crypto]

namespace Integrity

/-- The truncated ICV of a message. -/
def sign (i : Integrity) (key msg : Bytes) : Except Err Bytes :=
  match i.newHMAC with
  | none => .error (.errorf "xcrypto: no integrity transform (AEAD carries its own tag)")
  | some h =>
    if key.length ≠ i.keyLen then
      .error (.errorf s!"xcrypto: integrity key length {key.length}, want {i.keyLen}")
    else .ok ((Crypto.hmac h key msg).take i.outputLen)

def verify (i : Integrity) (key msg icv : Bytes) : Bool :=
  match i.sign key msg with
  | .error _ => false
  | .ok got => decide (got = icv)

end Integrity

theorem verify_sign {i : Integrity} {key msg icv : Bytes} (h : i.sign key msg = .ok icv) :
    i.verify key msg icv = true ∧ icv.length = i.outputLen := by
  refine ⟨by simp [Integrity.verify, h], ?_⟩
  unfold Integrity.sign at h
  split at h
  · cases h
  · rename_i hash hh
    split_ifs at h
    have hkey : i.keyLen = hash.outputLen := by rw [i.keyLen_eq, hh]; rfl
    have hout := i.outputLen_le
    rw [← Except.ok.inj h, List.length_take, Crypto.length_hmac]
    omega

/-! ### Pseudorandom functions -/

def transformPRFHMACSHA1 : UInt16 := 2
def transformPRFHMACSHA256 : UInt16 := 5
def transformPRFHMACSHA512 : UInt16 := 7

/-- One HMAC-based pseudorandom function. -/
structure PRF where
  transformID : UInt16
  outputLen : ℕ
  newHMAC : HashKind
  outputLen_eq : outputLen = newHMAC.outputLen
  deriving DecidableEq, Repr

def newPRF (id : UInt16) : Except Err PRF :=
  if id = transformPRFHMACSHA1 then .ok ⟨id, 20, .sha1, rfl⟩
  else if id = transformPRFHMACSHA256 then .ok ⟨id, 32, .sha256, rfl⟩
  else if id = transformPRFHMACSHA512 then .ok ⟨id, 64, .sha512, rfl⟩
  else .error (.errorf s!"xcrypto: unsupported PRF transform {id}")

omit [Crypto] in
theorem transformID_of_newPRF {id : UInt16} {p : PRF} (h : newPRF id = .ok p) :
    p.transformID = id := by
  unfold newPRF at h
  split_ifs at h <;> obtain rfl := Except.ok.inj h <;> rfl

namespace PRF

def sum (p : PRF) (key data : Bytes) : Bytes := Crypto.hmac p.newHMAC key data

/-- The rounds of the key expansion: `fuel` blocks may still be added. The block with number `n`
is the function at the block before it, the seed and the byte `n`. -/
def plusLoop (p : PRF) (key seed : Bytes) (outLen : ℕ) : ℕ → Bytes → Bytes → Except Err Bytes
  | 0, _, out =>
    if outLen ≤ out.length then .ok (out.take outLen)
    else .error (.errorf "xcrypto: PRF+ output exceeds 255 blocks")
  | fuel + 1, previous, out =>
    if outLen ≤ out.length then .ok (out.take outLen)
    else
      let block := Crypto.hmac p.newHMAC key (previous ++ seed ++ [UInt8.ofNat (255 - fuel)])
      plusLoop p key seed outLen fuel block (out ++ block)

/-- The first `outLen` bytes of the key expansion. -/
def plus (p : PRF) (key seed : Bytes) (outLen : ℕ) : Except Err Bytes :=
  plusLoop p key seed outLen 255 [] []

theorem length_of_plusLoop {p : PRF} {key seed : Bytes} {outLen : ℕ} :
    ∀ {fuel : ℕ} {previous out k : Bytes},
      p.plusLoop key seed outLen fuel previous out = .ok k → k.length = outLen
  | 0, _, out, k, h => by
    unfold plusLoop at h
    split_ifs at h with hl
    rw [← Except.ok.inj h, List.length_take, min_eq_left hl]
  | fuel + 1, _, out, k, h => by
    unfold plusLoop at h
    split_ifs at h with hl
    · rw [← Except.ok.inj h, List.length_take, min_eq_left hl]
    · exact length_of_plusLoop h

theorem length_of_plus {p : PRF} {key seed k : Bytes} {outLen : ℕ}
    (h : p.plus key seed outLen = .ok k) : k.length = outLen := length_of_plusLoop h

theorem exists_plusLoop (p : PRF) (key seed : Bytes) {outLen : ℕ} : ∀ {fuel : ℕ}
    (previous out : Bytes), outLen ≤ out.length + fuel * p.newHMAC.outputLen →
      ∃ k, p.plusLoop key seed outLen fuel previous out = .ok k
  | 0, _, out, h => ⟨_, if_pos (by simpa using h)⟩
  | fuel + 1, previous, out, h => by
    unfold plusLoop
    split_ifs with hl
    · exact ⟨_, rfl⟩
    · refine exists_plusLoop p key seed _ _ ?_
      rw [List.length_append, Crypto.length_hmac]
      have hmul : (fuel + 1) * p.newHMAC.outputLen =
          fuel * p.newHMAC.outputLen + p.newHMAC.outputLen := by ring
      omega

theorem exists_plus (p : PRF) (key seed : Bytes) (outLen : ℕ) (h : outLen ≤ 5100) :
    ∃ k, p.plus key seed outLen = .ok k := by
  refine exists_plusLoop p key seed [] [] ?_
  have hlen : 20 ≤ p.newHMAC.outputLen := by cases p.newHMAC <;> decide
  simp only [List.length_nil]
  omega

end PRF

/-! ### Keys -/

structure IKEKeys where
  skd : Bytes
  skai : Bytes
  skar : Bytes
  skei : Bytes
  sker : Bytes
  skpi : Bytes
  skpr : Bytes
  deriving DecidableEq, Repr

structure ChildKeys where
  skei : Bytes
  skai : Bytes
  sker : Bytes
  skar : Bytes
  deriving DecidableEq, Repr

/-- The seed of the keys of a first IKE SA. -/
def skeyseed (prf : PRF) (ni nr sharedSecret : Bytes) : Bytes := prf.sum (ni ++ nr) sharedSecret

/-- The seed of the keys of an IKE SA that replaces one with the key `skdOld` and the function
`prf`. -/
def rekeySKEYSEED (prf : PRF) (skdOld sharedSecret ni nr : Bytes) : Bytes :=
  prf.sum skdOld (sharedSecret ++ ni ++ nr)

/-- The seven keys of an IKE SA, cut from the key expansion of `seed`. -/
def deriveIKEKeys (prf : PRF) (seed ni nr : Bytes) (spiI spiR : UInt64) (enc : EncryptionAlg)
    (integ : Integrity) : Except Err IKEKeys := do
  let p := prf.outputLen
  let a := integ.keyLen
  let e := enc.keyLen
  let keymat ← prf.plus seed (ni ++ nr ++ putUint64 spiI ++ putUint64 spiR) (p + 2 * a + 2 * e + 2 * p)
  .ok { skd := slice keymat 0 p
        skai := slice keymat p (p + a)
        skar := slice keymat (p + a) (p + 2 * a)
        skei := slice keymat (p + 2 * a) (p + 2 * a + e)
        sker := slice keymat (p + 2 * a + e) (p + 2 * a + 2 * e)
        skpi := slice keymat (p + 2 * a + 2 * e) (p + 2 * a + 2 * e + p)
        skpr := slice keymat (p + 2 * a + 2 * e + p) (p + 2 * a + 2 * e + 2 * p) }

/-- The four keys of a child SA; the shared secret is empty without a key exchange of its own. -/
def deriveChildKeys (prf : PRF) (skd ni nr sharedSecret : Bytes) (enc : EncryptionAlg)
    (integ : Integrity) : Except Err ChildKeys := do
  let a := integ.keyLen
  let e := enc.keyLen
  let keymat ← prf.plus skd (sharedSecret ++ ni ++ nr) (2 * (e + a))
  .ok { skei := slice keymat 0 e
        skai := slice keymat e (e + a)
        sker := slice keymat (e + a) (2 * e + a)
        skar := slice keymat (2 * e + a) (2 * e + 2 * a) }

omit [Crypto] in
theorem Integrity.keyLen_le (i : Integrity) : i.keyLen ≤ 64 := by
  rw [i.keyLen_eq]
  rcases i.newHMAC with _ | _ | _ | _ | _ <;> decide

omit [Crypto] in
theorem PRF.outputLen_le (p : PRF) : p.outputLen ≤ 64 := by
  rw [p.outputLen_eq]
  cases p.newHMAC <;> decide

theorem exists_deriveIKEKeys (prf : PRF) (seed ni nr : Bytes) (spiI spiR : UInt64)
    {enc : EncryptionAlg} (integ : Integrity) (h : enc.keyLen ≤ 36) :
    ∃ keys, deriveIKEKeys prf seed ni nr spiI spiR enc integ = .ok keys := by
  have hp := prf.outputLen_le
  have ha := integ.keyLen_le
  obtain ⟨keymat, hk⟩ := prf.exists_plus seed (ni ++ nr ++ putUint64 spiI ++ putUint64 spiR)
    (prf.outputLen + 2 * integ.keyLen + 2 * enc.keyLen + 2 * prf.outputLen) (by omega)
  exact ⟨_, by rw [deriveIKEKeys, hk]; rfl⟩

theorem exists_deriveChildKeys (prf : PRF) (skd ni nr shared : Bytes) {enc : EncryptionAlg}
    (integ : Integrity) (h : enc.keyLen ≤ 36) :
    ∃ keys, deriveChildKeys prf skd ni nr shared enc integ = .ok keys := by
  have ha := integ.keyLen_le
  obtain ⟨keymat, hk⟩ := prf.exists_plus skd (shared ++ ni ++ nr)
    (2 * (enc.keyLen + integ.keyLen)) (by omega)
  exact ⟨_, by rw [deriveChildKeys, hk]; rfl⟩

/-- The random 64-bit SPI of an IKE SA, not zero. -/
def generateSPI : Eff Rng UInt64 := do
  match ← (fill 8).attempt with
  | .error e => Eff.fail (.wrapf "xcrypto: generate SPI: " e)
  | .ok b => pure (if beUint64 b = 0 then 1 else beUint64 b)

/-- `n` random bytes for a nonce. -/
def generateNonce (n : ℕ) : Eff Rng Bytes :=
  if n = 0 then Eff.fail (.errorf s!"xcrypto: invalid nonce length {n}") else do
  match ← (fill n).attempt with
  | .error e => Eff.fail (.wrapf "xcrypto: generate nonce: " e)
  | .ok b => pure b

omit [Crypto] in
theorem drawn_generateSPI : generateSPI.Within Rng.Drawn := by
  refine (drawn_fill 8).attempt.bind fun r => ?_
  cases r with
  | ok b => exact Eff.within_pure _
  | error e => exact Eff.within_fail _

omit [Crypto] in
theorem drawn_generateNonce (n : ℕ) : (generateNonce n).Within Rng.Drawn := by
  refine .ite (Eff.within_fail _) ((drawn_fill n).attempt.bind fun r => ?_)
  cases r with
  | ok b => exact Eff.within_pure _
  | error e => exact Eff.within_fail _

omit [Crypto] in
theorem succeeds_generateSPI {rng : Rng} (h : rng.Healthy) :
    generateSPI.Succeeds Rng.Drawn (fun _ => True) rng := by
  obtain ⟨b, rng', hrun, -⟩ := fill_of_healthy 8 h
  have hd := drawn_generateSPI rng
  rw [generateSPI, Eff.run_bind_of_ok (Eff.run_attempt_of_ok hrun)] at hd
  rw [Eff.Succeeds, generateSPI]
  exact Eff.wp_of_run_eq (Eff.run_bind_of_ok (Eff.run_attempt_of_ok hrun)) ⟨_, rfl, trivial, hd⟩

omit [Crypto] in
theorem succeeds_generateNonce {n : ℕ} (hn : n ≠ 0) {rng : Rng} (h : rng.Healthy) :
    (generateNonce n).Succeeds Rng.Drawn (fun b => b.length = n) rng := by
  obtain ⟨b, rng', hrun, -⟩ := fill_of_healthy n h
  have hd := drawn_generateNonce n rng
  rw [generateNonce, if_neg hn, Eff.run_bind_of_ok (Eff.run_attempt_of_ok hrun)] at hd
  rw [Eff.Succeeds, generateNonce, if_neg hn]
  exact Eff.wp_of_run_eq (Eff.run_bind_of_ok (Eff.run_attempt_of_ok hrun))
    ⟨b, rfl, length_of_fill hrun, hd⟩

/-! ### The key exchange -/

def transformDHCurve25519 : UInt16 := 31

/-- A Diffie-Hellman group. -/
structure DH where
  transformID : UInt16
  name : String
  deriving DecidableEq, Repr

/-- One ephemeral key pair; the private key is gone once it has been used. -/
structure DHKey where
  dh : DH
  key : Option Bytes
  deriving DecidableEq, Repr

def newDH (group : UInt16) : Except Err DH :=
  if group = transformDHCurve25519 then .ok { transformID := group, name := "curve25519" }
  else .error (.errorf s!"xcrypto: unsupported DH group {group}")

def generateDH (group : UInt16) : Eff Rng DHKey := do
  let dh ← Eff.lift (newDH group)
  match ← (fill 32).attempt with
  | .error e => Eff.fail (.wrapf "xcrypto: generate X25519 keypair: " e)
  | .ok key => pure { dh, key := some key }

omit [Crypto] in
theorem drawn_generateDH (group : UInt16) : (generateDH group).Within Rng.Drawn := by
  refine (Eff.within_lift _).bind fun dh => (drawn_fill 32).attempt.bind fun r => ?_
  cases r with
  | ok b => exact Eff.within_pure _
  | error e => exact Eff.within_fail _

omit [Crypto] in
theorem succeeds_generateDH {rng : Rng} (h : rng.Healthy) :
    (generateDH transformDHCurve25519).Succeeds Rng.Drawn (fun dh => dh.key.isSome) rng := by
  obtain ⟨b, rng', hrun, -⟩ := fill_of_healthy 32 h
  have hd := drawn_generateDH transformDHCurve25519 rng
  have hnew : (Eff.lift (newDH transformDHCurve25519) : Eff Rng DH).run rng =
    (.ok ⟨transformDHCurve25519, "curve25519"⟩, rng) := rfl
  rw [generateDH, Eff.run_bind_of_ok hnew, Eff.run_bind_of_ok (Eff.run_attempt_of_ok hrun)] at hd
  rw [Eff.Succeeds, generateDH]
  refine Eff.wp_of_run_eq ((Eff.run_bind_of_ok hnew).trans
    (Eff.run_bind_of_ok (Eff.run_attempt_of_ok hrun))) ⟨_, rfl, rfl, hd⟩

def DHKey.publicBytes (k : DHKey) : Except Err Bytes :=
  match k.key with
  | none => .error (.errorf "xcrypto: DH private key already consumed")
  | some key => .ok (Crypto.x25519Public key)

/-- The shared secret with a peer's public key; success takes the private key out of play. -/
def DHKey.ecdh (k : DHKey) (peer : Bytes) : Except Err Bytes × DHKey :=
  match k.key with
  | none => (.error (.errorf "xcrypto: DH private key already consumed"), k)
  | some key =>
    if peer.length ≠ 32 then
      (.error (.errorf s!"xcrypto: invalid X25519 peer public key length {peer.length}"), k)
    else
      match Crypto.x25519 key peer with
      | none => (.error (.wrapf "xcrypto: derive X25519 shared secret: "
          (.errorf "crypto/ecdh: bad X25519 remote ECDH input: low order point")), k)
      | some secret => (.ok secret, { k with key := none })

end Swan.Xcrypto
