import Swan.Lib.Expansion
import Swan.Xcrypto.Instance

/-! # The key expansion

The rounds of `PRF.plus` compute the expansion of a key (`plus_eq_expansion`), and the keys of an IKE SA
and of a child SA are consecutive pieces of it with the lengths of the selected algorithms
(`key_expansion_conforms`). -/

namespace Swan.Xcrypto

open Swan.Lib

section Conformance

variable [Crypto]

namespace PRF

theorem length_sum (p : PRF) (key m : Bytes) : (p.sum key m).length = p.outputLen := by
  rw [sum, Crypto.length_hmac, p.outputLen_eq]

theorem plusLoop_eq_expansion (p : PRF) (key seed : Bytes) {outLen : ℕ}
    (h : outLen ≤ 255 * p.outputLen) : ∀ fuel n : ℕ, n + fuel = 255 →
      p.plusLoop key seed outLen fuel (expansionBlock (p.sum key) seed n)
        (expansion (p.sum key) seed n) = .ok ((expansion (p.sum key) seed 255).take outLen)
  | 0, n, hn => by
    obtain rfl : n = 255 := by omega
    rw [plusLoop, length_expansion (p.length_sum key), if_pos h]
  | fuel + 1, n, hn => by
    have hle : n ≤ 255 := by omega
    rw [plusLoop, length_expansion (p.length_sum key)]
    by_cases henough : outLen ≤ n * p.outputLen
    · rw [if_pos henough, take_expansion (p.length_sum key) seed hle henough]
    · have hnumber : 255 - fuel = n + 1 := by omega
      rw [if_neg henough, hnumber]
      exact plusLoop_eq_expansion p key seed h fuel (n + 1) (by omega)

theorem plus_eq_expansion (p : PRF) (key seed : Bytes) {outLen : ℕ}
    (h : outLen ≤ 255 * p.outputLen) :
    p.plus key seed outLen = .ok ((expansion (p.sum key) seed 255).take outLen) :=
  p.plusLoop_eq_expansion key seed h 255 0 rfl

omit [Crypto] in
theorem le_outputLen (p : PRF) : 20 ≤ p.outputLen := by
  rw [p.outputLen_eq]
  cases p.newHMAC <;> decide

end PRF

/-- The keys of an IKE SA, in the order in which they are cut. -/
def IKEKeys.pieces (k : IKEKeys) : List Bytes := [k.skd, k.skai, k.skar, k.skei, k.sker, k.skpi, k.skpr]

/-- The keys of a child SA, in the order in which they are cut. -/
def ChildKeys.pieces (k : ChildKeys) : List Bytes := [k.skei, k.skai, k.sker, k.skar]

/-- Pieces are a beginning of the expansion of a key, cut into the given lengths. -/
def CutFrom (p : PRF) (key seed : Bytes) (lengths : List ℕ) (pieces : List Bytes) : Prop :=
  pieces.map List.length = lengths ∧
    pieces.flatten = (expansion (p.sum key) seed 255).take lengths.sum

section

variable {prf : PRF} {enc : EncryptionAlg} {integ : Integrity} (henc : enc.keyLen ≤ 36)

include henc

theorem cutFrom_of_deriveIKEKeys {seed ni nr : Bytes} {spiI spiR : UInt64} {keys : IKEKeys}
    (h : deriveIKEKeys prf seed ni nr spiI spiR enc integ = .ok keys) :
    CutFrom prf seed (ni ++ nr ++ putUint64 spiI ++ putUint64 spiR)
      [prf.outputLen, integ.keyLen, integ.keyLen, enc.keyLen, enc.keyLen, prf.outputLen, prf.outputLen]
      keys.pieces := by
  have hp := prf.outputLen_le
  have hp₀ := prf.le_outputLen
  have ha := integ.keyLen_le
  obtain ⟨keymat, hk, h⟩ := bind_eq_ok.mp h
  have hlen := PRF.length_of_plus hk
  rw [PRF.plus_eq_expansion _ _ _ (by omega)] at hk
  cases Except.ok.inj h
  refine ⟨?_, ?_⟩
  · simp only [IKEKeys.pieces, List.map_cons, List.map_nil, length_slice, hlen, List.cons.injEq, and_true]
    omega
  · have hsum : [prf.outputLen, integ.keyLen, integ.keyLen, enc.keyLen, enc.keyLen, prf.outputLen,
        prf.outputLen].sum = keymat.length := by
      simp only [List.sum_cons, List.sum_nil, hlen]
      omega
    simp only [IKEKeys.pieces, List.flatten_cons, List.flatten_nil, List.append_nil]
    rw [slice_append_slice _ (by omega) (by omega), slice_append_slice _ (by omega) (by omega),
      slice_append_slice _ (by omega) (by omega), slice_append_slice _ (by omega) (by omega),
      slice_append_slice _ (by omega) (by omega), slice_append_slice _ (by omega) (by omega), hsum, hlen,
      Except.ok.inj hk, ← hlen, slice_self]

theorem cutFrom_of_deriveChildKeys {skd ni nr shared : Bytes} {keys : ChildKeys}
    (h : deriveChildKeys prf skd ni nr shared enc integ = .ok keys) :
    CutFrom prf skd (shared ++ ni ++ nr) [enc.keyLen, integ.keyLen, enc.keyLen, integ.keyLen]
      keys.pieces := by
  have hp₀ := prf.le_outputLen
  have ha := integ.keyLen_le
  obtain ⟨keymat, hk, h⟩ := bind_eq_ok.mp h
  have hlen := PRF.length_of_plus hk
  rw [PRF.plus_eq_expansion _ _ _ (by omega)] at hk
  cases Except.ok.inj h
  refine ⟨?_, ?_⟩
  · simp only [ChildKeys.pieces, List.map_cons, List.map_nil, length_slice, hlen, List.cons.injEq,
      and_true]
    omega
  · have hsum : [enc.keyLen, integ.keyLen, enc.keyLen, integ.keyLen].sum = keymat.length := by
      simp only [List.sum_cons, List.sum_nil, hlen]
      omega
    simp only [ChildKeys.pieces, List.flatten_cons, List.flatten_nil, List.append_nil]
    rw [slice_append_slice _ (by omega) (by omega), slice_append_slice _ (by omega) (by omega),
      slice_append_slice _ (by omega) (by omega), hsum, hlen, Except.ok.inj hk,
      show 2 * enc.keyLen + 2 * integ.keyLen = keymat.length by omega, slice_self]

end

/-- **The key expansion and the keys cut from it.** -/
theorem key_expansion_conforms (prf : PRF) (integ : Integrity) {transformID keyLen : UInt16}
    {enc : EncryptionAlg} (henc : newEncryption transformID keyLen = .ok enc) :
    (∀ (key seed : Bytes) (outLen : ℕ), outLen ≤ 255 * prf.outputLen →
      prf.plus key seed outLen = .ok ((expansion (prf.sum key) seed 255).take outLen)) ∧
    (∀ (key seed : Bytes) (m n : ℕ), m ≤ n → n ≤ 255 * prf.outputLen →
      ∃ short long, prf.plus key seed m = .ok short ∧ prf.plus key seed n = .ok long ∧
        short <+: long) ∧
    (∀ (seed ni nr : Bytes) (spiI spiR : UInt64), ∃ keys,
      deriveIKEKeys prf seed ni nr spiI spiR enc integ = .ok keys ∧
      CutFrom prf seed (ni ++ nr ++ putUint64 spiI ++ putUint64 spiR)
        [prf.outputLen, integ.keyLen, integ.keyLen, enc.keyLen, enc.keyLen, prf.outputLen,
          prf.outputLen] keys.pieces) ∧
    ∀ skd ni nr shared : Bytes, ∃ keys, deriveChildKeys prf skd ni nr shared enc integ = .ok keys ∧
      CutFrom prf skd (shared ++ ni ++ nr) [enc.keyLen, integ.keyLen, enc.keyLen, integ.keyLen]
        keys.pieces := by
  have hkey := keyLen_of_newEncryption henc
  refine ⟨fun key seed outLen h => prf.plus_eq_expansion key seed h, ?_, ?_, ?_⟩
  · intro key seed m n hmn hn
    refine ⟨_, _, prf.plus_eq_expansion key seed (hmn.trans hn), prf.plus_eq_expansion key seed hn, ?_⟩
    exact List.take_prefix_take_left hmn
  · intro seed ni nr spiI spiR
    obtain ⟨keys, h⟩ := exists_deriveIKEKeys prf seed ni nr spiI spiR integ hkey
    exact ⟨keys, h, cutFrom_of_deriveIKEKeys hkey h⟩
  · intro skd ni nr shared
    obtain ⟨keys, h⟩ := exists_deriveChildKeys prf skd ni nr shared integ hkey
    exact ⟨keys, h, cutFrom_of_deriveChildKeys hkey h⟩

end Conformance

section Sample

attribute [local instance] plainCrypto

/-- A child SA with AES-128 in CBC mode and HMAC-SHA-256. -/
theorem sample_key_expansion_conforms :
    ∃ enc, newEncryption transformEncryptionAESCBC 16 = .ok enc ∧
      ∃ keys, deriveChildKeys ⟨transformPRFHMACSHA256, 32, .sha256, rfl⟩ [1, 2] [3] [4] [] enc
          ⟨transformIntegrityHMACSHA2256128, 16, 32, some .sha256, rfl, by decide⟩ = .ok keys ∧
        keys.pieces.map List.length = [16, 32, 16, 32] := by
  refine ⟨_, rfl, ?_⟩
  obtain ⟨-, -, -, hchild⟩ := key_expansion_conforms ⟨transformPRFHMACSHA256, 32, .sha256, rfl⟩
    ⟨transformIntegrityHMACSHA2256128, 16, 32, some .sha256, rfl, by decide⟩
    (show newEncryption transformEncryptionAESCBC 16 = .ok _ from rfl)
  obtain ⟨keys, hkeys, hcut⟩ := hchild [1, 2] [3] [4] []
  exact ⟨keys, hkeys, hcut.1⟩

end Sample

end Swan.Xcrypto
