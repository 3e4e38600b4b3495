import Swan.Lib.Rfc3610
import Swan.Xcrypto.Instance

/-! # Counter mode with CBC-MAC

The source writes the mode out over the block cipher: it pads the additional data as a whole and the
message block by block, and takes the masks of the tag and of the message from one key stream.
`ccm_conforms` compares that with the standard. -/

namespace Swan.Xcrypto

open Swan.Lib Rfc3610

/-! ### Authentication -/

theorem ccmProcess_eq_cbcMAC (E : Bytes → Bytes) (x data : Bytes) :
    ccmProcess E x data = cbcMAC E x (blocks data) := by
  rw [ccmProcess, cbcMAC, blocks_eq_map_chunks, List.foldl_map]
  exact List.foldl_ext _ _ _ fun x b _ => congrArg E (xorBytes_comm _ _)

theorem aadEncoding_eq {aad : Bytes} (hne : aad ≠ []) (h : aad.length < 2 ^ 32) :
    aadEncoding aad = zeroPad (encodeLength aad.length ++ aad) := by
  have hfield : putUint32 (UInt32.ofNat aad.length) = beBytes 4 aad.length := by
    rw [putUint32, UInt32.toNat_ofNat_of_lt' h]
  have hout : (if aad.length < 0xFF00 then beBytes 2 aad.length ++ aad
      else [0xFF, 0xFE] ++ putUint32 (UInt32.ofNat aad.length) ++ aad) =
      encodeLength aad.length ++ aad := by
    rw [encodeLength, hfield, if_pos h]
    split_ifs <;> first | rfl | omega
  have hlen : aad.length ≠ 0 := fun h₀ => hne (List.length_eq_zero_iff.mp h₀)
  simp only [aadEncoding, if_neg hlen, hout]
  by_cases hwhole : (encodeLength aad.length ++ aad).length % 16 = 0
  · rw [if_neg (not_not.mpr hwhole), zeroPad_of_whole hwhole]
  · rw [if_pos hwhole, zeroPad, Nat.mod_eq_of_lt (a := 16 - _) (by omega)]

theorem ccmProcess_aadEncoding (E : Bytes → Bytes) (x : Bytes) {aad : Bytes} (h : aad.length < 2 ^ 32) :
    ccmProcess E x (aadEncoding aad) = cbcMAC E x (aadBlocks aad) := by
  by_cases hne : aad = []
  · rw [hne]
    rfl
  · rw [ccmProcess_eq_cbcMAC, aadEncoding_eq hne h, blocks_zeroPad, aadBlocks, if_neg hne]

def IsTagLen (M : ℕ) : Prop := M = 8 ∨ M = 12 ∨ M = 16

theorem ccmMAC_flags {M : ℕ} (hM : IsTagLen M) (aad : Bytes) :
    (UInt8.ofNat ((M - 2) / 2) <<< 3) ||| (if aad.length ≠ 0 then 0x40 else 0) |||
      UInt8.ofNat (ccmLenParameter - 1) = flags M 4 aad := by
  by_cases hne : aad = []
  · rw [if_neg (by simp [hne]), flags, if_pos hne]
    rcases hM with rfl | rfl | rfl <;> decide
  · rw [if_pos (by simp [hne]), flags, if_neg hne]
    rcases hM with rfl | rfl | rfl <;> decide

theorem take_ccmMAC (E : Bytes → Bytes) (nonce : Bytes) {aad : Bytes} (msg : Bytes) {M : ℕ}
    (hM : IsTagLen M) (h : aad.length < 2 ^ 32) :
    (ccmMAC E nonce aad msg M).take M = T E M 4 nonce aad msg := by
  rw [T, cbcMAC, List.foldl_append, ← cbcMAC, ← cbcMAC, ← ccmProcess_aadEncoding _ _ h,
    ← ccmProcess_eq_cbcMAC, B₀, ← ccmMAC_flags hM]
  rfl

/-! ### Encryption -/

theorem chunkCount_add_block (n : ℕ) : chunkCount 16 (16 + n) = chunkCount 16 n + 1 := by
  unfold chunkCount
  omega

theorem beBytes_ccmCounterIV {nonce : Bytes} (h : nonce.length = 11) {i : ℕ} (hi : i < 2 ^ 32) :
    beBytes 16 (beNat (ccmCounterIV nonce) + i) = A 4 nonce i := by
  have hcount := beBytes_counter (UInt8.ofNat (ccmLenParameter - 1) :: nonce) (show i < 256 ^ 4 from hi)
  rw [List.length_cons, h] at hcount
  rw [ccmCounterIV, h]
  exact hcount

theorem ctrStream_eq {E : Bytes → Bytes} {nonce : Bytes} (h : nonce.length = 11) {n : ℕ}
    (hn : n < 2 ^ 32) :
    ctrStream E (ccmCounterIV nonce) (16 + n) =
      (S E 4 nonce 0 ++ keyStream E 4 nonce (chunkCount 16 n)).take (16 + n) := by
  have hcount : chunkCount 16 n < 2 ^ 32 := by
    unfold chunkCount
    omega
  have hblocks : (List.range (chunkCount 16 n + 1)).map
      (fun i => E (beBytes 16 (beNat (ccmCounterIV nonce) + i))) =
      (List.range (chunkCount 16 n + 1)).map (S E 4 nonce) := by
    refine List.map_congr_left fun i hi => ?_
    rw [S, beBytes_ccmCounterIV h (by have := List.mem_range.mp hi; omega)]
  rw [ctrStream, chunkCount_add_block, hblocks, List.range_succ_eq_map, List.map_cons, List.flatten_cons,
    keyStream, List.map_map]
  rfl

section Conformance

variable [Crypto]

section

variable {key : Bytes} {nonce : Bytes} {n : ℕ}

theorem length_S (i : ℕ) : (S (Crypto.aes key) 4 nonce i).length = 16 := Crypto.length_aes _ _

theorem take_ctrStream (h : nonce.length = 11) (hn : n < 2 ^ 32) :
    (ctrStream (Crypto.aes key) (ccmCounterIV nonce) (16 + n)).take 16 = S (Crypto.aes key) 4 nonce 0 := by
  rw [ctrStream_eq h hn, List.take_take, min_eq_left (by omega), List.take_left' (length_S 0)]

theorem drop_ctrStream (h : nonce.length = 11) (hn : n < 2 ^ 32) :
    (ctrStream (Crypto.aes key) (ccmCounterIV nonce) (16 + n)).drop 16 =
      (keyStream (Crypto.aes key) 4 nonce (chunkCount 16 n)).take n := by
  rw [ctrStream_eq h hn, List.drop_take, List.drop_left' (length_S 0), Nat.add_sub_cancel_left]

end

/-! ### The variants -/

omit [Crypto] in
theorem of_isCCM {transformID keyLen : UInt16} {a : EncryptionAlg}
    (h : newEncryption transformID keyLen = .ok a) (hccm : a.isCCM) :
    a.saltLen = 3 ∧ a.ivLen = 8 ∧ IsTagLen a.icvLen := by
  have hrange : 14 ≤ transformID.toNat ∧ transformID.toNat ≤ 16 := by
    rw [EncryptionAlg.isCCM, decide_eq_true_eq, (ids_of_newEncryption h).1] at hccm
    exact hccm
  have hany : transformID = transformEncryptionAESCCM8 ∨ transformID = transformEncryptionAESCCM12 ∨
      transformID = transformEncryptionAESCCM16 := by
    simp only [← UInt16.toNat_inj]
    change _ = 14 ∨ _ = 15 ∨ _ = 16
    omega
  have hcbc : transformID ≠ transformEncryptionAESCBC := by
    rintro rfl
    exact absurd hrange.1 (by decide)
  by_cases hk : keyLen ≠ 16 ∧ keyLen ≠ 32
  · rw [newEncryption, dif_pos hk] at h
    cases h
  · rw [newEncryption, dif_neg hk] at h
    simp only [if_neg hcbc, if_pos hany] at h
    obtain rfl := Except.ok.inj h
    refine ⟨rfl, rfl, ?_⟩
    rcases hany with rfl | rfl | rfl
    · exact .inl rfl
    · exact .inr (.inl rfl)
    · exact .inr (.inr rfl)

section

variable {transformID keyLen : UInt16} {a : EncryptionAlg} (ha : newEncryption transformID keyLen = .ok a)
  (hccm : a.isCCM) {key iv aad plain : Bytes} (hkey : key.length = a.keyLen) (hiv : iv.length = a.ivLen)

include hkey in
theorem newCipher_take : newCipher (key.take a.transformKeyLen) =
    .ok (Crypto.aes (key.take a.transformKeyLen)) := by
  have haes := a.transformKeyLen_aes
  have hlen := a.keyLen_eq
  rw [newCipher, if_pos]
  rw [List.length_take]
  omega

omit [Crypto] in
include ha hccm hkey hiv in
theorem length_ccmNonce : (ccmNonce a key iv).length = 11 := by
  obtain ⟨hsalt, hivLen, -⟩ := of_isCCM ha hccm
  have hlen := a.keyLen_eq
  rw [ccmNonce, EncryptionAlg.splitAEADKey, List.length_append, List.length_drop]
  omega

include ha hccm hkey hiv in
theorem ccmSeal_eq_encrypt (haad : aad.length < 2 ^ 32) (hplain : plain.length < 2 ^ 32) :
    ccmSeal a key iv aad plain =
      .ok (encrypt (Crypto.aes (key.take a.transformKeyLen)) a.icvLen 4 (ccmNonce a key iv) aad plain) := by
  have hnonce := length_ccmNonce ha hccm hkey hiv
  have htag := (of_isCCM ha hccm).2.2
  simp only [ccmSeal, newCipher_take hkey, ok_bind]
  rw [take_ctrStream hnonce hplain, drop_ctrStream hnonce hplain, xorBytes_take_right, take_xorBytes,
    take_ccmMAC _ _ _ htag haad]
  rfl

omit [Crypto] in
theorem xorBytes_of_eq {x y z : Bytes} (h : xorBytes x z = y) (hlen : x.length ≤ z.length) :
    xorBytes y z = x := by
  rw [← h, xorBytes_xorBytes hlen]

theorem ccmSeal_of_ccmOpen {c : Bytes} (h : ccmOpen a key iv aad c = .ok plain) :
    ccmSeal a key iv aad plain = .ok c := by
  rw [ccmOpen] at h
  by_cases hshort : c.length < a.icvLen
  · rw [if_pos hshort] at h
    cases h
  rw [if_neg hshort] at h
  obtain ⟨block, hblock, h⟩ := bind_eq_ok.mp h
  obtain rfl := newCipher_eq_ok hblock
  dsimp only at h
  split_ifs at h with htag
  have hout := Except.ok.inj h
  set stream := ctrStream (Crypto.aes (key.take a.transformKeyLen)) (ccmCounterIV (ccmNonce a key iv))
    (16 + (c.length - a.icvLen)) with hstream
  have hs : stream.length = 16 + (c.length - a.icvLen) := length_ctrStream _ _ _
  have hi := a.icvLen_le
  have hlen : plain.length = c.length - a.icvLen := by
    rw [← hout, length_xorBytes, List.length_take, List.length_drop, hs]
    omega
  have hdata : xorBytes plain (stream.drop 16) = c.take (c.length - a.icvLen) :=
    xorBytes_of_eq hout (by rw [List.length_take, List.length_drop, hs]; omega)
  have hmask : xorBytes ((ccmMAC (Crypto.aes (key.take a.transformKeyLen)) (ccmNonce a key iv) aad plain
      a.icvLen).take a.icvLen) (stream.take 16) = c.drop (c.length - a.icvLen) := by
    refine xorBytes_of_eq ?_ (by rw [List.length_drop, List.length_take, hs]; omega)
    rw [← hout]
    exact not_not.mp htag
  have hmac : ((xorBytes (ccmMAC (Crypto.aes (key.take a.transformKeyLen)) (ccmNonce a key iv) aad plain
      a.icvLen) (stream.take 16)).take a.icvLen) = c.drop (c.length - a.icvLen) := by
    rw [take_xorBytes, ← hmask, ← xorBytes_take_right (List.take _ _) (stream.take 16), List.length_take,
      length_ccmMAC, min_eq_left hi]
  simp only [ccmSeal, hblock, ok_bind, hlen, ← hstream, hdata, hmac, List.take_append_drop]

include ha hccm hkey hiv in
/-- **The mode conforms to the standard**, with four bytes of length and a nonce of eleven. -/
theorem ccm_conforms (haad : aad.length < 2 ^ 32) (hplain : plain.length < 2 ^ 32) :
    (ccmNonce a key iv).length = 11 ∧ IsTagLen a.icvLen ∧
    (∃ c, c = encrypt (Crypto.aes (key.take a.transformKeyLen)) a.icvLen 4 (ccmNonce a key iv) aad plain ∧
      ccmSeal a key iv aad plain = .ok c ∧ ccmOpen a key iv aad c = .ok plain) ∧
    ∀ c p, ccmOpen a key iv aad c = .ok p → ccmSeal a key iv aad p = .ok c := by
  have hseal := ccmSeal_eq_encrypt ha hccm hkey hiv haad hplain
  exact ⟨length_ccmNonce ha hccm hkey hiv, (of_isCCM ha hccm).2.2,
    ⟨_, rfl, hseal, (ccmOpen_ccmSeal hseal).1⟩, fun _ _ => ccmSeal_of_ccmOpen⟩

end

end Conformance

section Sample

attribute [local instance] plainCrypto

/-- AES-128 in CCM mode with a tag of 12 bytes. -/
theorem sample_ccm_conforms :
    ∃ a, newEncryption transformEncryptionAESCCM12 16 = .ok a ∧ a.isCCM ∧
      ∃ c, ccmSeal a (List.replicate 19 1) (List.replicate 8 2) [3] [4, 5] = .ok c ∧
        ccmOpen a (List.replicate 19 1) (List.replicate 8 2) [3] c = .ok [4, 5] := by
  refine ⟨_, rfl, by decide, ?_⟩
  have hkey : (List.replicate 19 1 : Bytes).length = 19 := rfl
  have hiv : (List.replicate 8 2 : Bytes).length = 8 := rfl
  have haad : ([3] : Bytes).length < 2 ^ 32 := by decide
  have hplain : ([4, 5] : Bytes).length < 2 ^ 32 := by decide
  obtain ⟨-, -, ⟨c, -, hseal, hopen⟩, -⟩ := ccm_conforms
    (show newEncryption transformEncryptionAESCCM12 16 = .ok _ from rfl) (by decide) hkey hiv haad hplain
  exact ⟨c, hseal, hopen⟩

end Sample

end Swan.Xcrypto
