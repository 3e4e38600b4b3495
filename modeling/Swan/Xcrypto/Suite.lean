import Swan.Lib.Preference
import Swan.Xcrypto.Keying

/-! # Proposals and selections

A `Proposal` lists the algorithms of each transform family in local preference order;
`Proposal.select` negotiates it against a remote one. Every algorithm of a negotiated selection is
the registered one of its transform id (`Selection.Registered`), so two selections with the same ids
are the same (`Selection.Registered.ext`). `select_preferred_iff` says on which lists the negotiation
chooses by local preference: the search for the PRF falls back to the family of the integrity
transform even if the local list leaves that out, and the search for the group passes over the groups
that are not implemented. -/

namespace Swan.Xcrypto

open Swan.Lib

/-- One offered encryption transform: the algorithm and its key length in bytes. -/
structure EncryptionID where
  transformID : UInt16
  keyLen : UInt16
  deriving DecidableEq, Repr

/-- The offered transforms of each family, in preference order. -/
structure Proposal where
  encryption : List EncryptionID
  integrity : List UInt16
  prf : List UInt16
  dh : List UInt16
  deriving DecidableEq, Repr

/-- The negotiated algorithms. -/
structure Selection where
  encryption : EncryptionAlg
  integrity : Integrity
  prf : PRF
  dh : Option DH
  deriving DecidableEq, Repr

/-- The PRF that goes with an integrity transform, 0 if none does. -/
def prfFromIntegrity (id : UInt16) : UInt16 :=
  if id = transformIntegrityHMACSHA196 then transformPRFHMACSHA1
  else if id = transformIntegrityHMACSHA2256128 then transformPRFHMACSHA256
  else if id = transformIntegrityHMACSHA2512256 then transformPRFHMACSHA512
  else 0

/-- Whether a PRF may go with the negotiated integrity transform. -/
def prfMatchesIntegrity (prf : UInt16) (integ : Integrity) : Bool :=
  if integ.transformID = transformIntegrityNone then true
  else decide (prfFromIntegrity integ.transformID = prf)

/-- Each algorithm is the registered one of its transform id, and an AEAD cipher goes without an
integrity transform. -/
structure Selection.Registered (sel : Selection) : Prop where
  encryption : newEncryption sel.encryption.transformID
    (UInt16.ofNat sel.encryption.transformKeyLen) = .ok sel.encryption
  integrity : newIntegrity sel.integrity.transformID = .ok sel.integrity
  aead : sel.encryption.aead = true → sel.integrity.transformID = transformIntegrityNone
  prf : newPRF sel.prf.transformID = .ok sel.prf

namespace Selection.Registered

variable {sel sel' : Selection}

theorem keyLen (h : sel.Registered) : sel.encryption.keyLen ≤ 36 :=
  keyLen_of_newEncryption h.encryption

end Selection.Registered

namespace Proposal

/-- The first local encryption transform that the remote side offers. -/
def selectEncryption (p remote : Proposal) : Except Err EncryptionAlg :=
  match p.encryption.find? fun want => want ∈ remote.encryption with
  | none => .error (.errorf "xcrypto: no compatible encryption transform")
  | some want => do
    let alg ← newEncryption want.transformID want.keyLen
    if alg.aead ∧ (p.integrity.length ≠ 0 ∨ remote.integrity.length ≠ 0) then
      .error (.errorf "xcrypto: AEAD proposal must not negotiate integrity transforms")
    else .ok alg

/-- The first local integrity transform that the remote side offers. -/
def selectIntegrity (p remote : Proposal) : Except Err Integrity :=
  match p.integrity.find? fun want => want ∈ remote.integrity with
  | none => .error (.errorf "xcrypto: no compatible integrity transform")
  | some want => newIntegrity want

/-- The first local PRF that the remote side offers and that goes with the integrity transform, or
the one implied by the integrity transform. -/
def selectPRF (p remote : Proposal) (integ : Integrity) : Except Err PRF :=
  match p.prf.find? fun want => prfMatchesIntegrity want integ ∧ want ∈ remote.prf with
  | some want => newPRF want
  | none =>
    let id := prfFromIntegrity integ.transformID
    if integ.transformID ≠ transformIntegrityNone ∧ id ≠ 0 ∧ id ∈ remote.prf then newPRF id
    else .error (.errorf "xcrypto: no compatible PRF transform")

/-- The first local group that the remote side offers and that is implemented. -/
def selectDH (p remote : Proposal) : Except Err DH :=
  match p.dh.find? fun want => want ∈ remote.dh ∧ want = transformDHCurve25519 with
  | some want => .ok { transformID := want, name := "curve25519" }
  | none => .error (.errorf "xcrypto: no compatible DH group")

/-- Negotiate the local proposal `p` against a remote one. -/
def select (p remote : Proposal) : Except Err Selection := do
  let enc ← p.selectEncryption remote
  let integ ← if enc.aead then newIntegrity transformIntegrityNone else p.selectIntegrity remote
  let prf ← p.selectPRF remote integ
  let dh ← p.selectDH remote
  .ok { encryption := enc, integrity := integ, prf, dh := some dh }

/-! ### What is chosen -/

variable {p remote : Proposal} {sel : Selection} {integ : Integrity} {prf : PRF}

theorem selectEncryption_eq_ok {enc : EncryptionAlg} :
    p.selectEncryption remote = .ok enc ↔
      ∃ want, IsFirst p.encryption (· ∈ remote.encryption) want ∧
        newEncryption want.transformID want.keyLen = .ok enc ∧
        (enc.aead = true → p.integrity = [] ∧ remote.integrity = []) := by
  unfold selectEncryption
  cases hwant : p.encryption.find? fun want => want ∈ remote.encryption with
  | none => simp [isFirst_iff_find?, hwant]
  | some want =>
    simp only [isFirst_iff_find?, hwant, Option.some.injEq, exists_eq_left', bind_eq_ok]
    constructor
    · rintro ⟨alg, halg, h⟩
      split_ifs at h with haead
      obtain rfl := Except.ok.inj h
      refine ⟨halg, fun htrue => ?_⟩
      simpa [htrue] using haead
    · rintro ⟨halg, haead⟩
      refine ⟨enc, halg, if_neg ?_⟩
      rintro ⟨htrue, hlen⟩
      simp [haead htrue] at hlen

theorem selectIntegrity_eq_ok : p.selectIntegrity remote = .ok integ ↔
    ∃ want, IsFirst p.integrity (· ∈ remote.integrity) want ∧ newIntegrity want = .ok integ := by
  unfold selectIntegrity
  cases hwant : p.integrity.find? fun want => want ∈ remote.integrity with
  | none => simp [isFirst_iff_find?, hwant]
  | some want => simp [isFirst_iff_find?, hwant]

theorem selectPRF_eq_ok_of_none (hnone : integ.transformID = transformIntegrityNone) :
    p.selectPRF remote integ = .ok prf ↔
      ∃ id, IsFirst p.prf (· ∈ remote.prf) id ∧ newPRF id = .ok prf := by
  unfold selectPRF
  simp only [prfMatchesIntegrity, if_pos hnone, true_and]
  cases hwant : p.prf.find? fun want => want ∈ remote.prf with
  | none => simp [isFirst_iff_find?, hwant, hnone]
  | some want => simp [isFirst_iff_find?, hwant]

theorem selectPRF_eq_ok_of_ne (hne : integ.transformID ≠ transformIntegrityNone) :
    p.selectPRF remote integ = .ok prf ↔ prfFromIntegrity integ.transformID ∈ remote.prf ∧
      newPRF (prfFromIntegrity integ.transformID) = .ok prf := by
  unfold selectPRF
  simp only [prfMatchesIntegrity, if_neg hne, decide_eq_true_eq]
  cases hwant : p.prf.find? fun want =>
      prfFromIntegrity integ.transformID = want ∧ want ∈ remote.prf with
  | none =>
    have hzero : newPRF 0 ≠ .ok prf := by simp [newPRF, transformPRFHMACSHA1,
      transformPRFHMACSHA256, transformPRFHMACSHA512]
    dsimp only
    split_ifs with hid
    · simp [hid.2.2]
    · simp only [false_iff, not_and]
      intro hmem h
      refine hid ⟨hne, fun h0 => hzero ?_, hmem⟩
      rw [← h0, h]
  | some want =>
    have hmem := List.find?_some hwant
    simp only [decide_eq_true_eq] at hmem
    simp [hmem.1, hmem.2]

theorem selectDH_eq_ok {dh : DH} : p.selectDH remote = .ok dh ↔
    dh = ⟨transformDHCurve25519, "curve25519"⟩ ∧ transformDHCurve25519 ∈ p.dh ∧
      transformDHCurve25519 ∈ remote.dh := by
  unfold selectDH
  cases hwant : p.dh.find? fun want => want ∈ remote.dh ∧ want = transformDHCurve25519 with
  | none =>
    have hnone := List.find?_eq_none.mp hwant
    simp only [decide_eq_true_eq] at hnone
    simp only [reduceCtorEq, false_iff]
    rintro ⟨-, hlocal, hremote⟩
    exact hnone _ hlocal ⟨hremote, rfl⟩
  | some want =>
    have hmem := List.mem_of_find?_eq_some hwant
    have hprop := List.find?_some hwant
    simp only [decide_eq_true_eq] at hprop
    obtain ⟨hremote, rfl⟩ := hprop
    simp [hmem, hremote, eq_comm]

theorem select_eq_ok : p.select remote = .ok sel ↔
    p.selectEncryption remote = .ok sel.encryption ∧
    (if sel.encryption.aead then newIntegrity transformIntegrityNone
      else p.selectIntegrity remote) = .ok sel.integrity ∧
    p.selectPRF remote sel.integrity = .ok sel.prf ∧
    ∃ dh, p.selectDH remote = .ok dh ∧ sel.dh = some dh := by
  unfold select
  constructor
  · intro h
    obtain ⟨enc, henc, h⟩ := bind_eq_ok.mp h
    -- The translation of the block has pushed the rest into the two branches.
    obtain ⟨integ, hinteg, h⟩ : ∃ integ, (if enc.aead then newIntegrity transformIntegrityNone
        else p.selectIntegrity remote) = .ok integ ∧ (do
          let prf ← p.selectPRF remote integ
          let dh ← p.selectDH remote
          .ok { encryption := enc, integrity := integ, prf, dh := some dh } :
            Except Err Selection) = .ok sel := by
      dsimp only at h
      split_ifs at h ⊢ <;> exact bind_eq_ok.mp h
    obtain ⟨prf, hprf, h⟩ := bind_eq_ok.mp h
    obtain ⟨dh, hdh, h⟩ := bind_eq_ok.mp h
    obtain rfl := Except.ok.inj h
    exact ⟨henc, hinteg, hprf, dh, hdh, rfl⟩
  · rintro ⟨henc, hinteg, hprf, dh, hdh, hsome⟩
    refine bind_eq_ok.mpr ⟨_, henc, ?_⟩
    have hrest : (do
        let prf ← p.selectPRF remote sel.integrity
        let dh ← p.selectDH remote
        .ok { encryption := sel.encryption, integrity := sel.integrity, prf, dh := some dh } :
          Except Err Selection) = .ok sel := by
      refine bind_eq_ok.mpr ⟨_, hprf, bind_eq_ok.mpr ⟨_, hdh, ?_⟩⟩
      rw [← hsome]
    dsimp only
    split_ifs at hinteg ⊢ <;> exact bind_eq_ok.mpr ⟨_, hinteg, hrest⟩

/-- The family's PRF is chosen if there is an integrity transform, otherwise the first common one;
either way the remote side offers it. -/
theorem selectPRF_ok (h : p.selectPRF remote integ = .ok prf) :
    ∃ id ∈ remote.prf, newPRF id = .ok prf := by
  by_cases hnone : integ.transformID = transformIntegrityNone
  · obtain ⟨id, hfirst, hnew⟩ := (selectPRF_eq_ok_of_none hnone).mp h
    exact ⟨id, hfirst.holds, hnew⟩
  · exact ⟨_, (selectPRF_eq_ok_of_ne hnone).mp h⟩

theorem select_ok (h : p.select remote = .ok sel) :
    sel.Registered ∧ sel.dh = some ⟨transformDHCurve25519, "curve25519"⟩ ∧
      ∃ id ∈ remote.prf, newPRF id = .ok sel.prf := by
  obtain ⟨henc, hinteg, hprf, dh, hdh, hsome⟩ := select_eq_ok.mp h
  obtain ⟨want, -, halg, -⟩ := selectEncryption_eq_ok.mp henc
  obtain ⟨prfID, hmem, hnew⟩ := selectPRF_ok hprf
  have hself : newIntegrity sel.integrity.transformID = .ok sel.integrity := by
    obtain ⟨id, hid⟩ : ∃ id, newIntegrity id = .ok sel.integrity := by
      split_ifs at hinteg
      · exact ⟨_, hinteg⟩
      · obtain ⟨id, -, hid⟩ := selectIntegrity_eq_ok.mp hinteg
        exact ⟨id, hid⟩
    rw [transformID_of_newIntegrity hid, hid]
  refine ⟨⟨newEncryption_self halg, hself, fun haead => ?_, ?_⟩, ?_, prfID, hmem, hnew⟩
  · rw [if_pos haead] at hinteg
    exact transformID_of_newIntegrity hinteg
  · rw [transformID_of_newPRF hnew, hnew]
  · rw [hsome, (selectDH_eq_ok.mp hdh).1]

/-! ### Preference -/

/-- Each algorithm is one of both proposals and the first such in local order; the PRF is the first
among those that go with the integrity transform. -/
structure Preferred (p remote : Proposal) (sel : Selection) : Prop where
  encryption : IsFirst p.encryption (· ∈ remote.encryption)
    ⟨sel.encryption.transformID, UInt16.ofNat sel.encryption.transformKeyLen⟩
  integrity : sel.encryption.aead = false →
    IsFirst p.integrity (· ∈ remote.integrity) sel.integrity.transformID
  prf : IsFirst p.prf (fun id => id ∈ remote.prf ∧ prfMatchesIntegrity id sel.integrity = true)
    sel.prf.transformID
  dh : ∃ dh, sel.dh = some dh ∧ IsFirst p.dh (· ∈ remote.dh) dh.transformID

/-- The lists on which the search for the PRF does not fall back past the local list, and the search
for the group does not pass over a common one: the family's PRF of the first common integrity
transform is listed, and the first common group is implemented. -/
structure Listed (p remote : Proposal) : Prop where
  prf : ∀ integ, IsFirst p.integrity (· ∈ remote.integrity) integ →
    integ = transformIntegrityNone ∨ prfFromIntegrity integ ∈ p.prf
  dh : ∀ group, IsFirst p.dh (· ∈ remote.dh) group → group = transformDHCurve25519

theorem isFirst_encryption (h : p.select remote = .ok sel) :
    IsFirst p.encryption (· ∈ remote.encryption)
      ⟨sel.encryption.transformID, UInt16.ofNat sel.encryption.transformKeyLen⟩ := by
  obtain ⟨want, hfirst, halg, -⟩ := selectEncryption_eq_ok.mp (select_eq_ok.mp h).1
  obtain ⟨hid, hlen⟩ := ids_of_newEncryption halg
  rwa [hid, hlen, UInt16.ofNat_toNat]

theorem isFirst_integrity (h : p.select remote = .ok sel) (haead : sel.encryption.aead = false) :
    IsFirst p.integrity (· ∈ remote.integrity) sel.integrity.transformID := by
  have hinteg := (select_eq_ok.mp h).2.1
  rw [haead] at hinteg
  obtain ⟨want, hfirst, hnew⟩ := selectIntegrity_eq_ok.mp hinteg
  rwa [transformID_of_newIntegrity hnew]

theorem integrity_eq_nil (h : p.select remote = .ok sel) (haead : sel.encryption.aead = true) :
    p.integrity = [] := by
  obtain ⟨-, -, -, hnil⟩ := selectEncryption_eq_ok.mp (select_eq_ok.mp h).1
  exact (hnil haead).1

theorem isFirst_prf_iff (h : p.select remote = .ok sel) :
    IsFirst p.prf (fun id => id ∈ remote.prf ∧ prfMatchesIntegrity id sel.integrity = true)
        sel.prf.transformID ↔
      sel.integrity.transformID = transformIntegrityNone ∨
        prfFromIntegrity sel.integrity.transformID ∈ p.prf := by
  have hprf := (select_eq_ok.mp h).2.2.1
  by_cases hnone : sel.integrity.transformID = transformIntegrityNone
  · obtain ⟨id, hfirst, hnew⟩ := (selectPRF_eq_ok_of_none hnone).mp hprf
    rw [transformID_of_newPRF hnew]
    simpa [prfMatchesIntegrity, hnone] using hfirst
  · obtain ⟨hmem, hnew⟩ := (selectPRF_eq_ok_of_ne hnone).mp hprf
    rw [transformID_of_newPRF hnew, or_iff_right hnone]
    refine isFirst_iff_mem fun id => ?_
    simp only [prfMatchesIntegrity, if_neg hnone, decide_eq_true_eq]
    constructor
    · rintro ⟨-, hid⟩
      exact hid.symm
    · rintro rfl
      exact ⟨hmem, rfl⟩

theorem isFirst_dh_iff (h : p.select remote = .ok sel) :
    (∃ dh, sel.dh = some dh ∧ IsFirst p.dh (· ∈ remote.dh) dh.transformID) ↔
      ∀ group, IsFirst p.dh (· ∈ remote.dh) group → group = transformDHCurve25519 := by
  obtain ⟨-, -, -, dh, hdh, hsome⟩ := select_eq_ok.mp h
  obtain ⟨rfl, hlocal, hremote⟩ := selectDH_eq_ok.mp hdh
  rw [hsome]
  constructor
  · rintro ⟨dh, hdh, hfirst⟩ group hgroup
    obtain rfl := Option.some.inj hdh
    exact hgroup.unique hfirst
  · intro hall
    obtain ⟨group, hgroup⟩ := exists_isFirst.mpr ⟨_, hlocal, hremote⟩
    refine ⟨_, rfl, ?_⟩
    rw [hall group hgroup] at hgroup
    exact hgroup

/-- A negotiation chooses by preference exactly on the lists that leave the two shortcuts unused. -/
theorem select_preferred_iff (h : p.select remote = .ok sel) :
    Preferred p remote sel ↔ Listed p remote := by
  constructor
  · intro hpref
    refine ⟨fun integ hfirst => ?_, (isFirst_dh_iff h).mp hpref.dh⟩
    have haead : sel.encryption.aead = false := by
      by_contra htrue
      rw [integrity_eq_nil h (Bool.not_eq_false _ ▸ htrue)] at hfirst
      simpa using hfirst.mem
    rw [hfirst.unique (isFirst_integrity h haead)]
    exact (isFirst_prf_iff h).mp hpref.prf
  · intro hlisted
    refine ⟨isFirst_encryption h, isFirst_integrity h, (isFirst_prf_iff h).mpr ?_,
      (isFirst_dh_iff h).mpr hlisted.dh⟩
    cases haead : sel.encryption.aead with
    | true => exact .inl ((select_ok h).1.aead haead)
    | false => exact hlisted.prf _ (isFirst_integrity h haead)

/-- AES-128 in CBC mode with HMAC-SHA2-256-128, the given PRFs and Curve25519. -/
def cbcSample (prf : List UInt16) : Proposal where
  encryption := [⟨transformEncryptionAESCBC, 16⟩]
  integrity := [transformIntegrityHMACSHA2256128]
  prf
  dh := [transformDHCurve25519]

theorem sample_preferred : ∃ sel,
    (cbcSample [transformPRFHMACSHA256]).select
        (cbcSample [transformPRFHMACSHA512, transformPRFHMACSHA256]) = .ok sel ∧
      (Preferred (cbcSample [transformPRFHMACSHA256])
          (cbcSample [transformPRFHMACSHA512, transformPRFHMACSHA256]) sel ↔
        Listed (cbcSample [transformPRFHMACSHA256])
          (cbcSample [transformPRFHMACSHA512, transformPRFHMACSHA256])) :=
  ⟨_, rfl, select_preferred_iff rfl⟩

/-- The local side lists PRF-HMAC-SHA2-512 alone and the remote side both; what is chosen is
PRF-HMAC-SHA2-256, which the local side does not list. -/
theorem unlisted_prf_chosen : ∃ sel,
    (cbcSample [transformPRFHMACSHA512]).select
        (cbcSample [transformPRFHMACSHA512, transformPRFHMACSHA256]) = .ok sel ∧
      ¬Preferred (cbcSample [transformPRFHMACSHA512])
        (cbcSample [transformPRFHMACSHA512, transformPRFHMACSHA256]) sel := by
  refine ⟨_, rfl, fun hpref => ?_⟩
  have hmem := hpref.prf.mem
  revert hmem
  decide

end Proposal

end Swan.Xcrypto
