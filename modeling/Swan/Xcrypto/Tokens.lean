import Swan.Xcrypto.Suite

/-! # Proposal strings

`parseProposal` reads a proposal from its text, e.g. `aes256gcm16-prfsha512-curve25519`: each token
adds a transform of its family, then the lists are checked and an empty list of PRFs is filled from
the integrity transforms. What it accepts is `Parsed`: every transform is registered, and the ciphers
are all AEAD ciphers exactly if there is no integrity transform.

A `Choice` takes one transform of each family from a proposal. `Parsed.select_choice` says which
choices a negotiation returns: those whose PRF is the one of the family of the integrity
transform. -/

namespace Swan.Xcrypto

open Swan.Lib

/-! ### The tokens -/

def encryptionTokens : List (Bytes × EncryptionID) :=
  [(ascii "aes", ⟨transformEncryptionAESCBC, 16⟩),
   (ascii "aes128", ⟨transformEncryptionAESCBC, 16⟩),
   (ascii "aes256", ⟨transformEncryptionAESCBC, 32⟩),
   (ascii "aes128ccm8", ⟨transformEncryptionAESCCM8, 16⟩),
   (ascii "aes128ccm64", ⟨transformEncryptionAESCCM8, 16⟩),
   (ascii "aes128ccm12", ⟨transformEncryptionAESCCM12, 16⟩),
   (ascii "aes128ccm96", ⟨transformEncryptionAESCCM12, 16⟩),
   (ascii "aes128ccm16", ⟨transformEncryptionAESCCM16, 16⟩),
   (ascii "aes128ccm128", ⟨transformEncryptionAESCCM16, 16⟩),
   (ascii "aes256ccm8", ⟨transformEncryptionAESCCM8, 32⟩),
   (ascii "aes256ccm64", ⟨transformEncryptionAESCCM8, 32⟩),
   (ascii "aes256ccm12", ⟨transformEncryptionAESCCM12, 32⟩),
   (ascii "aes256ccm96", ⟨transformEncryptionAESCCM12, 32⟩),
   (ascii "aes256ccm16", ⟨transformEncryptionAESCCM16, 32⟩),
   (ascii "aes256ccm128", ⟨transformEncryptionAESCCM16, 32⟩),
   (ascii "aes128gcm12", ⟨transformEncryptionAESGCM12, 16⟩),
   (ascii "aes128gcm96", ⟨transformEncryptionAESGCM12, 16⟩),
   (ascii "aes128gcm", ⟨transformEncryptionAESGCM16, 16⟩),
   (ascii "aes128gcm16", ⟨transformEncryptionAESGCM16, 16⟩),
   (ascii "aes128gcm128", ⟨transformEncryptionAESGCM16, 16⟩),
   (ascii "aes256gcm12", ⟨transformEncryptionAESGCM12, 32⟩),
   (ascii "aes256gcm96", ⟨transformEncryptionAESGCM12, 32⟩),
   (ascii "aes256gcm", ⟨transformEncryptionAESGCM16, 32⟩),
   (ascii "aes256gcm16", ⟨transformEncryptionAESGCM16, 32⟩),
   (ascii "aes256gcm128", ⟨transformEncryptionAESGCM16, 32⟩)]

def integrityTokens : List (Bytes × UInt16) :=
  [(ascii "sha", transformIntegrityHMACSHA196),
   (ascii "sha1", transformIntegrityHMACSHA196),
   (ascii "sha256", transformIntegrityHMACSHA2256128),
   (ascii "sha2_256", transformIntegrityHMACSHA2256128),
   (ascii "sha384", transformIntegrityHMACSHA2384192),
   (ascii "sha2_384", transformIntegrityHMACSHA2384192),
   (ascii "sha512", transformIntegrityHMACSHA2512256),
   (ascii "sha2_512", transformIntegrityHMACSHA2512256)]

def prfTokens : List (Bytes × UInt16) :=
  [(ascii "prfsha1", transformPRFHMACSHA1),
   (ascii "prfsha256", transformPRFHMACSHA256),
   (ascii "prfsha2_256", transformPRFHMACSHA256),
   (ascii "prfsha512", transformPRFHMACSHA512),
   (ascii "prfsha2_512", transformPRFHMACSHA512)]

def dhTokens : List (Bytes × UInt16) :=
  [(ascii "curve25519", transformDHCurve25519),
   (ascii "x25519", transformDHCurve25519)]

/-- The parts of a text between its hyphens. -/
def splitTokens (s : Bytes) : List Bytes := s.splitOn 0x2D

/-- Add a value at the end unless the list has it. -/
def pushNew {α : Type} [DecidableEq α] (list : List α) (v : α) : List α :=
  if v ∈ list then list else list ++ [v]

def pushEncryption (list : List EncryptionID) (v : EncryptionID) : List EncryptionID :=
  pushNew list v

def pushU16 (list : List UInt16) (v : UInt16) : List UInt16 := pushNew list v

theorem mem_pushNew {α : Type} [DecidableEq α] {list : List α} {v x : α} :
    x ∈ pushNew list v ↔ x ∈ list ∨ x = v := by
  unfold pushNew
  split_ifs with hmem
  · constructor
    · exact .inl
    · rintro (h | rfl)
      · exact h
      · exact hmem
  · simp

/-! ### The parser -/

def parseToken (p : Proposal) (token : Bytes) : Except Err Proposal :=
  if token = [] then .ok p
  else match encryptionTokens.lookup token with
  | some enc => .ok { p with encryption := pushEncryption p.encryption enc }
  | none => match integrityTokens.lookup token with
    | some id => .ok { p with integrity := pushU16 p.integrity id }
    | none => match prfTokens.lookup token with
      | some id => .ok { p with prf := pushU16 p.prf id }
      | none => match dhTokens.lookup token with
        | some id => .ok { p with dh := pushU16 p.dh id }
        | none =>
          .error (.errorf s!"xcrypto: unsupported strongswan proposal token {quoted token}")

/-- Whether the list has an AEAD cipher, and whether it has another. -/
def encryptionKinds : List EncryptionID → Bool → Bool → Except Err (Bool × Bool)
  | [], hasAEAD, hasNonAEAD => .ok (hasAEAD, hasNonAEAD)
  | enc :: encs, hasAEAD, hasNonAEAD => do
    let alg ← newEncryption enc.transformID enc.keyLen
    encryptionKinds encs (hasAEAD || alg.aead) (hasNonAEAD || !alg.aead)

/-- Ciphers and integrity transforms fit together. -/
def checkFamilies (p : Proposal) : Except Err Unit :=
  if p.encryption.length = 0 then
    .error (.errorf "xcrypto: proposal is missing an encryption transform")
  else if p.dh.length = 0 then .error (.errorf "xcrypto: proposal is missing a DH group")
  else do
    let kinds ← encryptionKinds p.encryption false false
    if kinds.1 ∧ kinds.2 then .error (.errorf
      "xcrypto: mixed AEAD and non-AEAD encryption transforms in one proposal")
    else if kinds.1 ∧ p.integrity.length ≠ 0 then
      .error (.errorf "xcrypto: AEAD proposal must not include integrity transforms")
    else if ¬kinds.1 ∧ p.integrity.length = 0 then
      .error (.errorf "xcrypto: non-AEAD proposal is missing an integrity transform")
    else .ok ()

/-- Add the PRF of each integrity transform. -/
def pushDefaults : List UInt16 → List UInt16 → Except Err (List UInt16)
  | [], prf => .ok prf
  | id :: ids, prf =>
    if prfFromIntegrity id = 0 then .error (.errorf
      s!"xcrypto: integrity transform {id} has no default PRF; add an explicit PRF")
    else pushDefaults ids (pushU16 prf (prfFromIntegrity id))

/-- The listed PRFs, or those of the integrity transforms if none is listed. -/
def prfOrDefault (p : Proposal) : Except Err (List UInt16) :=
  if p.prf.length = 0 then pushDefaults p.integrity [] else .ok p.prf

def parseProposal (s : Bytes) : Except Err Proposal := do
  let p ← (splitTokens s).foldlM parseToken ⟨[], [], [], []⟩
  checkFamilies p
  let prf ← prfOrDefault p
  if prf.length = 0 then .error (.errorf "xcrypto: proposal is missing a PRF")
  else .ok { p with prf }

/-! ### What is accepted -/

/-- The integrity transforms, PRFs and groups of a proposal are those of some tokens. -/
structure Proposal.Tokenized (p : Proposal) : Prop where
  integrity : ∀ id ∈ p.integrity, id ∈ integrityTokens.map Prod.snd
  prf : ∀ id ∈ p.prf, id ∈ prfTokens.map Prod.snd
  dh : ∀ id ∈ p.dh, id ∈ dhTokens.map Prod.snd

structure Proposal.Parsed (p : Proposal) : Prop extends p.Tokenized where
  /-- Every cipher is registered, and is an AEAD cipher if there is no integrity transform. -/
  encryption : ∀ e ∈ p.encryption, ∃ alg, newEncryption e.transformID e.keyLen = .ok alg ∧
    (alg.aead = true ↔ p.integrity = [])
  encryption_ne : p.encryption ≠ []
  prf_ne : p.prf ≠ []
  dh_ne : p.dh ≠ []

theorem mem_of_lookup {α : Type} {token : Bytes} {v : α} :
    ∀ {table : List (Bytes × α)}, table.lookup token = some v → v ∈ table.map Prod.snd
  | (key, v') :: table, h => by
    rw [List.lookup_cons] at h
    split at h
    · simp [Option.some.inj h]
    · exact List.mem_cons_of_mem _ (mem_of_lookup h)

theorem forall_mem_pushNew {α : Type} [DecidableEq α] {P : α → Prop} {list : List α} {v : α}
    (hlist : ∀ x ∈ list, P x) (hv : P v) : ∀ x ∈ pushNew list v, P x := by
  intro x hx
  rcases mem_pushNew.mp hx with h | rfl
  · exact hlist x h
  · exact hv

theorem tokenized_parseToken {p q : Proposal} {token : Bytes} (hp : p.Tokenized)
    (h : parseToken p token = .ok q) : q.Tokenized := by
  unfold parseToken at h
  split_ifs at h
  · exact Except.ok.inj h ▸ hp
  split at h
  · exact Except.ok.inj h ▸ ⟨hp.integrity, hp.prf, hp.dh⟩
  split at h
  next id hid =>
    exact Except.ok.inj h ▸ ⟨forall_mem_pushNew hp.integrity (mem_of_lookup hid), hp.prf, hp.dh⟩
  split at h
  next id hid =>
    exact Except.ok.inj h ▸ ⟨hp.integrity, forall_mem_pushNew hp.prf (mem_of_lookup hid), hp.dh⟩
  split at h
  next id hid =>
    exact Except.ok.inj h ▸ ⟨hp.integrity, hp.prf, forall_mem_pushNew hp.dh (mem_of_lookup hid)⟩
  cases h

theorem tokenized_foldlM : ∀ {tokens : List Bytes} {p q : Proposal}, p.Tokenized →
    tokens.foldlM parseToken p = .ok q → q.Tokenized
  | [], p, q, hp, h => Except.ok.inj h ▸ hp
  | token :: tokens, p, q, hp, h => by
    rw [List.foldlM_cons] at h
    obtain ⟨p', hp', h⟩ := bind_eq_ok.mp h
    exact tokenized_foldlM (tokenized_parseToken hp hp') h

theorem encryptionKinds_ok : ∀ {encs : List EncryptionID} {a n a' n' : Bool},
    encryptionKinds encs a n = .ok (a', n') →
      (a = true → a' = true) ∧ (n = true → n' = true) ∧
      ∀ e ∈ encs, ∃ alg, newEncryption e.transformID e.keyLen = .ok alg ∧
        (if alg.aead then a' = true else n' = true)
  | [], a, n, a', n', h => by
    obtain ⟨rfl, rfl⟩ := Prod.mk.inj (Except.ok.inj h)
    simp
  | enc :: encs, a, n, a', n', h => by
    obtain ⟨alg, halg, h⟩ := bind_eq_ok.mp h
    obtain ⟨ha, hn, hall⟩ := encryptionKinds_ok h
    refine ⟨fun h => ha (by simp [h]), fun h => hn (by simp [h]), ?_⟩
    intro e he
    rcases List.mem_cons.mp he with rfl | he
    · refine ⟨alg, halg, ?_⟩
      cases haead : alg.aead
      · exact hn (by simp [haead])
      · exact ha (by simp [haead])
    · exact hall e he

theorem encryption_of_checkFamilies {p : Proposal} (h : checkFamilies p = .ok ()) :
    ∀ e ∈ p.encryption, ∃ alg, newEncryption e.transformID e.keyLen = .ok alg ∧
      (alg.aead = true ↔ p.integrity = []) := by
  unfold checkFamilies at h
  split_ifs at h
  obtain ⟨⟨a, n⟩, hkinds, h⟩ := bind_eq_ok.mp h
  split_ifs at h with hmixed haead hnon
  obtain ⟨-, -, hall⟩ := encryptionKinds_ok hkinds
  intro e he
  obtain ⟨alg, halg, hkind⟩ := hall e he
  refine ⟨alg, halg, ?_⟩
  cases htrue : alg.aead with
  | true =>
    rw [htrue] at hkind
    have ha : a = true := hkind
    simpa [ha] using haead
  | false =>
    rw [htrue] at hkind
    have hn : n = true := hkind
    have ha : a = false := by simpa [hn] using hmixed
    simpa [ha] using hnon

theorem ne_nil_of_checkFamilies {p : Proposal} (h : checkFamilies p = .ok ()) :
    p.encryption ≠ [] ∧ p.dh ≠ [] := by
  unfold checkFamilies at h
  split_ifs at h with henc hdh
  exact ⟨fun hnil => henc (by simp [hnil]), fun hnil => hdh (by simp [hnil])⟩

theorem prf_of_pushDefaults : ∀ {ids prf prf' : List UInt16},
    (∀ id ∈ prf, id ∈ prfTokens.map Prod.snd) → pushDefaults ids prf = .ok prf' →
      ∀ id ∈ prf', id ∈ prfTokens.map Prod.snd
  | [], prf, prf', hprf, h => Except.ok.inj h ▸ hprf
  | id :: ids, prf, prf', hprf, h => by
    rw [pushDefaults] at h
    split_ifs at h with hzero
    refine prf_of_pushDefaults (forall_mem_pushNew hprf ?_) h
    unfold prfFromIntegrity at hzero ⊢
    split_ifs at hzero ⊢ <;> first | decide | exact absurd rfl hzero

theorem parsed_of_parseProposal {s : Bytes} {p : Proposal} (h : parseProposal s = .ok p) :
    p.Parsed := by
  obtain ⟨q, hq, h⟩ := bind_eq_ok.mp h
  obtain ⟨⟨⟩, hcheck, h⟩ := bind_eq_ok.mp h
  obtain ⟨prf, hprf, h⟩ := bind_eq_ok.mp h
  split_ifs at h with hlen
  obtain rfl := Except.ok.inj h
  have htok : q.Tokenized := tokenized_foldlM ⟨by simp, by simp, by simp⟩ hq
  obtain ⟨henc, hdh⟩ := ne_nil_of_checkFamilies hcheck
  refine ⟨⟨htok.integrity, ?_, htok.dh⟩, encryption_of_checkFamilies hcheck, henc, ?_, hdh⟩
  swap
  · exact fun hnil => hlen (List.length_eq_zero_iff.mpr hnil)
  unfold prfOrDefault at hprf
  split_ifs at hprf
  · exact prf_of_pushDefaults (by simp) hprf
  · exact Except.ok.inj hprf ▸ htok.prf

theorem newIntegrity_of_token {id : UInt16} (h : id ∈ integrityTokens.map Prod.snd) :
    id ≠ transformIntegrityNone ∧ ∃ integ, newIntegrity id = .ok integ := by
  simp only [integrityTokens, List.map_cons, List.map_nil, List.mem_cons, List.not_mem_nil,
    or_false] at h
  rcases h with rfl | rfl | rfl | rfl | rfl | rfl | rfl | rfl <;> exact ⟨by decide, _, rfl⟩

theorem newPRF_of_token {id : UInt16} (h : id ∈ prfTokens.map Prod.snd) :
    ∃ prf, newPRF id = .ok prf := by
  simp only [prfTokens, List.map_cons, List.map_nil, List.mem_cons, List.not_mem_nil,
    or_false] at h
  rcases h with rfl | rfl | rfl | rfl | rfl <;> exact ⟨_, rfl⟩

theorem eq_of_dhToken {id : UInt16} (h : id ∈ dhTokens.map Prod.snd) :
    id = transformDHCurve25519 := by
  simpa [dhTokens] using h

/-! ### Choices -/

/-- One transform of each family; the integrity transform is left out with an AEAD cipher. -/
structure Choice where
  encryption : EncryptionID
  integrity : Option UInt16
  prf : UInt16
  dh : UInt16
  deriving DecidableEq, Repr

namespace Choice

def proposal (c : Choice) : Proposal :=
  ⟨[c.encryption], c.integrity.toList, [c.prf], [c.dh]⟩

/-- Every transform is listed, and there is an integrity transform unless the proposal has none. -/
structure From (c : Choice) (p : Proposal) : Prop where
  encryption : c.encryption ∈ p.encryption
  integrity : if p.integrity = [] then c.integrity = none
    else ∃ id ∈ p.integrity, c.integrity = some id
  prf : c.prf ∈ p.prf
  dh : c.dh ∈ p.dh

/-- The PRF is the one of the family of the integrity transform, if there is one. -/
def Compatible (c : Choice) : Prop := ∀ id, c.integrity = some id → prfFromIntegrity id = c.prf

/-- The selection has exactly the chosen algorithms. -/
structure Is (c : Choice) (sel : Selection) : Prop where
  encryption : sel.encryption.transformID = c.encryption.transformID ∧
    sel.encryption.transformKeyLen = c.encryption.keyLen.toNat
  aead : sel.encryption.aead = true ↔ c.integrity = none
  integrity : sel.integrity.transformID = c.integrity.getD transformIntegrityNone
  prf : sel.prf.transformID = c.prf
  dh : sel.dh.map DH.transformID = some c.dh

end Choice

theorem isFirst_singleton {α : Type} {l : List α} {x : α} (h : x ∈ l) : IsFirst l (· ∈ [x]) x :=
  (isFirst_iff_mem fun _ => List.mem_singleton).mpr h

theorem Proposal.Parsed.select_choice {p : Proposal} (hp : p.Parsed) {c : Choice} (hc : c.From p)
    (hcomp : c.Compatible) : ∃ sel, p.select c.proposal = .ok sel ∧ c.Is sel := by
  obtain ⟨alg, halg, haead⟩ := hp.encryption _ hc.encryption
  obtain ⟨prf, hprf⟩ := newPRF_of_token (hp.prf _ hc.prf)
  have hdh : c.dh = transformDHCurve25519 := eq_of_dhToken (hp.dh _ hc.dh)
  have hids := ids_of_newEncryption halg
  have hselDH : p.selectDH c.proposal = .ok ⟨transformDHCurve25519, "curve25519"⟩ :=
    Proposal.selectDH_eq_ok.mpr ⟨rfl, hdh ▸ hc.dh, by simp [Choice.proposal, hdh]⟩
  have hselEnc : p.selectEncryption c.proposal = .ok alg := by
    refine Proposal.selectEncryption_eq_ok.mpr
      ⟨c.encryption, isFirst_singleton hc.encryption, halg, fun htrue => ⟨haead.mp htrue, ?_⟩⟩
    have hnone := hc.integrity
    rw [if_pos (haead.mp htrue)] at hnone
    simp [Choice.proposal, hnone]
  by_cases hnil : p.integrity = []
  · have hnone := hc.integrity
    rw [if_pos hnil] at hnone
    refine ⟨⟨alg, ⟨transformIntegrityNone, 0, 0, none, rfl, le_rfl⟩, prf, some _⟩,
      Proposal.select_eq_ok.mpr ⟨hselEnc, ?_, ?_, _, hselDH, rfl⟩, hids, ?_, ?_,
      transformID_of_newPRF hprf, by simp [hdh]⟩
    · rw [if_pos (haead.mpr hnil)]
      rfl
    · exact (Proposal.selectPRF_eq_ok_of_none rfl).mpr ⟨c.prf, isFirst_singleton hc.prf, hprf⟩
    · simp [haead, hnil, hnone]
    · simp [hnone]
  · have hsome := hc.integrity
    rw [if_neg hnil] at hsome
    obtain ⟨id, hmem, hid⟩ := hsome
    obtain ⟨hne, integ, hinteg⟩ := newIntegrity_of_token (hp.integrity id hmem)
    have hidinteg := transformID_of_newIntegrity hinteg
    have hfalse : alg.aead ≠ true := fun htrue => hnil (haead.mp htrue)
    have hfamily : prfFromIntegrity integ.transformID = c.prf := by rw [hidinteg, hcomp id hid]
    refine ⟨⟨alg, integ, prf, some _⟩,
      Proposal.select_eq_ok.mpr ⟨hselEnc, ?_, ?_, _, hselDH, rfl⟩, hids, ?_, ?_,
      transformID_of_newPRF hprf, by simp [hdh]⟩
    · rw [if_neg hfalse]
      refine Proposal.selectIntegrity_eq_ok.mpr ⟨id, ?_, hinteg⟩
      simp only [Choice.proposal, hid]
      exact isFirst_singleton hmem
    · refine (Proposal.selectPRF_eq_ok_of_ne (hidinteg ▸ hne)).mpr ?_
      rw [hfamily]
      exact ⟨List.mem_singleton_self _, hprf⟩
    · simp [hfalse, hid]
    · simp [hidinteg, hid]

theorem Proposal.Parsed.select_choice_error {p : Proposal} (hp : p.Parsed) {c : Choice}
    (hc : c.From p) (hcomp : ¬c.Compatible) : ∃ e, p.select c.proposal = .error e := by
  cases hsel : p.select c.proposal with
  | error e => exact ⟨e, rfl⟩
  | ok sel =>
    refine absurd (fun id hid => ?_) hcomp
    have hnil : p.integrity ≠ [] := by
      intro hnil
      have hnone := hc.integrity
      rw [if_pos hnil, hid] at hnone
      cases hnone
    have haead : sel.encryption.aead = false := by
      by_contra htrue
      exact hnil (Proposal.integrity_eq_nil hsel (Bool.not_eq_false _ ▸ htrue))
    have hfirst := Proposal.isFirst_integrity hsel haead
    have hinteg : sel.integrity.transformID = id := by simpa [Choice.proposal, hid] using hfirst.holds
    have hne := (newIntegrity_of_token (hp.integrity id (hinteg ▸ hfirst.mem))).1
    have hprf := (Proposal.selectPRF_eq_ok_of_ne (hinteg ▸ hne)).mp
      (Proposal.select_eq_ok.mp hsel).2.2.1
    simpa [Choice.proposal, hinteg] using hprf.1

end Swan.Xcrypto
