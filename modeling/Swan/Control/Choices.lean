import Swan.Control.Proposals

/-! # The choice from the peer's proposals

What `selectPeerESPProposal` answers with: a selection for the first proposal that some local one goes
with (`selectPeerESPProposal_isFirst`). Its transforms are those of that proposal (`ChosenFrom`)
unless it needs a group that the proposal does not have (`answerProposal_chosenFrom`). -/

namespace Swan.Control

open Swan.Lib Swan.Payload

def keyLength (t : Transform) : Option UInt16 :=
  if t.type = TransformType.enc then (parseKeyLengthAttr t.attrs).toOption else none

/-- Two transforms with the same type, id and key length. -/
def SameTransform (t u : Transform) : Prop :=
  t.type = u.type ∧ t.id = u.id ∧ keyLength t = keyLength u

/-- The selected proposal `q` is a choice from the proposal `prop`: it has its number, and each of
its transforms is one of its. -/
structure ChosenFrom (prop q : Payload.Proposal) : Prop where
  num : q.num = prop.num
  transforms : ∀ t ∈ q.transforms, ∃ u ∈ prop.transforms, SameTransform t u

/-- A peer proposal that some local ESP proposal goes with. -/
def Acceptable (cfg : Config) (prop : Payload.Proposal) : Prop :=
  prop.protocolID = deleteProtocolESP ∧ prop.spi.length = 4 ∧ ∃ remote,
    proposalFromWire prop false = some remote ∧ (matchESP prop 0 false cfg.esp remote).isSome = true

theorem isSome_matchESP (prop : Payload.Proposal) (spi spi' : UInt32) (wants wants' : Bool) :
    ∀ (suites : List Xcrypto.Proposal) (remote : Xcrypto.Proposal),
      (matchESP prop spi wants suites remote).isSome =
        (matchESP prop spi' wants' suites remote).isSome
  | [], remote => rfl
  | suite :: suites, remote => by
    rw [matchESP, matchESP]
    dsimp only
    split
    · exact isSome_matchESP prop spi spi' wants wants' suites _
    · rfl

variable {spi : UInt32} {wants : Bool} {prop : Payload.Proposal} {sel : Xcrypto.Selection}
  {remote : Xcrypto.Proposal}

theorem matchESPProposals_isFirst {cfg : Config} {found : SA × Xcrypto.Selection} :
    ∀ {props : List Payload.Proposal},
      matchESPProposals cfg spi wants props = some found →
        ∃ prop remote, IsFirst props (Acceptable cfg) prop ∧
          proposalFromWire prop false = some remote ∧
          matchESP prop spi wants cfg.esp remote = some found
  | prop :: props, h => by
    have hrest : ¬Acceptable cfg prop → matchESPProposals cfg spi wants props = some found →
        ∃ prop' remote, IsFirst (prop :: props) (Acceptable cfg) prop' ∧
          proposalFromWire prop' false = some remote ∧
          matchESP prop' spi wants cfg.esp remote = some found := by
      intro hno h
      obtain ⟨prop', remote, hfirst, hremote, hmatch⟩ := matchESPProposals_isFirst h
      exact ⟨prop', remote, hfirst.cons_of_neg hno, hremote, hmatch⟩
    rw [matchESPProposals] at h
    split_ifs at h with hheader
    · exact hrest (fun hacc => hheader.elim (fun h => h hacc.1) fun h => h hacc.2.1) h
    obtain ⟨hesp, hspi⟩ := not_or.mp hheader
    cases hremote : proposalFromWire prop false with
    | none =>
      rw [hremote] at h
      refine hrest (fun hacc => ?_) h
      obtain ⟨-, -, remote, hsome, -⟩ := hacc
      rw [hremote] at hsome
      cases hsome
    | some remote =>
      rw [hremote] at h
      cases hmatch : matchESP prop spi wants cfg.esp remote with
      | none =>
        simp only [hmatch] at h
        refine hrest (fun hacc => ?_) h
        obtain ⟨-, -, remote', hsome, hisSome⟩ := hacc
        obtain rfl := Option.some.inj (hremote.symm.trans hsome)
        rw [isSome_matchESP prop 0 spi false wants, hmatch] at hisSome
        cases hisSome
      | some found' =>
        simp only [hmatch] at h
        obtain rfl := Option.some.inj h
        refine ⟨prop, remote, isFirst_cons_of_pos ⟨not_not.mp hesp, not_not.mp hspi, remote,
          hremote, ?_⟩, hremote, hmatch⟩
        rw [isSome_matchESP prop 0 spi false wants, hmatch]
        rfl

/-- The algorithms are those of the remote proposal; the group is that of the placeholder. -/
structure SelectedFrom (remote : Xcrypto.Proposal) (wants : Bool) (sel : Xcrypto.Selection) : Prop where
  encryption : ⟨sel.encryption.transformID, UInt16.ofNat sel.encryption.transformKeyLen⟩ ∈
    remote.encryption
  integrity : sel.encryption.aead = false → sel.integrity.transformID ∈ remote.integrity
  dh : sel.dh = if wants then some ⟨Xcrypto.transformDHCurve25519, "curve25519"⟩ else none

theorem matchESP_selectedFrom {selected : SA} :
    ∀ {suites : List Xcrypto.Proposal} {remote : Xcrypto.Proposal},
      matchESP prop spi wants suites remote = some (selected, sel) → SelectedFrom remote wants sel
  | suite :: suites, remote, h => by
    rw [matchESP] at h
    split at h
    · obtain ⟨henc, hinteg, hdh⟩ := matchESP_selectedFrom h
      exact ⟨henc, hinteg, hdh⟩
    next sel' hsel =>
    have henc := (Xcrypto.Proposal.isFirst_encryption hsel).holds
    have hinteg := fun haead => (Xcrypto.Proposal.isFirst_integrity hsel haead).holds
    have hdh := (Xcrypto.Proposal.select_ok hsel).2.1
    cases wants with
    | true =>
      obtain ⟨-, rfl⟩ := Prod.mk.inj (Option.some.inj h)
      exact ⟨henc, hinteg, hdh⟩
    | false =>
      obtain ⟨-, rfl⟩ := Prod.mk.inj (Option.some.inj h)
      exact ⟨henc, hinteg, rfl⟩

/-- What is read from a list of transforms comes from one of them or was there before. -/
structure ReadFrom (ts : List Transform) (acc remote : Xcrypto.Proposal) : Prop where
  encryption : ∀ e ∈ remote.encryption, e ∈ acc.encryption ∨ ∃ u ∈ ts,
    u.type = TransformType.enc ∧ u.id = e.transformID ∧
      parseKeyLengthAttr u.attrs = .ok (e.keyLen * 8)
  integrity : ∀ id ∈ remote.integrity, id ∈ acc.integrity ∨ ∃ u ∈ ts,
    u.type = TransformType.integ ∧ u.id = id

theorem ReadFrom.cons {t : Transform} {ts : List Transform} {acc acc' : Xcrypto.Proposal}
    (h : ReadFrom ts acc' remote)
    (henc : ∀ e ∈ acc'.encryption, e ∈ acc.encryption ∨ t.type = TransformType.enc ∧
      t.id = e.transformID ∧ parseKeyLengthAttr t.attrs = .ok (e.keyLen * 8))
    (hinteg : ∀ id ∈ acc'.integrity, id ∈ acc.integrity ∨ t.type = TransformType.integ ∧ t.id = id)
    :
    ReadFrom (t :: ts) acc remote where
  encryption e he := by
    rcases h.encryption e he with hacc | ⟨u, hu, hread⟩
    · exact (henc e hacc).imp_right fun ht => ⟨t, List.mem_cons_self, ht⟩
    · exact .inr ⟨u, List.mem_cons_of_mem _ hu, hread⟩
  integrity id hid := by
    rcases h.integrity id hid with hacc | ⟨u, hu, hread⟩
    · exact (hinteg id hacc).imp_right fun ht => ⟨t, List.mem_cons_self, ht⟩
    · exact .inr ⟨u, List.mem_cons_of_mem _ hu, hread⟩

theorem readFrom_of_collect {isIKE : Bool} : ∀ {ts : List Transform} {acc remote : Xcrypto.Proposal},
    collectWireTransforms isIKE ts acc = some remote → ReadFrom ts acc remote
  | [], acc, remote, h => by
    obtain rfl := Option.some.inj h
    exact ⟨fun e he => .inl he, fun id hid => .inl hid⟩
  | t :: ts, acc, remote, h => by
    rw [collectWireTransforms] at h
    split_ifs at h with henc hinteg
    · -- a cipher
      split at h
      · cases h
      next bits hbits =>
      split_ifs at h with hbad
      refine (readFrom_of_collect h).cons (fun e he => ?_) fun id hid => .inl hid
      rcases List.mem_append.mp he with he | he
      · exact .inl he
      · obtain rfl := List.mem_singleton.mp he
        have hmod := not_not.mp (not_or.mp hbad).2
        exact .inr ⟨henc, rfl, by rw [hbits, div_mul_of_mod hmod]⟩
    · -- an integrity transform
      refine (readFrom_of_collect h).cons (fun e he => .inl he) fun id hid => ?_
      rcases List.mem_append.mp hid with hid | hid
      · exact .inl hid
      · exact .inr ⟨hinteg, (List.mem_singleton.mp hid).symm⟩
    all_goals exact (readFrom_of_collect h).cons (fun e he => .inl he) fun id hid => .inl hid

theorem readFrom_of_proposalFromWire {isIKE : Bool} (h : proposalFromWire prop isIKE = some remote)
    :
    ReadFrom prop.transforms ⟨[], [], [], []⟩ remote := by
  unfold proposalFromWire at h
  split at h
  · cases h
  next remote' hcollect =>
  split_ifs at h
  obtain rfl := Option.some.inj h
  exact readFrom_of_collect hcollect

def answerProposal (prop : Payload.Proposal) (spi : UInt32) (sel : Xcrypto.Selection) :
    Payload.Proposal :=
  ⟨prop.num, deleteProtocolESP, putUint32 spi,
    [selectedEncTransform sel] ++ selectedIntegTransforms sel ++
      (if ∃ t ∈ prop.transforms, t.type = TransformType.esn ∧ t.id = esnNoExtendedSequenceNumbers
        then [⟨TransformType.esn, esnNoExtendedSequenceNumbers, []⟩] else []) ++
      (match sel.dh with
        | some dh => [⟨TransformType.dh, dh.transformID, []⟩]
        | none => [])⟩

/-- Whether a proposal has a DH transform of the only group that is implemented. -/
def OffersCurve25519 (prop : Payload.Proposal) : Prop :=
  ∃ u ∈ prop.transforms, u.type = TransformType.dh ∧ u.id = Xcrypto.transformDHCurve25519

theorem mem_answerProposal {t : Transform} : t ∈ (answerProposal prop spi sel).transforms ↔
      t = selectedEncTransform sel ∨
      sel.encryption.aead = false ∧ t = ⟨TransformType.integ, sel.integrity.transformID, []⟩ ∨
      (∃ u ∈ prop.transforms, u.type = TransformType.esn ∧ u.id = esnNoExtendedSequenceNumbers) ∧
        t = ⟨TransformType.esn, esnNoExtendedSequenceNumbers, []⟩ ∨
      ∃ dh, sel.dh = some dh ∧ t = ⟨TransformType.dh, dh.transformID, []⟩ := by
  have hinteg : t ∈ selectedIntegTransforms sel ↔ sel.encryption.aead = false ∧
      t = ⟨TransformType.integ, sel.integrity.transformID, []⟩ := by
    unfold selectedIntegTransforms
    cases sel.encryption.aead <;> simp
  have hdh : t ∈ (match sel.dh with
      | some dh => [⟨TransformType.dh, dh.transformID, []⟩]
      | none => [] : List Transform) ↔
        ∃ dh, sel.dh = some dh ∧ t = ⟨TransformType.dh, dh.transformID, []⟩ := by
    cases sel.dh <;> simp
  simp only [answerProposal, List.mem_append, List.mem_singleton, hinteg, hdh, or_assoc]
  split_ifs with hesn <;> simp [hesn]

theorem same_selectedEncTransform {e : Xcrypto.EncryptionID}
    (he : e = ⟨sel.encryption.transformID, UInt16.ofNat sel.encryption.transformKeyLen⟩)
    {u : Transform} (htype : u.type = TransformType.enc) (hid : u.id = e.transformID)
    (hlen : parseKeyLengthAttr u.attrs = .ok (e.keyLen * 8)) :
    SameTransform (selectedEncTransform sel) u := by
  refine ⟨htype.symm, by rw [hid, he]; rfl, ?_⟩
  have hbits : UInt16.ofNat (sel.encryption.transformKeyLen * 8) = e.keyLen * 8 := by
    rw [he, UInt16.ofNat_mul]
    rfl
  rw [keyLength, keyLength, if_pos (by rfl), if_pos htype, hlen, selectedEncTransform,
    parseKeyLengthAttr_keyLengthAttr, hbits]

theorem answerProposal_chosenFrom (hread : ReadFrom prop.transforms ⟨[], [], [], []⟩ remote)
    (hsel : SelectedFrom remote wants sel) :
    ChosenFrom prop (answerProposal prop spi sel) ↔ (wants = true → OffersCurve25519 prop) := by
  constructor
  · rintro hchosen rfl
    obtain ⟨u, hu, htype, hid, -⟩ := hchosen.transforms _
      (mem_answerProposal.mpr (.inr (.inr (.inr ⟨_, hsel.dh, rfl⟩))))
    exact ⟨u, hu, htype.symm, hid.symm⟩
  · intro hoffers
    refine ⟨rfl, fun t ht => ?_⟩
    rcases mem_answerProposal.mp ht with rfl | ⟨haead, rfl⟩ | ⟨⟨u, hu, htype, hid⟩, rfl⟩ |
      ⟨dh, hdh, rfl⟩
    · obtain hnil | ⟨u, hu, htype, hid, hlen⟩ := hread.encryption _ hsel.encryption
      · simp at hnil
      · exact ⟨u, hu, same_selectedEncTransform rfl htype hid hlen⟩
    · obtain hnil | ⟨u, hu, htype, hid⟩ := hread.integrity _ (hsel.integrity haead)
      · simp at hnil
      · exact ⟨u, hu, htype.symm, hid.symm, by simp [keyLength, htype, TransformType.integ,
          TransformType.enc]⟩
    · exact ⟨u, hu, htype.symm, hid.symm, by simp [keyLength, htype, TransformType.esn,
        TransformType.enc]⟩
    · rw [hsel.dh] at hdh
      split_ifs at hdh with hwants
      obtain rfl := Option.some.inj hdh
      obtain ⟨u, hu, htype, hid⟩ := hoffers hwants
      exact ⟨u, hu, htype.symm, hid.symm, by simp [keyLength, htype, TransformType.dh,
        TransformType.enc]⟩

theorem exists_dh_answerProposal (hsel : SelectedFrom remote wants sel) :
    (∃ t ∈ (answerProposal prop spi sel).transforms, t.type = TransformType.dh) ↔ wants = true := by
  constructor
  · rintro ⟨t, ht, htype⟩
    rcases mem_answerProposal.mp ht with rfl | ⟨-, rfl⟩ | ⟨-, rfl⟩ | ⟨dh, hdh, rfl⟩
    · exact absurd htype (by decide : TransformType.enc ≠ TransformType.dh)
    · exact absurd htype (by decide : TransformType.integ ≠ TransformType.dh)
    · exact absurd htype (by decide : TransformType.esn ≠ TransformType.dh)
    · rw [hsel.dh] at hdh
      split_ifs at hdh with hwants
      exact hwants
  · rintro rfl
    exact ⟨_, mem_answerProposal.mpr (.inr (.inr (.inr ⟨_, hsel.dh, rfl⟩))), rfl⟩

theorem selectPeerESPProposal_isFirst {cfg : Config} {sa selected : SA}
    (h : selectPeerESPProposal cfg sa spi wants = .ok (selected, sel)) :
    ∃ prop remote, IsFirst sa.proposals (Acceptable cfg) prop ∧
      selected = ⟨[answerProposal prop spi sel]⟩ ∧
      ReadFrom prop.transforms ⟨[], [], [], []⟩ remote ∧ SelectedFrom remote wants sel := by
  unfold selectPeerESPProposal at h
  split_ifs at h
  cases hfound : matchESPProposals cfg spi wants sa.proposals with
  | none =>
    rw [hfound] at h
    cases h
  | some found =>
    rw [hfound] at h
    obtain rfl := Except.ok.inj h
    obtain ⟨prop, remote, hfirst, hremote, hmatch⟩ := matchESPProposals_isFirst hfound
    exact ⟨prop, remote, hfirst, (matchESP_some hmatch).1, readFrom_of_proposalFromWire hremote,
      matchESP_selectedFrom hmatch⟩

end Swan.Control
