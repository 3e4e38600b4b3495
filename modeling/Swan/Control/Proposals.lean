import Swan.Control.State

/-! # Offered and selected proposals

The SA payloads of the rekey exchanges: what the initiator offers (`appendESPProposalsForRekey`,
`appendIKEProposalsWithSPI`), what a responder selects from it (`selectPeerESPProposal`,
`selectPeerIKEProposal`) and how the initiator maps the answer back onto its own offers
(`decodeChildSelection`, `decodeIKESelectionWithSPI`). -/

namespace Swan.Control

open Swan.Lib Swan.Payload

/-! ### Offers -/

/-- One offered ESP variant. -/
structure CesOffer where
  enc : List Xcrypto.EncryptionID
  integrity : List UInt16
  dh : List UInt16
  omitESN : Bool
  deriving DecidableEq, Repr

def cesEncryptionListIsAEAD (encs : List Xcrypto.EncryptionID) : Bool :=
  encs.any fun e =>
    match Xcrypto.newEncryption e.transformID e.keyLen with
    | .ok alg => alg.aead
    | .error _ => false

def cesSuiteIsAEAD (suite : Xcrypto.Proposal) : Bool := cesEncryptionListIsAEAD suite.encryption

/-- What makes two variants the same; the groups are not part of it. -/
def cesOfferKey (suite : Xcrypto.Proposal) (omitESN : Bool) :
    Bool × List Xcrypto.EncryptionID × List UInt16 :=
  (omitESN, suite.encryption, suite.integrity)

def CesOffer.key (o : CesOffer) : Bool × List Xcrypto.EncryptionID × List UInt16 :=
  (o.omitESN, o.enc, o.integrity)

/-- Add a variant unless one with its key is there. -/
def addOffer (offers : List CesOffer) (suite : Xcrypto.Proposal) (omitESN : Bool) :
    List CesOffer :=
  if cesOfferKey suite omitESN ∈ offers.map CesOffer.key then offers
  else offers ++ [⟨suite.encryption, suite.integrity, suite.dh, omitESN⟩]

/-- The variants of the local ESP proposals in order, with those that omit ESN where the
configuration asks for them. -/
def childOffers (cfg : Config) : Except Err (List CesOffer) :=
  let offers := cfg.esp.foldl (fun offers suite =>
    let offers := addOffer offers suite false
    if cfg.strongswanCompatible ∧ cesSuiteIsAEAD suite then addOffer offers suite true
    else offers) []
  if offers.length = 0 then .error (.errorf "control: esp_suite is required") else .ok offers

def encTransforms : List Xcrypto.EncryptionID → Except Err (List Transform)
  | [] => .ok []
  | e :: es => do
    let alg ← Xcrypto.newEncryption e.transformID e.keyLen
    let ts ← encTransforms es
    .ok (⟨TransformType.enc, e.transformID,
      keyLengthAttr (UInt16.ofNat (alg.transformKeyLen * 8))⟩ :: ts)

def plainTransforms (type : TransformType) (ids : List UInt16) : List Transform :=
  ids.map fun id => ⟨type, id, []⟩

def espOfferTransforms (offer : CesOffer) : Except Err (List Transform) := do
  let encs ← encTransforms offer.enc
  let integs := if cesEncryptionListIsAEAD offer.enc then []
    else plainTransforms TransformType.integ offer.integrity
  let esn := if offer.omitESN then []
    else [⟨TransformType.esn, esnNoExtendedSequenceNumbers, []⟩]
  .ok (encs ++ integs ++ esn)

/-- The transforms of an offer, with its groups last for PFS. -/
def childProposalTransforms (offer : CesOffer) (includeDH : Bool) : Except Err (List Transform) := do
  let transforms ← espOfferTransforms offer
  .ok (transforms ++ if includeDH then plainTransforms TransformType.dh offer.dh else [])

/-- One proposal for each entry of a list, numbered from `num + 1`; the number is one byte. -/
def numberedProposals {α : Type} (transforms : α → Except Err (List Transform)) (protocolID : UInt8)
    (spi : Bytes) : ℕ → List α → Except Err (List Payload.Proposal)
  | _, [] => .ok []
  | num, a :: as => do
    let ts ← transforms a
    let ps ← numberedProposals transforms protocolID spi (num + 1) as
    .ok (⟨UInt8.ofNat (num + 1), protocolID, spi, ts⟩ :: ps)

/-- The proposals of a list of offers, numbered from `num + 1`. -/
def espProposals (spi : UInt32) (includeDH : Bool) : ℕ → List CesOffer →
    Except Err (List Payload.Proposal) :=
  numberedProposals (childProposalTransforms · includeDH) deleteProtocolESP (putUint32 spi)

/-- The SA payload body of the first IKE_AUTH request. -/
def appendESPProposals (cfg : Config) (spi : UInt32) : Except Err Bytes := do
  let offers ← childOffers cfg
  let proposals ← numberedProposals espOfferTransforms deleteProtocolESP (putUint32 spi) 0 offers
  appendSA ⟨proposals⟩

/-- The SA payload body of a child rekey. -/
def appendESPProposalsForRekey (cfg : Config) (spi : UInt32) (includeDH : Bool) :
    Except Err Bytes := do
  let offers ← childOffers cfg
  let proposals ← espProposals spi includeDH 0 offers
  appendSA ⟨proposals⟩

def ikeProposalTransforms (suite : Xcrypto.Proposal) : Except Err (List Transform) := do
  let encs ← encTransforms suite.encryption
  let integs := if cesEncryptionListIsAEAD suite.encryption then []
    else plainTransforms TransformType.integ suite.integrity
  .ok (encs ++ plainTransforms TransformType.prf suite.prf ++ integs ++
    plainTransforms TransformType.dh suite.dh)

/-- The SA payload body of an IKE_SA_INIT request. -/
def appendIKEProposals (cfg : Config) : Except Err Bytes :=
  if cfg.ike.length = 0 then .error (.errorf "control: IKE proposals are required")
  else do
    let proposals ← numberedProposals ikeProposalTransforms deleteProtocolIKE [] 0 cfg.ike
    appendSA ⟨proposals⟩

/-- The local IKE proposals, numbered from `num + 1`. -/
def ikeProposals (spi : UInt64) : ℕ → List Xcrypto.Proposal → Except Err (List Payload.Proposal) :=
  numberedProposals ikeProposalTransforms deleteProtocolIKE (putUint64 spi)

/-- The SA payload body of an IKE rekey. -/
def appendIKEProposalsWithSPI (cfg : Config) (spi : UInt64) : Except Err Bytes :=
  if cfg.ike.length = 0 then .error (.errorf "control: IKE proposals are required")
  else do
    let proposals ← ikeProposals spi 0 cfg.ike
    appendSA ⟨proposals⟩

/-! ### The responder's choice -/

/-- Read the transforms of a peer proposal into a `Proposal`, one after the other. -/
def collectWireTransforms (isIKE : Bool) : List Transform → Xcrypto.Proposal →
    Option Xcrypto.Proposal
  | [], remote => some remote
  | t :: ts, remote =>
    if t.type = TransformType.enc then
      match parseKeyLengthAttr t.attrs with
      | .error _ => none
      | .ok bits =>
        if bits = 0 ∨ bits % 8 ≠ 0 then none
        else collectWireTransforms isIKE ts
          { remote with encryption := remote.encryption ++ [⟨t.id, bits / 8⟩] }
    else if t.type = TransformType.integ then
      if t.attrs.length ≠ 0 then none
      else collectWireTransforms isIKE ts { remote with integrity := remote.integrity ++ [t.id] }
    else if t.type = TransformType.prf then
      if !isIKE ∨ t.attrs.length ≠ 0 then none
      else collectWireTransforms isIKE ts { remote with prf := remote.prf ++ [t.id] }
    else if t.type = TransformType.dh then
      if t.attrs.length ≠ 0 then none
      else collectWireTransforms isIKE ts { remote with dh := remote.dh ++ [t.id] }
    else if t.type = TransformType.esn then
      if isIKE ∨ t.id ≠ esnNoExtendedSequenceNumbers then none
      else collectWireTransforms isIKE ts remote
    else none

/-- A peer proposal as the remote side of a selection. -/
def proposalFromWire (prop : Payload.Proposal) (isIKE : Bool) : Option Xcrypto.Proposal :=
  match collectWireTransforms isIKE prop.transforms ⟨[], [], [], []⟩ with
  | none => none
  | some remote =>
    if remote.encryption.length = 0 ∨ (isIKE ∧ remote.dh.length = 0) then none
    else if isIKE ∧ remote.prf.length = 0 then none
    else some remote

def selectedEncTransform (sel : Xcrypto.Selection) : Transform :=
  ⟨TransformType.enc, sel.encryption.transformID,
    keyLengthAttr (UInt16.ofNat (sel.encryption.transformKeyLen * 8))⟩

def selectedIntegTransforms (sel : Xcrypto.Selection) : List Transform :=
  if sel.encryption.aead then [] else [⟨TransformType.integ, sel.integrity.transformID, []⟩]

def responderSelectedESP (peer : Payload.Proposal) (responseSPI : UInt32)
    (sel : Xcrypto.Selection) : SA :=
  let esn := if ∃ t ∈ peer.transforms, t.type = TransformType.esn ∧
      t.id = esnNoExtendedSequenceNumbers
    then [⟨TransformType.esn, esnNoExtendedSequenceNumbers, []⟩] else []
  let dh := match sel.dh with
    | some dh => [⟨TransformType.dh, dh.transformID, []⟩]
    | none => []
  ⟨[⟨peer.num, deleteProtocolESP, putUint32 responseSPI,
    [selectedEncTransform sel] ++ selectedIntegTransforms sel ++ esn ++ dh⟩]⟩

/-- The SA that answers a peer IKE proposal; a selection without a group is a nil dereference. -/
def responderSelectedIKE (peer : Payload.Proposal) (responseSPI : UInt64)
    (sel : Xcrypto.Selection) : Except Err SA :=
  match sel.dh with
  | none => .error (.panicked "runtime error: invalid memory address or nil pointer dereference")
  | some dh =>
    .ok ⟨[⟨peer.num, deleteProtocolIKE, putUint64 responseSPI,
      [selectedEncTransform sel] ++ selectedIntegTransforms sel ++
        [⟨TransformType.prf, sel.prf.transformID, []⟩] ++
        [⟨TransformType.dh, dh.transformID, []⟩]⟩]⟩

/-- The first local ESP proposal that goes with a peer proposal. The PRF list of `remote` is always
the local one, and the local groups stand in for missing ones; the latter stay for the local
proposals that follow. -/
def matchESP (prop : Payload.Proposal) (responseSPI : UInt32) (wantsDH : Bool) :
    List Xcrypto.Proposal → Xcrypto.Proposal → Option (SA × Xcrypto.Selection)
  | [], _ => none
  | suite :: suites, remote =>
    let remote := { remote with
      prf := suite.prf
      dh := if remote.dh.length = 0 ∧ suite.dh.length > 0 then suite.dh else remote.dh }
    match suite.select remote with
    | .error _ => matchESP prop responseSPI wantsDH suites remote
    | .ok sel =>
      let sel := if wantsDH then sel else { sel with dh := none }
      some (responderSelectedESP prop responseSPI sel, sel)

/-- The first peer ESP proposal that a local one goes with. -/
def matchESPProposals (cfg : Config) (responseSPI : UInt32) (wantsDH : Bool) :
    List Payload.Proposal → Option (SA × Xcrypto.Selection)
  | [] => none
  | prop :: props =>
    if prop.protocolID ≠ deleteProtocolESP ∨ prop.spi.length ≠ 4 then
      matchESPProposals cfg responseSPI wantsDH props
    else
      match proposalFromWire prop false with
      | none => matchESPProposals cfg responseSPI wantsDH props
      | some remote =>
        match matchESP prop responseSPI wantsDH cfg.esp remote with
        | some found => some found
        | none => matchESPProposals cfg responseSPI wantsDH props

def selectPeerESPProposal (cfg : Config) (sa : SA) (responseSPI : UInt32) (wantsDH : Bool) :
    Except Err (SA × Xcrypto.Selection) :=
  if cfg.esp.length = 0 then .error (.errorf "control: ESP proposals are required")
  else
    match matchESPProposals cfg responseSPI wantsDH sa.proposals with
    | some found => .ok found
    | none => .error (.errorf "control: no compatible peer ESP proposal")

/-- The first local proposal that goes with a remote one. -/
def matchIKE (remote : Xcrypto.Proposal) : List Xcrypto.Proposal → Option Xcrypto.Selection
  | [] => none
  | suite :: suites =>
    match suite.select remote with
    | .error _ => matchIKE remote suites
    | .ok sel => some sel

/-- The first peer IKE proposal that a local one goes with. -/
def matchIKEProposals (cfg : Config) : List Payload.Proposal →
    Option (Payload.Proposal × Xcrypto.Selection)
  | [] => none
  | prop :: props =>
    if prop.protocolID ≠ deleteProtocolIKE ∨ prop.spi.length ≠ 8 then matchIKEProposals cfg props
    else
      match proposalFromWire prop true with
      | none => matchIKEProposals cfg props
      | some remote =>
        match matchIKE remote cfg.ike with
        | some sel => some (prop, sel)
        | none => matchIKEProposals cfg props

/-- The answer to a peer IKE proposal, the algorithms and the peer's new SPI. -/
def selectPeerIKEProposal (cfg : Config) (sa : SA) (responseSPI : UInt64) :
    Except Err (SA × Xcrypto.Selection × UInt64) :=
  if cfg.ike.length = 0 then .error (.errorf "control: IKE proposals are required")
  else
    match matchIKEProposals cfg sa.proposals with
    | some (prop, sel) => do
      let selected ← responderSelectedIKE prop responseSPI sel
      .ok (selected, sel, beUint64 prop.spi)
    | none => .error (.errorf "control: no compatible peer IKE proposal")

/-- What a selection for the local ESP proposals `suites` is: registered, with a function that one of
them lists. -/
structure SelectsESP (suites : List Xcrypto.Proposal) (sel : Xcrypto.Selection) : Prop where
  registered : sel.Registered
  prf : ∃ suite ∈ suites, ∃ id ∈ suite.prf, Xcrypto.newPRF id = .ok sel.prf

variable {responseSPI : UInt32} {wantsDH : Bool} {selected : SA} {sel : Xcrypto.Selection}
  {cfg : Config}

theorem matchESP_some {prop : Payload.Proposal} : ∀ {suites : List Xcrypto.Proposal}
      {remote : Xcrypto.Proposal},
      matchESP prop responseSPI wantsDH suites remote = some (selected, sel) →
        selected = responderSelectedESP prop responseSPI sel ∧ SelectsESP suites sel
  | suite :: suites, remote, h => by
    rw [matchESP] at h
    split at h
    · obtain ⟨hselected, hreg, suite', hmem, hprf⟩ := matchESP_some h
      exact ⟨hselected, hreg, suite', List.mem_cons_of_mem _ hmem, hprf⟩
    next sel' hsel =>
    obtain ⟨hreg, -, hprf⟩ := Xcrypto.Proposal.select_ok hsel
    cases wantsDH with
    | true =>
      obtain ⟨rfl, rfl⟩ := Prod.mk.inj (Option.some.inj h)
      exact ⟨rfl, hreg, suite, List.mem_cons_self, hprf⟩
    | false =>
      obtain ⟨rfl, rfl⟩ := Prod.mk.inj (Option.some.inj h)
      exact ⟨rfl, ⟨hreg.encryption, hreg.integrity, hreg.aead, hreg.prf⟩, suite,
        List.mem_cons_self, hprf⟩

theorem matchESPProposals_some : ∀ {props : List Payload.Proposal},
      matchESPProposals cfg responseSPI wantsDH props = some (selected, sel) →
        ∃ peer, selected = responderSelectedESP peer responseSPI sel ∧ SelectsESP cfg.esp sel
  | prop :: props, h => by
    rw [matchESPProposals] at h
    split_ifs at h
    · exact matchESPProposals_some h
    split at h
    · exact matchESPProposals_some h
    split at h
    next hfound =>
      obtain rfl := Option.some.inj h
      exact ⟨prop, matchESP_some hfound⟩
    · exact matchESPProposals_some h

theorem selectPeerESPProposal_ok {sa : SA}
    (h : selectPeerESPProposal cfg sa responseSPI wantsDH = .ok (selected, sel)) :
    ∃ peer, selected = responderSelectedESP peer responseSPI sel ∧ SelectsESP cfg.esp sel := by
  unfold selectPeerESPProposal at h
  split_ifs at h
  split at h
  next hfound =>
    obtain rfl := Except.ok.inj h
    exact matchESPProposals_some hfound
  · cases h

theorem errorf_of_selectPeerESPProposal {sa : SA} {e : Err}
    (h : selectPeerESPProposal cfg sa responseSPI wantsDH = .error e) :
    ∃ t, e = .errorf t := by
  unfold selectPeerESPProposal at h
  split_ifs at h
  · exact ⟨_, (Except.error.inj h).symm⟩
  split at h
  · cases h
  · exact ⟨_, (Except.error.inj h).symm⟩

/-- What a selection for IKE is: registered, with the only group. -/
structure SelectsIKE (sel : Xcrypto.Selection) : Prop where
  registered : sel.Registered
  dh : sel.dh = some ⟨Xcrypto.transformDHCurve25519, "curve25519"⟩

theorem selectsIKE_of_select {p remote : Xcrypto.Proposal} (h : p.select remote = .ok sel) :
    SelectsIKE sel :=
  have hsel := Xcrypto.Proposal.select_ok h
  ⟨hsel.1, hsel.2.1⟩

theorem matchIKE_some {remote : Xcrypto.Proposal} :
    ∀ {suites : List Xcrypto.Proposal}, matchIKE remote suites = some sel → SelectsIKE sel
  | suite :: suites, h => by
    rw [matchIKE] at h
    split at h
    · exact matchIKE_some h
    next hsel =>
      obtain rfl := Option.some.inj h
      exact selectsIKE_of_select hsel

theorem matchIKEProposals_some {prop : Payload.Proposal} :
    ∀ {props : List Payload.Proposal}, matchIKEProposals cfg props = some (prop, sel) →
      prop ∈ props ∧ SelectsIKE sel
  | p :: props, h => by
    have hrest : matchIKEProposals cfg props = some (prop, sel) →
        prop ∈ p :: props ∧ SelectsIKE sel := fun h =>
      (matchIKEProposals_some h).imp_left (List.mem_cons_of_mem _)
    rw [matchIKEProposals] at h
    split_ifs at h
    · exact hrest h
    split at h
    · exact hrest h
    split at h
    next hfound =>
      obtain ⟨rfl, rfl⟩ := Prod.mk.inj (Option.some.inj h)
      exact ⟨List.mem_cons_self, matchIKE_some hfound⟩
    · exact hrest h

theorem selectPeerIKEProposal_cases (cfg : Config) (sa : SA) (responseSPI : UInt64) :
    (∃ t, selectPeerIKEProposal cfg sa responseSPI = .error (.errorf t)) ∨
    ∃ selected sel, ∃ peer ∈ sa.proposals,
      selectPeerIKEProposal cfg sa responseSPI = .ok (selected, sel, beUint64 peer.spi) ∧
      responderSelectedIKE peer responseSPI sel = .ok selected ∧ SelectsIKE sel := by
  unfold selectPeerIKEProposal
  split_ifs
  · exact .inl ⟨_, rfl⟩
  split
  next prop sel hfound =>
    obtain ⟨hmem, hsel⟩ := matchIKEProposals_some hfound
    obtain ⟨selected, hselected⟩ : ∃ selected, responderSelectedIKE prop responseSPI sel =
        .ok selected := ⟨_, by rw [responderSelectedIKE, hsel.dh]⟩
    exact .inr ⟨selected, sel, prop, hmem, by rw [hselected]; rfl, hselected, hsel⟩
  · exact .inl ⟨_, rfl⟩

theorem appendSA_responderSelectedESP (peer : Payload.Proposal) (responseSPI : UInt32)
    (sel : Xcrypto.Selection) :
    ∃ b, appendSA (responderSelectedESP peer responseSPI sel) = .ok b ∧ b.length ≤ 64 := by
  refine appendSA_singleton ?_ ?_ ?_
  · simp
  · unfold selectedIntegTransforms
    split_ifs <;> rcases sel.dh with _ | dh <;> simp
  · unfold selectedIntegTransforms
    split_ifs <;> rcases sel.dh with _ | dh <;> simp [selectedEncTransform, keyLengthAttr]

theorem appendSA_responderSelectedIKE {peer : Payload.Proposal} {responseSPI : UInt64}
    (h : responderSelectedIKE peer responseSPI sel = .ok selected) :
    ∃ b, appendSA selected = .ok b ∧ b.length ≤ 64 := by
  unfold responderSelectedIKE at h
  split at h
  · cases h
  obtain rfl := Except.ok.inj h
  refine appendSA_singleton ?_ ?_ ?_
  · simp
  · unfold selectedIntegTransforms
    split_ifs <;> simp
  · unfold selectedIntegTransforms
    split_ifs <;> simp [selectedEncTransform, keyLengthAttr]

/-- The ESP SPI of the first proposal, 0 if it has none. -/
def selectedPeerOutboundSPI (sa : SA) : UInt32 :=
  match sa.proposals with
  | [] => 0
  | p :: _ => if p.spi.length ≠ 4 then 0 else beUint32 p.spi

/-! ### The initiator's reading of the answer -/

/-- The transforms of a selected ESP proposal. -/
structure ChildTransforms where
  enc : Option Xcrypto.EncryptionID
  integ : Option UInt16
  esn : Option UInt16
  /-- 0 while there was none. -/
  dhID : UInt16
  deriving DecidableEq, Repr

def decodeChildTransforms : List Transform → ChildTransforms → Except Err ChildTransforms
  | [], acc => .ok acc
  | t :: ts, acc =>
    if t.type = TransformType.dh then
      if t.attrs.length ≠ 0 then
        .error (.errorf "control: unexpected DH attributes in CHILD_SA selection")
      else if acc.dhID ≠ 0 then
        .error (.errorf "control: multiple DH transforms in CHILD_SA selection")
      else decodeChildTransforms ts { acc with dhID := t.id }
    else if t.type = TransformType.enc then
      if acc.enc.isSome then
        .error (.errorf "control: multiple ENCR transforms in CHILD_SA selection")
      else do
        let keyBits ← parseKeyLengthAttr t.attrs
        if keyBits = 0 ∨ keyBits % 8 ≠ 0 then
          .error (.errorf "control: invalid CHILD_SA encryption key length")
        else decodeChildTransforms ts { acc with enc := some ⟨t.id, keyBits / 8⟩ }
    else if t.type = TransformType.integ then
      if acc.integ.isSome then
        .error (.errorf "control: multiple INTEG transforms in CHILD_SA selection")
      else decodeChildTransforms ts { acc with integ := some t.id }
    else if t.type = TransformType.esn then
      if acc.esn.isSome then
        .error (.errorf "control: multiple ESN transforms in CHILD_SA selection")
      else decodeChildTransforms ts { acc with esn := some t.id }
    else .error (.errorf s!"control: unexpected transform type {t.type} in CHILD_SA selection")

/-- The integrity transform that goes with the selected cipher. -/
def decodeChildIntegrity (offer : CesOffer) (enc : Xcrypto.EncryptionAlg) (integ : Option UInt16) :
    Except Err Xcrypto.Integrity :=
  if enc.aead then
    if integ.isSome then
      .error (.errorf "control: AEAD CHILD_SA selection must not include integrity")
    else Xcrypto.newIntegrity Xcrypto.transformIntegrityNone
  else
    match integ with
    | none => .error (.errorf "control: CHILD_SA selection missing integrity transform")
    | some integID =>
      if integID ∉ offer.integrity then
        .error (.errorf s!"control: CHILD_SA selected an unoffered integrity transform {integID}")
      else Xcrypto.newIntegrity integID

/-- The group of the child: that of the IKE SA unless the answer has its own. -/
def decodeChildDH (ike : Xcrypto.Selection) (dhID : UInt16) : Except Err (Option Xcrypto.DH) :=
  if dhID = 0 then .ok ike.dh
  else if dhID ≠ Xcrypto.transformDHCurve25519 then
    .error (.errorf s!"control: unsupported CHILD_SA DH group {dhID}")
  else .ok (some ⟨dhID, "curve25519"⟩)

def decodeChildAlgorithms (selectedIKE : Option Xcrypto.Selection) (offer : CesOffer)
    (acc : ChildTransforms) : Except Err Xcrypto.Selection :=
  match acc.enc with
  | none => .error (.errorf "control: CHILD_SA selection missing ENCR transform")
  | some e =>
    if e ∉ offer.enc then
      .error (.errorf (s!"control: CHILD_SA selected an unoffered encryption transform " ++
        s!"{e.transformID}/{e.keyLen}"))
    else do
      let enc ← wrap s!"control: CHILD_SA encryption {e.transformID}/{e.keyLen}: "
        (Xcrypto.newEncryption e.transformID e.keyLen)
      let integ ← decodeChildIntegrity offer enc acc.integ
      match acc.esn.filter (· ≠ esnNoExtendedSequenceNumbers) with
      | some esn => .error (.errorf s!"control: unsupported CHILD_SA ESN mode {esn}")
      | none =>
        match selectedIKE with
        | none => .error (.errorf "control: IKE proposal missing before CHILD_SA selection")
        | some ike => do
          let dh ← decodeChildDH ike acc.dhID
          .ok ⟨enc, integ, ike.prf, dh⟩

/-- The peer SPI and the algorithms of the proposal that the responder chose. -/
def decodeChildSelection (cfg : Config) (selectedIKE : Option Xcrypto.Selection) (sa : SA) :
    Except Err (UInt32 × Xcrypto.Selection) :=
  match sa.proposals with
  | [prop] =>
    if prop.protocolID ≠ deleteProtocolESP then
      .error (.errorf s!"control: unexpected CHILD_SA proposal protocol {prop.protocolID}")
    else if prop.spi.length ≠ 4 then
      .error (.errorf "control: CHILD_SA proposal SPI size mismatch")
    else do
      let offers ← childOffers cfg
      match if prop.num = 0 then none else offers[prop.num.toNat - 1]? with
      | none => .error (.errorf
          s!"control: peer selected an unoffered CHILD_SA proposal number {prop.num}")
      | some offer => do
        let acc ← decodeChildTransforms prop.transforms ⟨none, none, none, 0⟩
        let sel ← decodeChildAlgorithms selectedIKE offer acc
        .ok (beUint32 prop.spi, sel)
  | ps => .error (.errorf s!"control: unexpected CHILD_SA proposal count {ps.length}")

def decodeIKETransforms : List Transform → Xcrypto.Proposal → Except Err Xcrypto.Proposal
  | [], remote => .ok remote
  | t :: ts, remote =>
    if t.type = TransformType.enc then do
      let bits ← wrap "control: selected encryption transform: " (parseKeyLengthAttr t.attrs)
      if bits = 0 ∨ bits % 8 ≠ 0 then
        .error (.errorf s!"control: invalid selected encryption key length {bits}")
      else
        decodeIKETransforms ts { remote with encryption := remote.encryption ++ [⟨t.id, bits / 8⟩] }
    else if t.type = TransformType.integ then
      if t.attrs.length ≠ 0 then
        .error (.errorf "control: unexpected integrity attributes in selected IKE proposal")
      else decodeIKETransforms ts { remote with integrity := remote.integrity ++ [t.id] }
    else if t.type = TransformType.prf then
      if t.attrs.length ≠ 0 then
        .error (.errorf "control: unexpected PRF attributes in selected IKE proposal")
      else decodeIKETransforms ts { remote with prf := remote.prf ++ [t.id] }
    else if t.type = TransformType.dh then
      if t.attrs.length ≠ 0 then
        .error (.errorf "control: unexpected DH attributes in selected IKE proposal")
      else decodeIKETransforms ts { remote with dh := remote.dh ++ [t.id] }
    else if t.type = TransformType.esn then
      .error (.errorf "control: unexpected ESN transform in selected IKE proposal")
    else .error (.errorf s!"control: unexpected transform type {t.type} in selected IKE proposal")

/-- Whether a selection has exactly the transforms of the answer. -/
def selectionMatchesIKE (sel : Xcrypto.Selection) (enc : Xcrypto.EncryptionID)
    (integrity : List UInt16) (prf dh : UInt16) : Bool :=
  decide (sel.encryption.transformID = enc.transformID ∧
    sel.encryption.transformKeyLen = enc.keyLen.toNat) &&
  (if sel.encryption.aead then decide (integrity.length = 0)
    else decide (integrity = [sel.integrity.transformID])) &&
  decide (sel.prf.transformID = prf ∧ sel.dh.map Xcrypto.DH.transformID = some dh)

def decodeSelectedIKE (cfg : Config) (sp : Payload.Proposal) : Except Err Xcrypto.Selection :=
  match if sp.num = 0 then none else cfg.ike[sp.num.toNat - 1]? with
  | none => .error (.errorf s!"control: peer selected unoffered IKE proposal number {sp.num}")
  | some suite => do
    let remote ← decodeIKETransforms sp.transforms ⟨[], [], [], []⟩
    let selection ← wrap "control: peer selected unsupported IKE proposal: "
      (suite.select remote)
    match remote.encryption, remote.prf, remote.dh with
    | [enc], [prf], [dh] =>
      if selectionMatchesIKE selection enc remote.integrity prf dh then .ok selection
      else .error (.errorf
        "control: peer selected transforms do not match the offered IKE proposal")
    | _, _, _ => .error (.errorf "control: selected IKE proposal missing unique transforms")

/-- The algorithms of an IKE_SA_INIT answer. -/
def decodeIKESelection (cfg : Config) (sp : Payload.Proposal) : Except Err Xcrypto.Selection :=
  if sp.protocolID ≠ deleteProtocolIKE ∨ sp.spi.length ≠ 0 then
    .error (.errorf "control: invalid selected IKE proposal header")
  else decodeSelectedIKE cfg sp

/-- The new responder SPI and the algorithms of an IKE rekey answer. -/
def decodeIKESelectionWithSPI (cfg : Config) (sp : Payload.Proposal) :
    Except Err (UInt64 × Xcrypto.Selection) :=
  if sp.protocolID ≠ deleteProtocolIKE ∨ sp.spi.length ≠ 8 then
    .error (.errorf "control: invalid selected IKE rekey proposal header")
  else do
    let sel ← decodeSelectedIKE cfg sp
    .ok (beUint64 sp.spi, sel)

end Swan.Control
