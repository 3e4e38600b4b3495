import Swan.Control.Handshake.Receive
import Swan.Control.Negotiation

/-! # The child SA that the initiator accepts

An offer is sent as the SA payload of the first IKE_AUTH request and of a child rekey; an answer picks
one proposal of it by its number. The decoder rebuilds the offer from the configuration, and it does
not compare everything: a DH transform is looked at only for its id, whether or not one was offered or
is missing. `esp_choice_iff`: an accepted answer is a choice from the proposal that was sent exactly if
it also fits the offer where the decoder does not look. -/

namespace Swan.Control.Handshake

open Swan.Lib Swan.Wire Swan.Payload Swan.Xcrypto

/-! ### The final response -/

section Accepted

variable [Pki] [Crypto] {cfg : HandshakeConfig}

/-- The child SA of a final response with the fields `f`: `s₁` is the state after the responder was
authenticated. -/
structure AcceptsFinal (cfg : HandshakeConfig) (m : Message) (s : State) (f : FinalFields) (sa : SA)
    (negotiating : NegotiatingChildSA) (peerSPI : UInt32) (sel : Selection)
    (assigned : AssignedConfig) (s₁ : State) (child : ChildSA) (s' : State) : Prop where
  negotiated : s.negotiatingChild = some negotiating
  fields : collectFinalPayloads m.payloads noFinalFields = .ok f
  authenticated : (authenticatePeer cfg f).run s = (.ok (), s₁)
  payload : f.sa = some sa
  selection : decodeChildSelection cfg.toConfig s.selectedIKE sa = .ok (peerSPI, sel)
  installed : child = ⟨negotiating.inboundSPI, peerSPI, f.tsi, f.tsr, true⟩
  checked : ∃ cfgSet, checkAssigned f = .ok (assigned, cfgSet)
  state : s' = installChild assigned child { s₁ with selectedESP := some sel }

theorem processFinalAuth_ok {m : Message} {s s' : State} {child : ChildSA} {cfgSet : Bool}
    (h : (processFinalAuth cfg m).run s = (.ok (child, cfgSet), s')) :
    ∃ f sa negotiating peerSPI sel assigned s₁,
      AcceptsFinal cfg m s f sa negotiating peerSPI sel assigned s₁ child s' := by
  have h := Eff.run_get_bind_ok h
  cases hneg : s.negotiatingChild with
  | none =>
    rw [hneg] at h
    cases h
  | some negotiating =>
    rw [hneg] at h
    obtain ⟨f, hfields, h⟩ := Eff.run_lift_bind_ok h
    obtain ⟨u, s₁, hauth, h⟩ := Eff.run_bind_ok h
    cases hsa : f.sa with
    | none =>
      rw [hsa] at h
      dsimp only at h
      split at h <;> cases h
    | some sa =>
      rw [hsa] at h
      obtain ⟨⟨peerSPI, sel⟩, hsel, h⟩ := Eff.run_lift_bind_ok h
      obtain ⟨v, -, h⟩ := Eff.run_lift_bind_ok h
      have h := Eff.run_modify_bind_ok h
      obtain ⟨⟨assigned, cfgSet⟩, hassigned, h⟩ := Eff.run_lift_bind_ok h
      have h := Eff.run_modify_bind_ok h
      cases h
      exact ⟨f, sa, negotiating, peerSPI, sel, assigned, s₁, hneg, hfields, hauth, hsa, hsel, rfl,
        ⟨cfgSet, hassigned⟩, rfl⟩

end Accepted

end Swan.Control.Handshake

namespace Swan.Control

open Swan.Lib Swan.Wire Swan.Payload Swan.Xcrypto

/-! ### What is sent -/

theorem appendESPProposals_eq (cfg : Config) (spi : UInt32) :
    appendESPProposals cfg spi = appendESPProposalsForRekey cfg spi false := by
  have htransforms : espOfferTransforms = (childProposalTransforms · false) := by
    funext offer
    simp only [childProposalTransforms, Bool.false_eq_true, if_false, List.append_nil]
    cases espOfferTransforms offer <;> rfl
  simp only [appendESPProposals, appendESPProposalsForRekey, espProposals, htransforms]

theorem length_numberedProposals {α : Type} {transforms : α → Except Err (List Transform)}
    {protocolID : UInt8} {spi : Bytes} : ∀ {as : List α} {num : ℕ} {sent : List Payload.Proposal},
      numberedProposals transforms protocolID spi num as = .ok sent → sent.length = as.length
  | [], num, sent, h => by
    obtain rfl := Except.ok.inj h
    rfl
  | a :: as, num, sent, h => by
    obtain ⟨ts, -, h⟩ := bind_eq_ok.mp h
    obtain ⟨ps, hps, h⟩ := bind_eq_ok.mp h
    obtain rfl := Except.ok.inj h
    rw [List.length_cons, List.length_cons, length_numberedProposals hps]

/-- Only offers with an AEAD cipher leave the ESN transform out. -/
def EsnOrAEAD (offer : CesOffer) : Prop :=
  offer.omitESN = true → cesEncryptionListIsAEAD offer.enc = true

theorem esnOrAEAD_of_addOffer {offers : List CesOffer} (h : ∀ o ∈ offers, EsnOrAEAD o)
    {suite : Xcrypto.Proposal} {omitESN : Bool} (hsuite : omitESN = true → cesSuiteIsAEAD suite = true) :
    ∀ o ∈ addOffer offers suite omitESN, EsnOrAEAD o := by
  intro o ho
  rw [addOffer] at ho
  split_ifs at ho
  · exact h o ho
  · rcases List.mem_append.mp ho with ho | ho
    · exact h o ho
    · obtain rfl := List.mem_singleton.mp ho
      exact hsuite

theorem esnOrAEAD_of_childOffers {cfg : Config} {offers : List CesOffer}
    (h : childOffers cfg = .ok offers) : ∀ o ∈ offers, EsnOrAEAD o := by
  rw [childOffers] at h
  dsimp only at h
  split_ifs at h
  obtain rfl := Except.ok.inj h
  refine List.foldlRecOn (motive := fun offers => ∀ o ∈ offers, EsnOrAEAD o) cfg.esp _ (by simp)
    fun offers ih suite _ => ?_
  have hplain : ∀ o ∈ addOffer offers suite false, EsnOrAEAD o := esnOrAEAD_of_addOffer ih (by simp)
  split_ifs with hcompat
  · exact esnOrAEAD_of_addOffer hplain fun _ => hcompat.2
  · exact hplain

theorem ne_nil_of_childProposalTransforms {offer : CesOffer} (hoffer : EsnOrAEAD offer)
    {includeDH : Bool} {sent : List Transform}
    (h : childProposalTransforms offer includeDH = .ok sent) : sent ≠ [] := by
  rw [childProposalTransforms_ok h]
  cases hesn : offer.omitESN with
  | false => simp
  | true =>
    obtain ⟨e, he, -⟩ := List.any_eq_true.mp (hoffer hesn)
    simp [List.ne_nil_of_mem he]

theorem parseSA_appendESPProposals {cfg : Config} {spi : UInt32} {includeDH : Bool} {body : Bytes}
    (h : appendESPProposalsForRekey cfg spi includeDH = .ok body) :
    ∃ offers sent, childOffers cfg = .ok offers ∧
      espProposals spi includeDH 0 offers = .ok sent ∧ parseSA body = .ok ⟨sent⟩ := by
  obtain ⟨offers, hoffers, h⟩ := bind_eq_ok.mp h
  obtain ⟨sent, hsent, h⟩ := bind_eq_ok.mp h
  refine ⟨offers, sent, hoffers, hsent, parseSA_appendSA ?_ (fun p hp => ?_) h⟩
  · have hne : offers.length ≠ 0 := by
      rw [childOffers] at hoffers
      dsimp only at hoffers
      split_ifs at hoffers with hlen
      obtain rfl := Except.ok.inj hoffers
      exact hlen
    rw [← length_numberedProposals hsent] at hne
    exact List.ne_nil_of_length_pos (Nat.pos_of_ne_zero hne)
  · obtain ⟨i, hi⟩ := List.mem_iff_getElem?.mp hp
    obtain ⟨-, offer, hoffer, htransforms⟩ := getElem?_numberedProposals hsent hi
    exact ne_nil_of_childProposalTransforms
      (esnOrAEAD_of_childOffers hoffers offer (List.mem_of_getElem? hoffer)) htransforms

/-! ### What is accepted -/

/-- The accepted proposal is a choice from the one that was sent under its number. -/
def ChosenFromOffer (body : Bytes) (prop : Payload.Proposal) : Prop :=
  ∃ sa p, parseSA body = .ok sa ∧ sa.proposals[prop.num.toNat - 1]? = some p ∧ p.num = prop.num ∧
    PicksESP p.transforms prop.transforms

/-- The accepted proposal fits the offer of its number where the decoder does not look. -/
def FitsAnswer (cfg : Config) (includeDH : Bool) (prop : Payload.Proposal) : Prop :=
  ∃ offers offer, childOffers cfg = .ok offers ∧ offers[prop.num.toNat - 1]? = some offer ∧
    FitsOffer offer includeDH prop.transforms

theorem chosenFromOffer_iff {cfg : Config} {ike : Option Selection} {sa : SA} {peerSPI : UInt32}
    {sel : Selection} (hdecode : decodeChildSelection cfg ike sa = .ok (peerSPI, sel)) :
    ∃ prop, sa = ⟨[prop]⟩ ∧ ∀ includeDH spi body,
      appendESPProposalsForRekey cfg spi includeDH = .ok body →
        (ChosenFromOffer body prop ↔ FitsAnswer cfg includeDH prop) := by
  obtain ⟨prop, offer, acc, rfl, -, hdec⟩ := decodeChildSelection_ok hdecode
  refine ⟨prop, rfl, fun includeDH spi body hbody => ?_⟩
  obtain ⟨offers, hoffers, hoffer⟩ := hdec.offered
  obtain ⟨ike', e, -, halg⟩ := algorithmsESP_of_decode hdec.algorithms
  obtain ⟨offers', sent, hoffers', hsent, hparse⟩ := parseSA_appendESPProposals hbody
  obtain rfl : offers' = offers := Except.ok.inj (hoffers'.symm.trans hoffers)
  -- the proposal of the number is the one that the offer of the number was sent as
  have hlen : prop.num.toNat - 1 < sent.length := by
    rw [length_numberedProposals hsent]
    exact (List.getElem?_eq_some_iff.mp hoffer).1
  have hget := List.getElem?_eq_getElem hlen
  obtain ⟨hnum, offer', hoffer', htransforms⟩ := getElem?_numberedProposals hsent hget
  obtain rfl : offer' = offer := Option.some.inj (hoffer'.symm.trans hoffer)
  have hpos : 0 < prop.num.toNat := by
    refine Nat.pos_of_ne_zero fun h0 => hdec.num ?_
    exact UInt8.toNat_inj.mp h0
  have hnum' : (sent.get ⟨prop.num.toNat - 1, hlen⟩).num = prop.num := by
    refine hnum.trans ?_
    rw [show 0 + (prop.num.toNat - 1) + 1 = prop.num.toNat by omega, UInt8.ofNat_toNat]
  have hpicks := picksESP_iff halg (decodesESP_of_decode hdec.transforms) htransforms
  constructor
  · rintro ⟨sa, p, hsa, hp, -, hpick⟩
    obtain rfl := Except.ok.inj (hparse.symm.trans hsa)
    obtain rfl := Option.some.inj (hget.symm.trans hp)
    exact ⟨offers', offer', hoffers, hoffer, hpicks.mp hpick⟩
  · rintro ⟨offers'', offer'', hoffers'', hoffer'', hfits⟩
    obtain rfl := Except.ok.inj (hoffers''.symm.trans hoffers)
    obtain rfl := Option.some.inj (hoffer''.symm.trans hoffer)
    exact ⟨⟨sent⟩, _, hparse, hget, hnum', hpicks.mpr hfits⟩

/-! ### The two exchanges -/

def lastSA (sa : Option SA) (p : Wire.Payload) : Option SA :=
  if p.type = PayloadType.sa then (parseSA p.body).toOption else sa

def answeredSA (ps : List Wire.Payload) : Option SA := ps.foldl lastSA none

theorem collectFinalPayload_sa {p : Wire.Payload} {f f' : Handshake.FinalFields}
    (h : Handshake.collectFinalPayload p f = .ok f') : f'.sa = lastSA f.sa p := by
  unfold Handshake.collectFinalPayload at h
  by_cases hsa : p.type = PayloadType.sa
  · rw [hsa] at h
    obtain ⟨sa, hparse, h⟩ := bind_eq_ok.mp h
    obtain rfl := Except.ok.inj h
    rw [lastSA, if_pos hsa, hparse]
    rfl
  rw [lastSA, if_neg hsa]
  split_ifs at h
  · obtain ⟨a, -, h⟩ := bind_eq_ok.mp h
    obtain rfl := Except.ok.inj h
    rfl
  · obtain rfl := Except.ok.inj h
    rfl
  · obtain rfl := Except.ok.inj h
    rfl
  · obtain ⟨c, -, h⟩ := bind_eq_ok.mp h
    obtain ⟨der, -, h⟩ := bind_eq_ok.mp h
    obtain rfl := Except.ok.inj h
    rfl
  · obtain rfl := Except.ok.inj h
    rfl
  · obtain rfl := Except.ok.inj h
    rfl
  · obtain rfl := Except.ok.inj h
    rfl
  · obtain ⟨n, -, h⟩ := bind_eq_ok.mp h
    unfold Handshake.collectFinalNotify at h
    dsimp only at h
    split_ifs at h <;> obtain rfl := Except.ok.inj h <;> rfl
  · obtain rfl := Except.ok.inj h
    rfl

theorem collectFinalPayloads_sa : ∀ {ps : List Wire.Payload} {f f' : Handshake.FinalFields},
    Handshake.collectFinalPayloads ps f = .ok f' → f'.sa = ps.foldl lastSA f.sa
  | [], f, f', h => by
    obtain rfl := Except.ok.inj h
    rfl
  | p :: ps, f, f', h => by
    obtain ⟨f₁, hp, h⟩ := bind_eq_ok.mp h
    rw [collectFinalPayloads_sa h, collectFinalPayload_sa hp, List.foldl_cons]

theorem collectAnswer_lastSA {what : String}
    {other : Wire.Payload → RekeyAnswer → Except Err RekeyAnswer}
    (hother : ∀ {p acc acc'}, other p acc = .ok acc' → acc'.sa = acc.sa) :
    ∀ {ps : List Wire.Payload} {acc acc' : RekeyAnswer},
      collectAnswer what other ps acc = .ok acc' → acc'.sa = ps.foldl lastSA acc.sa
  | [], acc, acc', h => by
    obtain rfl := Except.ok.inj h
    rfl
  | p :: ps, acc, acc', h => by
    obtain ⟨acc₁, hp, h⟩ := bind_eq_ok.mp h
    rw [collectAnswer_lastSA hother h, List.foldl_cons]
    congr 1
    unfold answerPayload at hp
    by_cases hsa : p.type = PayloadType.sa
    · rw [if_pos hsa] at hp
      split_ifs at hp
      obtain ⟨sa, hparse, hp⟩ := bind_eq_ok.mp hp
      obtain rfl := Except.ok.inj hp
      rw [lastSA, if_pos hsa, hparse]
      rfl
    rw [if_neg hsa] at hp
    rw [lastSA, if_neg hsa]
    split_ifs at hp
    · obtain ⟨nr, -, hp⟩ := bind_eq_ok.mp hp
      obtain rfl := Except.ok.inj hp
      rfl
    · obtain ⟨ker, -, hp⟩ := bind_eq_ok.mp hp
      obtain rfl := Except.ok.inj hp
      rfl
    · exact hother hp

theorem childAnswerOther_sa {p : Wire.Payload} {acc acc' : RekeyAnswer}
    (h : childAnswerOther p acc = .ok acc') : acc'.sa = acc.sa := by
  unfold childAnswerOther at h
  split_ifs at h <;> obtain rfl := Except.ok.inj h <;> rfl

theorem parseChildRekeyResponse_selection {cfg : Config} {ike : Option Selection}
    {inner : List Wire.Payload} {resp : ChildRekeyResponse}
    (h : parseChildRekeyResponse cfg ike inner = .ok resp) :
    ∃ sa, answeredSA inner = some sa ∧
      decodeChildSelection cfg ike sa = .ok (resp.peerSPI, resp.selection) := by
  obtain ⟨a, hcollect, h⟩ := bind_eq_ok.mp h
  cases hsa : a.sa with
  | none =>
    rw [hsa] at h
    cases h
  | some sa =>
    cases hnr : a.nr with
    | none =>
      rw [hsa, hnr] at h
      cases h
    | some nr =>
      rw [hsa, hnr] at h
      dsimp only at h
      split_ifs at h
      obtain ⟨⟨peerSPI, sel⟩, hdecode, h⟩ := bind_eq_ok.mp h
      obtain rfl := Except.ok.inj h
      exact ⟨sa, (collectAnswer_lastSA childAnswerOther_sa hcollect).symm.trans hsa, hdecode⟩

/-- **Which accepted answers are a choice from what was sent**, in the final IKE_AUTH exchange and in a
child rekey: those that also fit the offer where the decoder does not look. -/
theorem esp_choice_iff [Pki] [Crypto] (cfg : HandshakeConfig) :
    (∀ m s s' r, (Handshake.processFinalAuth cfg m).run s = (.ok r, s') →
      ∃ prop, answeredSA m.payloads = some ⟨[prop]⟩ ∧ ∀ spi body,
        appendESPProposals cfg.toConfig spi = .ok body →
          (ChosenFromOffer body prop ↔ FitsAnswer cfg.toConfig false prop)) ∧
    ∀ ike inner resp, parseChildRekeyResponse cfg.toConfig ike inner = .ok resp →
      ∃ prop, answeredSA inner = some ⟨[prop]⟩ ∧ ∀ spi body,
        appendESPProposalsForRekey cfg.toConfig spi cfg.rekey.childPFS = .ok body →
          (ChosenFromOffer body prop ↔ FitsAnswer cfg.toConfig cfg.rekey.childPFS prop) := by
  constructor
  · intro m s s' r hrun
    obtain ⟨child, cfgSet⟩ := r
    obtain ⟨f, sa, negotiating, peerSPI, sel, assigned, s₁, hacc⟩ :=
      Handshake.processFinalAuth_ok hrun
    obtain ⟨prop, rfl, hiff⟩ := chosenFromOffer_iff hacc.selection
    refine ⟨prop, (collectFinalPayloads_sa hacc.fields).symm.trans hacc.payload,
      fun spi body hbody => hiff false spi body ?_⟩
    rwa [← appendESPProposals_eq]
  · intro ike inner resp hresp
    obtain ⟨sa, hsa, hdecode⟩ := parseChildRekeyResponse_selection hresp
    obtain ⟨prop, rfl, hiff⟩ := chosenFromOffer_iff hdecode
    exact ⟨prop, hsa, fun spi body hbody => hiff _ spi body hbody⟩

section Sample

attribute [local instance] plainCrypto plainPki

open Handshake

def payloadsOf (parts : List CesPayloadPart) : List Wire.Payload :=
  parts.map fun p => ⟨p.typ, false, PayloadType.none, p.body⟩

def sampleChoice (transforms : List Transform) : Payload.Proposal :=
  ⟨1, deleteProtocolESP, [0, 0, 0, 8], transforms⟩

/-- The transforms of the only offer of the sample configuration. -/
def cbcTransforms : List Transform :=
  [encTransform ⟨transformEncryptionAESCBC, 16⟩,
    ⟨TransformType.integ, transformIntegrityHMACSHA2256128, []⟩, noExtSeq]

def groupTransform : Transform := ⟨TransformType.dh, transformDHCurve25519, []⟩

def answerPart (prop : Payload.Proposal) : CesPayloadPart :=
  ⟨PayloadType.sa, (appendSA ⟨[prop]⟩).toOption.getD []⟩

/-- The final response with another SA payload. -/
def finalAnswer (s : State) (prop : Payload.Proposal) : Message :=
  ⟨saInitHeader s, payloadsOf ((finalResponseParts s []).map fun p =>
    if p.typ = PayloadType.sa then answerPart prop else p), none⟩

def rekeyAnswer (prop : Payload.Proposal) : List Wire.Payload :=
  payloadsOf [answerPart prop, ⟨PayloadType.nonce, List.replicate 32 6⟩,
    ⟨PayloadType.ke, appendKE ⟨transformDHCurve25519, List.replicate 32 5⟩⟩,
    ⟨PayloadType.tsi, sampleTS⟩, ⟨PayloadType.tsr, sampleTS⟩]

def pfsConfig : HandshakeConfig :=
  { sampleHandshakeConfig with rekey := { sampleConfig.rekey with childPFS := true } }

/-- The SA payload body of a request. -/
def sampleOffer (includeDH : Bool) : Bytes :=
  ((appendESPProposalsForRekey sampleConfig 7 includeDH).toOption).getD []

theorem not_chosenFromOffer {body : Bytes} {sa : SA} {p prop : Payload.Proposal}
    (hparse : parseSA body = .ok sa) (hget : sa.proposals[prop.num.toNat - 1]? = some p)
    (hnot : ¬PicksESP p.transforms prop.transforms) : ¬ChosenFromOffer body prop := by
  rintro ⟨sa', p', hparse', hget', -, hpick⟩
  obtain rfl := Except.ok.inj (hparse'.symm.trans hparse)
  obtain rfl := Option.some.inj (hget'.symm.trans hget)
  exact hnot hpick

/-- A group is accepted in the final exchange although none was offered, and an answer to a rekey with
PFS without the offered group is accepted as well. -/
theorem unsent_choice_accepted :
    ((processFinalAuth sampleHandshakeConfig (finalAnswer
        (sampleProven sampleHandshakeConfig).worker.state
        (sampleChoice (cbcTransforms ++ [groupTransform])))).run
      (sampleProven sampleHandshakeConfig).worker.state).1.isOk ∧
    answeredSA (finalAnswer (sampleProven sampleHandshakeConfig).worker.state
      (sampleChoice (cbcTransforms ++ [groupTransform]))).payloads =
      some ⟨[sampleChoice (cbcTransforms ++ [groupTransform])]⟩ ∧
    appendESPProposals sampleHandshakeConfig.toConfig 7 = .ok (sampleOffer false) ∧
    ¬ChosenFromOffer (sampleOffer false) (sampleChoice (cbcTransforms ++ [groupTransform])) ∧
    (parseChildRekeyResponse pfsConfig.toConfig (some cbcSelection)
      (rekeyAnswer (sampleChoice cbcTransforms))).isOk ∧
    answeredSA (rekeyAnswer (sampleChoice cbcTransforms)) = some ⟨[sampleChoice cbcTransforms]⟩ ∧
    appendESPProposalsForRekey pfsConfig.toConfig 7 true = .ok (sampleOffer true) ∧
    ¬ChosenFromOffer (sampleOffer true) (sampleChoice cbcTransforms) := by
  refine ⟨by decide +kernel, by decide +kernel, by decide +kernel, ?_, by decide +kernel,
    by decide +kernel, by decide +kernel, ?_⟩
  · have hparse : parseSA (sampleOffer false) =
        .ok ⟨[⟨1, deleteProtocolESP, [0, 0, 0, 7], cbcTransforms⟩]⟩ := by decide +kernel
    refine not_chosenFromOffer hparse rfl fun hpick => ?_
    exact absurd (hpick.mem groupTransform (by decide)) (by decide)
  · have hparse : parseSA (sampleOffer true) =
        .ok ⟨[⟨1, deleteProtocolESP, [0, 0, 0, 7], cbcTransforms ++ [groupTransform]⟩]⟩ := by
      decide +kernel
    refine not_chosenFromOffer hparse rfl fun hpick => ?_
    exact absurd (hpick.one groupTransform (by decide) (by decide)) (by decide)

theorem exists_ok_of_isOk {σ α : Type} {x : Except Err α × σ} (h : x.1.isOk = true) :
    ∃ r, x = (.ok r, x.2) := by
  obtain ⟨_ | r, s⟩ := x
  · cases h
  · exact ⟨r, rfl⟩

theorem fitsAnswer_sample (includeDH : Bool) : FitsAnswer sampleConfig includeDH
    (sampleChoice (if includeDH then cbcTransforms ++ [groupTransform] else cbcTransforms)) := by
  refine ⟨[⟨cbcProposal.encryption, cbcProposal.integrity, cbcProposal.dh, false⟩], _,
    by decide +kernel, rfl, ?_⟩
  cases includeDH with
  | false =>
    refine ⟨?_, by decide +kernel, by decide⟩
    rw [if_neg (by decide)]
    rfl
  | true =>
    refine ⟨?_, by decide +kernel, by decide⟩
    rw [if_pos (by decide)]
    exact ⟨transformDHCurve25519, List.mem_singleton_self _, rfl⟩

/-- The answers that pick what was offered are choices. -/
theorem sample_esp_choice :
    ChosenFromOffer (sampleOffer false) (sampleChoice cbcTransforms) ∧
      ChosenFromOffer (sampleOffer true) (sampleChoice (cbcTransforms ++ [groupTransform])) := by
  constructor
  · have hok : ((processFinalAuth sampleHandshakeConfig (finalAnswer
        (sampleProven sampleHandshakeConfig).worker.state (sampleChoice cbcTransforms))).run
        (sampleProven sampleHandshakeConfig).worker.state).1.isOk = true := by decide +kernel
    have hsa : answeredSA (finalAnswer (sampleProven sampleHandshakeConfig).worker.state
        (sampleChoice cbcTransforms)).payloads = some ⟨[sampleChoice cbcTransforms]⟩ := by
      decide +kernel
    generalize (sampleProven sampleHandshakeConfig).worker.state = s at hok hsa
    obtain ⟨r, hrun⟩ := exists_ok_of_isOk hok
    obtain ⟨prop, hprop, hiff⟩ := (esp_choice_iff sampleHandshakeConfig).1 _ _ _ _ hrun
    obtain rfl : prop = sampleChoice cbcTransforms := by
      rw [hsa] at hprop
      simpa using hprop.symm
    exact (hiff 7 _ (by decide +kernel)).mpr (fitsAnswer_sample false)
  · have hok : (parseChildRekeyResponse pfsConfig.toConfig (some cbcSelection)
        (rekeyAnswer (sampleChoice (cbcTransforms ++ [groupTransform])))).isOk = true := by
      decide +kernel
    have hsa : answeredSA (rekeyAnswer (sampleChoice (cbcTransforms ++ [groupTransform]))) =
        some ⟨[sampleChoice (cbcTransforms ++ [groupTransform])]⟩ := by decide +kernel
    generalize rekeyAnswer (sampleChoice (cbcTransforms ++ [groupTransform])) = inner at hok hsa
    cases hresp : parseChildRekeyResponse pfsConfig.toConfig (some cbcSelection) inner with
    | error e =>
      rw [hresp] at hok
      cases hok
    | ok resp =>
      obtain ⟨prop, hprop, hiff⟩ := (esp_choice_iff pfsConfig).2 _ _ _ hresp
      obtain rfl : prop = sampleChoice (cbcTransforms ++ [groupTransform]) := by
        rw [hsa] at hprop
        simpa using hprop.symm
      exact (hiff 7 _ (by decide +kernel)).mpr (fitsAnswer_sample true)

end Sample

end Swan.Control
