import Swan.Control.Rekey
import Swan.Xcrypto.Tokens

/-! # Answers to our offers

What the initiator accepts of the proposals it has sent. An answer picks transforms from the proposal
that was sent under its number (`Picks`), in any order.

`offered_choice_accepted`: in an IKE_SA_INIT answer every pick is accepted whose PRF is of the family of
its integrity transform. `picksESP_iff`: an accepted answer to an ESP offer is a pick from it exactly if
it also fits the offer where the decoder does not look. -/

namespace Swan.Control

open Swan.Lib Swan.Payload

/-! ### Transforms by their type -/

def ofType (type : TransformType) (ts : List Transform) : List Transform :=
  ts.filter fun t => t.type = type

variable {type : TransformType} {ts : List Transform} {t : Transform} {e : Xcrypto.EncryptionID}

theorem mem_ofType :
    t ∈ ofType type ts ↔ t ∈ ts ∧ t.type = type := by
  simp [ofType]

theorem ofType_cons_of_eq (h : t.type = type) : ofType type (t :: ts) = t :: ofType type ts := by
  simp [ofType, h]

theorem ofType_cons_of_ne (h : t.type ≠ type) : ofType type (t :: ts) = ofType type ts := by
  simp [ofType, h]

structure Picks (offer ts : List Transform) : Prop where
  mem : ∀ t ∈ ts, t ∈ offer
  one : ∀ t ∈ offer, (ofType t.type ts).length = 1

theorem Picks.exists_ofType {offer : List Transform} (h : Picks offer ts) {t₀ : Transform}
    (h₀ : t₀ ∈ offer) : ∃ t ∈ offer, t.type = t₀.type ∧ ofType t₀.type ts = [t] := by
  obtain ⟨t, ht⟩ := List.length_eq_one_iff.mp (h.one t₀ h₀)
  have hmem : t ∈ ofType t₀.type ts := by simp [ht]
  obtain ⟨hts, htype⟩ := mem_ofType.mp hmem
  exact ⟨t, h.mem t hts, htype, ht⟩

theorem getElem?_numberedProposals {α : Type} {transforms : α → Except Err (List Transform)}
    {protocolID : UInt8} {spi : Bytes} : ∀ {as : List α} {num : ℕ} {sent : List Payload.Proposal},
      numberedProposals transforms protocolID spi num as = .ok sent →
      ∀ {i : ℕ} {prop : Payload.Proposal}, sent[i]? = some prop →
        prop.num = UInt8.ofNat (num + i + 1) ∧
          ∃ a, as[i]? = some a ∧ transforms a = .ok prop.transforms
  | [], num, sent, h, i, prop, hprop => by
    obtain rfl := Except.ok.inj h
    simp at hprop
  | a :: as, num, sent, h, i, prop, hprop => by
    obtain ⟨ts, hts, h⟩ := bind_eq_ok.mp h
    obtain ⟨ps, hps, h⟩ := bind_eq_ok.mp h
    obtain rfl := Except.ok.inj h
    cases i with
    | zero =>
      obtain rfl := Option.some.inj hprop
      exact ⟨rfl, a, rfl, hts⟩
    | succ i =>
      obtain ⟨hnum, hrest⟩ := getElem?_numberedProposals hps (i := i) hprop
      exact ⟨by rw [hnum]; congr 1; omega, hrest⟩

def encTransform (e : Xcrypto.EncryptionID) : Transform :=
  ⟨TransformType.enc, e.transformID, keyLengthAttr (e.keyLen * 8)⟩

def encID (t : Transform) : Xcrypto.EncryptionID :=
  ⟨t.id, ((parseKeyLengthAttr t.attrs).toOption.getD 0) / 8⟩

theorem ofNat_transformKeyLen {alg : Xcrypto.EncryptionAlg}
    (h : Xcrypto.newEncryption e.transformID e.keyLen = .ok alg) :
    UInt16.ofNat (alg.transformKeyLen * 8) = e.keyLen * 8 := by
  rw [(Xcrypto.ids_of_newEncryption h).2, UInt16.ofNat_mul, UInt16.ofNat_toNat]
  rfl

theorem encTransforms_ok : ∀ {es : List Xcrypto.EncryptionID} {ts : List Transform},
    encTransforms es = .ok ts → ts = es.map encTransform
  | [], ts, h => (Except.ok.inj h).symm
  | e :: es, ts, h => by
    obtain ⟨alg, halg, h⟩ := bind_eq_ok.mp h
    obtain ⟨ts', hts', h⟩ := bind_eq_ok.mp h
    obtain rfl := Except.ok.inj h
    rw [encTransforms_ok hts', ofNat_transformKeyLen halg]
    rfl

/-! ### The IKE_SA_INIT answer -/

def selectionTransforms (sel : Xcrypto.Selection) : List Transform :=
  [selectedEncTransform sel] ++ selectedIntegTransforms sel ++
    [⟨TransformType.prf, sel.prf.transformID, []⟩] ++
    sel.dh.toList.map fun dh => ⟨TransformType.dh, dh.transformID, []⟩

def PRFMatches (ts : List Transform) : Prop :=
  ∀ integ ∈ ts, ∀ prf ∈ ts, integ.type = TransformType.integ → prf.type = TransformType.prf →
    Xcrypto.prfFromIntegrity integ.id = prf.id

/-- What an IKE proposal may have: a cipher with its key length, or another transform without
attributes. -/
def IKETransform (t : Transform) : Prop :=
  (∃ e : Xcrypto.EncryptionID, (e.keyLen = 16 ∨ e.keyLen = 32) ∧ t = encTransform e) ∨
    (t.type = TransformType.integ ∨ t.type = TransformType.prf ∨ t.type = TransformType.dh) ∧
      t.attrs = []

theorem encID_encTransform (h : e.keyLen = 16 ∨ e.keyLen = 32) :
    encID (encTransform e) = e := by
  have hbits : e.keyLen * 8 / 8 = e.keyLen := by
    rcases h with h | h <;> rw [h] <;> rfl
  simp only [encID, encTransform, parseKeyLengthAttr_keyLengthAttr]
  change (⟨e.transformID, e.keyLen * 8 / 8⟩ : Xcrypto.EncryptionID) = e
  rw [hbits]

theorem decodeIKETransforms_eq : ∀ {ts : List Transform} {remote : Xcrypto.Proposal},
    (∀ t ∈ ts, IKETransform t) → decodeIKETransforms ts remote = .ok
      ⟨remote.encryption ++ (ofType TransformType.enc ts).map encID,
        remote.integrity ++ (ofType TransformType.integ ts).map Transform.id,
        remote.prf ++ (ofType TransformType.prf ts).map Transform.id,
        remote.dh ++ (ofType TransformType.dh ts).map Transform.id⟩
  | [], remote, _ => by simp [decodeIKETransforms, ofType]
  | t :: ts, remote, h => by
    obtain ⟨ht, hts⟩ := List.forall_mem_cons.mp h
    rcases ht with ⟨e, hlen, rfl⟩ | ⟨htype, hattrs⟩
    · have hbits : ¬(e.keyLen * 8 = 0 ∨ e.keyLen * 8 % 8 ≠ 0) := by
        rcases hlen with hlen | hlen <;> rw [hlen] <;> decide
      have hid : (⟨e.transformID, e.keyLen * 8 / 8⟩ : Xcrypto.EncryptionID) =
          encID (encTransform e) := by
        simp only [encID, encTransform, parseKeyLengthAttr_keyLengthAttr]
        rfl
      have hstep : decodeIKETransforms (encTransform e :: ts) remote = decodeIKETransforms ts
          { remote with encryption := remote.encryption ++ [encID (encTransform e)] } := by
        rw [decodeIKETransforms, if_pos (by rfl), ← hid]
        simp only [encTransform, parseKeyLengthAttr_keyLengthAttr, wrap]
        exact if_neg hbits
      rw [hstep, decodeIKETransforms_eq hts]
      simp [ofType, encTransform, TransformType.enc, TransformType.integ, TransformType.prf,
        TransformType.dh]
    · obtain ⟨type, id, attrs⟩ := t
      obtain rfl : attrs = [] := hattrs
      rcases htype with htype | htype | htype <;> obtain rfl : type = _ := htype <;>
        simp [decodeIKETransforms, decodeIKETransforms_eq hts, ofType, TransformType.enc,
          TransformType.integ, TransformType.prf, TransformType.dh]

theorem mem_plainTransforms {ids : List UInt16} :
    t ∈ plainTransforms type ids ↔ t.type = type ∧ t.id ∈ ids ∧ t.attrs = [] := by
  simp only [plainTransforms, List.mem_map]
  constructor
  · rintro ⟨id, hid, rfl⟩
    exact ⟨rfl, hid, rfl⟩
  · rintro ⟨htype, hid, hattrs⟩
    exact ⟨t.id, hid, by rw [← htype, ← hattrs]⟩

theorem keyLen_of_parsed {p : Xcrypto.Proposal} (hp : p.Parsed) (he : e ∈ p.encryption) :
    e.keyLen = 16 ∨ e.keyLen = 32 := by
  obtain ⟨alg, halg, -⟩ := hp.encryption e he
  have hlen := (Xcrypto.ids_of_newEncryption halg).2
  have haes := alg.transformKeyLen_aes
  rw [hlen] at haes
  exact haes.imp (fun h => UInt16.toNat_inj.mp h) fun h => UInt16.toNat_inj.mp h

abbrev offerOf (p : Xcrypto.Proposal) : List Transform :=
  p.encryption.map encTransform ++ plainTransforms TransformType.prf p.prf ++
    plainTransforms TransformType.integ p.integrity ++ plainTransforms TransformType.dh p.dh

theorem ikeProposalTransforms_parsed {p : Xcrypto.Proposal} (hp : p.Parsed)
    {offer : List Transform} (h : ikeProposalTransforms p = .ok offer) :
    offer = offerOf p := by
  obtain ⟨encs, hencs, h⟩ := bind_eq_ok.mp h
  obtain rfl := Except.ok.inj h
  rw [encTransforms_ok hencs]
  split_ifs with haead
  · obtain ⟨e, he, hkind⟩ := List.any_eq_true.mp haead
    obtain ⟨alg, halg, hiff⟩ := hp.encryption e he
    rw [halg] at hkind
    rw [offerOf, hiff.mp hkind]
    rfl
  · rfl

/-! The parts of a pick, by type. -/

section Pick

variable {p : Xcrypto.Proposal}

theorem mem_offerOf : t ∈ offerOf p ↔
    (∃ e ∈ p.encryption, encTransform e = t) ∨
    (t.type = TransformType.prf ∧ t.id ∈ p.prf ∧ t.attrs = []) ∨
    (t.type = TransformType.integ ∧ t.id ∈ p.integrity ∧ t.attrs = []) ∨
    (t.type = TransformType.dh ∧ t.id ∈ p.dh ∧ t.attrs = []) := by
  simp only [offerOf, List.mem_append, List.mem_map, mem_plainTransforms, or_assoc]

theorem ikeTransform_of_offer (hp : p.Parsed) (h : t ∈ offerOf p) :
    IKETransform t := by
  rcases mem_offerOf.mp h with ⟨e, he, rfl⟩ | ⟨htype, -, hattrs⟩ | ⟨htype, -, hattrs⟩ |
    ⟨htype, -, hattrs⟩
  · exact .inl ⟨e, keyLen_of_parsed hp he, rfl⟩
  · exact .inr ⟨.inr (.inl htype), hattrs⟩
  · exact .inr ⟨.inl htype, hattrs⟩
  · exact .inr ⟨.inr (.inr htype), hattrs⟩

theorem pick_encryption (hp : p.Parsed) (h : Picks (offerOf p) ts) :
    ∃ e ∈ p.encryption, ofType TransformType.enc ts = [encTransform e] := by
  obtain ⟨e₀, he₀⟩ := List.exists_mem_of_ne_nil _ hp.encryption_ne
  obtain ⟨t, ht, htype, hone⟩ := h.exists_ofType (mem_offerOf.mpr (.inl ⟨e₀, he₀, rfl⟩))
  have henc : t.type = TransformType.enc := htype
  rcases mem_offerOf.mp ht with ⟨e, he, rfl⟩ | ⟨ht, -⟩ | ⟨ht, -⟩ | ⟨ht, -⟩
  · exact ⟨e, he, hone⟩
  all_goals
    rw [henc] at ht
    exact absurd ht (by decide)

theorem pick_plain {offer : List Transform} (type : TransformType) {ids : List UInt16}
    (hne : ids ≠ []) (hids : ∀ id ∈ ids, ⟨type, id, []⟩ ∈ offer)
    (hoffer : ∀ t ∈ offer, t.type = type → t.id ∈ ids ∧ t.attrs = []) (h : Picks offer ts) :
    ∃ id ∈ ids, ofType type ts = [⟨type, id, []⟩] := by
  obtain ⟨id₀, hid₀⟩ := List.exists_mem_of_ne_nil _ hne
  obtain ⟨t, ht, htype, hone⟩ := h.exists_ofType (hids id₀ hid₀)
  obtain ⟨hid, hattrs⟩ := hoffer t ht htype
  refine ⟨t.id, hid, ?_⟩
  rw [hone, ← hattrs]
  exact congrArg (fun type => [Transform.mk type t.id t.attrs]) htype

theorem prf_of_offer (h : t ∈ offerOf p) (htype : t.type = TransformType.prf) :
    t.id ∈ p.prf ∧ t.attrs = [] := by
  rcases mem_offerOf.mp h with ⟨e, -, rfl⟩ | ⟨-, hid, hattrs⟩ | ⟨ht, -⟩ | ⟨ht, -⟩
  · exact absurd htype (by decide : TransformType.enc ≠ TransformType.prf)
  · exact ⟨hid, hattrs⟩
  all_goals exact absurd (ht.symm.trans htype) (by decide)

theorem integrity_of_offer (h : t ∈ offerOf p) (htype : t.type = TransformType.integ) :
    t.id ∈ p.integrity ∧ t.attrs = [] := by
  rcases mem_offerOf.mp h with ⟨e, -, rfl⟩ | ⟨ht, -⟩ | ⟨-, hid, hattrs⟩ | ⟨ht, -⟩
  · exact absurd htype (by decide : TransformType.enc ≠ TransformType.integ)
  · exact absurd (ht.symm.trans htype) (by decide)
  · exact ⟨hid, hattrs⟩
  · exact absurd (ht.symm.trans htype) (by decide)

theorem dh_of_offer (h : t ∈ offerOf p) (htype : t.type = TransformType.dh) :
    t.id ∈ p.dh ∧ t.attrs = [] := by
  rcases mem_offerOf.mp h with ⟨e, -, rfl⟩ | ⟨ht, -⟩ | ⟨ht, -⟩ | ⟨-, hid, hattrs⟩
  · exact absurd htype (by decide : TransformType.enc ≠ TransformType.dh)
  · exact absurd (ht.symm.trans htype) (by decide)
  · exact absurd (ht.symm.trans htype) (by decide)
  · exact ⟨hid, hattrs⟩

def choiceTransforms (c : Xcrypto.Choice) : List Transform :=
  [encTransform c.encryption] ++ (c.integrity.toList.map fun id => ⟨TransformType.integ, id, []⟩) ++
    [⟨TransformType.prf, c.prf, []⟩] ++ [⟨TransformType.dh, c.dh, []⟩]

theorem mem_iff_of_ofType {c : Xcrypto.Choice} (hts : ∀ t ∈ ts, IKETransform t)
    (henc : ofType TransformType.enc ts = [encTransform c.encryption])
    (hinteg : ofType TransformType.integ ts =
      c.integrity.toList.map fun id => ⟨TransformType.integ, id, []⟩)
    (hprf : ofType TransformType.prf ts = [⟨TransformType.prf, c.prf, []⟩])
    (hdh : ofType TransformType.dh ts = [⟨TransformType.dh, c.dh, []⟩]) (t : Transform) :
    t ∈ ts ↔ t ∈ choiceTransforms c := by
  unfold choiceTransforms
  rw [← henc, ← hinteg, ← hprf, ← hdh]
  simp only [List.mem_append, mem_ofType]
  constructor
  · intro h
    rcases hts t h with ⟨e, -, rfl⟩ | ⟨htype | htype | htype, -⟩
    · exact .inl (.inl (.inl ⟨h, rfl⟩))
    · exact .inl (.inl (.inr ⟨h, htype⟩))
    · exact .inl (.inr ⟨h, htype⟩)
    · exact .inr ⟨h, htype⟩
  · rintro (((h | h) | h) | h) <;> exact h.1

theorem exists_choice (hp : p.Parsed) (h : Picks (offerOf p) ts) :
    ∃ c : Xcrypto.Choice, c.From p ∧ (PRFMatches ts → c.Compatible) ∧
      (∀ t, t ∈ ts ↔ t ∈ choiceTransforms c) ∧
      decodeIKETransforms ts ⟨[], [], [], []⟩ = .ok c.proposal := by
  have hts : ∀ t ∈ ts, IKETransform t := fun t ht => ikeTransform_of_offer hp (h.mem t ht)
  obtain ⟨e, he, henc⟩ := pick_encryption hp h
  obtain ⟨f, hf, hprf⟩ := pick_plain TransformType.prf hp.prf_ne
    (fun id hid => mem_offerOf.mpr (.inr (.inl ⟨rfl, hid, rfl⟩))) (fun t => prf_of_offer) h
  obtain ⟨g, hg, hdh⟩ := pick_plain TransformType.dh hp.dh_ne
    (fun id hid => mem_offerOf.mpr (.inr (.inr (.inr ⟨rfl, hid, rfl⟩)))) (fun t => dh_of_offer) h
  obtain ⟨i, hi, hinteg⟩ : ∃ i : Option UInt16,
      (if p.integrity = [] then i = none else ∃ id ∈ p.integrity, i = some id) ∧
      ofType TransformType.integ ts = i.toList.map fun id => ⟨TransformType.integ, id, []⟩ := by
    by_cases hnil : p.integrity = []
    · refine ⟨none, by rw [if_pos hnil], List.eq_nil_iff_forall_not_mem.mpr fun t ht => ?_⟩
      obtain ⟨hmem, htype⟩ := mem_ofType.mp ht
      have hid := (integrity_of_offer (h.mem t hmem) htype).1
      simp [hnil] at hid
    · obtain ⟨id, hid, hone⟩ := pick_plain TransformType.integ hnil
        (fun id hid => mem_offerOf.mpr (.inr (.inr (.inl ⟨rfl, hid, rfl⟩))))
        (fun t => integrity_of_offer) h
      exact ⟨some id, by rw [if_neg hnil]; exact ⟨id, hid, rfl⟩, hone⟩
  refine ⟨⟨e, i, f, g⟩, ⟨he, hi, hf, hg⟩, ?_, mem_iff_of_ofType hts henc hinteg hprf hdh, ?_⟩
  · rintro hmatch id rfl
    have hI : (⟨TransformType.integ, id, []⟩ : Transform) ∈ ofType TransformType.integ ts := by
      rw [hinteg]
      exact List.mem_cons_self
    have hF : (⟨TransformType.prf, f, []⟩ : Transform) ∈ ofType TransformType.prf ts := by
      rw [hprf]
      exact List.mem_cons_self
    exact hmatch _ (mem_ofType.mp hI).1 _ (mem_ofType.mp hF).1 rfl rfl
  · rw [decodeIKETransforms_eq hts, henc, hinteg, hprf, hdh]
    simp [Xcrypto.Choice.proposal, encID_encTransform (keyLen_of_parsed hp he), Function.comp_def]

end Pick

variable {sel : Xcrypto.Selection} {offer : CesOffer}

theorem selectionMatchesIKE_of_is {c : Xcrypto.Choice} (h : c.Is sel) :
    selectionMatchesIKE sel c.encryption c.integrity.toList c.prf c.dh = true := by
  obtain ⟨⟨hid, hlen⟩, haead, hinteg, hprf, hdh⟩ := h
  have hintegrity : (if sel.encryption.aead then decide (c.integrity.toList.length = 0)
      else decide (c.integrity.toList = [sel.integrity.transformID])) = true := by
    cases hc : c.integrity with
    | none =>
      rw [haead.mpr hc]
      rfl
    | some id =>
      have hfalse : sel.encryption.aead ≠ true := fun htrue => by simp [haead.mp htrue] at hc
      rw [if_neg hfalse, hinteg, hc]
      simp
  rw [selectionMatchesIKE, hintegrity]
  simp [hid, hlen, hprf, hdh]

theorem selectionTransforms_of_is {c : Xcrypto.Choice} (h : c.Is sel) :
    selectionTransforms sel = choiceTransforms c := by
  obtain ⟨⟨hid, hlen⟩, haead, hinteg, hprf, hdh⟩ := h
  obtain ⟨dh, hsome, hdhid⟩ : ∃ dh, sel.dh = some dh ∧ dh.transformID = c.dh :=
    Option.map_eq_some_iff.mp hdh
  have henc : selectedEncTransform sel = encTransform c.encryption := by
    simp only [selectedEncTransform, encTransform, hid, hlen, UInt16.ofNat_mul, UInt16.ofNat_toNat]
    rfl
  have hintegs : selectedIntegTransforms sel =
      c.integrity.toList.map fun id => ⟨TransformType.integ, id, []⟩ := by
    cases hc : c.integrity with
    | none => simp [selectedIntegTransforms, haead.mpr hc]
    | some id =>
      have hfalse : sel.encryption.aead ≠ true := fun htrue => by simp [haead.mp htrue] at hc
      simp [selectedIntegTransforms, hfalse, hinteg, hc]
  simp [selectionTransforms, choiceTransforms, henc, hintegs, hprf, hsome, hdhid]

/-- The answer that picks from the proposal of its own number is accepted with exactly its
transforms, if the PRF goes with the integrity transform. -/
theorem decodeIKESelection_pick {cfg : Config} {num : UInt8} (hnum : num ≠ 0)
    {p : Xcrypto.Proposal} (hp : p.Parsed) (hcfg : cfg.ike[num.toNat - 1]? = some p)
    {ts : List Transform} (hpick : Picks (offerOf p) ts) (hmatch : PRFMatches ts) :
    ∃ sel, decodeIKESelection cfg ⟨num, deleteProtocolIKE, [], ts⟩ = .ok sel ∧
      ∀ t, t ∈ ts ↔ t ∈ selectionTransforms sel := by
  obtain ⟨c, hfrom, hcomp, hmem, hdecode⟩ := exists_choice hp hpick
  obtain ⟨sel, hsel, his⟩ := hp.select_choice hfrom (hcomp hmatch)
  refine ⟨sel, ?_, fun t => by rw [selectionTransforms_of_is his, hmem]⟩
  have hmatches := selectionMatchesIKE_of_is his
  simp only [decodeIKESelection, decodeSelectedIKE, if_neg hnum, hcfg, hdecode]
  rw [if_neg (by simp)]
  refine bind_eq_ok.mpr ⟨_, rfl, bind_eq_ok.mpr ⟨sel, wrap_eq_ok.mpr hsel, ?_⟩⟩
  exact if_pos hmatches

/-- Everything that is offered can be accepted, with a PRF of the family of the integrity transform:
a negotiation returns exactly the choices with such a PRF and refuses the others, and no answer to an
IKE_SA_INIT request that picks such a choice from the proposal of its number is refused. -/
theorem offered_choice_accepted (cfg : Config)
    (hcfg : ∀ p ∈ cfg.ike, ∃ s, Xcrypto.parseProposal s = .ok p) :
    (∀ s p (c : Xcrypto.Choice), Xcrypto.parseProposal s = .ok p → c.From p →
      (c.Compatible → ∃ sel, p.select c.proposal = .ok sel ∧ c.Is sel) ∧
      (¬c.Compatible → ∃ e, p.select c.proposal = .error e)) ∧
    ∀ sent, numberedProposals ikeProposalTransforms deleteProtocolIKE [] 0 cfg.ike = .ok sent →
      ∀ i prop, i < 255 → sent[i]? = some prop → ∀ ts, Picks prop.transforms ts → PRFMatches ts →
        ∃ sel, decodeIKESelection cfg ⟨prop.num, deleteProtocolIKE, [], ts⟩ = .ok sel ∧
          ∀ t, t ∈ ts ↔ t ∈ selectionTransforms sel := by
  constructor
  · intro s p c hparse hc
    have hp := Xcrypto.parsed_of_parseProposal hparse
    exact ⟨hp.select_choice hc, hp.select_choice_error hc⟩
  · intro sent hsent i prop hi hprop ts hpick hmatch
    obtain ⟨hnum, p, hpi, hoffer⟩ := getElem?_numberedProposals hsent hprop
    obtain ⟨s, hparse⟩ := hcfg p (List.mem_of_getElem? hpi)
    have hp := Xcrypto.parsed_of_parseProposal hparse
    rw [ikeProposalTransforms_parsed hp hoffer] at hpick
    have hnat : prop.num.toNat = i + 1 := by
      rw [hnum, UInt8.toNat_ofNat']
      omega
    refine decodeIKESelection_pick (fun h0 => ?_) hp ?_ hpick hmatch
    · rw [h0] at hnat
      simp at hnat
    · rw [hnat]
      exact hpi

/-- One proposal, `aes128-sha256-prfsha256-prfsha512-curve25519`. -/
def mixedPRFs : Xcrypto.Proposal where
  encryption := [⟨Xcrypto.transformEncryptionAESCBC, 16⟩]
  integrity := [Xcrypto.transformIntegrityHMACSHA2256128]
  prf := [Xcrypto.transformPRFHMACSHA256, Xcrypto.transformPRFHMACSHA512]
  dh := [Xcrypto.transformDHCurve25519]

theorem parseProposal_mixedPRFs :
    Xcrypto.parseProposal (ascii "aes128-sha256-prfsha256-prfsha512-curve25519") = .ok mixedPRFs := by
  decide +kernel

def mixedPRFsConfig : Config where
  ike := [mixedPRFs]
  esp := [mixedPRFs]
  strongswanCompatible := false
  rekey := ⟨4000 * second, 1000 * second, false, 0, 30 * second⟩
  timeouts := ⟨second, 4 * second, 1, 20 * second, 0⟩
  fragmentPlaintextLimit := 0
  dataUpdates := true

def mixedChoice (prf : UInt16) : Xcrypto.Choice where
  encryption := ⟨Xcrypto.transformEncryptionAESCBC, 16⟩
  integrity := some Xcrypto.transformIntegrityHMACSHA2256128
  prf
  dh := Xcrypto.transformDHCurve25519

theorem mixedChoice_from {prf : UInt16} (h : prf ∈ mixedPRFs.prf) : (mixedChoice prf).From mixedPRFs where
  encryption := List.mem_singleton_self _
  integrity := ⟨_, List.mem_singleton_self _, rfl⟩
  prf := h
  dh := List.mem_singleton_self _

theorem sample_choice_accepted :
    (∃ sel, mixedPRFs.select (mixedChoice Xcrypto.transformPRFHMACSHA256).proposal = .ok sel ∧
      (mixedChoice Xcrypto.transformPRFHMACSHA256).Is sel) ∧
    ∃ sel, decodeIKESelection mixedPRFsConfig ⟨1, deleteProtocolIKE, [],
        (choiceTransforms (mixedChoice Xcrypto.transformPRFHMACSHA256)).reverse⟩ = .ok sel ∧
      ∀ t, t ∈ (choiceTransforms (mixedChoice Xcrypto.transformPRFHMACSHA256)).reverse ↔
        t ∈ selectionTransforms sel := by
  obtain ⟨hselect, hdecode⟩ := offered_choice_accepted mixedPRFsConfig fun p hp =>
    ⟨_, List.mem_singleton.mp hp ▸ parseProposal_mixedPRFs⟩
  refine ⟨(hselect _ _ _ parseProposal_mixedPRFs (mixedChoice_from (by decide))).1 ?_,
    hdecode _ rfl 0 _ (by decide) rfl _ ⟨by decide, by decide⟩ ?_⟩
  · rintro id hid
    obtain rfl := Option.some.inj hid
    rfl
  · unfold PRFMatches
    decide

/-- The choice of the other PRF of the same proposal is refused. -/
theorem listed_choice_refused :
    Xcrypto.parseProposal (ascii "aes128-sha256-prfsha256-prfsha512-curve25519") = .ok mixedPRFs ∧
    (mixedChoice Xcrypto.transformPRFHMACSHA512).From mixedPRFs ∧
    mixedPRFs.select (mixedChoice Xcrypto.transformPRFHMACSHA512).proposal =
      .error (.errorf "xcrypto: no compatible PRF transform") ∧
    decodeIKESelection mixedPRFsConfig ⟨1, deleteProtocolIKE, [],
        choiceTransforms (mixedChoice Xcrypto.transformPRFHMACSHA512)⟩ =
      .error (.wrapf "control: peer selected unsupported IKE proposal: "
        (.errorf "xcrypto: no compatible PRF transform")) :=
  ⟨parseProposal_mixedPRFs, mixedChoice_from (by decide), rfl, rfl⟩

/-! ### The answer to an ESP offer -/

/-- The transform that says that there are no extended sequence numbers. -/
def noExtSeq : Transform := ⟨TransformType.esn, esnNoExtendedSequenceNumbers, []⟩

/-- Transforms of the offer, one of each type that it has; NO_EXT_SEQ may be there or not, whether it
was offered or not. -/
structure PicksESP (offer ts : List Transform) : Prop where
  mem : ∀ t ∈ ts, t ∈ offer ∨ t = noExtSeq
  one : ∀ t ∈ offer, t.type ≠ TransformType.esn → (ofType t.type ts).length = 1
  esn : (ofType TransformType.esn ts).length ≤ 1

/-- The answers that go with an offer where the decoder does not look: the DH transforms are one of
the offered groups, or none if no group was offered; there is no integrity transform if none was
offered; and the transforms other than ciphers have no attributes. -/
structure FitsOffer (offer : CesOffer) (includeDH : Bool) (ts : List Transform) : Prop where
  dh : if includeDH = true ∧ offer.dh ≠ [] then
      ∃ group ∈ offer.dh, ofType TransformType.dh ts = [⟨TransformType.dh, group, []⟩]
    else ofType TransformType.dh ts = []
  integrity : cesEncryptionListIsAEAD offer.enc = true → ofType TransformType.integ ts = []
  plain : ∀ t ∈ ts, t.type = TransformType.integ ∨ t.type = TransformType.esn → t.attrs = []

/-- What the decoder has kept of a list of transforms: at most one of each type but DH, of which it
keeps no list. -/
structure DecodesESP (ts : List Transform) (acc acc' : ChildTransforms) : Prop where
  enc : acc'.enc.toList.map encTransform =
    acc.enc.toList.map encTransform ++ ofType TransformType.enc ts
  integ : acc'.integ.toList = acc.integ.toList ++ (ofType TransformType.integ ts).map Transform.id
  esn : acc'.esn.toList = acc.esn.toList ++ (ofType TransformType.esn ts).map Transform.id
  types : ∀ t ∈ ts, t.type = TransformType.dh ∨ t.type = TransformType.enc ∨
    t.type = TransformType.integ ∨ t.type = TransformType.esn

theorem decodesESP_of_decode : ∀ {ts : List Transform} {acc acc' : ChildTransforms},
    decodeChildTransforms ts acc = .ok acc' → DecodesESP ts acc acc'
  | [], acc, acc', h => by
    obtain rfl := Except.ok.inj h
    exact ⟨by simp [ofType], by simp [ofType], by simp [ofType], by simp⟩
  | t :: ts, acc, acc', h => by
    rw [decodeChildTransforms] at h
    split_ifs at h with hdh hattrs hfirst henc hsome hinteg hsome hesn hsome
    · -- a group is not in any of the lists
      have ih := decodesESP_of_decode h
      have hne : ∀ type, type ≠ TransformType.dh → t.type ≠ type := fun type htype h =>
        htype (h.symm.trans hdh)
      refine ⟨?_, ?_, ?_, List.forall_mem_cons.mpr ⟨.inl hdh, ih.types⟩⟩
      · rw [ofType_cons_of_ne (hne _ (by decide)), ih.enc]
      · rw [ofType_cons_of_ne (hne _ (by decide)), ih.integ]
      · rw [ofType_cons_of_ne (hne _ (by decide)), ih.esn]
    · -- a cipher is the first of its type
      obtain ⟨bits, hbits, h⟩ := bind_eq_ok.mp h
      split_ifs at h with hbad
      have ih := decodesESP_of_decode h
      have hmod := not_not.mp (not_or.mp hbad).2
      have hnone : acc.enc = none := by simpa using hsome
      have ht : encTransform ⟨t.id, bits / 8⟩ = t := by
        rw [encTransform, div_mul_of_mod hmod, ← eq_keyLengthAttr hbits, ← henc]
      have hne : ∀ type, type ≠ TransformType.enc → t.type ≠ type := fun type htype h =>
        htype (h.symm.trans henc)
      refine ⟨?_, ?_, ?_, List.forall_mem_cons.mpr ⟨.inr (.inl henc), ih.types⟩⟩
      · rw [ofType_cons_of_eq henc, ih.enc, hnone]
        simp [ht]
      · rw [ofType_cons_of_ne (hne _ (by decide)), ih.integ]
      · rw [ofType_cons_of_ne (hne _ (by decide)), ih.esn]
    · have ih := decodesESP_of_decode h
      have hnone : acc.integ = none := by simpa using hsome
      have hne : ∀ type, type ≠ TransformType.integ → t.type ≠ type := fun type htype h =>
        htype (h.symm.trans hinteg)
      refine ⟨?_, ?_, ?_, List.forall_mem_cons.mpr ⟨.inr (.inr (.inl hinteg)), ih.types⟩⟩
      · rw [ofType_cons_of_ne (hne _ (by decide)), ih.enc]
      · rw [ofType_cons_of_eq hinteg, ih.integ, hnone]
        simp
      · rw [ofType_cons_of_ne (hne _ (by decide)), ih.esn]
    · have ih := decodesESP_of_decode h
      have hnone : acc.esn = none := by simpa using hsome
      have hne : ∀ type, type ≠ TransformType.esn → t.type ≠ type := fun type htype h =>
        htype (h.symm.trans hesn)
      refine ⟨?_, ?_, ?_, List.forall_mem_cons.mpr ⟨.inr (.inr (.inr hesn)), ih.types⟩⟩
      · rw [ofType_cons_of_ne (hne _ (by decide)), ih.enc]
      · rw [ofType_cons_of_ne (hne _ (by decide)), ih.integ]
      · rw [ofType_cons_of_eq hesn, ih.esn, hnone]
        simp

structure AlgorithmsESP (offer : CesOffer) (acc : ChildTransforms) (ike sel : Xcrypto.Selection)
    (e : Xcrypto.EncryptionID) : Prop where
  enc : acc.enc = some e
  offered : e ∈ offer.enc
  encryption : Xcrypto.newEncryption e.transformID e.keyLen = .ok sel.encryption
  integrity : decodeChildIntegrity offer sel.encryption acc.integ = .ok sel.integrity
  esn : ∀ id, acc.esn = some id → id = esnNoExtendedSequenceNumbers
  prf : sel.prf = ike.prf
  dh : decodeChildDH ike acc.dhID = .ok sel.dh

theorem algorithmsESP_of_decode {selectedIKE : Option Xcrypto.Selection} {acc : ChildTransforms}
    (h : decodeChildAlgorithms selectedIKE offer acc = .ok sel) :
    ∃ ike e, selectedIKE = some ike ∧ AlgorithmsESP offer acc ike sel e := by
  unfold decodeChildAlgorithms at h
  cases henc : acc.enc with
  | none =>
    rw [henc] at h
    cases h
  | some e =>
    simp only [henc] at h
    split_ifs at h with hoffered
    obtain ⟨alg, halg, h⟩ := bind_eq_ok.mp h
    obtain ⟨integ, hinteg, h⟩ := bind_eq_ok.mp h
    cases hesn : acc.esn.filter (· ≠ esnNoExtendedSequenceNumbers) with
    | some id =>
      rw [hesn] at h
      cases h
    | none =>
      rw [hesn] at h
      cases selectedIKE with
      | none => cases h
      | some ike =>
        obtain ⟨dh, hdh, h⟩ := bind_eq_ok.mp h
        obtain rfl := Except.ok.inj h
        refine ⟨ike, e, rfl, henc, hoffered, wrap_eq_ok.mp halg, hinteg, ?_, rfl, hdh⟩
        intro id hid
        by_contra hne
        simp [hid, hne] at hesn

/-- What was accepted: one proposal, which answers the offer of its number. -/
structure DecodesChild (cfg : Config) (selectedIKE : Option Xcrypto.Selection)
    (prop : Payload.Proposal) (offer : CesOffer) (acc : ChildTransforms) (sel : Xcrypto.Selection) :
    Prop where
  protocolID : prop.protocolID = deleteProtocolESP
  spi : prop.spi.length = 4
  num : prop.num ≠ 0
  offered : ∃ offers, childOffers cfg = .ok offers ∧ offers[prop.num.toNat - 1]? = some offer
  transforms : decodeChildTransforms prop.transforms ⟨none, none, none, 0⟩ = .ok acc
  algorithms : decodeChildAlgorithms selectedIKE offer acc = .ok sel

theorem decodeChildSelection_ok {cfg : Config} {selectedIKE : Option Xcrypto.Selection} {sa : SA}
    {spi : UInt32} (h : decodeChildSelection cfg selectedIKE sa = .ok (spi, sel)) :
    ∃ prop offer acc, sa = ⟨[prop]⟩ ∧ spi = beUint32 prop.spi ∧
      DecodesChild cfg selectedIKE prop offer acc sel := by
  obtain ⟨props⟩ := sa
  unfold decodeChildSelection at h
  split at h
  · next prop hprops =>
    obtain rfl : props = [prop] := hprops
    by_cases hproto : prop.protocolID ≠ deleteProtocolESP
    · rw [if_pos hproto] at h
      cases h
    by_cases hlen : prop.spi.length ≠ 4
    · rw [if_neg hproto, if_pos hlen] at h
      cases h
    rw [if_neg hproto, if_neg hlen] at h
    obtain ⟨offers, hoffers, h⟩ := bind_eq_ok.mp h
    by_cases hnum : prop.num = 0
    · rw [if_pos hnum] at h
      cases h
    rw [if_neg hnum] at h
    cases hoffer : offers[prop.num.toNat - 1]? with
    | none =>
      rw [hoffer] at h
      cases h
    | some offer =>
      rw [hoffer] at h
      obtain ⟨acc, hacc, h⟩ := bind_eq_ok.mp h
      obtain ⟨sel', hsel, h⟩ := bind_eq_ok.mp h
      obtain ⟨rfl, rfl⟩ := Prod.mk.inj (Except.ok.inj h)
      exact ⟨prop, offer, acc, rfl, rfl, not_not.mp hproto, not_not.mp hlen, hnum,
        ⟨offers, hoffers, hoffer⟩, hacc, hsel⟩
  · cases h

theorem decodeChildIntegrity_ok {enc : Xcrypto.EncryptionAlg} {id : Option UInt16}
    {integ : Xcrypto.Integrity} (h : decodeChildIntegrity offer enc id = .ok integ) :
    if enc.aead then id = none ∧ Xcrypto.newIntegrity Xcrypto.transformIntegrityNone = .ok integ
    else ∃ i ∈ offer.integrity, id = some i ∧ Xcrypto.newIntegrity i = .ok integ := by
  unfold decodeChildIntegrity at h
  split_ifs at h ⊢ with haead hsome
  · exact ⟨by simpa using hsome, h⟩
  · split at h
    · cases h
    next i =>
    split_ifs at h with hoffered
    exact ⟨i, hoffered, rfl, h⟩

theorem childProposalTransforms_ok {includeDH : Bool} {sent : List Transform}
    (h : childProposalTransforms offer includeDH = .ok sent) :
    sent = offer.enc.map encTransform ++
      (if cesEncryptionListIsAEAD offer.enc then []
        else plainTransforms TransformType.integ offer.integrity) ++
      (if offer.omitESN then [] else [noExtSeq]) ++
      (if includeDH then plainTransforms TransformType.dh offer.dh else []) := by
  obtain ⟨ts, hts, h⟩ := bind_eq_ok.mp h
  obtain rfl := Except.ok.inj h
  obtain ⟨encs, hencs, hts⟩ := bind_eq_ok.mp hts
  obtain rfl := Except.ok.inj hts
  rw [encTransforms_ok hencs]
  rfl

theorem mem_sent {includeDH : Bool} {sent : List Transform}
    (h : childProposalTransforms offer includeDH = .ok sent) {t : Transform} : t ∈ sent ↔
      (∃ e ∈ offer.enc, encTransform e = t) ∨
      (cesEncryptionListIsAEAD offer.enc = false ∧ t.type = TransformType.integ ∧
        t.id ∈ offer.integrity ∧ t.attrs = []) ∨
      (offer.omitESN = false ∧ t = noExtSeq) ∨
      includeDH = true ∧ t.type = TransformType.dh ∧ t.id ∈ offer.dh ∧ t.attrs = [] := by
  rw [childProposalTransforms_ok h]
  simp only [List.mem_append, List.mem_map, or_assoc]
  refine or_congr Iff.rfl (or_congr ?_ (or_congr ?_ ?_))
  · cases cesEncryptionListIsAEAD offer.enc <;> simp [mem_plainTransforms]
  · cases offer.omitESN <;> simp
  · cases includeDH <;> simp [mem_plainTransforms]

theorem isAEAD_of_mem {encs : List Xcrypto.EncryptionID} {e : Xcrypto.EncryptionID} (he : e ∈ encs)
    {alg : Xcrypto.EncryptionAlg} (halg : Xcrypto.newEncryption e.transformID e.keyLen = .ok alg)
    (haead : alg.aead = true) : cesEncryptionListIsAEAD encs = true :=
  List.any_eq_true.mpr ⟨e, he, by rw [halg]; exact haead⟩

section Answer

variable {acc : ChildTransforms} {ike : Xcrypto.Selection} {includeDH : Bool} {sent : List Transform}

theorem AlgorithmsESP.ofType_enc (halg : AlgorithmsESP offer acc ike sel e)
    (hdec : DecodesESP ts ⟨none, none, none, 0⟩ acc) :
    ofType TransformType.enc ts = [encTransform e] := by
  simpa [halg.enc] using hdec.enc.symm

theorem AlgorithmsESP.ofType_integ (halg : AlgorithmsESP offer acc ike sel e)
    (hdec : DecodesESP ts ⟨none, none, none, 0⟩ acc) :
    if sel.encryption.aead then ofType TransformType.integ ts = []
    else ∃ t, ofType TransformType.integ ts = [t] ∧ t.id ∈ offer.integrity := by
  have hids : (ofType TransformType.integ ts).map Transform.id = acc.integ.toList := by
    simpa using hdec.integ.symm
  have hinteg := decodeChildIntegrity_ok halg.integrity
  split_ifs at hinteg ⊢ with haead
  · simpa [hinteg.1] using hids
  · obtain ⟨i, hi, hsome, -⟩ := hinteg
    rw [hsome, Option.toList_some] at hids
    obtain ⟨t, ht, rfl⟩ := List.map_eq_singleton_iff.mp hids
    exact ⟨t, ht, hi⟩

theorem AlgorithmsESP.ofType_esn (halg : AlgorithmsESP offer acc ike sel e)
    (hdec : DecodesESP ts ⟨none, none, none, 0⟩ acc) :
    (ofType TransformType.esn ts).length ≤ 1 ∧
      ∀ t ∈ ofType TransformType.esn ts, t.id = esnNoExtendedSequenceNumbers := by
  have hids : (ofType TransformType.esn ts).map Transform.id = acc.esn.toList := by
    simpa using hdec.esn.symm
  constructor
  · rw [← List.length_map, hids]
    exact Option.length_toList_le
  · intro t ht
    have hmem : t.id ∈ acc.esn.toList := hids ▸ List.mem_map_of_mem ht
    exact halg.esn t.id (by simpa using hmem)

theorem dh_of_sent (hsent : childProposalTransforms offer includeDH = .ok sent)
    (h : t ∈ sent) (htype : t.type = TransformType.dh) :
    includeDH = true ∧ t.id ∈ offer.dh ∧ t.attrs = [] := by
  rcases (mem_sent hsent).mp h with ⟨e, -, rfl⟩ | ⟨-, ht, -⟩ | ⟨-, rfl⟩ | ⟨hPFS, -, hid, hattrs⟩
  · exact absurd htype (by decide : TransformType.enc ≠ TransformType.dh)
  · exact absurd (ht.symm.trans htype) (by decide)
  · exact absurd htype (by decide)
  · exact ⟨hPFS, hid, hattrs⟩

theorem integrity_of_sent (hsent : childProposalTransforms offer includeDH = .ok sent)
    {t : Transform} (h : t ∈ sent) (htype : t.type = TransformType.integ) :
    cesEncryptionListIsAEAD offer.enc = false ∧ t.attrs = [] := by
  rcases (mem_sent hsent).mp h with ⟨e, -, rfl⟩ | ⟨haead, -, -, hattrs⟩ | ⟨-, rfl⟩ | ⟨-, ht, -⟩
  · exact absurd htype (by decide : TransformType.enc ≠ TransformType.integ)
  · exact ⟨haead, hattrs⟩
  · exact absurd htype (by decide)
  · exact absurd (ht.symm.trans htype) (by decide)

theorem esn_of_sent (hsent : childProposalTransforms offer includeDH = .ok sent)
    (h : t ∈ sent) (htype : t.type = TransformType.esn) : t = noExtSeq := by
  rcases (mem_sent hsent).mp h with ⟨e, -, rfl⟩ | ⟨-, ht, -⟩ | ⟨-, hesn⟩ | ⟨-, ht, -⟩
  · exact absurd htype (by decide : TransformType.enc ≠ TransformType.esn)
  · exact absurd (ht.symm.trans htype) (by decide)
  · exact hesn
  · exact absurd (ht.symm.trans htype) (by decide)

theorem PicksESP.fitsOffer (hsent : childProposalTransforms offer includeDH = .ok sent)
    (hpick : PicksESP sent ts) : FitsOffer offer includeDH ts := by
  have hmem : ∀ {type}, type ≠ TransformType.esn → ∀ t ∈ ofType type ts, t ∈ sent := by
    intro type hne t ht
    obtain ⟨hts, htype⟩ := mem_ofType.mp ht
    refine (hpick.mem t hts).resolve_right fun h => hne ?_
    rw [← htype, h]
    rfl
  refine ⟨?_, fun haead => ?_, fun t ht htype => ?_⟩
  · split_ifs with hgroups
    · obtain ⟨hPFS, hne⟩ := hgroups
      obtain ⟨g, hg⟩ := List.exists_mem_of_ne_nil _ hne
      have hone := hpick.one ⟨TransformType.dh, g, []⟩
        ((mem_sent hsent).mpr (.inr (.inr (.inr ⟨hPFS, rfl, hg, rfl⟩))))
        (by decide : TransformType.dh ≠ TransformType.esn)
      obtain ⟨t, ht⟩ := List.length_eq_one_iff.mp hone
      have htype : t.type = TransformType.dh := (mem_ofType.mp (ht ▸ List.mem_singleton_self t)).2
      have hts : t ∈ sent := hmem (by decide : TransformType.dh ≠ TransformType.esn) t
        (ht ▸ List.mem_singleton_self t)
      obtain ⟨-, hid, hattrs⟩ := dh_of_sent hsent hts htype
      refine ⟨t.id, hid, ht.trans ?_⟩
      rw [← htype, ← hattrs]
    · refine List.eq_nil_iff_forall_not_mem.mpr fun t ht => hgroups ?_
      obtain ⟨hPFS, hid, -⟩ := dh_of_sent hsent (hmem (by decide) t ht) (mem_ofType.mp ht).2
      exact ⟨hPFS, List.ne_nil_of_mem hid⟩
  · refine List.eq_nil_iff_forall_not_mem.mpr fun t ht => ?_
    have hfalse := (integrity_of_sent hsent (hmem (by decide) t ht) (mem_ofType.mp ht).2).1
    rw [haead] at hfalse
    cases hfalse
  · rcases htype with htype | htype
    · exact (integrity_of_sent hsent (hmem (by decide) t (mem_ofType.mpr ⟨ht, htype⟩)) htype).2
    · rcases hpick.mem t ht with hts | rfl
      · rw [esn_of_sent hsent hts htype]
        rfl
      · rfl

/-- **Which accepted answers are choices from the offer.** -/
theorem picksESP_iff (halg : AlgorithmsESP offer acc ike sel e)
    (hdec : DecodesESP ts ⟨none, none, none, 0⟩ acc)
    (hsent : childProposalTransforms offer includeDH = .ok sent) :
    PicksESP sent ts ↔ FitsOffer offer includeDH ts := by
  refine ⟨PicksESP.fitsOffer hsent, fun hfits => ?_⟩
  have henc := halg.ofType_enc hdec
  have hinteg := halg.ofType_integ hdec
  obtain ⟨hesnLen, hesnID⟩ := halg.ofType_esn hdec
  refine ⟨fun t ht => ?_, fun t ht hne => ?_, hesnLen⟩
  · rcases hdec.types t ht with htype | htype | htype | htype
    · have hmem : t ∈ ofType TransformType.dh ts := mem_ofType.mpr ⟨ht, htype⟩
      have hdh := hfits.dh
      split_ifs at hdh with hgroups
      · obtain ⟨g, hg, hone⟩ := hdh
        rw [hone] at hmem
        obtain rfl := List.mem_singleton.mp hmem
        exact .inl ((mem_sent hsent).mpr (.inr (.inr (.inr ⟨hgroups.1, rfl, hg, rfl⟩))))
      · simp [hdh] at hmem
    · have hmem : t ∈ ofType TransformType.enc ts := mem_ofType.mpr ⟨ht, htype⟩
      rw [henc] at hmem
      obtain rfl := List.mem_singleton.mp hmem
      exact .inl ((mem_sent hsent).mpr (.inl ⟨e, halg.offered, rfl⟩))
    · have hmem : t ∈ ofType TransformType.integ ts := mem_ofType.mpr ⟨ht, htype⟩
      have haead : cesEncryptionListIsAEAD offer.enc = false := by
        by_contra htrue
        simp [hfits.integrity (by simpa using htrue)] at hmem
      split_ifs at hinteg
      · simp [hinteg] at hmem
      · obtain ⟨u, hu, hid⟩ := hinteg
        rw [hu] at hmem
        obtain rfl := List.mem_singleton.mp hmem
        exact .inl ((mem_sent hsent).mpr (.inr (.inl
          ⟨haead, htype, hid, hfits.plain t ht (.inl htype)⟩)))
    · have hid := hesnID t (mem_ofType.mpr ⟨ht, htype⟩)
      have hattrs := hfits.plain t ht (.inr htype)
      refine .inr ?_
      rw [noExtSeq, ← htype, ← hid, ← hattrs]
  · rcases (mem_sent hsent).mp ht with ⟨e', -, rfl⟩ | ⟨haead, htype, -⟩ | ⟨-, rfl⟩ |
      ⟨hPFS, htype, hid, -⟩
    · rw [show (encTransform e').type = TransformType.enc from rfl, henc]
      rfl
    · rw [htype]
      split_ifs at hinteg with htrue
      · rw [isAEAD_of_mem halg.offered halg.encryption htrue] at haead
        cases haead
      · obtain ⟨u, hu, -⟩ := hinteg
        rw [hu]
        rfl
    · exact absurd rfl hne
    · have hdh := hfits.dh
      rw [if_pos ⟨hPFS, List.ne_nil_of_mem hid⟩] at hdh
      obtain ⟨g, -, hone⟩ := hdh
      rw [htype, hone]
      rfl

end Answer

end Swan.Control
