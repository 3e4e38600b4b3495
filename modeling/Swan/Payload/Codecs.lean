import Swan.Payload.Basic
import Swan.Payload.SA

/-! # Accepted bodies

The converse of reading back: a body that a parser accepts is the one that the writer makes of the
parsed value. NOTIFY, DELETE and CP bodies come back byte for byte (`appendNotify_of_parse`,
`appendDelete_of_parse`, `appendConfigPayload_of_parse`). An SA body comes back up to its reserved
bytes, whose positions are `SA.reserved` (`appendSA_of_parse`); the proof goes down the two chains,
with one inversion lemma per level: transform, transforms, proposal, proposals.

`sa_codec` and `body_codecs` put both directions together. -/

namespace Swan.Payload

open Swan.Lib Swan.Wire

/-! ### SA -/

/-- The positions of the reserved bytes in a chain of transforms. -/
def transformsReserved : List Transform → List ℕ
  | [] => []
  | t :: ts => [1, 5] ++ (transformsReserved ts).map (t.wireLen + ·)

def Proposal.reserved (p : Proposal) : List ℕ :=
  1 :: (transformsReserved p.transforms).map (proposalHeaderLen + p.spi.length + ·)

/-- The positions of the reserved bytes in a chain of proposals. -/
def proposalsReserved : List Proposal → List ℕ
  | [] => []
  | p :: ps => p.reserved ++ (proposalsReserved ps).map (p.wireLen + ·)

/-- The positions of the reserved bytes of the proposal and transform headers of an SA body. -/
def SA.reserved (sa : SA) : List ℕ := proposalsReserved sa.proposals

variable {b tail : Bytes}

theorem parseTransform_eq_ok {t : Transform} (h : parseTransform b = .ok (t, tail)) :
    t.wireLen ≤ 0xFFFF ∧ ∃ bt, b = bt ++ tail ∧ ∀ last : Bool,
      b.getD 0 0 = (if last then transformChainLast else transformChainMore) →
      AgreeOutside [1, 5] (t.bytes last) bt := by
  unfold parseTransform at h
  split_ifs at h with hshort
  dsimp only at h
  split_ifs at h with hlow hhigh
  obtain ⟨rfl, rfl⟩ := Prod.mk.inj (Except.ok.inj h)
  obtain ⟨x0, x1, x2, x3, x4, x5, x6, x7, rest, rfl⟩ := exists_eight (not_lt.mp hshort)
  set length := (beUint16 (slice (x0 :: x1 :: x2 :: x3 :: x4 :: x5 :: x6 :: x7 :: rest) 2 4)).toNat
    with hlength
  have hfield : slice (x0 :: x1 :: x2 :: x3 :: x4 :: x5 :: x6 :: x7 :: rest) 2 4 = [x2, x3] := rfl
  have hid : slice (x0 :: x1 :: x2 :: x3 :: x4 :: x5 :: x6 :: x7 :: rest) 6 8 = [x6, x7] := rfl
  have h8 : transformHeaderLen = 8 := rfl
  obtain ⟨n, hn⟩ : ∃ n, length = 8 + n := ⟨length - 8, by omega⟩
  have hattrs : slice (x0 :: x1 :: x2 :: x3 :: x4 :: x5 :: x6 :: x7 :: rest) transformHeaderLen
      length = rest.take n := by
    rw [hn, h8, slice, show 8 + n = n + 8 from Nat.add_comm _ _]
    rfl
  have hrest : n ≤ rest.length := by
    simp only [List.length_cons] at hhigh
    omega
  have hwire : Transform.wireLen ⟨x4, beUint16 [x6, x7], rest.take n⟩ = length := by
    rw [Transform.wireLen, List.length_take, min_eq_left hrest, hn, h8]
  rw [hid, hattrs]
  refine ⟨?_, x0 :: x1 :: x2 :: x3 :: x4 :: x5 :: x6 :: x7 :: rest.take n, ?_, fun last hmark => ?_⟩
  · have := (beUint16 [x2, x3]).toNat_lt
    change Transform.wireLen ⟨x4, beUint16 [x6, x7], rest.take n⟩ ≤ 0xFFFF
    rw [hwire, hlength, hfield]
    omega
  · rw [hn, Nat.add_comm]
    simp
  · have hbytes : Transform.bytes ⟨x4, beUint16 [x6, x7], rest.take n⟩ last =
        x0 :: 0 :: x2 :: x3 :: x4 :: 0 :: x6 :: x7 :: rest.take n := by
      have hx0 : x0 = if last then transformChainLast else transformChainMore := hmark
      rw [Transform.bytes, hwire, putUint16_ofNat_toNat hlength.symm, hfield, putUint16_pair,
        putUint16_pair, hx0]
      rfl
    change AgreeOutside [1, 5] (Transform.bytes ⟨x4, beUint16 [x6, x7], rest.take n⟩ last) _
    rw [hbytes]
    refine ⟨rfl, fun i hi => ?_⟩
    rcases i with _ | _ | _ | _ | _ | _ | i <;> first | rfl | simp at hi

theorem parseTransforms_succ_eq_ok {n left : ℕ} {ts : List Transform}
    (h : parseTransforms n (left + 1) b = .ok (ts, tail)) :
    ∃ t rest, parseTransform b = .ok (t, rest) ∧
      ((left = 0 ∧ b.getD 0 0 = transformChainLast ∧ ts = [t] ∧ tail = rest) ∨
        (left ≠ 0 ∧ b.getD 0 0 = transformChainMore ∧
          ∃ ts', parseTransforms n left rest = .ok (ts', tail) ∧ ts = t :: ts')) := by
  rw [parseTransforms] at h
  by_cases hshort : b.length < transformHeaderLen
  · rw [if_pos hshort] at h
    cases h
  rw [if_neg hshort] at h
  obtain ⟨⟨t, rest⟩, ht, h⟩ := bind_eq_ok.mp h
  refine ⟨t, rest, ht, ?_⟩
  dsimp only at h
  split_ifs at h with hlast hleft hmore hleft
  · obtain ⟨rfl, rfl⟩ := Prod.mk.inj (Except.ok.inj h)
    exact .inl ⟨not_not.mp hleft, hlast, rfl, rfl⟩
  · obtain ⟨⟨ts', rest'⟩, hts, h⟩ := bind_eq_ok.mp h
    obtain ⟨rfl, rfl⟩ := Prod.mk.inj (Except.ok.inj h)
    exact .inr ⟨hleft, not_not.mp hmore, ts', hts, rfl⟩

theorem parseTransforms_eq_ok (n : ℕ) : ∀ {left : ℕ} {b tail : Bytes} {ts : List Transform},
    parseTransforms n (left + 1) b = .ok (ts, tail) → ts.length = left + 1 ∧
      ∃ b' bt, b = bt ++ tail ∧ appendTransforms ts = .ok b' ∧
        AgreeOutside (transformsReserved ts) b' bt := by
  intro left
  induction left with
  | zero =>
    intro b tail ts h
    obtain ⟨t, rest, ht, ⟨-, hmark, rfl, rfl⟩ | ⟨h0, -⟩⟩ := parseTransforms_succ_eq_ok h
    · obtain ⟨hwire, bt, rfl, hagree⟩ := parseTransform_eq_ok ht
      refine ⟨rfl, t.bytes true, bt, rfl, ?_, ?_⟩
      · simp [appendTransforms, appendTransform, not_lt.mpr hwire]
      · have := hagree true hmark
        simpa [transformsReserved] using this
    · exact absurd rfl h0
  | succ left ih =>
    intro b tail ts h
    obtain ⟨t, rest, ht, ⟨h0, -⟩ | ⟨-, hmark, ts', hts, rfl⟩⟩ := parseTransforms_succ_eq_ok h
    · exact absurd h0 (Nat.succ_ne_zero _)
    · obtain ⟨hlen, b', bt', rfl, happend, hagree'⟩ := ih hts
      obtain ⟨hwire, bt, rfl, hagree⟩ := parseTransform_eq_ok ht
      have hmany : decide (ts'.length = 0) = false := by simp [hlen]
      refine ⟨by rw [List.length_cons, hlen], t.bytes false ++ b', bt ++ bt', by simp, ?_, ?_⟩
      · rw [appendTransforms, appendTransform, if_neg (not_lt.mpr hwire), happend, hmany]
        rfl
      · have := (hagree false hmark).append hagree'
        rwa [length_transform_bytes] at this

/-- The header of a proposal after its marker and its reserved byte. -/
def Proposal.fields (p : Proposal) : Bytes :=
  putUint16 (UInt16.ofNat p.wireLen) ++
    [p.num, p.protocolID, UInt8.ofNat p.spi.length, UInt8.ofNat p.transforms.length]

theorem parseProposal_split {p : Proposal} (h : parseProposal b = .ok (p, tail)) :
    p.spi.length ≤ 255 ∧ p.transforms.length ≤ 255 ∧ p.wireLen ≤ 0xFFFF ∧
    ∃ x0 x1 bt b', b = x0 :: x1 :: (p.fields ++ p.spi ++ bt) ++ tail ∧
      appendTransforms p.transforms = .ok b' ∧
      AgreeOutside (transformsReserved p.transforms) b' bt := by
  unfold parseProposal at h
  split_ifs at h with hshort
  dsimp only at h
  split_ifs at h with hlow hhigh hspi hnone
  obtain ⟨⟨ts, rest⟩, hts, h⟩ := bind_eq_ok.mp h
  dsimp only at h
  split_ifs at h with htrail
  obtain ⟨rfl, rfl⟩ := Prod.mk.inj (Except.ok.inj h)
  obtain rfl := List.eq_nil_of_length_eq_zero (not_not.mp htrail)
  obtain ⟨x0, x1, x2, x3, x4, x5, x6, x7, rest, rfl⟩ := exists_eight (not_lt.mp hshort)
  set b := x0 :: x1 :: x2 :: x3 :: x4 :: x5 :: x6 :: x7 :: rest with hb
  set length := (beUint16 (slice b 2 4)).toNat with hlength
  have hfield : slice b 2 4 = [x2, x3] := rfl
  have h8 : proposalHeaderLen = 8 := rfl
  obtain ⟨n, hn⟩ : ∃ n, length = 8 + n := ⟨length - 8, by omega⟩
  have hspiLen : (b.getD 6 0).toNat = x6.toNat := rfl
  have hnum : (b.getD 7 0).toNat = x7.toNat := rfl
  rw [hspiLen] at hspi hts
  rw [hnum] at hnone hts
  rw [hspiLen]
  have hle : n ≤ rest.length := by
    simp only [hb, List.length_cons] at hhigh
    omega
  have hx6 : x6.toNat ≤ n := by omega
  -- the SPI and the transforms split the declared part of the body
  have hspiEq : slice b proposalHeaderLen (proposalHeaderLen + x6.toNat) =
      (rest.take n).take x6.toNat := by
    rw [h8, slice, Nat.add_comm, List.take_take, min_eq_left hx6]
    rfl
  have htsEq : slice b (proposalHeaderLen + x6.toNat) length = (rest.take n).drop x6.toNat := by
    rw [h8, slice, hn, show 8 + n = n + 8 from Nat.add_comm _ _,
      show 8 + x6.toNat = x6.toNat + 8 from Nat.add_comm _ _]
    rfl
  have hspiLength : ((rest.take n).take x6.toNat).length = x6.toNat := by
    rw [List.length_take, List.length_take, min_eq_left hle, min_eq_left hx6]
  rw [htsEq] at hts
  rw [hspiEq]
  obtain ⟨m, hm⟩ : ∃ m, x7.toNat = m + 1 := ⟨x7.toNat - 1, by omega⟩
  rw [hm] at hts
  obtain ⟨hcount, b', bt, hbt, happend, hagree⟩ := parseTransforms_eq_ok (m + 1) hts
  rw [List.append_nil] at hbt
  set p : Proposal := ⟨b.getD 4 0, b.getD 5 0, (rest.take n).take x6.toNat, ts⟩ with hp
  have hpspi : p.spi.length = x6.toNat := hspiLength
  have hpts : p.transforms.length = x7.toNat := hcount.trans hm.symm
  have hwire : p.wireLen = length := by
    have hbtLen : bt.length = n - x6.toNat := by
      rw [← hbt, List.length_drop, List.length_take, min_eq_left hle]
    rw [Proposal.wireLen, hpspi, ← length_appendTransforms happend, hagree.length, hbtLen, h8]
    omega
  have hfields : p.fields = [x2, x3, x4, x5, x6, x7] := by
    rw [Proposal.fields, hwire, putUint16_ofNat_toNat hlength.symm, hfield, putUint16_pair, hpspi,
      hpts, UInt8.ofNat_toNat, UInt8.ofNat_toNat]
    rfl
  have hlt := (beUint16 [x2, x3]).toNat_lt
  have hlt6 := x6.toNat_lt
  have hlt7 := x7.toNat_lt
  refine ⟨by omega, by omega, ?_, x0, x1, bt, b', ?_, happend, hagree⟩
  · rw [hwire, hlength, hfield]
    omega
  · rw [hfields, ← hbt, List.append_assoc [x2, x3, x4, x5, x6, x7],
      show p.spi ++ (rest.take n).drop x6.toNat = rest.take n from List.take_append_drop _ _, hn,
      Nat.add_comm, hb]
    simp

theorem parseProposal_eq_ok {p : Proposal} (h : parseProposal b = .ok (p, tail)) :
    ∃ bp, b = bp ++ tail ∧ ∀ more : Bool,
      b.getD 0 0 = (if more then proposalChainMore else transformChainLast) →
      ∃ b', appendProposal p more = .ok b' ∧ b'.length = p.wireLen ∧
        AgreeOutside p.reserved b' bp := by
  obtain ⟨hspi, hnum, hwire, x0, x1, bt, b', rfl, happend, hagree⟩ := parseProposal_split h
  refine ⟨_, rfl, fun more hmark => ⟨p.header more ++ p.spi ++ b', ?_, ?_, ?_⟩⟩
  · rw [appendProposal, if_neg (not_lt.mpr hspi), if_neg (not_lt.mpr hnum), if_neg (not_lt.mpr hwire),
      happend]
    rfl
  · rw [List.length_append, List.length_append, length_proposal_header,
      length_appendTransforms happend]
    rfl
  · have hx0 : x0 = if more then proposalChainMore else transformChainLast := hmark
    have hhead : p.header more = x0 :: 0 :: p.fields := by
      rw [Proposal.header, Proposal.fields, hx0]
      rfl
    have hfront : AgreeOutside [1] (p.header more ++ p.spi) (x0 :: x1 :: (p.fields ++ p.spi)) := by
      rw [hhead]
      refine ⟨rfl, fun i hi => ?_⟩
      rcases i with _ | _ | i <;> first | rfl | simp at hi
    have hall := hfront.append hagree
    rwa [List.length_append, length_proposal_header] at hall

theorem parseProposals_eq_ok : ∀ {fuel : ℕ} {b : Bytes} {ps : List Proposal}, b.length < fuel →
    parseProposals fuel b = .ok ps →
    ∃ b', appendProposals ps = .ok b' ∧ AgreeOutside (proposalsReserved ps) b' b := by
  intro fuel
  induction fuel with
  | zero => exact fun hf => absurd hf (Nat.not_lt_zero _)
  | succ fuel ih =>
    intro b ps hf h
    rw [parseProposals] at h
    by_cases hempty : b.length = 0
    · rw [if_pos hempty] at h
      obtain rfl := Except.ok.inj h
      obtain rfl := List.eq_nil_of_length_eq_zero hempty
      exact ⟨[], rfl, .refl _ _⟩
    rw [if_neg hempty] at h
    by_cases hshort : b.length < proposalHeaderLen
    · rw [if_pos hshort] at h
      cases h
    rw [if_neg hshort] at h
    obtain ⟨⟨p, tail⟩, hp, h⟩ := bind_eq_ok.mp h
    dsimp only at h
    obtain ⟨bp, rfl, hagree⟩ := parseProposal_eq_ok hp
    by_cases htail : tail.length = 0
    · rw [if_pos htail] at h
      split_ifs at h with hmark
      obtain rfl := Except.ok.inj h
      obtain rfl := List.eq_nil_of_length_eq_zero htail
      obtain ⟨b', happend, hlen, hagree⟩ := hagree false (not_not.mp hmark)
      refine ⟨b', ?_, ?_⟩
      · simp [appendProposals, happend]
      · simpa [proposalsReserved] using hagree
    · rw [if_neg htail] at h
      split_ifs at h with hmark
      obtain ⟨ps', hps, h⟩ := bind_eq_ok.mp h
      obtain rfl := Except.ok.inj h
      obtain ⟨b', happend, hlen, hagree⟩ := hagree true (not_not.mp hmark)
      have hbp : 0 < bp.length := by
        rw [← hagree.length, hlen, Proposal.wireLen, proposalHeaderLen]
        omega
      obtain ⟨bs', happend', hagree'⟩ := ih (by rw [List.length_append] at hf; omega) hps
      have hmore : decide (ps'.length ≠ 0) = true := by
        have : ps' ≠ [] := by
          rintro rfl
          refine htail ?_
          rw [← hagree'.length, ← Except.ok.inj happend']
          rfl
        simpa using this
      refine ⟨b' ++ bs', ?_, ?_⟩
      · rw [appendProposals, hmore, happend, happend']
        rfl
      · have := hagree.append hagree'
        rwa [hlen] at this

/-- **An accepted SA body is the one that is written, up to the reserved bytes.** -/
theorem appendSA_of_parse {sa : SA} (h : parseSA b = .ok sa) :
    ∃ b', appendSA sa = .ok b' ∧ AgreeOutside sa.reserved b' b := by
  obtain ⟨ps, hps, h⟩ := bind_eq_ok.mp h
  split_ifs at h with hnone
  obtain rfl := Except.ok.inj h
  exact parseProposals_eq_ok (Nat.lt_succ_self _) hps

/-- An SA within the limits of the wire format: at least one proposal, each with 1 to 255 transforms,
an SPI of at most 255 bytes and a total length of at most 65535. -/
structure SA.WithinLimits (sa : SA) : Prop where
  proposals : 1 ≤ sa.proposals.length
  transforms : ∀ p ∈ sa.proposals, 1 ≤ p.transforms.length ∧ p.transforms.length ≤ 255
  spi : ∀ p ∈ sa.proposals, p.spi.length ≤ 255
  length : ∀ p ∈ sa.proposals, p.wireLen ≤ 65535

theorem exists_appendTransforms : ∀ {ts : List Transform}, (ts.map Transform.wireLen).sum ≤ 0xFFFF →
    ∃ b, appendTransforms ts = .ok b
  | [], _ => ⟨[], rfl⟩
  | t :: ts, h => by
    rw [List.map_cons, List.sum_cons] at h
    obtain ⟨b, hb⟩ := exists_appendTransforms (show (ts.map Transform.wireLen).sum ≤ 0xFFFF by omega)
    refine ⟨t.bytes (decide (ts.length = 0)) ++ b, ?_⟩
    rw [appendTransforms, appendTransform, if_neg (by omega), hb]
    rfl

theorem exists_appendProposals : ∀ {ps : List Proposal}, (∀ p ∈ ps, p.transforms.length ≤ 255) →
    (∀ p ∈ ps, p.spi.length ≤ 255) → (∀ p ∈ ps, p.wireLen ≤ 65535) → ∃ b, appendProposals ps = .ok b
  | [], _, _, _ => ⟨[], rfl⟩
  | p :: ps, hts, hspi, hlen => by
    obtain ⟨b, hb⟩ := exists_appendProposals (fun q hq => hts q (List.mem_cons_of_mem _ hq))
      (fun q hq => hspi q (List.mem_cons_of_mem _ hq)) fun q hq => hlen q (List.mem_cons_of_mem _ hq)
    have hwire := hlen p List.mem_cons_self
    obtain ⟨bt, hbt⟩ : ∃ bt, appendTransforms p.transforms = .ok bt := by
      rw [Proposal.wireLen] at hwire
      exact exists_appendTransforms (by omega)
    refine ⟨p.header (decide (ps.length ≠ 0)) ++ p.spi ++ bt ++ b, ?_⟩
    rw [appendProposals, appendProposal, if_neg (not_lt.mpr (hspi p List.mem_cons_self)),
      if_neg (not_lt.mpr (hts p List.mem_cons_self)), if_neg (not_lt.mpr hwire), hbt, hb]
    rfl

/-- **The SA codec.** An SA within the limits is read back from its body, and an accepted body is the
body of the SA that was read, up to the reserved bytes. -/
theorem sa_codec :
    (∀ sa : SA, sa.WithinLimits → ∃ b, appendSA sa = .ok b ∧ parseSA b = .ok sa) ∧
    ∀ (b : Bytes) (sa : SA), parseSA b = .ok sa →
      ∃ b', appendSA sa = .ok b' ∧ AgreeOutside sa.reserved b' b := by
  refine ⟨fun sa h => ?_, fun b sa h => appendSA_of_parse h⟩
  have hne : sa.proposals ≠ [] := List.ne_nil_of_length_pos h.proposals
  have hts : ∀ p ∈ sa.proposals, p.transforms ≠ [] := fun p hp =>
    List.ne_nil_of_length_pos (h.transforms p hp).1
  obtain ⟨b, hb⟩ := exists_appendProposals (fun p hp => (h.transforms p hp).2) h.spi h.length
  exact ⟨b, hb, parseSA_appendSA hne hts hb⟩

section Sample

/-- An ESP proposal with two transforms, then one for IKE. -/
def sampleSA : SA :=
  ⟨[⟨1, 3, [0, 0, 0, 7], [⟨TransformType.enc, 12, keyLengthAttr 128⟩, ⟨TransformType.integ, 12, []⟩]⟩,
    ⟨2, 1, [], [⟨TransformType.dh, 31, []⟩]⟩]⟩

theorem sample_sa_codec : ∃ b, appendSA sampleSA = .ok b ∧ parseSA b = .ok sampleSA :=
  sa_codec.1 sampleSA
    { proposals := by decide, transforms := by decide, spi := by decide, length := by decide }

end Sample

/-! ### NOTIFY -/

/-- A NOTIFY value that `parseNotify` can return: the scope fits the protocol and the SPI its one-byte
size field. -/
structure Notify.Allowed (n : Notify) : Prop where
  scope : checkNotifyScope n.protocolID n.spi.length = .ok ()
  spi : n.spi.length ≤ 255

variable {d : Delete}

theorem appendNotify_of_parse {n : Notify} (h : parseNotify b = .ok n) :
    appendNotify n = .ok b := by
  unfold parseNotify at h
  split_ifs at h with hshort
  dsimp only at h
  split_ifs at h with hlong
  obtain ⟨⟨⟩, hscope, h⟩ := bind_eq_ok.mp h
  obtain rfl := Except.ok.inj h
  obtain ⟨x0, x1, x2, x3, rest, rfl⟩ := exists_four (not_lt.mp hshort)
  set b := x0 :: x1 :: x2 :: x3 :: rest with hb
  have h4 : notifyFixedLen = 4 := rfl
  have hsize : (b.getD 1 0).toNat = x1.toNat := rfl
  have hle : x1.toNat ≤ rest.length := by
    rw [hsize, h4, hb] at hlong
    simp only [List.length_cons] at hlong
    omega
  have hspi : slice b notifyFixedLen (notifyFixedLen + (b.getD 1 0).toNat) = rest.take x1.toNat := by
    rw [hsize, h4, slice, Nat.add_comm]
    rfl
  have hdata : b.drop (notifyFixedLen + (b.getD 1 0).toNat) = rest.drop x1.toNat := by
    rw [hsize, h4, Nat.add_comm]
    rfl
  have hlen : (rest.take x1.toNat).length = x1.toNat := by rw [List.length_take, min_eq_left hle]
  have hlt := x1.toNat_lt
  rw [hspi, hdata, appendNotify]
  dsimp only
  rw [hlen, if_neg (by omega), UInt8.ofNat_toNat, show slice b 2 4 = [x2, x3] from rfl, putUint16_pair,
    List.append_assoc, List.take_append_drop]
  rfl

/-! ### DELETE -/

theorem beUint32s_flatMap : ∀ (spis : List UInt32) (t : Bytes),
    beUint32s spis.length (spis.flatMap putUint32 ++ t) = spis
  | [], _ => rfl
  | spi :: spis, t => by
    rw [List.length_cons, beUint32s, List.flatMap_cons, List.append_assoc, beUint32_put,
      List.drop_left' (length_putUint32 spi), beUint32s_flatMap spis t]

theorem flatMap_beUint32s : ∀ {n : ℕ} {b : Bytes}, b.length = 4 * n →
    (beUint32s n b).flatMap putUint32 = b
  | 0, b, h => (List.eq_nil_of_length_eq_zero h).symm
  | n + 1, b, h => by
    obtain ⟨x0, x1, x2, x3, t, rfl⟩ := exists_four (b := b) (by omega)
    have ht : t.length = 4 * n := by
      simp only [List.length_cons] at h
      omega
    have hfirst : putUint32 (beUint32 (x0 :: x1 :: x2 :: x3 :: t)) = [x0, x1, x2, x3] :=
      putUint32_beUint32 (b := [x0, x1, x2, x3]) rfl
    rw [beUint32s, List.flatMap_cons, hfirst, show (x0 :: x1 :: x2 :: x3 :: t).drop 4 = t from rfl,
      flatMap_beUint32s ht]
    rfl

@[simp] theorem length_beUint32s : ∀ (n : ℕ) (b : Bytes), (beUint32s n b).length = n
  | 0, _ => rfl
  | n + 1, b => by rw [beUint32s, List.length_cons, length_beUint32s n]

theorem length_flatMap_putUint32 (spis : List UInt32) :
    (spis.flatMap putUint32).length = 4 * spis.length := by
  induction spis with
  | nil => rfl
  | cons spi spis ih =>
    rw [List.flatMap_cons, List.length_append, ih, length_putUint32, List.length_cons]
    omega

theorem deletePanic_eq_none (h : deletePanic d = none) :
    (d.protocolID = deleteProtocolIKE ∧ d.spis = []) ∨
      (d.protocolID = deleteProtocolESP ∧ d.spis.length ≠ 0 ∧ d.spis.length ≤ 0xFFFF) := by
  unfold deletePanic at h
  split_ifs at h with hike hspis hesp hnum
  · exact .inl ⟨hike, List.eq_nil_of_length_eq_zero (not_not.mp hspis)⟩
  · exact .inr ⟨hesp, fun h0 => hnum (.inl h0), not_lt.mp fun hgt => hnum (.inr hgt)⟩

/-- **A DELETE that has a wire form is read back.** -/
theorem parseDelete_appendDelete (hb : appendDelete d = .ok b) :
    parseDelete b = .ok d := by
  obtain ⟨proto, spis⟩ := d
  cases hpanic : deletePanic ⟨proto, spis⟩ with
  | some text =>
    rw [appendDelete, hpanic] at hb
    cases hb
  | none =>
    rw [appendDelete, hpanic] at hb
    obtain rfl := Except.ok.inj hb
    rcases deletePanic_eq_none hpanic with ⟨hike, hnil⟩ | ⟨hesp, hne, hmax⟩
    · obtain rfl : proto = deleteProtocolIKE := hike
      obtain rfl : spis = [] := hnil
      rfl
    · obtain rfl : proto = deleteProtocolESP := hesp
      change spis.length ≠ 0 at hne
      change spis.length ≤ 0xFFFF at hmax
      dsimp only
      rw [if_pos rfl]
      set b := [deleteProtocolESP, 4] ++ putUint16 (UInt16.ofNat spis.length) ++ spis.flatMap putUint32
        with hbdef
      have hcount : (beUint16 (slice b 2 4)).toNat = spis.length := by
        have : slice b 2 4 = putUint16 (UInt16.ofNat spis.length) := by simp [slice, hbdef]
        rw [this, beUint16_putUint16]
        exact Nat.mod_eq_of_lt (by omega)
      have hlen : b.length = 4 + 4 * spis.length := by
        rw [hbdef, List.length_append, List.length_append, length_putUint16, length_flatMap_putUint32]
        rfl
      have hdrop : b.drop 4 = spis.flatMap putUint32 := List.drop_left' (by simp)
      have hproto : b.getD 0 0 = deleteProtocolESP := rfl
      have hsize : (b.getD 1 0).toNat = 4 := rfl
      have hread := beUint32s_flatMap spis []
      rw [List.append_nil] at hread
      simp only [parseDelete, hproto, hsize, hcount, hlen, hdrop, deleteFixedLen]
      rw [if_neg (by omega), if_neg (by decide), if_pos trivial, if_neg (by decide), if_neg hne,
        if_neg (by omega), Nat.mul_div_cancel _ (by omega), hread]

theorem appendDelete_of_parse (h : parseDelete b = .ok d) :
    appendDelete d = .ok b := by
  unfold parseDelete at h
  by_cases hshort : b.length < deleteFixedLen
  · rw [if_pos hshort] at h
    cases h
  rw [if_neg hshort] at h
  obtain ⟨x0, x1, x2, x3, rest, rfl⟩ := exists_four (not_lt.mp hshort)
  set b := x0 :: x1 :: x2 :: x3 :: rest with hb
  have hcount : slice b 2 4 = [x2, x3] := rfl
  have hproto : b.getD 0 0 = x0 := rfl
  have hsize : b.getD 1 0 = x1 := rfl
  have hdrop : b.drop deleteFixedLen = rest := rfl
  have hlen : b.length = rest.length + 4 := rfl
  rw [hcount, hproto, hsize, hdrop, hlen, deleteFixedLen] at h
  set count := (beUint16 [x2, x3]).toNat with hcountdef
  have hput : putUint16 (UInt16.ofNat count) = [x2, x3] := by
    rw [putUint16_ofNat_toNat hcountdef.symm, putUint16_pair]
  have hlt := (beUint16 [x2, x3]).toNat_lt
  dsimp only at h
  split_ifs at h with hike hs hc hl hesp hs hc hl
  · -- an IKE DELETE is its header alone
    obtain rfl := Except.ok.inj h
    rw [not_not] at hs hc hl
    obtain rfl : rest = [] := List.eq_nil_of_length_eq_zero (by rw [hs] at hl; omega)
    have hx1 : x1 = 0 := UInt8.toNat_inj.mp hs
    rw [hs, hc, hb, ← hput, hc, hx1, hike]
    rfl
  · obtain rfl := Except.ok.inj h
    rw [not_not] at hs hl
    have hx1 : x1 = 4 := UInt8.toNat_inj.mp hs
    have hrest : rest.length = 4 * count := by
      rw [hs] at hl
      omega
    rw [hs, Nat.mul_div_cancel _ (by omega)]
    have hnone : deletePanic ⟨x0, beUint32s count rest⟩ = none := by
      unfold deletePanic
      rw [if_neg hike, if_pos hesp, if_neg]
      rw [length_beUint32s]
      omega
    rw [appendDelete, hnone]
    dsimp only
    rw [if_pos hesp, length_beUint32s, hput, flatMap_beUint32s hrest, hb, hx1]
    rfl

/-! ### CP -/

theorem parseConfigAttribute_append {attr : ConfigAttribute} (tail : Bytes)
    (hb : appendConfigAttribute attr = .ok b) :
    parseConfigAttribute (b ++ tail) = .ok (attr, tail) ∧ 4 ≤ b.length := by
  unfold appendConfigAttribute at hb
  split_ifs at hb with hlong
  obtain rfl := Except.ok.inj hb
  set hd := putUint16 attr.type ++ putUint16 (UInt16.ofNat attr.value.length) with hhd
  have hhdlen : hd.length = configAttrFixedLen := by simp [hhd, configAttrFixedLen]
  have e0 : slice (hd ++ attr.value ++ tail) 0 2 = putUint16 attr.type := by simp [slice, hhd]
  have e2 : (beUint16 (slice (hd ++ attr.value ++ tail) 2 4)).toNat = attr.value.length := by
    have : slice (hd ++ attr.value ++ tail) 2 4 = putUint16 (UInt16.ofNat attr.value.length) := by
      simp [slice, hhd, List.take_append, List.take_of_length_le]
    rw [this, beUint16_putUint16]
    exact Nat.mod_eq_of_lt (by omega)
  have e4 : slice (hd ++ attr.value ++ tail) configAttrFixedLen
      (configAttrFixedLen + attr.value.length) = attr.value := by
    rw [← hhdlen, List.append_assoc]
    exact slice_middle _ _ _
  have ed : (hd ++ attr.value ++ tail).drop (configAttrFixedLen + attr.value.length) = tail :=
    List.drop_left' (by rw [List.length_append, hhdlen])
  have hlen : (hd ++ attr.value ++ tail).length = configAttrFixedLen + attr.value.length + tail.length := by
    rw [List.length_append, List.length_append, hhdlen]
  refine ⟨?_, ?_⟩
  · simp only [parseConfigAttribute, e0, e2, e4, ed, hlen, beUint16_putUint16]
    rw [if_neg (by omega), if_neg (by omega)]
  · rw [List.length_append, hhdlen, configAttrFixedLen]
    omega

theorem parseConfigAttribute_eq_ok {attr : ConfigAttribute} {tail : Bytes}
    (h : parseConfigAttribute b = .ok (attr, tail)) :
    ∃ ba, b = ba ++ tail ∧ appendConfigAttribute attr = .ok ba ∧ 4 ≤ ba.length := by
  unfold parseConfigAttribute at h
  split_ifs at h with hshort
  dsimp only at h
  split_ifs at h with hlong
  obtain ⟨rfl, rfl⟩ := Prod.mk.inj (Except.ok.inj h)
  obtain ⟨x0, x1, x2, x3, rest, rfl⟩ := exists_four (not_lt.mp hshort)
  set b := x0 :: x1 :: x2 :: x3 :: rest with hb
  have h4 : configAttrFixedLen = 4 := rfl
  have hfield : slice b 2 4 = [x2, x3] := rfl
  rw [hfield] at hlong ⊢
  set n := (beUint16 [x2, x3]).toNat with hn
  have hle : n ≤ rest.length := by
    rw [h4, hb] at hlong
    simp only [List.length_cons] at hlong
    omega
  have hvalue : slice b configAttrFixedLen (configAttrFixedLen + n) = rest.take n := by
    rw [h4, slice, Nat.add_comm]
    rfl
  have hlen : (rest.take n).length = n := by rw [List.length_take, min_eq_left hle]
  have hlt := (beUint16 [x2, x3]).toNat_lt
  rw [hvalue]
  refine ⟨x0 :: x1 :: x2 :: x3 :: rest.take n, ?_, ?_, by simp⟩
  · rw [h4, Nat.add_comm, hb]
    simp
  · rw [appendConfigAttribute]
    dsimp only
    rw [hlen, if_neg (by omega), putUint16_ofNat_toNat hn.symm, putUint16_pair,
      show slice b 0 2 = [x0, x1] from rfl, putUint16_pair]
    rfl

theorem parseConfigAttributes_append : ∀ {attrs : List ConfigAttribute} {b : Bytes} {fuel : ℕ},
    appendConfigAttributes attrs = .ok b → b.length ≤ fuel →
    parseConfigAttributes fuel b = .ok attrs
  | [], b, fuel, h, _ => by
    obtain rfl := Except.ok.inj h
    cases fuel <;> rfl
  | attr :: attrs, b, fuel, h, hf => by
    obtain ⟨ba, hba, h⟩ := bind_eq_ok.mp h
    obtain ⟨bs, hbs, h⟩ := bind_eq_ok.mp h
    obtain rfl := Except.ok.inj h
    obtain ⟨hparse, hlen⟩ := parseConfigAttribute_append bs hba
    rw [List.length_append] at hf
    obtain ⟨fuel, rfl⟩ : ∃ k, fuel = k + 1 := ⟨fuel - 1, by omega⟩
    obtain ⟨x, t, hcons⟩ : ∃ x t, ba ++ bs = x :: t := by
      rcases hnil : ba ++ bs with _ | ⟨x, t⟩
      · have := congrArg List.length hnil
        rw [List.length_append, List.length_nil] at this
        omega
      · exact ⟨x, t, rfl⟩
    have hstep : parseConfigAttributes (fuel + 1) (x :: t) = parseConfigAttribute (x :: t) >>=
        fun r => parseConfigAttributes fuel r.2 >>= fun attrs => .ok (r.1 :: attrs) := rfl
    rw [hcons, hstep, ← hcons, hparse, ok_bind]
    dsimp only
    rw [parseConfigAttributes_append hbs (by omega), ok_bind]

theorem appendConfigAttributes_of_parse : ∀ {fuel : ℕ} {b : Bytes} {attrs : List ConfigAttribute},
    b.length ≤ fuel → parseConfigAttributes fuel b = .ok attrs → appendConfigAttributes attrs = .ok b
  | fuel, [], attrs, _, h => by
    have h' : (.ok [] : Except Err (List ConfigAttribute)) = .ok attrs := by
      cases fuel <;> exact h
    rw [← Except.ok.inj h']
    rfl
  | 0, _ :: _, _, hf, _ => absurd hf (Nat.not_succ_le_zero _)
  | fuel + 1, x :: t, attrs, hf, h => by
    obtain ⟨⟨attr, tail⟩, hattr, h⟩ := bind_eq_ok.mp h
    obtain ⟨attrs', hattrs, h⟩ := bind_eq_ok.mp h
    obtain rfl := Except.ok.inj h
    obtain ⟨ba, hsplit, happend, hlen⟩ := parseConfigAttribute_eq_ok hattr
    have htail : tail.length ≤ fuel := by
      rw [hsplit, List.length_append] at hf
      omega
    rw [appendConfigAttributes, happend, appendConfigAttributes_of_parse htail hattrs, hsplit]
    rfl

/-- A CP value of one of the four kinds whose attributes fit their length field. -/
structure ConfigPayload.Allowed (cp : ConfigPayload) : Prop where
  kind : cp.kind = ConfigType.request ∨ cp.kind = ConfigType.reply ∨ cp.kind = ConfigType.set ∨
    cp.kind = ConfigType.ack
  values : ∀ attr ∈ cp.attributes, attr.value.length ≤ 65535

theorem exists_appendConfigAttributes : ∀ {attrs : List ConfigAttribute},
    (∀ attr ∈ attrs, attr.value.length ≤ 65535) → ∃ b, appendConfigAttributes attrs = .ok b
  | [], _ => ⟨[], rfl⟩
  | attr :: attrs, h => by
    obtain ⟨b, hb⟩ := exists_appendConfigAttributes fun a ha => h a (List.mem_cons_of_mem _ ha)
    have hattr := h attr List.mem_cons_self
    refine ⟨putUint16 attr.type ++ putUint16 (UInt16.ofNat attr.value.length) ++ attr.value ++ b, ?_⟩
    rw [appendConfigAttributes, appendConfigAttribute, if_neg (not_lt.mpr hattr), hb]
    rfl

/-- **A CP value is read back.** -/
theorem exists_appendConfigPayload {cp : ConfigPayload} (h : cp.Allowed) :
    ∃ b, appendConfigPayload cp = .ok b ∧ parseConfigPayload b = .ok cp := by
  obtain ⟨kind, attrs⟩ := cp
  obtain ⟨bs, hbs⟩ := exists_appendConfigAttributes h.values
  have hkind : kind = ConfigType.request ∨ kind = ConfigType.reply ∨ kind = ConfigType.set ∨
    kind = ConfigType.ack := h.kind
  have hzero : kind ≠ 0 := by rcases hkind with rfl | rfl | rfl | rfl <;> decide
  refine ⟨[kind, 0, 0, 0] ++ bs, ?_, ?_⟩
  · simp only [appendConfigPayload, if_neg hzero]
    rw [show appendConfigAttributes attrs = .ok bs from hbs]
    rfl
  · have hread : parseConfigAttributes ([kind, 0, 0, 0] ++ bs).length bs = .ok attrs :=
      parseConfigAttributes_append hbs (Nat.le_add_right _ 4)
    rw [parseConfigPayload, if_neg (by simp [configFixedLen])]
    dsimp only
    rw [if_neg, if_neg (by simp), show ([kind, 0, 0, 0] ++ bs).drop configFixedLen = bs from rfl, hread]
    · rfl
    · rintro ⟨h1, h2, h3, h4⟩
      exact hkind.elim h1 fun h => h.elim h2 fun h => h.elim h3 h4

theorem appendConfigPayload_of_parse {cp : ConfigPayload} (h : parseConfigPayload b = .ok cp) :
    appendConfigPayload cp = .ok b := by
  unfold parseConfigPayload at h
  by_cases hshort : b.length < configFixedLen
  · rw [if_pos hshort] at h
    cases h
  rw [if_neg hshort] at h
  dsimp only at h
  split_ifs at h with hkind hres
  obtain ⟨attrs, hattrs, h⟩ := bind_eq_ok.mp h
  obtain rfl := Except.ok.inj h
  obtain ⟨x0, x1, x2, x3, rest, rfl⟩ := exists_four (not_lt.mp hshort)
  rw [not_or, not_or, not_not, not_not, not_not] at hres
  obtain ⟨h1, h2, h3⟩ := hres
  obtain rfl : x1 = 0 := h1
  obtain rfl : x2 = 0 := h2
  obtain rfl : x3 = 0 := h3
  have hzero : x0 ≠ 0 := by
    rintro rfl
    exact hkind (by simp [ConfigType.request, ConfigType.reply, ConfigType.set, ConfigType.ack])
  have happend : appendConfigAttributes attrs = .ok rest :=
    appendConfigAttributes_of_parse (Nat.le_add_right _ 4) hattrs
  simp only [appendConfigPayload]
  rw [show (x0 :: 0 :: 0 :: 0 :: rest : Bytes).getD 0 0 = x0 from rfl, if_neg hzero, happend]
  rfl

/-! ### All three -/

/-- **The CP, DELETE and NOTIFY codecs.** Values that have a body are read back from it, and an
accepted body is the body of the value that was read. -/
theorem body_codecs :
    ((∀ cp : ConfigPayload, cp.Allowed →
        ∃ b, appendConfigPayload cp = .ok b ∧ parseConfigPayload b = .ok cp) ∧
      ∀ b cp, parseConfigPayload b = .ok cp → appendConfigPayload cp = .ok b) ∧
    ((∀ d : Delete, deletePanic d = none →
        ∃ b, appendDelete d = .ok b ∧ parseDelete b = .ok d) ∧
      ∀ b d, parseDelete b = .ok d → appendDelete d = .ok b) ∧
    ((∀ n : Notify, n.Allowed → ∃ b, appendNotify n = .ok b ∧ parseNotify b = .ok n) ∧
      ∀ b n, parseNotify b = .ok n → appendNotify n = .ok b) := by
  refine ⟨⟨fun cp h => exists_appendConfigPayload h, fun b cp h => appendConfigPayload_of_parse h⟩,
    ⟨fun d h => ?_, fun b d h => appendDelete_of_parse h⟩,
    fun n h => ?_, fun b n h => appendNotify_of_parse h⟩
  · obtain ⟨b, hb⟩ : ∃ b, appendDelete d = .ok b := by
      rw [appendDelete, h]
      exact ⟨_, rfl⟩
    exact ⟨b, hb, parseDelete_appendDelete hb⟩
  · obtain ⟨b, hb⟩ : ∃ b, appendNotify n = .ok b := by
      rw [appendNotify, if_neg (not_lt.mpr h.spi)]
      exact ⟨_, rfl⟩
    exact ⟨b, hb, parseNotify_appendNotify hb h.scope⟩

theorem sample_body_codecs : ∃ b, appendConfigPayload ⟨ConfigType.reply, [⟨1, [10, 0, 0, 1]⟩]⟩ = .ok b ∧
    parseConfigPayload b = .ok ⟨ConfigType.reply, [⟨1, [10, 0, 0, 1]⟩]⟩ :=
  body_codecs.1.1 _ { kind := by decide, values := by decide }

end Swan.Payload
