import Swan.Wire.Message

/-! # The body of an SA payload

Transforms, proposals and their chains. `parseSA_appendSA`: every SA value that has a wire form is
read back. The loops over transforms and proposals both follow a chain of marked substructures, and
each is proved by its own step lemma over one substructure. -/

namespace Swan.Payload

open Swan.Lib Swan.Wire

def proposalHeaderLen : ℕ := 8
def transformHeaderLen : ℕ := 8

def transformChainLast : UInt8 := 0
def proposalChainMore : UInt8 := 2
def transformChainMore : UInt8 := 3

abbrev TransformType := UInt8

namespace TransformType
def enc : TransformType := 1
def prf : TransformType := 2
def integ : TransformType := 3
def dh : TransformType := 4
def esn : TransformType := 5
end TransformType

def transformAttrKeyLength : UInt16 := 14
def transformAttrFormatTV : UInt16 := 0x8000
def esnNoExtendedSequenceNumbers : UInt16 := 0

/-- One transform: its family, algorithm number and raw attributes. -/
structure Transform where
  type : TransformType
  id : UInt16
  attrs : Bytes
  deriving DecidableEq, Repr

structure Proposal where
  num : UInt8
  protocolID : UInt8
  spi : Bytes
  transforms : List Transform
  deriving DecidableEq, Repr

/-- The proposals of an SA payload. -/
structure SA where
  proposals : List Proposal
  deriving DecidableEq, Repr

/-! ### Transforms -/

def Transform.wireLen (t : Transform) : ℕ := transformHeaderLen + t.attrs.length

def Transform.bytes (t : Transform) (last : Bool) : Bytes :=
  [if last then transformChainLast else transformChainMore, 0] ++ putUint16 (UInt16.ofNat t.wireLen)
    ++ [t.type, 0] ++ putUint16 t.id ++ t.attrs

def appendTransform (t : Transform) (last : Bool) : Except Err Bytes :=
  if t.wireLen > 0xFFFF then
    .error (.panicked
      s!"github.com/wsm25/swan/payload: transform length {t.wireLen} exceeds wire limit 65535")
  else .ok (t.bytes last)

def parseTransform (b : Bytes) : Except Err (Transform × Bytes) :=
  if b.length < transformHeaderLen then
    .error (.errorf s!"transform too short: {b.length} bytes")
  else
    let length := (beUint16 (slice b 2 4)).toNat
    if length < transformHeaderLen then .error (.errorf s!"invalid transform length {length}")
    else if length > b.length then
      .error (.errorf s!"transform length {length} exceeds remaining {b.length}")
    else
      .ok ({ type := b.getD 4 0, id := beUint16 (slice b 6 8)
             attrs := slice b transformHeaderLen length },
        b.drop length)

/-- The transforms of a proposal, the last one marked as such. -/
def appendTransforms : List Transform → Except Err Bytes
  | [] => .ok []
  | t :: ts => do
    let b ← appendTransform t (ts.length = 0)
    let rest ← appendTransforms ts
    .ok (b ++ rest)

/-- The rounds of the transform loop of a proposal with `n` transforms, from the `i`-th on. -/
def parseTransforms (n : ℕ) : ℕ → Bytes → Except Err (List Transform × Bytes)
  | 0, rest => .ok ([], rest)
  | left + 1, rest =>
    if rest.length < transformHeaderLen then
      .error (.errorf s!"transform {n - (left + 1)} too short: {rest.length} bytes")
    else do
      let marker := rest.getD 0 0
      let (t, tail) ← parseTransform rest
      if marker = transformChainLast then
        if left ≠ 0 then
          .error (.errorf s!"transform chain ended after {n - left} of {n} transforms")
        else .ok ([t], tail)
      else if marker ≠ transformChainMore then
        .error (.errorf s!"invalid transform chain marker 0x{hex2 marker}")
      else if left = 0 then .error (.errorf "transform chain missing last marker")
      else do
        let (ts, rest') ← parseTransforms n left tail
        .ok (t :: ts, rest')

/-! ### Proposals -/

def Proposal.wireLen (p : Proposal) : ℕ :=
  proposalHeaderLen + p.spi.length + (p.transforms.map Transform.wireLen).sum

def Proposal.header (p : Proposal) (more : Bool) : Bytes :=
  [if more then proposalChainMore else transformChainLast, 0] ++ putUint16 (UInt16.ofNat p.wireLen)
    ++ [p.num, p.protocolID, UInt8.ofNat p.spi.length, UInt8.ofNat p.transforms.length]

def appendProposal (p : Proposal) (more : Bool) : Except Err Bytes :=
  if p.spi.length > 255 then
    .error (.panicked
      s!"github.com/wsm25/swan/payload: proposal SPI length {p.spi.length} exceeds wire limit 255")
  else if p.transforms.length > 255 then
    .error (.panicked (s!"github.com/wsm25/swan/payload: {p.transforms.length} proposal " ++
      "transforms exceed the wire limit 255"))
  else if p.wireLen > 0xFFFF then
    .error (.panicked
      s!"github.com/wsm25/swan/payload: proposal length {p.wireLen} exceeds wire limit 65535")
  else do
    let ts ← appendTransforms p.transforms
    .ok (p.header more ++ p.spi ++ ts)

def parseProposal (b : Bytes) : Except Err (Proposal × Bytes) :=
  if b.length < proposalHeaderLen then .error (.errorf s!"proposal too short: {b.length} bytes")
  else
    let length := (beUint16 (slice b 2 4)).toNat
    if length < proposalHeaderLen then .error (.errorf s!"invalid proposal length {length}")
    else if length > b.length then
      .error (.errorf s!"proposal length {length} exceeds remaining {b.length}")
    else
      let spiSize := (b.getD 6 0).toNat
      let numTransforms := (b.getD 7 0).toNat
      if proposalHeaderLen + spiSize > length then
        .error (.errorf "proposal spi exceeds declared length")
      else if numTransforms = 0 then .error (.errorf "proposal declares no transforms")
      else do
        let (ts, rest) ← parseTransforms numTransforms numTransforms
          (slice b (proposalHeaderLen + spiSize) length)
        if rest.length ≠ 0 then .error (.errorf s!"proposal has {rest.length} trailing bytes")
        else
          .ok ({ num := b.getD 4 0, protocolID := b.getD 5 0
                 spi := slice b proposalHeaderLen (proposalHeaderLen + spiSize)
                 transforms := ts },
            b.drop length)

/-- The proposals of an SA, all but the last one marked as followed by another. -/
def appendProposals : List Proposal → Except Err Bytes
  | [] => .ok []
  | p :: ps => do
    let b ← appendProposal p (ps.length ≠ 0)
    let rest ← appendProposals ps
    .ok (b ++ rest)

def appendSA (sa : SA) : Except Err Bytes := appendProposals sa.proposals

theorem appendTransforms_ok : ∀ ts : List Transform, (∀ t ∈ ts, t.attrs.length ≤ 4) →
    ∃ b, appendTransforms ts = .ok b ∧ b.length ≤ 12 * ts.length
  | [], _ => ⟨[], rfl, Nat.zero_le _⟩
  | t :: ts, h => by
    obtain ⟨rest, hrest, hlen⟩ := appendTransforms_ok ts fun t ht => h t (List.mem_cons_of_mem _ ht)
    have ht := h t List.mem_cons_self
    have hwire : ¬t.wireLen > 0xFFFF := by simp only [Transform.wireLen, transformHeaderLen]; omega
    refine ⟨t.bytes (ts.length = 0) ++ rest, ?_, ?_⟩
    · rw [appendTransforms, appendTransform, if_neg hwire, hrest]
      rfl
    · simp only [Transform.bytes, List.length_append, List.length_cons, List.length_nil,
        length_putUint16]
      omega

theorem appendSA_singleton {p : Proposal} (hspi : p.spi.length ≤ 8) (hnum : p.transforms.length ≤ 4)
    (hattrs : ∀ t ∈ p.transforms, t.attrs.length ≤ 4) :
    ∃ b, appendSA ⟨[p]⟩ = .ok b ∧ b.length ≤ 64 := by
  obtain ⟨ts, hts, hlen⟩ := appendTransforms_ok p.transforms hattrs
  have hsum : (p.transforms.map Transform.wireLen).sum ≤ p.transforms.length * 12 := by
    have hle : ∀ n ∈ p.transforms.map Transform.wireLen, n ≤ 12 := by
      intro n hn
      obtain ⟨t, ht, rfl⟩ := List.mem_map.mp hn
      have hattr := hattrs t ht
      simp only [Transform.wireLen, transformHeaderLen]
      omega
    simpa using List.sum_le_card_nsmul _ 12 hle
  have hwire : ¬p.wireLen > 0xFFFF := by simp only [Proposal.wireLen, proposalHeaderLen]; omega
  refine ⟨p.header false ++ p.spi ++ ts, ?_, ?_⟩
  · simp only [appendSA, appendProposals, appendProposal, if_neg hwire,
      if_neg (show ¬p.spi.length > 255 by omega), if_neg (show ¬p.transforms.length > 255 by omega),
      hts]
    simp
  · simp only [Proposal.header, List.length_append, List.length_cons, List.length_nil,
      length_putUint16]
    omega

/-- The rounds of the proposal loop; every round consumes a proposal header. -/
def parseProposals : ℕ → Bytes → Except Err (List Proposal)
  | 0, _ => .ok []
  | fuel + 1, rest =>
    if rest.length = 0 then .ok []
    else if rest.length < proposalHeaderLen then
      .error (.errorf s!"sst proposal short: {rest.length} bytes")
    else do
      let (p, tail) ← parseProposal rest
      if tail.length = 0 then
        if rest.getD 0 0 ≠ transformChainLast then
          .error (.errorf "proposal chain missing last marker")
        else .ok [p]
      else if rest.getD 0 0 ≠ proposalChainMore then
        .error (.errorf
          s!"proposal chain marker 0x{hex2 (rest.getD 0 0)} before remaining proposals")
      else do
        let ps ← parseProposals fuel tail
        .ok (p :: ps)

def parseSA (b : Bytes) : Except Err SA := do
  let ps ← parseProposals (b.length + 1) b
  if ps.length = 0 then .error (.errorf "missing sa proposals") else .ok { proposals := ps }

/-! ### The key length attribute -/

def keyLengthAttr (bits : UInt16) : Bytes :=
  putUint16 (transformAttrKeyLength ||| transformAttrFormatTV) ++ putUint16 bits

def parseKeyLengthAttr (attrs : Bytes) : Except Err UInt16 :=
  if attrs.length ≠ 4 then
    .error (.errorf s!"invalid key length attribute size {attrs.length}")
  else
    let typ := beUint16 (slice attrs 0 2)
    if typ &&& transformAttrFormatTV = 0 then
      .error (.errorf "key length must use tv attribute format")
    else if typ &&& ~~~transformAttrFormatTV ≠ transformAttrKeyLength then
      .error (.errorf
        s!"unsupported transform attribute 0x{hex2 (typ >>> 8).toUInt8}{hex2 typ.toUInt8}")
    else .ok (beUint16 (slice attrs 2 4))

@[simp] theorem parseKeyLengthAttr_keyLengthAttr (bits : UInt16) :
    parseKeyLengthAttr (keyLengthAttr bits) = .ok bits := by
  have e0 : slice (keyLengthAttr bits) 0 2
      = putUint16 (transformAttrKeyLength ||| transformAttrFormatTV) := by
    simp [slice, keyLengthAttr]
  have e2 : slice (keyLengthAttr bits) 2 4 = putUint16 bits := by
    simp [slice, keyLengthAttr, List.take_of_length_le]
  have hl : (keyLengthAttr bits).length = 4 := by simp [keyLengthAttr]
  simp only [parseKeyLengthAttr, hl, e0, e2, beUint16_putUint16]
  rw [if_neg (by decide), if_neg (by decide), if_neg (by decide)]

theorem eq_keyLengthTV {typ : BitVec 16} (htv : typ &&& 0x8000#16 ≠ 0#16)
    (htype : typ &&& ~~~0x8000#16 = 14#16) : typ = 14#16 ||| 0x8000#16 := by
  have htop : typ[15] = true := by
    by_contra hfalse
    refine htv ?_
    ext i hi
    interval_cases i <;> simp_all
  ext i hi
  have hbit : (typ &&& ~~~0x8000#16)[i] = (14#16)[i] := by rw [htype]
  clear htv htype
  interval_cases i <;> first | simpa using hbit | simpa using htop

theorem eq_keyLengthAttr {attrs : Bytes} {bits : UInt16} (h : parseKeyLengthAttr attrs = .ok bits) :
    attrs = keyLengthAttr bits := by
  unfold parseKeyLengthAttr at h
  split_ifs at h with hlen
  dsimp only at h
  split_ifs at h with htv htype
  obtain rfl := Except.ok.inj h
  have hlen : attrs.length = 4 := not_not.mp hlen
  have htyp : beUint16 (slice attrs 0 2) = transformAttrKeyLength ||| transformAttrFormatTV :=
    UInt16.toBitVec_inj.mp (eq_keyLengthTV (fun h0 => htv (UInt16.toBitVec_inj.mp h0))
      (congrArg UInt16.toBitVec (not_not.mp htype)))
  have h0 : (slice attrs 0 2).length = 2 := by simp [slice, hlen]
  have h2 : (slice attrs 2 4).length = 2 := by simp [slice, hlen]
  rw [keyLengthAttr, ← htyp, putUint16_beUint16 h0, putUint16_beUint16 h2]
  simp [slice, List.take_of_length_le hlen.le]

theorem div_mul_of_mod {n : UInt16} (h : n % 8 = 0) : n / 8 * 8 = n := by
  have h' : n.toNat % 8 = 0 := by simpa using congrArg UInt16.toNat h
  refine UInt16.toNat_inj.mp ?_
  rw [UInt16.toNat_mul, UInt16.toNat_div]
  have := n.toNat_lt
  simp
  omega

/-! ### Reading back -/

theorem length_transform_bytes (t : Transform) (last : Bool) :
    (t.bytes last).length = t.wireLen := by
  simp [Transform.bytes, Transform.wireLen, transformHeaderLen]
  omega

theorem parseTransform_bytes (t : Transform) (last : Bool) (tail : Bytes)
    (h : t.wireLen ≤ 0xFFFF) : parseTransform (t.bytes last ++ tail) = .ok (t, tail) := by
  have hlen := length_transform_bytes t last
  have e2 : (beUint16 (slice (t.bytes last ++ tail) 2 4)).toNat = t.wireLen := by
    have : slice (t.bytes last ++ tail) 2 4 = putUint16 (UInt16.ofNat t.wireLen) := by
      simp [slice, Transform.bytes]
    rw [this, beUint16_putUint16]
    exact Nat.mod_eq_of_lt (by omega)
  have e4 : (t.bytes last ++ tail).getD 4 0 = t.type := by simp [Transform.bytes]
  have e6 : slice (t.bytes last ++ tail) 6 8 = putUint16 t.id := by
    simp [slice, Transform.bytes, List.take_append, List.drop_append, List.take_of_length_le,
      List.drop_eq_nil_of_le]
  have e8 : slice (t.bytes last ++ tail) transformHeaderLen t.wireLen = t.attrs := by
    have hd : (t.bytes last).length - t.attrs.length = transformHeaderLen := by
      rw [hlen, Transform.wireLen]; omega
    rw [slice, List.take_left' hlen, Transform.bytes]
    exact List.drop_left' (by simp [transformHeaderLen])
  have ed : (t.bytes last ++ tail).drop t.wireLen = tail := List.drop_left' hlen
  simp only [parseTransform, e2, e4, e6, e8, ed, beUint16_putUint16]
  have : transformHeaderLen ≤ t.wireLen := Nat.le_add_right _ _
  rw [if_neg (by simp [hlen]; omega), if_neg (by omega), if_neg (by simp [hlen])]

theorem parseTransforms_appendTransforms (n : ℕ) : ∀ {ts : List Transform} {b : Bytes} (tail : Bytes),
    ts ≠ [] → appendTransforms ts = .ok b →
    parseTransforms n ts.length (b ++ tail) = .ok (ts, tail)
  | [], _, _, h, _ => absurd rfl h
  | t :: ts, b, tail, _, hb => by
    obtain ⟨bt, hbt, hb⟩ := bind_eq_ok.mp hb
    obtain ⟨bs, hbs, hb⟩ := bind_eq_ok.mp hb
    obtain rfl := Except.ok.inj hb
    unfold appendTransform at hbt
    split_ifs at hbt with hw
    obtain rfl := Except.ok.inj hbt
    have hlen := length_transform_bytes t (decide (ts.length = 0))
    have hge : transformHeaderLen ≤ t.wireLen := Nat.le_add_right _ _
    have hmark : (t.bytes (decide (ts.length = 0)) ++ (bs ++ tail)).getD 0 0
        = if ts.length = 0 then transformChainLast else transformChainMore := by
      simp [Transform.bytes]
    rw [List.length_cons, parseTransforms, List.append_assoc,
      if_neg (by rw [List.length_append, hlen]; omega), parseTransform_bytes t _ _ (by omega),
      ok_bind, hmark]
    cases ts with
    | nil =>
      obtain rfl := Except.ok.inj hbs
      rfl
    | cons t' ts =>
      simp only [List.length_cons, Nat.succ_ne_zero, if_false]
      rw [if_neg (by decide), if_neg (by decide), ← List.length_cons,
        parseTransforms_appendTransforms n tail (by simp) hbs]
      rfl

theorem length_appendTransforms : ∀ {ts : List Transform} {b : Bytes},
    appendTransforms ts = .ok b → b.length = (ts.map Transform.wireLen).sum
  | [], _, h => by rw [← Except.ok.inj h]; rfl
  | t :: ts, b, h => by
    obtain ⟨bt, hbt, h⟩ := bind_eq_ok.mp h
    obtain ⟨bs, hbs, h⟩ := bind_eq_ok.mp h
    unfold appendTransform at hbt
    split_ifs at hbt
    rw [← Except.ok.inj h, ← Except.ok.inj hbt, List.length_append, length_transform_bytes,
      length_appendTransforms hbs, List.map_cons, List.sum_cons]

theorem length_proposal_header (p : Proposal) (more : Bool) :
    (p.header more).length = proposalHeaderLen := by
  simp [Proposal.header, proposalHeaderLen]

theorem parseProposal_appendProposal {p : Proposal} {more : Bool} {b : Bytes} (tail : Bytes)
    (ht : p.transforms ≠ []) (hb : appendProposal p more = .ok b) :
    parseProposal (b ++ tail) = .ok (p, tail) ∧ b.length = p.wireLen ∧
      b.getD 0 0 = if more then proposalChainMore else transformChainLast := by
  unfold appendProposal at hb
  split_ifs at hb with hspi hnum hwire
  obtain ⟨ts, hts, hb⟩ := bind_eq_ok.mp hb
  obtain rfl := Except.ok.inj hb
  have hhdlen := length_proposal_header p more
  have hlen : (p.header more ++ p.spi ++ ts).length = p.wireLen := by
    simp only [List.length_append, hhdlen, length_appendTransforms hts, Proposal.wireLen]
  have e2 : (beUint16 (slice (p.header more ++ p.spi ++ ts ++ tail) 2 4)).toNat = p.wireLen := by
    have : slice (p.header more ++ p.spi ++ ts ++ tail) 2 4 = putUint16 (UInt16.ofNat p.wireLen) := by
      simp [slice, Proposal.header]
    rw [this, beUint16_putUint16]
    exact Nat.mod_eq_of_lt (by omega)
  have e4 : (p.header more ++ p.spi ++ ts ++ tail).getD 4 0 = p.num := by simp [Proposal.header]
  have e5 : (p.header more ++ p.spi ++ ts ++ tail).getD 5 0 = p.protocolID := by
    simp [Proposal.header, List.getElem?_append]
  have e6 : ((p.header more ++ p.spi ++ ts ++ tail).getD 6 0).toNat = p.spi.length := by
    have : (p.header more ++ p.spi ++ ts ++ tail).getD 6 0 = UInt8.ofNat p.spi.length := by
      simp [Proposal.header, List.getElem?_append]
    rw [this]
    exact Nat.mod_eq_of_lt (by omega)
  have e7 : ((p.header more ++ p.spi ++ ts ++ tail).getD 7 0).toNat = p.transforms.length := by
    have : (p.header more ++ p.spi ++ ts ++ tail).getD 7 0 = UInt8.ofNat p.transforms.length := by
      simp [Proposal.header, List.getElem?_append]
    rw [this]
    exact Nat.mod_eq_of_lt (by omega)
  have espi : slice (p.header more ++ p.spi ++ ts ++ tail) proposalHeaderLen
      (proposalHeaderLen + p.spi.length) = p.spi := by
    rw [← hhdlen, List.append_assoc, List.append_assoc]; exact slice_middle _ _ _
  have ets : slice (p.header more ++ p.spi ++ ts ++ tail) (proposalHeaderLen + p.spi.length)
      p.wireLen = ts := by
    rw [slice, List.take_left' hlen]
    exact List.drop_left' (by rw [List.length_append, hhdlen])
  have ed : (p.header more ++ p.spi ++ ts ++ tail).drop p.wireLen = tail := List.drop_left' hlen
  have hts' := parseTransforms_appendTransforms p.transforms.length [] ht hts
  rw [List.append_nil] at hts'
  have h8 : proposalHeaderLen + p.spi.length ≤ p.wireLen := Nat.le_add_right _ _
  have hall : (p.header more ++ p.spi ++ ts ++ tail).length = p.wireLen + tail.length := by
    rw [List.length_append, hlen]
  refine ⟨?_, hlen, by simp [Proposal.header]⟩
  simp only [parseProposal, e2, e4, e5, e6, e7, espi, ets, ed, hall, hts', ok_bind]
  rw [if_neg (by omega), if_neg (by omega), if_neg (by omega), if_neg (by omega),
    if_neg (by simpa using ht), if_neg (by simp)]

theorem parseProposals_appendProposals : ∀ {ps : List Proposal} {b : Bytes} {fuel : ℕ},
    ps ≠ [] → (∀ p ∈ ps, p.transforms ≠ []) → appendProposals ps = .ok b → ps.length ≤ fuel →
    parseProposals fuel b = .ok ps
  | [], _, _, h, _, _, _ => absurd rfl h
  | p :: ps, b, 0, _, _, _, hf => by simp at hf
  | p :: ps, b, fuel + 1, _, ht, hb, hf => by
    obtain ⟨bp, hbp, hb⟩ := bind_eq_ok.mp hb
    obtain ⟨bs, hbs, hb⟩ := bind_eq_ok.mp hb
    obtain rfl := Except.ok.inj hb
    obtain ⟨hparse, hlen, hmark⟩ := parseProposal_appendProposal bs (ht p (by simp)) hbp
    have hge : proposalHeaderLen ≤ p.wireLen := by rw [Proposal.wireLen]; omega
    have h8 : proposalHeaderLen = 8 := rfl
    have hm : (bp ++ bs).getD 0 0 = if ps.length ≠ 0 then proposalChainMore
        else transformChainLast := by
      rw [List.getD_eq_getElem?_getD] at hmark ⊢
      rw [List.getElem?_append_left (by omega), hmark]
      simp
    have hall : (bp ++ bs).length = p.wireLen + bs.length := by rw [List.length_append, hlen]
    rw [parseProposals, hall, if_neg (by omega), if_neg (by omega), hparse, ok_bind, hm]
    cases ps with
    | nil =>
      obtain rfl := Except.ok.inj hbs
      simp
    | cons q qs =>
      have hq : bs.length ≠ 0 := by
        obtain ⟨bq, hbq, hbs⟩ := bind_eq_ok.mp hbs
        obtain ⟨bqs, -, hbs⟩ := bind_eq_ok.mp hbs
        obtain ⟨-, hqlen, -⟩ := parseProposal_appendProposal [] (ht q (by simp)) hbq
        rw [← Except.ok.inj hbs, List.length_append, hqlen, Proposal.wireLen]
        omega
      have ih : parseProposals fuel bs = .ok (q :: qs) := parseProposals_appendProposals (by simp)
        (fun p hp => ht p (by simp [hp])) hbs (by simpa using hf)
      simp [hq, ih]

theorem length_le_of_appendProposals : ∀ {ps : List Proposal} {b : Bytes},
    (∀ p ∈ ps, p.transforms ≠ []) → appendProposals ps = .ok b → ps.length ≤ b.length
  | [], _, _, _ => Nat.zero_le _
  | p :: ps, b, ht, h => by
    obtain ⟨bp, hbp, h⟩ := bind_eq_ok.mp h
    obtain ⟨bs, hbs, h⟩ := bind_eq_ok.mp h
    obtain ⟨-, hlen, -⟩ := parseProposal_appendProposal [] (ht p (by simp)) hbp
    have ih := length_le_of_appendProposals (fun p hp => ht p (by simp [hp])) hbs
    have : proposalHeaderLen ≤ p.wireLen := by rw [Proposal.wireLen]; omega
    rw [← Except.ok.inj h, List.length_append, List.length_cons, hlen]
    have h8 : proposalHeaderLen = 8 := rfl
    omega

/-- **An SA that has a wire form is read back.** -/
theorem parseSA_appendSA {sa : SA} {b : Bytes} (hp : sa.proposals ≠ [])
    (ht : ∀ p ∈ sa.proposals, p.transforms ≠ []) (hb : appendSA sa = .ok b) :
    parseSA b = .ok sa := by
  rw [parseSA, parseProposals_appendProposals hp ht hb
    (Nat.le_succ_of_le (length_le_of_appendProposals ht hb)), ok_bind, if_neg (by simpa using hp)]

end Swan.Payload
