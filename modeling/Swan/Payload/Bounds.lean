import Swan.Lib.Checked
import Swan.Payload.SA
import Swan.Payload.TrafficSelectors

/-! # The payload parsers with run-time checks

The parsers of SA, TS, CP, DELETE and NOTIFY bodies once more, with every index and every slice checked
and every loop iteration counted. For each of them a `within_…` lemma: on every byte string all checks
succeed, the result is that of the plain parser, and there are no more iterations than bytes. An entry of
a list pays with its header for the round that reads it; the fixed part of a body pays for a round that
finds too few bytes. -/

namespace Swan.Payload.Checked

open Swan.Lib Swan.Lib.Checked Swan.Wire

/-! ### SA -/

def parseTransform (b : Bytes) : Checked (Transform × Bytes) :=
  if b.length < transformHeaderLen then fail
  else do
    let lengthField ← range b 2 4
    let length ← uint16 lengthField
    if length.toNat < transformHeaderLen then fail
    else if length.toNat > b.length then fail
    else do
      let type ← index b 4
      let idField ← range b 6 8
      let id ← uint16 idField
      let attrs ← range b transformHeaderLen length.toNat
      let tail ← rangeFrom b length.toNat
      pure ({ type, id, attrs }, tail)

def parseTransforms : ℕ → Bytes → Checked (List Transform × Bytes)
  | 0, rest => pure ([], rest)
  | left + 1, rest => iteration (
    if rest.length < transformHeaderLen then fail
    else do
      let marker ← index rest 0
      let (t, tail) ← parseTransform rest
      if marker = transformChainLast then
        if left ≠ 0 then fail else pure ([t], tail)
      else if marker ≠ transformChainMore then fail
      else if left = 0 then fail
      else do
        let (ts, rest') ← Checked.next rest.length tail.length (parseTransforms left tail)
        pure (t :: ts, rest'))

def parseProposal (b : Bytes) : Checked (Proposal × Bytes) :=
  if b.length < proposalHeaderLen then fail
  else do
    let lengthField ← range b 2 4
    let length ← uint16 lengthField
    if length.toNat < proposalHeaderLen then fail
    else if length.toNat > b.length then fail
    else do
      let spiSize ← index b 6
      let numTransforms ← index b 7
      if proposalHeaderLen + spiSize.toNat > length.toNat then fail
      else if numTransforms.toNat = 0 then fail
      else do
        let num ← index b 4
        let protocolID ← index b 5
        let spi ← range b proposalHeaderLen (proposalHeaderLen + spiSize.toNat)
        let transforms ← range b (proposalHeaderLen + spiSize.toNat) length.toNat
        let (ts, rest) ← parseTransforms numTransforms.toNat transforms
        if rest.length ≠ 0 then fail
        else do
          let tail ← rangeFrom b length.toNat
          pure ({ num, protocolID, spi, transforms := ts }, tail)

def parseProposals : ℕ → Bytes → Checked (List Proposal)
  | 0, _ => fault
  | fuel + 1, rest =>
    if rest.length = 0 then pure []
    else iteration (
      if rest.length < proposalHeaderLen then fail
      else do
        let (p, tail) ← parseProposal rest
        let marker ← index rest 0
        if tail.length = 0 then
          if marker ≠ transformChainLast then fail else pure [p]
        else if marker ≠ proposalChainMore then fail
        else do
          let ps ← Checked.next rest.length tail.length (parseProposals fuel tail)
          pure (p :: ps))

def parseSA (b : Bytes) : Checked SA := do
  let ps ← parseProposals (b.length + 1) b
  if ps.length = 0 then fail else pure { proposals := ps }

theorem within_parseTransform (b : Bytes) :
    Within (fun r => transformHeaderLen + r.2.length) b.length (parseTransform b)
      (Payload.parseTransform b) := by
  refine Within.guard fun hlen => ?_
  rw [transformHeaderLen] at hlen
  refine Within.uint16At le_rfl (by omega) (Within.guard fun hlow => Within.guard fun hhigh => ?_)
  refine Within.index (by omega) (Within.uint16At le_rfl (by omega) ?_)
  refine Within.range (by omega) (by omega) (Within.rangeFrom (by omega) (within_pure ?_))
  rw [List.length_drop]
  omega

theorem within_parseTransforms (n : ℕ) : ∀ (left : ℕ) (rest : Bytes),
    Within (fun r => r.2.length) (rest.length + 1) (parseTransforms left rest)
      (Payload.parseTransforms n left rest)
  | 0, rest => within_pure (Nat.le_succ _)
  | left + 1, rest => by
    have h8 : transformHeaderLen = 8 := rfl
    refine Within.iteration (Within.guard fun hlen => Within.index (by omega) ?_)
    refine (within_parseTransform rest).bind fun ⟨t, tail⟩ ht => ?_
    have hleft : transformHeaderLen + tail.length ≤ rest.length := (within_parseTransform rest).left_le ht
    have htail : tail.length < rest.length := by omega
    refine Within.ite (fun _ => Within.guard fun _ => within_pure (Nat.le_add_left _ _)) fun _ => ?_
    refine Within.guard fun _ => Within.guard fun _ => ?_
    have hpay : tail.length + 1 ≤ transformHeaderLen + tail.length := by omega
    refine (Within.next htail ((within_parseTransforms n left tail).mono hpay)).bind fun ⟨ts, rest'⟩ _ => ?_
    exact within_pure le_rfl

theorem within_parseProposal (b : Bytes) :
    Within (fun r => 1 + r.2.length) (b.length - 1) (parseProposal b) (Payload.parseProposal b) := by
  refine Within.guard fun hlen => ?_
  have h8 : proposalHeaderLen = 8 := rfl
  refine Within.uint16At le_rfl (by omega) (Within.guard fun hlow => Within.guard fun hhigh => ?_)
  refine Within.index (by omega) (Within.index (by omega) (Within.guard fun hspi => ?_))
  refine Within.guard fun _ => Within.index (by omega) (Within.index (by omega) ?_)
  refine Within.range (by omega) (by omega) (Within.range (by omega) (by omega) ?_)
  set length := (beUint16 (slice b 2 4)).toNat
  set transforms := slice b (proposalHeaderLen + (b.getD 6 0).toNat) length with htransforms
  have htransformsLen : transforms.length + 8 ≤ length := by
    rw [htransforms, length_slice]
    omega
  -- the bytes after the proposal are not touched by the loop over its transforms
  have hloop := (within_parseTransforms (b.getD 7 0).toNat (b.getD 7 0).toNat transforms).frame
    (1 + (b.length - length))
  refine (hloop.mono (by omega)).bind fun ⟨ts, rest⟩ _ => Within.guard fun _ => ?_
  refine Within.rangeFrom (by omega) (within_pure ?_)
  rw [List.length_drop]
  omega

theorem within_parseProposals : ∀ (fuel : ℕ) (rest : Bytes), rest.length < fuel →
    Within (fun _ => 0) rest.length (parseProposals fuel rest) (Payload.parseProposals fuel rest)
  | 0, _, hf => absurd hf (Nat.not_lt_zero _)
  | fuel + 1, rest, hf => by
    refine Within.ite (fun _ => within_pure (Nat.zero_le _)) fun hne => ?_
    have hrest : rest.length - 1 + 1 = rest.length := by omega
    rw [← hrest]
    refine Within.iteration ?_
    rw [hrest]
    refine Within.guard fun hlen => (within_parseProposal rest).bind fun ⟨p, tail⟩ hp => ?_
    have hleft : 1 + tail.length ≤ rest.length - 1 := (within_parseProposal rest).left_le hp
    have htail : tail.length < rest.length := by omega
    refine Within.index (by omega) (Within.ite (fun _ => ?_) fun _ => ?_)
    · exact Within.guard fun _ => within_pure (Nat.zero_le _)
    refine Within.guard fun _ => ?_
    have hpay : tail.length ≤ 1 + tail.length := Nat.le_add_left _ _
    refine (Within.next htail ((within_parseProposals fuel tail (by omega)).mono hpay)).bind fun _ _ => ?_
    exact within_pure le_rfl

/-- **The SA parser stays in bounds.** -/
theorem within_parseSA (b : Bytes) : Within (fun _ => 0) b.length (parseSA b) (Payload.parseSA b) :=
  (within_parseProposals _ b (Nat.lt_succ_self _)).bind fun _ _ =>
    Within.guard fun _ => within_pure le_rfl

/-! ### NOTIFY -/

def parseNotify (b : Bytes) : Checked Notify :=
  if b.length < notifyFixedLen then fail
  else do
    let spiSize ← index b 1
    if notifyFixedLen + spiSize.toNat > b.length then fail
    else do
      let protocolID ← index b 0
      let spi ← range b notifyFixedLen (notifyFixedLen + spiSize.toNat)
      let typeField ← range b 2 4
      let type ← uint16 typeField
      let data ← rangeFrom b (notifyFixedLen + spiSize.toNat)
      lift (checkNotifyScope protocolID spi.length)
      pure { protocolID, spi, type, data }

/-- **The NOTIFY parser stays in bounds.** -/
theorem within_parseNotify (b : Bytes) :
    Within (fun _ => 0) b.length (parseNotify b) (Payload.parseNotify b) := by
  refine Within.guard fun hlen => ?_
  rw [notifyFixedLen] at hlen
  refine Within.index (by omega) (Within.guard fun hspi => Within.index (by omega) ?_)
  refine Within.range (by omega) (by omega) (Within.uint16At le_rfl (by omega) ?_)
  refine Within.rangeFrom (by omega) ?_
  exact (within_lift _ _).bind fun _ _ => within_pure (Nat.zero_le _)

/-! ### DELETE -/

/-- The loop over the SPIs, from the offset `off` on. -/
def parseSPIs (b : Bytes) : ℕ → ℕ → Checked (List UInt32)
  | 0, _ => fault
  | fuel + 1, off =>
    if off < b.length then iteration (do
      let spiField ← range b off (off + 4)
      let spi ← uint32 spiField
      let spis ← Checked.next (b.length - off) (b.length - (off + 4)) (parseSPIs b fuel (off + 4))
      pure (spi :: spis))
    else pure []

def parseDeleteBody (b : Bytes) (protocolID : UInt8) (spiSize count : ℕ) : Checked Delete :=
  if b.length ≠ deleteFixedLen + count * spiSize then fail
  else do
    let spis ← parseSPIs b (b.length + 1) deleteFixedLen
    pure { protocolID, spis }

def parseDelete (b : Bytes) : Checked Delete :=
  if b.length < deleteFixedLen then fail
  else do
    let protocolID ← index b 0
    let spiSize ← index b 1
    let countField ← range b 2 4
    let count ← uint16 countField
    if protocolID = deleteProtocolIKE then
      if spiSize.toNat ≠ 0 then fail
      else if count.toNat ≠ 0 then fail
      else parseDeleteBody b protocolID spiSize.toNat count.toNat
    else if protocolID = deleteProtocolESP then
      if spiSize.toNat ≠ 4 then fail
      else if count.toNat = 0 then fail
      else parseDeleteBody b protocolID spiSize.toNat count.toNat
    else fail

theorem within_parseSPIs (b : Bytes) : ∀ (fuel off n : ℕ), n < fuel → b.length = off + 4 * n →
    Within (fun _ => 0) n (parseSPIs b fuel off)
      (.ok (beUint32s n (b.drop off)) : Except Err (List UInt32))
  | 0, _, _, hf, _ => absurd hf (Nat.not_lt_zero _)
  | fuel + 1, off, 0, _, hlen => by
    rw [parseSPIs, if_neg (by omega)]
    exact within_pure le_rfl
  | fuel + 1, off, n + 1, hf, hlen => by
    rw [parseSPIs, if_pos (by omega)]
    refine Within.iteration (Within.uint32At le_rfl (by omega) ?_)
    have hrest := within_parseSPIs b fuel (off + 4) n (by omega) (by omega)
    have hhead : beUint32 (slice b off (off + 4)) = beUint32 (b.drop off) := by
      rw [beUint32, beUint32, slice, List.drop_take, List.take_take]
      congr 3
      omega
    rw [hhead]
    have hlist : (.ok (beUint32s (n + 1) (b.drop off)) : Except Err (List UInt32)) =
        .ok (beUint32s n (b.drop (off + 4))) >>= fun spis => .ok (beUint32 (b.drop off) :: spis) := by
      rw [ok_bind, beUint32s, List.drop_drop]
    rw [hlist]
    exact (Within.next (by omega) hrest).bind fun _ _ => within_pure le_rfl

theorem within_parseDeleteBody {b : Bytes} {spiSize count : ℕ} (protocolID : UInt8)
    (h4 : spiSize = 4 ∨ count = 0) :
    Within (fun _ => 0) b.length (parseDeleteBody b protocolID spiSize count)
      (let expected := deleteFixedLen + count * spiSize
       if b.length ≠ expected then
         .error (.errorf s!"invalid delete payload length: declared {expected}, have {b.length}")
       else .ok { protocolID, spis := beUint32s (count * spiSize / 4) (b.drop deleteFixedLen) } :
        Except Err Delete) := by
  refine Within.guard fun hlen => ?_
  rw [not_not] at hlen
  have hcount : count * spiSize / 4 = count ∧ b.length = deleteFixedLen + 4 * count := by
    obtain rfl | rfl := h4 <;> omega
  have hloop := within_parseSPIs b (b.length + 1) deleteFixedLen count (by omega) hcount.2
  have hcost : count ≤ b.length := by omega
  rw [hcount.1]
  show Within _ _ _ ((.ok (beUint32s count (b.drop deleteFixedLen)) : Except Err (List UInt32)) >>=
    fun spis => .ok (⟨protocolID, spis⟩ : Delete))
  exact (hloop.mono hcost).bind fun _ _ => within_pure le_rfl

/-- **The DELETE parser stays in bounds.** -/
theorem within_parseDelete (b : Bytes) :
    Within (fun _ => 0) b.length (parseDelete b) (Payload.parseDelete b) := by
  refine Within.guard fun hlen => ?_
  rw [deleteFixedLen] at hlen
  refine Within.index (by omega) (Within.index (by omega) (Within.uint16At le_rfl (by omega) ?_))
  refine Within.ite (fun _ => ?_) fun _ => Within.ite (fun _ => ?_) fun _ => within_fail _
  · refine Within.guard fun _ => Within.guard fun hzero => ?_
    exact within_parseDeleteBody _ (.inr (not_not.mp hzero))
  · refine Within.guard fun hfour => Within.guard fun _ => ?_
    exact within_parseDeleteBody _ (.inl (not_not.mp hfour))

/-! ### CP -/

def parseConfigAttribute (b : Bytes) : Checked (ConfigAttribute × Bytes) :=
  if b.length < configAttrFixedLen then fail
  else do
    let typeField ← range b 0 2
    let type ← uint16 typeField
    let lengthField ← range b 2 4
    let valueLen ← uint16 lengthField
    if configAttrFixedLen + valueLen.toNat > b.length then fail
    else do
      let value ← range b configAttrFixedLen (configAttrFixedLen + valueLen.toNat)
      let tail ← rangeFrom b (configAttrFixedLen + valueLen.toNat)
      pure ({ type, value }, tail)

def parseConfigAttributes : ℕ → Bytes → Checked (List ConfigAttribute)
  | 0, rest => if rest.length > 0 then fault else pure []
  | fuel + 1, rest =>
    if rest.length > 0 then iteration (do
      let (attr, tail) ← parseConfigAttribute rest
      let attrs ← Checked.next rest.length tail.length (parseConfigAttributes fuel tail)
      pure (attr :: attrs))
    else pure []

def parseConfigPayload (b : Bytes) : Checked ConfigPayload :=
  if b.length < configFixedLen then fail
  else do
    let kind ← index b 0
    if kind ≠ ConfigType.request ∧ kind ≠ ConfigType.reply ∧ kind ≠ ConfigType.set ∧
        kind ≠ ConfigType.ack then fail
    else do
      let x ← index b 1
      let y ← index b 2
      let z ← index b 3
      if x ≠ 0 ∨ y ≠ 0 ∨ z ≠ 0 then fail
      else do
        let rest ← rangeFrom b configFixedLen
        let attrs ← parseConfigAttributes b.length rest
        pure { kind, attributes := attrs }

theorem within_parseConfigAttribute (b : Bytes) :
    Within (fun r => r.2.length) (b.length - 1) (parseConfigAttribute b) (Payload.parseConfigAttribute b) := by
  refine Within.guard fun hlen => ?_
  have h4 : configAttrFixedLen = 4 := rfl
  refine Within.uint16At le_rfl (by omega) (Within.uint16At le_rfl (by omega) ?_)
  refine Within.guard fun hvalue => Within.range (by omega) (by omega) ?_
  refine Within.rangeFrom (by omega) (within_pure ?_)
  rw [List.length_drop]
  omega

theorem within_parseConfigAttributes : ∀ (fuel : ℕ) (rest : Bytes), rest.length ≤ fuel →
    Within (fun _ => 0) rest.length (parseConfigAttributes fuel rest)
      (Payload.parseConfigAttributes fuel rest)
  | 0, [], _ => within_pure le_rfl
  | fuel + 1, [], _ => within_pure le_rfl
  | 0, _ :: _, hf => absurd hf (Nat.not_succ_le_zero _)
  | fuel + 1, x :: xs, hf => by
    rw [parseConfigAttributes, if_pos (by rw [List.length_cons]; omega)]
    refine Within.iteration ((within_parseConfigAttribute (x :: xs)).bind fun ⟨attr, tail⟩ ht => ?_)
    have hleft : tail.length ≤ (x :: xs).length - 1 := (within_parseConfigAttribute _).left_le ht
    rw [List.length_cons] at hleft hf
    refine (Within.next ?_ (within_parseConfigAttributes fuel tail (by omega))).bind fun _ _ => ?_
    · rw [List.length_cons]
      omega
    · exact within_pure le_rfl

/-- **The CP parser stays in bounds.** -/
theorem within_parseConfigPayload (b : Bytes) :
    Within (fun _ => 0) b.length (parseConfigPayload b) (Payload.parseConfigPayload b) := by
  refine Within.guard fun hlen => ?_
  have h4 : configFixedLen = 4 := rfl
  refine Within.index (by omega) (Within.guard fun _ => ?_)
  refine Within.index (by omega) (Within.index (by omega) (Within.index (by omega) ?_))
  refine Within.guard fun _ => Within.rangeFrom (by omega) ?_
  have hshort : (b.drop configFixedLen).length ≤ b.length := by
    rw [List.length_drop]
    omega
  exact ((within_parseConfigAttributes _ _ hshort).mono hshort).bind fun _ _ => within_pure le_rfl

/-! ### TS -/

def cloneIP (p : Bytes) : Checked Bytes :=
  if p.length = 4 then do
    let p0 ← index p 0
    let p1 ← index p 1
    let p2 ← index p 2
    let p3 ← index p 3
    pure (v4InV6Prefix ++ [p0, p1, p2, p3])
  else if p.length = 16 then pure p else pure []

/-- The bytes `a` against those of `b` from the index `i` on. It walks over two addresses that have been
cut out already, so its steps are not counted. -/
def compareOctets (b : Bytes) : ℕ → Bytes → Checked ℤ
  | _, [] => pure 0
  | i, x :: a => do
    let y ← index b i
    if x < y then pure (-1) else if y < x then pure 1 else compareOctets b (i + 1) a

def compareIP (a b : Bytes) : Checked ℤ :=
  if a.length ≠ b.length then if a.length < b.length then pure (-1) else pure 1 else compareOctets b 0 a

def compareEnds (startAddr endAddr : Bytes) : Checked ℤ :=
  if startAddr.length ≠ 0 then compareIP startAddr endAddr else pure 0

def parseTrafficSelector (b : Bytes) : Checked (Selector × Bytes) :=
  if b.length < tsEntryFixedLen then fail
  else do
    let type ← index b 0
    let width ← lift (addrLen type)
    let protocolID ← index b 1
    if protocolID ≠ 0 then fail
    else do
      let lengthField ← range b 2 4
      let entryLen ← uint16 lengthField
      if entryLen.toNat ≠ tsEntryFixedLen + 2 * width then fail
      else if entryLen.toNat > b.length then fail
      else do
        let startField ← range b 4 6
        let startPort ← uint16 startField
        let endField ← range b 6 8
        let endPort ← uint16 endField
        if startPort > endPort then fail
        else do
          let addrs ← range b tsEntryFixedLen entryLen.toNat
          let startOctets ← range addrs 0 width
          let startAddr ← cloneIP startOctets
          let endOctets ← rangeFrom addrs width
          let endAddr ← cloneIP endOctets
          let order ← compareEnds startAddr endAddr
          if order > 0 then fail
          else do
            let tail ← rangeFrom b entryLen.toNat
            pure ({ type, protocolID, startPort, endPort, startAddr, endAddr }, tail)

def parseSelectors : ℕ → Bytes → Checked (List Selector × Bytes)
  | 0, rest => pure ([], rest)
  | left + 1, rest => iteration (do
    let (s, tail) ← parseTrafficSelector rest
    let (ss, rest') ← Checked.next rest.length tail.length (parseSelectors left tail)
    pure (s :: ss, rest'))

def parseTS (b : Bytes) : Checked TrafficSelectors :=
  if b.length < tsSelectorFixedLen then fail
  else do
    let count ← index b 0
    let reserved ← range b 1 tsSelectorFixedLen
    let x ← index b 1
    let y ← index b 2
    let z ← index b 3
    if reserved.length = 0 ∨ x ≠ 0 ∨ y ≠ 0 ∨ z ≠ 0 then fail
    else do
      let rest ← rangeFrom b tsSelectorFixedLen
      let (ss, rest) ← parseSelectors count.toNat rest
      if rest.length ≠ 0 then fail else pure ⟨ss⟩

theorem cloneIP_eq (p : Bytes) : cloneIP p = pure (Payload.cloneIP p) := by
  by_cases h4 : p.length = 4
  · obtain ⟨p0, p1, p2, p3, t, rfl⟩ := exists_four h4.ge
    obtain rfl : t = [] := List.eq_nil_of_length_eq_zero (by simpa using h4)
    rfl
  · rw [cloneIP, Payload.cloneIP, if_neg h4, if_neg h4]
    by_cases h16 : p.length = 16
    · rw [if_pos h16, if_pos h16]
    · rw [if_neg h16, if_neg h16]

theorem compareOctets_eq {b : Bytes} : ∀ {a : Bytes} {i : ℕ}, i + a.length = b.length →
    compareOctets b i a = pure (Payload.compareOctets a (b.drop i))
  | [], i, h => by
    rw [compareOctets, Payload.compareOctets]
    exact fun _ _ _ _ h => nomatch h
  | x :: a, i, h => by
    rw [List.length_cons] at h
    have hi : i < b.length := by omega
    have hget : b.getD i 0 = b[i] := by
      rw [List.getD_eq_getElem?_getD, List.getElem?_eq_getElem hi, Option.getD_some]
    rw [compareOctets, index, if_pos hi, pure_bind, List.drop_eq_getElem_cons hi, hget,
      Payload.compareOctets, compareOctets_eq (by omega)]
    split_ifs <;> rfl

theorem compareIP_eq (a b : Bytes) : compareIP a b = pure (Payload.compareIP a b) := by
  rw [compareIP, Payload.compareIP]
  by_cases hlen : a.length = b.length
  · rw [if_neg (not_not.mpr hlen), if_neg (not_not.mpr hlen), compareOctets_eq (by omega), List.drop_zero]
  · rw [if_pos hlen, if_pos hlen]
    split_ifs <;> rfl

theorem compareEnds_eq (startAddr endAddr : Bytes) : ∃ order, compareEnds startAddr endAddr = pure order ∧
    (order > 0 ↔ startAddr.length ≠ 0 ∧ Payload.compareIP startAddr endAddr > 0) := by
  rw [compareEnds, compareIP_eq]
  by_cases hempty : startAddr.length ≠ 0
  · exact ⟨_, if_pos hempty, (and_iff_right hempty).symm⟩
  · exact ⟨0, if_neg hempty, fun h => absurd h (lt_irrefl 0), fun h => absurd h.1 hempty⟩

theorem within_parseTrafficSelector (b : Bytes) :
    Within (fun r => tsEntryFixedLen + r.2.length) b.length (parseTrafficSelector b)
      (Payload.parseTrafficSelector b) := by
  refine Within.guard fun hlen => ?_
  have h8 : tsEntryFixedLen = 8 := rfl
  refine Within.index (by omega) ((within_lift b.length _).bind fun width _ => ?_)
  refine Within.index (by omega) (Within.guard fun _ => Within.uint16At le_rfl (by omega) ?_)
  refine Within.guard fun hentry => Within.guard fun hhigh => ?_
  rw [not_not] at hentry
  refine Within.uint16At le_rfl (by omega) (Within.uint16At le_rfl (by omega) (Within.guard fun _ => ?_))
  refine Within.range (by omega) (by omega) ?_
  set entryLen := (beUint16 (slice b 2 4)).toNat
  have haddrs : (slice b tsEntryFixedLen entryLen).length = 2 * width := by
    rw [length_slice]
    omega
  refine Within.range (Nat.zero_le _) (by omega) ?_
  rw [cloneIP_eq, pure_bind]
  refine Within.rangeFrom (by omega) ?_
  rw [cloneIP_eq, pure_bind]
  set addrs := slice b tsEntryFixedLen entryLen
  set startAddr := Payload.cloneIP (slice addrs 0 width) with hstart
  set endAddr := Payload.cloneIP (addrs.drop width)
  have htake : Payload.cloneIP (addrs.take width) = startAddr := by rw [hstart, slice, List.drop_zero]
  obtain ⟨order, hcompare, horder⟩ := compareEnds_eq startAddr endAddr
  rw [hcompare, pure_bind]
  dsimp only
  rw [htake]
  refine Within.guard_iff horder fun _ => Within.rangeFrom (by omega) (within_pure ?_)
  rw [List.length_drop]
  omega

theorem within_wrap {α : Type} {left : α → ℕ} {k : ℕ} {c : Checked α} {r : Except Err α} (t : String)
    (h : Within left k c r) : Within left k c (wrap t r) := by
  cases r with
  | ok a => exact h
  | error e => exact h

theorem within_parseSelectors (count : ℕ) : ∀ (left : ℕ) (rest : Bytes),
    Within (fun r => r.2.length) (rest.length + 1) (parseSelectors left rest)
      (Payload.parseSelectors count left rest)
  | 0, rest => within_pure (Nat.le_succ _)
  | left + 1, rest => by
    have h8 : tsEntryFixedLen = 8 := rfl
    have hfirst := within_parseTrafficSelector rest
    refine Within.iteration ((within_wrap _ hfirst).bind fun ⟨s, tail⟩ hs => ?_)
    have hleft : tsEntryFixedLen + tail.length ≤ rest.length := hfirst.left_le (wrap_eq_ok.mp hs)
    have hpay : tail.length + 1 ≤ tsEntryFixedLen + tail.length := by omega
    refine (Within.next (by omega) ((within_parseSelectors count left tail).mono hpay)).bind
      fun ⟨ss, rest'⟩ _ => ?_
    exact within_pure le_rfl

/-- **The TS parser stays in bounds.** -/
theorem within_parseTS (b : Bytes) : Within (fun _ => 0) b.length (parseTS b) (Payload.parseTS b) := by
  refine Within.guard fun hlen => ?_
  have h4 : tsSelectorFixedLen = 4 := rfl
  refine Within.index (by omega) (Within.range (by omega) (by omega) ?_)
  refine Within.index (by omega) (Within.index (by omega) (Within.index (by omega) ?_))
  refine Within.guard fun _ => Within.rangeFrom (by omega) ?_
  have hpay : (b.drop tsSelectorFixedLen).length + 1 ≤ b.length := by
    rw [List.length_drop]
    omega
  refine ((within_parseSelectors _ _ _).mono hpay).bind fun ⟨ss, rest⟩ _ => ?_
  exact Within.guard fun _ => within_pure (Nat.zero_le _)

end Swan.Payload.Checked
