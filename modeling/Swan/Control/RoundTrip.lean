import Swan.Control.Fragments
import Swan.Xcrypto.Instance

/-! # Protected messages round trip

What one side seals, the other side opens. `openRaw_sealProtectedEnvelope` is the statement for one
packet: the receiver with the opposite role finds the sealed chunk and the fields of its headers.
`carryMessage_of_build` collects this for all packets of a message, and `trace_deliver_of_carryMessage`
says what the receiver returns for them in any order and with any repetitions. -/

namespace Swan.Control

open Swan.Lib Swan.Wire Swan.Xcrypto

/-! ### One packet -/

theorem findEncrypted_single (innerNext : PayloadType) {encType : PayloadType} (rest : Bytes)
    (fuel : ℕ) (htype : IsEncrypted encType) (hlen : payloadHeaderLen + rest.length ≤ 0xffff) :
    findEncrypted (payloadHeader innerNext false (payloadHeaderLen + rest.length) ++ rest) (fuel + 1)
        encType 0
      = .ok { encType, innerNext, payloadStart := headerLen
              payloadEnd := headerLen + (payloadHeaderLen + rest.length) } := by
  set hd := payloadHeader innerNext false (payloadHeaderLen + rest.length) with hhd
  have hhdlen : hd.length = payloadHeaderLen := length_payloadHeader _ _ _
  have e0 : (hd ++ rest).getD 0 0 = innerNext := by simp [hhd, payloadHeader]
  have e2 : (beUint16 (slice (hd ++ rest) (0 + 2) (0 + 4))).toNat = payloadHeaderLen + rest.length := by
    have : slice (hd ++ rest) 2 4 = putUint16 (UInt16.ofNat (payloadHeaderLen + rest.length)) := by
      simp [slice, hhd, payloadHeader]
    rw [show (0 + 2 : ℕ) = 2 from rfl, show (0 + 4 : ℕ) = 4 from rfl, this, beUint16_putUint16]
    exact Nat.mod_eq_of_lt (by omega)
  have hall : (hd ++ rest).length = payloadHeaderLen + rest.length := by
    rw [List.length_append, hhdlen]
  have hne : encType ≠ PayloadType.none := by
    rcases htype with rfl | rfl <;> decide
  simp only [findEncrypted, e0, e2, hall]
  rw [if_neg hne, if_neg (by omega), if_neg (by omega), if_pos htype, if_neg (by omega)]
  simp

section Ends

variable [Crypto]

theorem openEncryptedBody_sealBody {sel : Selection} {encKey integKey pkt iv plain b : Bytes}
    (hiv : iv.length = sel.encryption.ivLen)
    (hint : ¬(!sel.encryption.aead ∧ sel.integrity.keyLen = 0))
    (h : sealBody sel encKey integKey pkt iv (padIKEPlaintext sel.encryption plain) = .ok b) :
    openEncryptedBody sel encKey integKey pkt b = .ok plain ∧
      b.length = sel.encryption.ivLen + (padIKEPlaintext sel.encryption plain).length
        + (if sel.encryption.aead then sel.encryption.icvLen else 0)
        + (if sel.encryption.aead then 0 else sel.integrity.outputLen) := by
  have hstrip := stripIKEPlaintext_padIKEPlaintext sel.encryption plain
  generalize padIKEPlaintext sel.encryption plain = padded at *
  obtain ⟨c, hc, h⟩ := bind_eq_ok.mp h
  rw [wrap_eq_ok] at hc
  obtain ⟨hopen, hclen⟩ := open_seal hc
  cases haead : sel.encryption.aead with
  | true =>
    simp only [haead, if_true] at h hopen
    obtain rfl := Except.ok.inj h
    refine ⟨?_, by simp [hiv, hclen]; omega⟩
    simp only [openEncryptedBody, haead, List.take_left' hiv, List.drop_left' hiv, if_true]
    rw [if_neg (by simp [hiv]), hopen]
    exact hstrip
  | false =>
    simp only [haead] at h hopen hint
    obtain ⟨icv, hicv, h⟩ := bind_eq_ok.mp h
    rw [wrap_eq_ok] at hicv
    obtain rfl := Except.ok.inj h
    obtain ⟨hverify, hicvlen⟩ := verify_sign hicv
    have hcbc := sel.encryption.icvLen_cbc haead
    refine ⟨?_, by simp [hiv, hclen, hicvlen, hcbc]; omega⟩
    have hcut : (c ++ icv).length - sel.integrity.outputLen = c.length := by
      rw [List.length_append, hicvlen, Nat.add_sub_cancel]
    simp only [openEncryptedBody, haead, List.take_left' hiv, List.drop_left' hiv, hcut,
      List.take_left' rfl, List.drop_left' rfl, hverify]
    rw [if_neg (by simp [hiv]), if_neg (by simp), if_neg (by simpa using hint),
      if_neg (by simp [hicvlen]), if_neg (by simp)]
    change (wrap _ (sel.encryption.open' encKey iv [] c) >>= _) = _
    rw [show sel.encryption.open' encKey iv [] c = .ok padded from hopen]
    exact hstrip

section Packet

variable {env : IkeEnvelope} {sel : Selection} {keys : IKEKeys} {exchange : ExchangeType}
  {msgID : UInt32} {innerNext encType : PayloadType} {frag : Option SkfHeader} {plaintext : Bytes}
  {flags : Flags} {rng rng' : Rng} {frame : Frame}

theorem sealProtectedEnvelope_ok
    (h : (sealProtectedEnvelope env sel keys exchange msgID innerNext encType frag plaintext
      flags).run rng = (.ok frame, rng')) :
    (∀ f ∈ frag, ¬f.Invalid) ∧ ∃ (payloadLen : ℕ) (body : Bytes),
      let pkt := protectedPrefix env exchange msgID innerNext encType frag flags
        (headerLen + payloadLen) payloadLen
      frame = { kind := .ike, payload := pkt ++ body } ∧
      payloadLen = payloadHeaderLen + (fragBytes frag).length + body.length ∧
      payloadLen ≤ 0xffff ∧
      openEncryptedBody sel (outboundKeyHalves env.isOriginalInitiator keys).1
        (outboundKeyHalves env.isOriginalInitiator keys).2 pkt body = .ok plaintext := by
  unfold sealProtectedEnvelope at h
  simp only [] at h
  split at h
  · simp at h
  rename_i hfrag
  split_ifs at h with hiv hint hplen hpkt
  · simp at h
  · simp at h
  · simp at h
  · simp at h
  obtain ⟨r, rng1, hfill, h⟩ := Eff.run_bind_ok h
  rcases r with e | iv
  · simp at h
  obtain ⟨body, rng2, hseal, h⟩ := Eff.run_bind_ok h
  simp only [Eff.run_lift, Prod.mk.injEq] at hseal
  simp only [Eff.run_pure, Prod.mk.injEq, Except.ok.injEq] at h
  have hivlen : iv.length = sel.encryption.ivLen := length_of_fill (Eff.run_attempt_ok hfill)
  obtain ⟨hopen, hlen⟩ := openEncryptedBody_sealBody hivlen hint hseal.1
  refine ⟨?_, protectedPayloadLen sel frag plaintext, body, h.1.symm, ?_, by omega, hopen⟩
  · intro f hf hinv
    subst hf
    simp [hinv] at hfrag
  · rw [protectedPayloadLen, hlen]
    omega

/-- **The receiver with the opposite role opens what was sealed.** -/
theorem openRaw_sealProtectedEnvelope (hflags : flags &&& ~~~flagsMask = 0)
    (hform : encType = if frag.isSome then PayloadType.skf else PayloadType.sk)
    (h : (sealProtectedEnvelope env sel keys exchange msgID innerNext encType frag plaintext
      flags).run rng = (.ok frame, rng')) :
    ∃ (packetLen : ℕ) (body : Bytes),
      openRaw (!env.isOriginalInitiator) sel keys frame.payload = .ok
        { header := protectedHeader env exchange msgID encType flags packetLen
          innerNext, frag, body, plain := plaintext } := by
  obtain ⟨hfrag, payloadLen, body, hframe, hplen, hmax, hopen⟩ := sealProtectedEnvelope_ok h
  refine ⟨headerLen + payloadLen, body, ?_⟩
  set hdr := protectedHeader env exchange msgID encType flags (headerLen + payloadLen) with hhdr
  set hd := payloadHeader innerNext false payloadLen with hhd
  have hraw : frame.payload = hdr.marshalTo [] ++ (hd ++ (fragBytes frag ++ body)) := by
    rw [hframe]
    simp [protectedPrefix, hdr, hd]
  have hhdlen : hd.length = payloadHeaderLen := length_payloadHeader _ _ _
  have hrest : payloadHeaderLen + (fragBytes frag ++ body).length = payloadLen := by
    rw [List.length_append]; omega
  have h28 : headerLen = 28 := rfl
  have hhead : parseHeader frame.payload = .ok (hdr, hd ++ (fragBytes frag ++ body)) := by
    rw [hraw]
    refine parseHeader_marshalTo _ _ rfl hflags ?_
    rw [List.length_append, hhdlen, hrest]
    exact Nat.mod_eq_of_lt (by omega)
  have htype : IsEncrypted encType := by
    rw [hform]; cases frag.isSome
    · exact Or.inl rfl
    · exact Or.inr rfl
  have hfind := findEncrypted_single innerNext (fragBytes frag ++ body)
    (hd ++ (fragBytes frag ++ body)).length htype (by omega)
  rw [hrest, ← hhd] at hfind
  have hbody : slice frame.payload (headerLen + payloadHeaderLen + (fragBytes frag).length)
      (headerLen + payloadLen) = body := by
    have hpre : (hdr.marshalTo [] ++ hd ++ fragBytes frag).length
        = headerLen + payloadHeaderLen + (fragBytes frag).length := by
      simp [hhdlen]; omega
    have := slice_append_to_end (hdr.marshalTo [] ++ hd ++ fragBytes frag) body
    rw [hpre] at this
    rw [hraw, hplen]
    simpa [Nat.add_assoc] using this
  have haad : frame.payload.take (headerLen + payloadHeaderLen + (fragBytes frag).length)
      = protectedPrefix env exchange msgID innerNext encType frag flags (headerLen + payloadLen)
        payloadLen := by
    rw [hframe]
    exact List.take_left' (by simp [protectedPrefix, Nat.add_assoc])
  have hloc : locateBody frame.payload ⟨encType, innerNext, headerLen, headerLen + payloadLen⟩
      = .ok (frag, headerLen + payloadHeaderLen + (fragBytes frag).length) := by
    cases frag with
    | none =>
      have hsk : encType ≠ PayloadType.skf := by rw [hform]; decide
      simp [locateBody, hsk, fragBytes]
    | some f =>
      have hskf : encType = PayloadType.skf := hform
      have hfb : slice frame.payload (headerLen + payloadHeaderLen)
          (headerLen + payloadHeaderLen + skfHeaderLen) = f.bytes := by
        have hpre : (hdr.marshalTo [] ++ hd).length = headerLen + payloadHeaderLen := by
          simp [hhdlen]
        have := slice_middle (hdr.marshalTo [] ++ hd) f.bytes body
        rw [hpre, length_skfHeader_bytes] at this
        rw [hraw]
        simpa [fragBytes] using this
      have hparse := parseSkfHeader_bytes f (hfrag f rfl) []
      rw [List.append_nil] at hparse
      simp only [fragBytes, length_skfHeader_bytes] at hplen
      simp only [locateBody, hskf, if_true, hfb, hparse, ok_bind, fragBytes, length_skfHeader_bytes]
      rw [if_neg (by omega)]
  have hkeys : inboundKeyHalves (!env.isOriginalInitiator) keys
      = outboundKeyHalves env.isOriginalInitiator keys := by
    cases env.isOriginalInitiator <;> rfl
  have hnext : hdr.nextPayload = encType := rfl
  simp only [openRaw, hhead, ok_bind, hnext, hfind, hloc, hkeys, hbody, haad]
  change openEncryptedBody _ _ _ _ _ >>= _ = _
  rw [hopen]
  rfl

end Packet

/-! ### The packets of a message -/

/-- `raw` opens, for a receiver with the given role, to the given headers and plaintext. -/
def OpensTo (isOriginalInitiator : Bool) (sel : Selection) (keys : IKEKeys) (raw : Bytes)
    (exchange : ExchangeType) (msgID : UInt32) (innerNext : PayloadType) (frag : Option SkfHeader)
    (plain : Bytes) : Prop :=
  ∃ (hdr : Header) (body : Bytes),
    openRaw isOriginalInitiator sel keys raw = .ok ⟨hdr, innerNext, frag, body, plain⟩ ∧
    hdr.exchangeType = exchange ∧ hdr.messageID = msgID

theorem sealFragments_ok {env : IkeEnvelope} {sel : Selection} {keys : IKEKeys}
    {exchange : ExchangeType} {msgID : UInt32} {nextPayload : PayloadType} {plaintext : Bytes}
    {flags : Flags} {limit total : ℕ} (hflags : flags &&& ~~~flagsMask = 0) :
    ∀ {left : ℕ} {rng rng' : Rng} {frames : List Frame}, left ≤ total →
      (sealFragments env sel keys exchange msgID nextPayload plaintext flags limit total left).run
        rng = (.ok frames, rng') →
      frames.length = left ∧ ∀ j frame, frames[j]? = some frame →
        OpensTo (!env.isOriginalInitiator) sel keys frame.payload exchange msgID
          (fragmentNext nextPayload (total - left + j)) (fragmentHeader total (total - left + j))
          (fragmentPart limit total plaintext (total - left + j))
  | 0, rng, rng', frames, _, h => by
    simp only [sealFragments, Eff.run_pure, Prod.mk.injEq, Except.ok.injEq] at h
    rw [← h.1]
    exact ⟨rfl, fun j frame hj => by simp at hj⟩
  | left + 1, rng, rng', frames, hle, h => by
    obtain ⟨frame, rng1, hseal, h⟩ := Eff.run_bind_ok h
    obtain ⟨rest, rng2, hrest, h⟩ := Eff.run_bind_ok h
    simp only [Eff.run_pure, Prod.mk.injEq, Except.ok.injEq] at h
    obtain ⟨hlen, hopens⟩ := sealFragments_ok hflags (Nat.le_of_succ_le hle) hrest
    obtain ⟨packetLen, body, hopen⟩ := openRaw_sealProtectedEnvelope hflags
      (by by_cases ht : total > 1 <;> simp [fragmentHeader, ht]) hseal
    rw [← h.1]
    refine ⟨by simp [hlen], fun j f hj => ?_⟩
    rcases j with _ | j
    · simp only [List.getElem?_cons_zero, Option.some.injEq] at hj
      subst hj
      exact ⟨_, body, hopen, rfl, rfl⟩
    · rw [List.getElem?_cons_succ] at hj
      have := hopens j f hj
      rwa [show total - left + j = total - (left + 1) + (j + 1) by omega] at this

/-- The packets open, for a receiver with the given role, to one message: as one SK packet, or as
the fragments of its plaintext. -/
inductive CarryMessage (isOriginalInitiator : Bool) (sel : Selection) (keys : IKEKeys)
    (exchange : ExchangeType) (msgID : UInt32) (nextPayload : PayloadType) (plaintext : Bytes) :
    List Frame → Prop where
  | sk {frame : Frame} (opens : OpensTo isOriginalInitiator sel keys frame.payload exchange msgID
      nextPayload none plaintext) : CarryMessage isOriginalInitiator sel keys exchange msgID
      nextPayload plaintext [frame]
  | skf {frames : List Frame} (pieces : List Bytes) (length_eq : frames.length = pieces.length)
      (length_le : pieces.length ≤ 0xffff) (flatten_eq : pieces.flatten = plaintext)
      (opens : ∀ i : Fin frames.length, OpensTo isOriginalInitiator sel keys
        (frames.get i).payload exchange msgID (fragmentNext nextPayload i)
        (some ⟨UInt16.ofNat (i + 1), UInt16.ofNat pieces.length⟩) (pieces.getD i [])) :
      CarryMessage isOriginalInitiator sel keys exchange msgID nextPayload plaintext frames

/-- **The packets that one end builds carry the message to the other end.** -/
theorem carryMessage_of_build {cfg : Option Config} {env : IkeEnvelope} {exchange : ExchangeType}
    {msgID : UInt32} {nextPayload : PayloadType} {plaintext : Bytes} {flags : Flags}
    {rng rng' : Rng} {frames : List Frame} (hflags : flags &&& ~~~flagsMask = 0)
    (hbuild : (buildProtectedEnvelopeAs cfg env exchange msgID nextPayload plaintext flags).run rng
      = (.ok frames, rng')) :
    ∃ sel keys, env.selectedIKE = some sel ∧ env.ikeKeys = some keys ∧
      CarryMessage (!env.isOriginalInitiator) sel keys exchange msgID nextPayload plaintext
        frames := by
  unfold buildProtectedEnvelopeAs at hbuild
  split at hbuild
  · rename_i sel keys hsel hkeys
    refine ⟨sel, keys, hsel, hkeys, ?_⟩
    by_cases hspi : env.initiatorSPI = 0
    · simp [hspi] at hbuild
    by_cases htotal : fragmentTotal env.peer (fragmentLimit cfg) plaintext.length > 0xffff
    · simp [hspi, htotal] at hbuild
    simp only [hspi, if_false, htotal] at hbuild
    obtain ⟨hlen, hopens⟩ := sealFragments_ok hflags le_rfl hbuild
    by_cases hfrag : env.peer.supportsFragmentation ∧ plaintext.length > fragmentLimit cfg
    · rw [fragmentTotal, if_pos hfrag] at hlen hopens htotal
      have hmany := one_lt_chunkCount (fragmentLimit_pos cfg) hfrag.2
      have hpieces : (chunks (fragmentLimit cfg) plaintext).length
          = chunkCount (fragmentLimit cfg) plaintext.length := by simp [chunks]
      refine .skf (chunks (fragmentLimit cfg) plaintext) (hlen.trans hpieces.symm)
        (by omega) (flatten_chunks (fragmentLimit_pos cfg) _) fun i => ?_
      have hi : i.val < chunkCount (fragmentLimit cfg) plaintext.length := by
        rw [← hlen]; exact i.isLt
      have := hopens i (frames.get i) (by simp)
      simpa [fragmentHeader, fragmentPart, hmany, hpieces, chunks, hi] using this
    · rw [fragmentTotal, if_neg hfrag] at hlen hopens
      obtain ⟨frame, rfl⟩ := List.length_eq_one_iff.mp hlen
      exact .sk (hopens 0 frame rfl)
  · exact absurd hbuild (by simp)

/-! ### Any order, any repetitions -/

/-- The two ends of one IKE SA: the same SPIs, keys and algorithms, opposite roles. -/
structure Paired (S : IkeEnvelope) (R : State) : Prop where
  initiatorSPI : R.initiatorSPI = S.initiatorSPI
  responderSPI : R.responderSPI = S.responderSPI
  ikeKeys : R.ikeKeys = S.ikeKeys
  selectedIKE : R.selectedIKE = S.selectedIKE
  role : R.isOriginalInitiator = !S.isOriginalInitiator

def parsedPayloads (plain : Bytes) (innerNext : PayloadType) : Except Err (Option (List Payload)) :=
  (parsePayloads plain innerNext false).map fun r => some r.1

section Receiver

variable {R : State} {sel : Selection} {keys : IKEKeys} {cfg : Option Config}
  {exchange : ExchangeType} {msgID : UInt32} {innerNext nextPayload : PayloadType} {raw plain : Bytes}

theorem openProtectedRawState_sk (hsel : R.selectedIKE = some sel) (hkeys : R.ikeKeys = some keys)
    {now : Time}
    (hopens : OpensTo R.isOriginalInitiator sel keys raw exchange msgID innerNext none plain) :
    (openProtectedRawState cfg now raw).run R = (parsedPayloads plain innerNext, R) := by
  obtain ⟨hdr, body, hopen, -, -⟩ := hopens
  rw [run_openProtectedRawState hsel hkeys hopen, finishOpened,
    Eff.run_bind_of_ok (Eff.run_get _), parsedPayloads]
  dsimp only
  rw [Eff.run_bind, Eff.run_lift]
  cases parsePayloads plain innerNext false <;> rfl

variable {pieces : List Bytes} {S : Finset ℕ} {i : ℕ} {e now : Time}

section Piece

variable (hn : pieces.length ≤ 0xffff) (hu : nextPayload ≠ skfFirstPayloadUnset)
  (hi : pieces[i]? = some plain)
  (hR : R.inboundFragments = stored exchange msgID nextPayload pieces S e) (ht : S = ∅ ∨ now ≤ e)
include hn hu hi hR ht

omit [Crypto] in
theorem collectSKFragment_packet (cfg : Option Config) (body : Bytes) {hdr : Header}
    (he : hdr.exchangeType = exchange) (hid : hdr.messageID = msgID) :
    (onFragments (collectSKFragment ⟨PayloadType.skf, fragmentNext nextPayload i, true,
        ⟨UInt16.ofNat (i + 1), UInt16.ofNat pieces.length⟩, body⟩ plain hdr.messageID
        hdr.exchangeType (skfTimeout cfg) now)).run R =
      if ∀ k < pieces.length, k ∈ insert i S then
        (.ok (some pieces.flatten), R.withFragments none)
      else
        (.ok none, R.withFragments
          (stored exchange msgID nextPayload pieces (insert i S) (now + skfTimeout cfg))) := by
  have hilt : i < pieces.length := (List.getElem?_eq_some_iff.mp hi).1
  have hp : IsPiece ⟨PayloadType.skf, fragmentNext nextPayload i, true,
      ⟨UInt16.ofNat (i + 1), UInt16.ofNat pieces.length⟩, body⟩ nextPayload pieces.length i :=
    ⟨rfl, rfl, Nat.mod_eq_of_lt (by omega), Nat.mod_eq_of_lt (by omega), rfl⟩
  rw [onFragments, Eff.run_zoom, hR, he, hid, collectSKFragment_stored hp hi hu ht]
  split_ifs <;> rfl

variable (hsel : R.selectedIKE = some sel) (hkeys : R.ikeKeys = some keys)
  (hopens : OpensTo R.isOriginalInitiator sel keys raw exchange msgID (fragmentNext nextPayload i)
    (some ⟨UInt16.ofNat (i + 1), UInt16.ofNat pieces.length⟩) plain)
include hsel hkeys hopens

theorem openProtectedRawState_piece (cfg : Option Config) {m : ℕ} (hm : m < pieces.length) (hmS : m ∉ insert i S) :
    (openProtectedRawState cfg now raw).run R = (.ok none, R.withFragments
      (stored exchange msgID nextPayload pieces (insert i S) (now + skfTimeout cfg))) := by
  obtain ⟨hdr, body, hopen, he, hid⟩ := hopens
  have hcollect := collectSKFragment_packet hn hu hi hR ht cfg body he hid
  rw [if_neg (fun hall => hmS (hall m hm))] at hcollect
  rw [run_openProtectedRawState hsel hkeys hopen, finishOpened,
    Eff.run_bind_of_ok (Eff.run_get _)]
  simp only
  rw [Eff.run_bind_of_ok hcollect]
  rfl

omit [Crypto] hn hi ht hsel hkeys hopens in
theorem fragFirst_lastPiece (hilt : i < pieces.length)
    (hall : ∀ k < pieces.length, k ∈ insert i S) (hiS : i ∉ S) :
    (if fragFirst R.inboundFragments ≠ skfFirstPayloadUnset then fragFirst R.inboundFragments
      else fragmentNext nextPayload i) = nextPayload := by
  rw [hR]
  by_cases h0 : i = 0
  · subst h0
    by_cases hS : S = ∅ <;> simp [stored, reassembled, fragFirst, hS, hiS, fragmentNext]
  · have h0S : 0 ∈ S := by simpa [Ne.symm h0] using hall 0 (by omega)
    simp [stored, reassembled, fragFirst, Finset.ne_empty_of_mem h0S, h0S, hu]

theorem openProtectedRawState_lastPiece (cfg : Option Config)
    (hall : ∀ k < pieces.length, k ∈ insert i S) (hiS : i ∉ S) :
    (openProtectedRawState cfg now raw).run R =
      (parsedPayloads pieces.flatten nextPayload, R.withFragments none) := by
  obtain ⟨hdr, body, hopen, he, hid⟩ := hopens
  have hilt : i < pieces.length := (List.getElem?_eq_some_iff.mp hi).1
  have hcollect := collectSKFragment_packet hn hu hi hR ht cfg body he hid
  rw [if_pos hall] at hcollect
  rw [run_openProtectedRawState hsel hkeys hopen, finishOpened,
    Eff.run_bind_of_ok (Eff.run_get _)]
  simp only
  rw [Eff.run_bind_of_ok hcollect, parsedPayloads]
  simp only [fragFirst_lastPiece hu hR hilt hall hiS]
  rw [Eff.run_bind, Eff.run_lift]
  cases parsePayloads pieces.flatten nextPayload false <;> rfl

end Piece

/-- A packet of a message, and when it arrives. -/
abbrev Delivery (n : ℕ) := Fin n × Time

/-- The receiver opens a packet when it arrives. -/
def deliver (cfg : Option Config) (frames : List Frame) (d : Delivery frames.length) :
    Eff State (Option (List Payload)) :=
  openProtectedRawState cfg d.2 (frames.get d.1).payload

/-- No two consecutive arrivals are further apart than the reassembly timeout. -/
def NoTimeout {n : ℕ} (cfg : Option Config) (ds : List (Delivery n)) : Prop :=
  ds.IsChain fun a b => b.2 ≤ a.2 + skfTimeout cfg

/-- Any deliveries that leave one piece missing until `last` are stored, and `last` hands over the
payloads. By induction on the deliveries before `last`; `S` has the pieces that are stored. -/
theorem trace_deliver_pieces {frames : List Frame} (hlen : frames.length = pieces.length)
    (hn : pieces.length ≤ 0xffff) (hu : nextPayload ≠ skfFirstPayloadUnset)
    (hopens : ∀ (i : Fin frames.length), OpensTo R.isOriginalInitiator sel keys
      (frames.get i).payload exchange msgID (fragmentNext nextPayload i)
      (some ⟨UInt16.ofNat (i + 1), UInt16.ofNat pieces.length⟩) (pieces.getD i []))
    (cfg : Option Config) (last : Delivery frames.length) :
    ∀ (ds : List (Delivery frames.length)) (S : Finset ℕ) (e : Time) (R' : State),
      R'.selectedIKE = some sel → R'.ikeKeys = some keys →
      R'.isOriginalInitiator = R.isOriginalInitiator →
      R'.inboundFragments = stored exchange msgID nextPayload pieces S e →
      (S = ∅ ∨ ∀ d ∈ (ds ++ [last]).head?, d.2 ≤ e) → NoTimeout cfg (ds ++ [last]) →
      last.1.val ∉ S → (∀ d ∈ ds, d.1 ≠ last.1) →
      (∀ k : Fin frames.length, k.val ∈ S ∨ ∃ d ∈ ds ++ [last], d.1 = k) →
      Eff.trace ((ds ++ [last]).map (deliver cfg frames)) R'
        = (ds.map (fun _ => .ok none) ++ [parsedPayloads pieces.flatten nextPayload],
          R'.withFragments none)
  | [], S, e, R', hsel, hkeys, hrole, hR', htime, _, hlast, _, hall => by
    have hi : pieces[last.1.val]? = some (pieces.getD last.1 []) := by
      simp [List.getElem?_eq_getElem (hlen ▸ last.1.isLt : last.1.val < pieces.length)]
    have hcover : ∀ k < pieces.length, k ∈ insert last.1.val S := by
      intro k hk
      rcases hall ⟨k, hlen ▸ hk⟩ with h | ⟨d, hd, hdk⟩
      · exact Finset.mem_insert_of_mem h
      · obtain rfl : d = last := by simpa using hd
        simp [hdk]
    have := openProtectedRawState_lastPiece hn hu hi hR'
      (htime.imp_right fun h => h last (by simp)) hsel hkeys (hrole ▸ hopens last.1) cfg hcover hlast
    exact Eff.trace_cons_of_run [] this
  | d :: ds, S, e, R', hsel, hkeys, hrole, hR', htime, hchain, hlast, hds, hall => by
    have hi : pieces[d.1.val]? = some (pieces.getD d.1 []) := by
      simp [List.getElem?_eq_getElem (hlen ▸ d.1.isLt : d.1.val < pieces.length)]
    have hmiss : last.1.val ∉ insert d.1.val S := by
      simp only [Finset.mem_insert, not_or]
      exact ⟨fun h => hds d List.mem_cons_self (Fin.ext h.symm), hlast⟩
    have hstep := openProtectedRawState_piece hn hu hi hR'
      (htime.imp_right fun h => h d (by simp)) hsel hkeys (hrole ▸ hopens d.1) cfg (hlen ▸ last.1.isLt) hmiss
    rw [NoTimeout, List.cons_append, List.isChain_cons] at hchain
    have hrest := trace_deliver_pieces hlen hn hu hopens cfg last ds (insert d.1.val S)
      (d.2 + skfTimeout cfg) (R'.withFragments
        (stored exchange msgID nextPayload pieces (insert d.1.val S) (d.2 + skfTimeout cfg)))
      hsel hkeys hrole rfl (.inr hchain.1) hchain.2 hmiss
      (fun d' hd' => hds d' (List.mem_cons_of_mem _ hd'))
      (fun k => by
        rcases hall k with h | ⟨d', hd', rfl⟩
        · exact .inl (Finset.mem_insert_of_mem h)
        · rcases List.mem_cons.mp hd' with rfl | hd'
          · exact .inl (Finset.mem_insert_self _ _)
          · exact .inr ⟨d', hd', rfl⟩)
    have hcons : (deliver cfg frames d).run R' = (.ok none, R'.withFragments _) := hstep
    rw [List.cons_append, List.map_cons, Eff.trace_cons_of_run _ hcons, hrest]
    rfl

end Receiver

/-- Packets that carry a message hand over what its plaintext parses to when the last missing one
arrives, whatever their order and their repetitions. -/
theorem trace_deliver_of_carryMessage {R : State} {sel : Selection} {keys : IKEKeys}
    {cfg : Option Config} {exchange : ExchangeType} {msgID : UInt32} {nextPayload : PayloadType}
    {plaintext : Bytes} {frames : List Frame} (hsel : R.selectedIKE = some sel)
    (hkeys : R.ikeKeys = some keys) (hR : R.inboundFragments = none)
    (hu : nextPayload ≠ skfFirstPayloadUnset)
    (hcarry : CarryMessage R.isOriginalInitiator sel keys exchange msgID nextPayload plaintext
      frames)
    {ds : List (Delivery frames.length)} {last : Delivery frames.length}
    (hlast : ∀ d ∈ ds, d.1 ≠ last.1) (hall : ∀ k, ∃ d ∈ ds ++ [last], d.1 = k)
    (htime : NoTimeout cfg (ds ++ [last])) :
    Eff.trace ((ds ++ [last]).map (deliver cfg frames)) R
      = (ds.map (fun _ => .ok none) ++ [parsedPayloads plaintext nextPayload], R) := by
  have hself : R.withFragments none = R := by rw [← hR]; rfl
  cases hcarry with
  | @sk frame hopens =>
    -- a repetition of the only packet would not be before the last distinct one
    have hds : ds = [] := by
      refine List.eq_nil_iff_forall_not_mem.mpr fun d hd => hlast d hd (Fin.ext ?_)
      have h1 := d.1.isLt
      have h2 := last.1.isLt
      simp only [List.length_singleton] at h1 h2
      omega
    subst hds
    have hget : [frame].get last.1 = frame := List.mem_singleton.mp (List.get_mem _ _)
    have hrun : (deliver cfg [frame] last).run R = (parsedPayloads plaintext nextPayload, R) := by
      rw [deliver, hget]
      exact openProtectedRawState_sk hsel hkeys hopens
    exact Eff.trace_cons_of_run [] hrun
  | skf pieces hlen hn hflat hopens =>
    subst hflat
    have := trace_deliver_pieces hlen hn hu hopens cfg last ds ∅ 0 R hsel hkeys rfl
      (by simpa [stored] using hR) (.inl rfl) htime (by simp) hlast
      (fun k => .inr (hall k))
    rw [this, hself]

/-- **What one end builds, the other end opens, whatever the order and the repetitions of its
packets.** Every delivery before the last missing packet is stored without an error, and that packet
hands over the payloads. -/
theorem trace_deliver_buildProtectedEnvelopeAs {S : IkeEnvelope} {R : State}
    (hpair : Paired S R) (hR : R.inboundFragments = none) (cfgS cfgR : Option Config)
    (exchange : ExchangeType) (msgID : UInt32) {parts : List CesPayloadPart}
    (hparts : ∀ p ∈ parts, p.Fits) {flags : Flags} (hflags : flags &&& ~~~flagsMask = 0)
    {rng rng' : Rng} {frames : List Frame}
    (hbuild : (buildProtectedEnvelopeAs cfgS S exchange msgID (firstType parts)
      (cesBuildChain parts) flags).run rng = (.ok frames, rng'))
    {ds : List (Delivery frames.length)} {last : Delivery frames.length}
    (hlast : ∀ d ∈ ds, d.1 ≠ last.1) (hall : ∀ k, ∃ d ∈ ds ++ [last], d.1 = k)
    (htime : NoTimeout cfgR (ds ++ [last])) :
    Eff.trace ((ds ++ [last]).map (deliver cfgR frames)) R
      = (ds.map (fun _ => .ok none) ++ [.ok (some (chainPayloads parts))], R) := by
  obtain ⟨sel, keys, hsel, hkeys, hcarry⟩ := carryMessage_of_build hflags hbuild
  rw [← hpair.selectedIKE] at hsel
  rw [← hpair.ikeKeys] at hkeys
  rw [← hpair.role] at hcarry
  rw [trace_deliver_of_carryMessage hsel hkeys hR (firstType_ne_unset hparts) hcarry hlast hall
    htime, parsedPayloads, parsePayloads_cesBuildChain hparts]
  rfl

end Ends

section Sample

attribute [local instance] plainCrypto

def shortFragments : Config where
  ike := []
  esp := []
  strongswanCompatible := false
  rekey := ⟨0, 0, false, 0, 0⟩
  timeouts := ⟨second, second, 3, 0, 0⟩
  fragmentPlaintextLimit := 20
  dataUpdates := false

def sampleSender : IkeEnvelope :=
  ⟨1, 2, true, some cbcSelection, some cbcKeys, ⟨false, false, true⟩⟩

def sampleReceiver : State :=
  { newState with
    initiatorSPI := 1
    responderSPI := 2
    isOriginalInitiator := false
    selectedIKE := some cbcSelection
    ikeKeys := some cbcKeys }

def sampleParts : List CesPayloadPart :=
  [⟨PayloadType.nonce, List.replicate 30 9⟩, ⟨PayloadType.notify, List.replicate 10 8⟩]

def sampleBuild : Eff Rng (List Frame) :=
  buildProtectedEnvelopeAs (some shortFragments) sampleSender ExchangeType.informational 3
    (firstType sampleParts) (cesBuildChain sampleParts) flagInitiator

/-- The packets of a message with two payloads. -/
def sampleFrames : List Frame :=
  match (sampleBuild.run zeroRng).1 with
  | .ok frames => frames
  | .error _ => []

theorem length_sampleFrames : sampleFrames.length = 3 := by decide +kernel

def samplePacket (i : Fin 3) (t : Time) : Delivery sampleFrames.length :=
  (i.cast length_sampleFrames.symm, t)

/-- The first and the third packet of the sample arrive twice each before the second one. -/
theorem trace_deliver_sampleFrames :
    Eff.trace (([samplePacket 2 0, samplePacket 0 1, samplePacket 2 5, samplePacket 0 5] ++
        [samplePacket 1 9]).map (deliver none sampleFrames)) sampleReceiver
      = ([.ok none, .ok none, .ok none, .ok none, .ok (some (chainPayloads sampleParts))],
        sampleReceiver) := by
  have hbuild : sampleBuild.run zeroRng = (.ok sampleFrames, (sampleBuild.run zeroRng).2) := by
    have hok : (sampleBuild.run zeroRng).1 = .ok sampleFrames := by
      have hsome : ((sampleBuild.run zeroRng).1.toOption).isSome := by decide +kernel
      unfold sampleFrames
      cases h : (sampleBuild.run zeroRng).1 with
      | ok frames => rfl
      | error e => rw [h] at hsome; cases hsome
    rw [← hok]
  refine trace_deliver_buildProtectedEnvelopeAs (S := sampleSender) ⟨rfl, rfl, rfl, rfl, rfl⟩ rfl
    (some shortFragments) none ExchangeType.informational 3 ?_ (by decide) hbuild ?_ ?_ ?_
  · simp only [sampleParts, List.forall_mem_cons, List.not_mem_nil, false_imp_iff, implies_true,
      and_true]
    exact ⟨⟨by decide, by decide, by decide, by decide⟩, ⟨by decide, by decide, by decide, by decide⟩⟩
  · simp [samplePacket, Fin.ext_iff]
  · rw [← (finCongr length_sampleFrames.symm).forall_congr_right]
    intro k
    fin_cases k <;> simp [samplePacket, Fin.ext_iff]
  · simp only [NoTimeout, samplePacket, skfTimeout]
    simp
    decide

end Sample

end Swan.Control
