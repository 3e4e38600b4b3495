import Swan.Control.Protected
import Swan.Wire.Builder
import Swan.Xcrypto.Instance

/-! # The two openers of a protected message

`openProtectedRawState` authenticates the bytes of the datagram itself; `openProtectedMessageEnvelope`
parses the datagram and authenticates a prefix that `rebuildPrefix` writes from the parsed fields. A
parsed payload keeps the critical bit of its header but not the seven reserved bits beside it, and the
encrypted payload keeps neither. `ReservedClear` says that the bits that are lost were zero:
`rebuildPrefix_eq_iff` shows that this is exactly when the prefix is rebuilt, and `openers_agree` that
the two openers then do the same. `critical_sk_disagrees` is a datagram with the critical bit set in
the header of its SK payload that only the first opener accepts. -/

namespace Swan.Control

open Swan.Lib Swan.Wire Swan.Payload Swan.Xcrypto

/-! ### Bits that a parsed payload does not keep -/

/-- In the chain `b` with the payloads `ps` in front of its encrypted payload, the second byte of each
payload header has no bit beside the critical one, and that of the encrypted payload is zero. -/
def ReservedClear : List Payload → Bytes → Prop
  | [], b => b.getD 1 0 = 0
  | p :: ps, b => (b.getD 1 0 = 0 ∨ b.getD 1 0 = 0x80) ∧
      ReservedClear ps (b.drop (payloadHeaderLen + p.body.length))

instance : ∀ ps b, Decidable (ReservedClear ps b)
  | [], b => inferInstanceAs (Decidable (b.getD 1 0 = 0))
  | p :: ps, b =>
    have := instDecidableReservedClear ps (b.drop (payloadHeaderLen + p.body.length))
    inferInstanceAs (Decidable (_ ∧ _))

theorem eq_critical_iff (x : UInt8) :
    (x = if decide (x &&& 0x80 ≠ 0) then 0x80 else 0) ↔ x = 0 ∨ x = 0x80 := by
  constructor
  · intro h
    split_ifs at h with hbit
    · exact .inr h
    · exact .inl h
  · rintro (rfl | rfl) <;> decide

section Chain

variable {e : EncryptedPayload}

/-- A chain that is tiled by `ps` and the SK payload `e`: its length, where the body is, and when its
first bytes are those written for the parsed fields. Bytes behind the chain change nothing. -/
theorem tiles_prefix (hsk : e.fragmented = false) (trail : Bytes) : ∀ {ps : List Payload} {first : PayloadType} {b : Bytes},
    Tiles first ps (some e) b →
    (∀ p ∈ ps, payloadHeaderLen + p.body.length ≤ 0xffff) ∧
    payloadHeaderLen + e.body.length ≤ 0xffff ∧
    b.drop ((chainBytes ps).length + payloadHeaderLen) = e.body ∧
    b.length = (chainBytes ps).length + payloadHeaderLen + e.body.length ∧
    (b.take ((chainBytes ps).length + payloadHeaderLen) =
        chainBytes ps ++ payloadHeader e.innerNext false (payloadHeaderLen + e.body.length) ↔
      ReservedClear ps (b ++ trail))
  | [], first, b, h => by
    obtain ⟨-, -, -, hd, critical, hhd, hb⟩ := h
    have hfrag : e.fragBytes = [] := by rw [EncryptedPayload.fragBytes, hsk]; rfl
    rw [hfrag] at hhd hb
    rw [List.nil_append] at hb
    rw [List.length_nil, Nat.zero_add] at hhd
    have hget : (b ++ trail).getD 1 0 = hd.getD 1 0 := by
      rw [hb, List.append_assoc, List.getD_eq_getElem?_getD, List.getD_eq_getElem?_getD,
        List.getElem?_append_left (by rw [hhd.length]; decide)]
    have hlen0 : (chainBytes []).length + payloadHeaderLen = payloadHeaderLen := Nat.zero_add _
    rw [hlen0]
    refine ⟨by simp, hhd.total_le, ?_, ?_, ?_⟩
    · rw [hb, List.drop_left' hhd.length]
    · rw [hb, List.length_append, hhd.length]
    · rw [ReservedClear, hget]
      rw [hb, List.take_left' hhd.length]
      exact hhd.eq_iff
  | p :: ps, first, b, h => by
    obtain ⟨-, -, -, hd, rest, hhd, hb, htiles⟩ := h
    obtain ⟨hfits, henc, hdrop, hlen, hiff⟩ := tiles_prefix hsk trail htiles
    have hfront : (hd ++ p.body).length = payloadHeaderLen + p.body.length := by
      rw [List.length_append, hhd.length]
    have hb' : b = (hd ++ p.body) ++ rest := by rw [hb, List.append_assoc]
    have hcons : (chainBytes (p :: ps)).length = (payloadHeaderLen + p.body.length) +
        (chainBytes ps).length := by
      rw [chainBytes, List.length_append, List.length_append, length_payloadHeader, Nat.add_assoc]
    have hget : (b ++ trail).getD 1 0 = hd.getD 1 0 := by
      rw [hb, List.append_assoc, List.getD_eq_getElem?_getD, List.getD_eq_getElem?_getD,
        List.getElem?_append_left (by rw [hhd.length]; decide)]
    have hrest : ∀ t, (b ++ t).drop (payloadHeaderLen + p.body.length) = rest ++ t := by
      intro t
      rw [hb', List.append_assoc, List.drop_left' hfront]
    refine ⟨List.forall_mem_cons.mpr ⟨hhd.total_le, hfits⟩, henc, ?_, ?_, ?_⟩
    · have hrest' := hrest []
      rw [List.append_nil, List.append_nil] at hrest'
      rw [hcons, Nat.add_assoc, ← List.drop_drop, hrest', hdrop]
    · rw [hb', List.length_append, hfront, hlen, hcons]
      omega
    · have hwritten : (hd ++ p.body) ++ rest.take ((chainBytes ps).length + payloadHeaderLen) =
          (payloadHeader p.next p.critical (payloadHeaderLen + p.body.length) ++ p.body) ++
            (chainBytes ps ++ payloadHeader e.innerNext false (payloadHeaderLen + e.body.length)) ↔
          hd = payloadHeader p.next p.critical (payloadHeaderLen + p.body.length) ∧
            rest.take ((chainBytes ps).length + payloadHeaderLen) =
              chainBytes ps ++ payloadHeader e.innerNext false (payloadHeaderLen + e.body.length) := by
        constructor
        · intro h
          obtain ⟨hleft, hright⟩ := List.append_inj h (by
            rw [hfront, List.length_append, length_payloadHeader])
          exact ⟨List.append_cancel_right hleft, hright⟩
        · rintro ⟨hleft, hright⟩
          rw [hright, ← hleft]
      have hsecond : (hd = payloadHeader p.next p.critical (payloadHeaderLen + p.body.length)) ↔
          hd.getD 1 0 = 0 ∨ hd.getD 1 0 = 0x80 := by
        rw [hhd.eq_iff, ← hhd.critical]
        exact eq_critical_iff _
      have htake : b.take ((chainBytes (p :: ps)).length + payloadHeaderLen) =
          (hd ++ p.body) ++ rest.take ((chainBytes ps).length + payloadHeaderLen) := by
        rw [hcons, Nat.add_assoc, hb', List.take_append, hfront, Nat.add_sub_cancel_left,
          List.take_of_length_le (by rw [hfront]; omega)]
      rw [ReservedClear, hrest, ← hiff, hget, ← hsecond, ← hwritten, htake, chainBytes]
      simp only [List.append_assoc]

theorem tiles_encrypted : ∀ {ps : List Payload} {first : PayloadType} {b : Bytes},
    Tiles first ps (some e) b → (e.fragmented = true ↔ e.type = PayloadType.skf)
  | [], _, _, h => by
    obtain ⟨rfl, -, hfrag, -⟩ := h
    exact hfrag
  | _ :: _, _, _, h => by
    obtain ⟨-, -, -, hd, rest, -, -, htiles⟩ := h
    exact tiles_encrypted htiles

theorem header_at {rest hd tail : Bytes} {off n : ℕ} {next : PayloadType} {critical : Bool}
    (hhd : IsHeader hd next critical n) (hb : rest.drop off = hd ++ tail) :
    (beUint16 (slice rest (off + 2) (off + 4))).toNat = payloadHeaderLen + n ∧
      rest.getD off 0 = next := by
  have hslice : slice rest (off + 2) (off + 4) = slice hd 2 4 := by
    have hshift : slice rest (off + 2) (off + 4) = slice (rest.drop off) 2 4 := by
      rw [slice, slice, List.drop_take, List.drop_take, List.drop_drop]
      congr 1
      omega
    rw [hshift, hb, slice, slice, List.take_append_of_le_length (by rw [hhd.length]; decide)]
  have hget : rest.getD off 0 = hd.getD 0 0 := by
    have h0 : (rest.drop off).getD 0 0 = rest.getD off 0 := by
      simp [List.getD_eq_getElem?_getD, List.getElem?_drop]
    rw [← h0, hb, List.getD_eq_getElem?_getD, List.getD_eq_getElem?_getD,
      List.getElem?_append_left (by rw [hhd.length]; decide)]
  exact ⟨by rw [hslice, hhd.total], by rw [hget, hhd.next]⟩

theorem findEncrypted_of_tiles {rest : Bytes} : ∀ {ps : List Payload} {first : PayloadType} {off fuel : ℕ},
    Tiles first ps (some e) (rest.drop off) → rest.length - off < fuel →
    findEncrypted rest fuel first off = .ok
      { encType := e.type, innerNext := e.innerNext
        payloadStart := headerLen + off + (chainBytes ps).length
        payloadEnd := headerLen + rest.length }
  | ps, first, off, 0, _, hf => absurd hf (Nat.not_lt_zero _)
  | [], first, off, fuel + 1, h, hf => by
    obtain ⟨rfl, henc, -, hd, critical, hhd, hb⟩ := h
    have hnone : e.type ≠ PayloadType.none := by
      rintro h0
      rw [h0] at henc
      exact absurd henc (by decide)
    have hlen := congrArg List.length hb
    rw [List.length_drop, List.length_append, hhd.length, List.length_append] at hlen
    have h4 : payloadHeaderLen = 4 := rfl
    obtain ⟨hfield, hnext⟩ := header_at hhd hb
    rw [findEncrypted, if_neg hnone, if_neg (by omega), hfield]
    dsimp only
    rw [if_neg (by omega), if_pos henc, if_neg (by omega), hnext]
    simp only [chainBytes, List.length_nil, Nat.add_zero, Except.ok.injEq, EncLocation.mk.injEq, true_and]
    omega
  | p :: ps, first, off, fuel + 1, h, hf => by
    obtain ⟨-, hnone, henc, hd, rest', hhd, hb, htiles⟩ := h
    have hlen := congrArg List.length hb
    rw [List.length_drop, List.length_append, hhd.length, List.length_append] at hlen
    have h4 : payloadHeaderLen = 4 := rfl
    obtain ⟨hfield, hnext⟩ := header_at hhd hb
    have htail : rest.drop (off + (payloadHeaderLen + p.body.length)) = rest' := by
      rw [← List.drop_drop, hb, ← List.append_assoc]
      exact List.drop_left' (by rw [List.length_append, hhd.length])
    rw [findEncrypted, if_neg hnone, if_neg (by omega), hfield]
    dsimp only
    rw [if_neg (by omega), if_neg henc, hnext, findEncrypted_of_tiles (htail ▸ htiles) (by omega),
      chainBytes]
    simp only [List.length_append, length_payloadHeader, Except.ok.injEq, EncLocation.mk.injEq, true_and,
      and_true]
    omega

end Chain

/-! ### The rebuilt prefix -/

section Prefix

variable {raw : Bytes} {msg : Message} {enc : EncryptedPayload}

def ivStart (msg : Message) : ℕ := headerLen + ((chainBytes msg.payloads).length + payloadHeaderLen)

theorem parseMessage_eq_ok (h : parseMessage raw = .ok msg) : ∃ rest trail,
    parseHeader raw = .ok (msg.header, rest) ∧ raw = msg.header.marshalTo [] ++ (rest ++ trail) ∧
      Tiles msg.header.nextPayload msg.payloads msg.encrypted rest := by
  obtain ⟨⟨hdr, rest⟩, hhdr, h⟩ := bind_eq_ok.mp h
  obtain ⟨⟨ps, e⟩, hps, h⟩ := bind_eq_ok.mp h
  obtain rfl := Except.ok.inj h
  obtain ⟨trail, hraw⟩ := parseHeader_eq_ok hhdr
  exact ⟨rest, trail, hhdr, hraw, tiles_parseChain hps⟩

/-- **When the prefix is rebuilt.** The prefix of an unfragmented message is that of the datagram
exactly if no bit was set that the parsed message does not keep. -/
theorem rebuildPrefix_eq_iff (h : parseMessage raw = .ok msg) (henc : msg.encrypted = some enc)
    (hsk : enc.fragmented = false) : rebuildPrefix msg = .ok (raw.take (ivStart msg)) ↔
      ReservedClear msg.payloads (raw.drop headerLen) := by
  obtain ⟨rest, trail, -, hraw, htiles⟩ := parseMessage_eq_ok h
  rw [henc] at htiles
  obtain ⟨hfits, hencfits, -, hlen, hiff⟩ := tiles_prefix hsk trail htiles
  have hhdr : (msg.header.marshalTo []).length = headerLen := by simp
  have hrebuilt : rebuildPrefix msg = .ok (msg.header.marshalTo [] ++ (chainBytes msg.payloads ++
      payloadHeader enc.innerNext false (payloadHeaderLen + enc.body.length))) := by
    have hshort : ¬∃ p ∈ msg.payloads, payloadHeaderLen + p.body.length > 0xffff := by
      rintro ⟨p, hp, hlong⟩
      exact absurd (hfits p hp) (not_le.mpr hlong)
    rw [rebuildPrefix, if_neg hshort, henc]
    dsimp only
    rw [hsk, if_neg Bool.false_ne_true, if_neg Bool.false_ne_true, Nat.add_zero,
      if_neg (not_lt.mpr hencfits)]
    simp only [List.append_assoc, List.append_nil]
  have htake : raw.take (ivStart msg) = msg.header.marshalTo [] ++
      rest.take ((chainBytes msg.payloads).length + payloadHeaderLen) := by
    rw [hraw, ivStart, List.take_append, hhdr, Nat.add_sub_cancel_left,
      List.take_of_length_le (by rw [hhdr]; omega), List.take_append_of_le_length (by omega)]
  have hdrop : raw.drop headerLen = rest ++ trail := by rw [hraw, List.drop_left' hhdr]
  rw [hrebuilt, htake, hdrop, ← hiff, Except.ok.injEq, List.append_right_inj]
  exact eq_comm

end Prefix

/-! ### Both openers -/

section Open

variable [Crypto] {raw : Bytes} {msg : Message} {enc : EncryptedPayload}

theorem openRaw_of_parseMessage (h : parseMessage raw = .ok msg) (henc : msg.encrypted = some enc)
    (hsk : enc.fragmented = false) (role : Bool) (sel : Selection) (keys : IKEKeys) :
    openRaw role sel keys raw = openEncryptedBody sel (inboundKeyHalves role keys).1
        (inboundKeyHalves role keys).2 (raw.take (ivStart msg)) enc.body >>= fun plain => .ok
      { header := msg.header, innerNext := enc.innerNext, frag := none, body := enc.body, plain } := by
  obtain ⟨rest, trail, hhdr, hraw, htiles⟩ := parseMessage_eq_ok h
  rw [henc] at htiles
  obtain ⟨-, -, hbody, hlen, -⟩ := tiles_prefix hsk trail htiles
  have hnotskf : enc.type ≠ PayloadType.skf := fun hskf =>
    absurd ((tiles_encrypted htiles).mpr hskf) (by rw [hsk]; exact Bool.false_ne_true)
  have hfind : findEncrypted rest (rest.length + 1) msg.header.nextPayload 0 = .ok
      { encType := enc.type, innerNext := enc.innerNext
        payloadStart := headerLen + 0 + (chainBytes msg.payloads).length
        payloadEnd := headerLen + rest.length } :=
    findEncrypted_of_tiles htiles (Nat.lt_succ_self _)
  have hstart : headerLen + 0 + (chainBytes msg.payloads).length + payloadHeaderLen = ivStart msg := by
    rw [ivStart]
    omega
  have hhdrlen : (msg.header.marshalTo []).length = headerLen := by simp
  have hslice : slice raw (ivStart msg) (headerLen + rest.length) = enc.body := by
    have hmid : ivStart msg = (msg.header.marshalTo []).length +
        ((chainBytes msg.payloads).length + payloadHeaderLen) := by rw [hhdrlen, ivStart]
    rw [hmid, ← hhdrlen, hraw, slice_append_right, slice, List.take_left' rfl, hbody]
  rw [openRaw, hhdr, ok_bind]
  dsimp only
  rw [hfind, ok_bind, locateBody]
  dsimp only
  rw [if_neg hnotskf, ok_bind]
  dsimp only
  rw [hstart, hslice]

theorem run_openProtectedRawState_sk (h : parseMessage raw = .ok msg) (henc : msg.encrypted = some enc)
    (hsk : enc.fragmented = false) (cfg : Option Config) (now : Time) {s : State} {sel : Selection}
    {keys : IKEKeys} (hsel : s.selectedIKE = some sel) (hkeys : s.ikeKeys = some keys) :
    (openProtectedRawState cfg now raw).run s =
      ((openEncryptedBody sel (inboundKeyHalves s.isOriginalInitiator keys).1
          (inboundKeyHalves s.isOriginalInitiator keys).2 (raw.take (ivStart msg)) enc.body >>= fun plain =>
        parsePayloads plain enc.innerNext false >>= fun r => .ok (some r.1)), s) := by
  have hopen := openRaw_of_parseMessage h henc hsk s.isOriginalInitiator sel keys
  rw [openProtectedRawState, Eff.run_bind_of_ok (Eff.run_get s), hsel, hkeys]
  dsimp only
  rw [hopen]
  cases openEncryptedBody sel (inboundKeyHalves s.isOriginalInitiator keys).1
    (inboundKeyHalves s.isOriginalInitiator keys).2 (raw.take (ivStart msg)) enc.body with
  | error e => rfl
  | ok plain =>
    rw [ok_bind, ok_bind, Eff.run_bind_of_ok (Eff.run_lift _ s), finishOpened,
      Eff.run_bind_of_ok (Eff.run_get s)]
    dsimp only
    cases parsePayloads plain enc.innerNext false <;> rfl

theorem openProtectedMessageEnvelope_sk (h : parseMessage raw = .ok msg) (henc : msg.encrypted = some enc)
    (hsk : enc.fragmented = false) {aad : Bytes} (hpre : rebuildPrefix msg = .ok aad)
    {env : IkeEnvelope} {sel : Selection} {keys : IKEKeys} (hsel : env.selectedIKE = some sel)
    (hkeys : env.ikeKeys = some keys) : openProtectedMessageEnvelope env raw =
      openEncryptedBody sel (inboundKeyHalves env.isOriginalInitiator keys).1
          (inboundKeyHalves env.isOriginalInitiator keys).2 aad enc.body >>= fun plain =>
        parsePayloads plain enc.innerNext false >>= fun r => .ok r.1 := by
  rw [openProtectedMessageEnvelope, h, ok_bind, henc]
  dsimp only
  rw [hsk, if_neg Bool.false_ne_true, hpre, ok_bind, hsel, hkeys]

theorem openers_fail (h : parseMessage raw = .ok msg) (henc : msg.encrypted = some enc)
    (hsk : enc.fragmented = false) {aad : Bytes} (hpre : rebuildPrefix msg = .ok aad)
    (cfg : Option Config) (now : Time) {s : State} (hmissing : s.selectedIKE = none ∨ s.ikeKeys = none) :
    ∃ e e', openProtectedMessageEnvelope (stateIKEEnvelope s) raw = .error e ∧
      (openProtectedRawState cfg now raw).run s = (.error e', s) := by
  have hmsg : ∃ e, openProtectedMessageEnvelope (stateIKEEnvelope s) raw = .error e := by
    rw [openProtectedMessageEnvelope, h, ok_bind, henc]
    dsimp only
    rw [hsk, if_neg Bool.false_ne_true, hpre, ok_bind]
    rcases hmissing with hnone | hnone
    · rw [show (stateIKEEnvelope s).selectedIKE = none from hnone]
      exact ⟨_, rfl⟩
    · rw [show (stateIKEEnvelope s).ikeKeys = none from hnone]
      cases (stateIKEEnvelope s).selectedIKE <;> exact ⟨_, rfl⟩
  have hraw : ∃ e', (openProtectedRawState cfg now raw).run s = (.error e', s) := by
    rw [openProtectedRawState, Eff.run_bind_of_ok (Eff.run_get s)]
    rcases hmissing with hnone | hnone
    · rw [hnone]
      exact ⟨_, rfl⟩
    · rw [hnone]
      cases s.selectedIKE <;> exact ⟨_, rfl⟩
  obtain ⟨e, he⟩ := hmsg
  obtain ⟨e', he'⟩ := hraw
  exact ⟨e, e', he, he'⟩

/-- **The two openers agree.** On a datagram that ends in an unfragmented SK payload and in whose
payload headers no bit is set that a parsed message does not keep, the rebuilt prefix is that of the
datagram, and the two openers return the same payloads or both fail. -/
theorem openers_agree (h : parseMessage raw = .ok msg) (henc : msg.encrypted = some enc)
    (hsk : enc.fragmented = false) (hclear : ReservedClear msg.payloads (raw.drop headerLen))
    (cfg : Option Config) (now : Time) (s : State) :
    rebuildPrefix msg = .ok (raw.take (ivStart msg)) ∧
    ((∃ plds, openProtectedMessageEnvelope (stateIKEEnvelope s) raw = .ok plds ∧
        (openProtectedRawState cfg now raw).run s = (.ok (some plds), s)) ∨
      ∃ e e', openProtectedMessageEnvelope (stateIKEEnvelope s) raw = .error e ∧
        (openProtectedRawState cfg now raw).run s = (.error e', s)) := by
  have hpre := (rebuildPrefix_eq_iff h henc hsk).mpr hclear
  refine ⟨hpre, ?_⟩
  by_cases hmissing : s.selectedIKE = none ∨ s.ikeKeys = none
  · exact .inr (openers_fail h henc hsk hpre cfg now hmissing)
  rw [not_or] at hmissing
  obtain ⟨sel, hsel⟩ := Option.ne_none_iff_exists'.mp hmissing.1
  obtain ⟨keys, hkeys⟩ := Option.ne_none_iff_exists'.mp hmissing.2
  have hmsg := openProtectedMessageEnvelope_sk h henc hsk hpre
    (show (stateIKEEnvelope s).selectedIKE = some sel from hsel)
    (show (stateIKEEnvelope s).ikeKeys = some keys from hkeys)
  have hraw := run_openProtectedRawState_sk h henc hsk cfg now hsel hkeys
  rw [show (stateIKEEnvelope s).isOriginalInitiator = s.isOriginalInitiator from rfl] at hmsg
  rw [hmsg, hraw]
  -- both run the same two steps on the same bytes
  cases openEncryptedBody sel (inboundKeyHalves s.isOriginalInitiator keys).1
      (inboundKeyHalves s.isOriginalInitiator keys).2 (raw.take (ivStart msg)) enc.body with
  | error e => exact .inr ⟨e, e, rfl, rfl⟩
  | ok plain =>
    rw [ok_bind, ok_bind]
    cases parsePayloads plain enc.innerNext false with
    | error e => exact .inr ⟨e, e, rfl, rfl⟩
    | ok r => exact .inl ⟨r.1, rfl, rfl⟩

end Open

section Sample

attribute [local instance] plainCrypto

def skHeader : Header :=
  ⟨1, 2, PayloadType.sk, ikeDefaultVersion, ExchangeType.informational, flagInitiator, 3, 80⟩

/-- The bytes before the IV, with the given second byte in the header of the SK payload. -/
def skPrefix (second : UInt8) : Bytes := skHeader.marshalTo [] ++ [PayloadType.none, second, 0, 52]

/-- The body of the SK payload, sealed by the original initiator. -/
def skBody (second : UInt8) : Bytes :=
  (sealBody cbcSelection cbcKeys.skei cbcKeys.skai (skPrefix second) (List.replicate 16 0)
    (padIKEPlaintext cbcSelection.encryption [])).toOption.getD []

def skRequest (second : UInt8) : Bytes := skPrefix second ++ skBody second

def skMessage (second : UInt8) : Message where
  header := skHeader
  payloads := []
  encrypted := some ⟨PayloadType.sk, PayloadType.none, false, ⟨0, 0⟩, skBody second⟩

def skReceiver : State :=
  { newState with
    initiatorSPI := 1
    responderSPI := 2
    isOriginalInitiator := false
    selectedIKE := some cbcSelection
    ikeKeys := some cbcKeys }

theorem sample_openers_agree :
    rebuildPrefix (skMessage 0) = .ok ((skRequest 0).take (ivStart (skMessage 0))) ∧
    ((∃ plds, openProtectedMessageEnvelope (stateIKEEnvelope skReceiver) (skRequest 0) = .ok plds ∧
        (openProtectedRawState none 0 (skRequest 0)).run skReceiver = (.ok (some plds), skReceiver)) ∨
      ∃ e e', openProtectedMessageEnvelope (stateIKEEnvelope skReceiver) (skRequest 0) = .error e ∧
        (openProtectedRawState none 0 (skRequest 0)).run skReceiver = (.error e', skReceiver)) :=
  openers_agree (by decide +kernel) rfl rfl (by decide +kernel) none 0 skReceiver

/-- The opener of the raw bytes accepts the request with the given second byte, the opener of the parsed
message does not, since it authenticates other bytes. -/
def OpenersDisagree (second : UInt8) : Prop :=
  parseMessage (skRequest second) = .ok (skMessage second) ∧
  rebuildPrefix (skMessage second) ≠ .ok ((skRequest second).take (ivStart (skMessage second))) ∧
  ((openProtectedRawState none 0 (skRequest second)).run skReceiver).1 = .ok (some []) ∧
  openProtectedMessageEnvelope (stateIKEEnvelope skReceiver) (skRequest second) =
    .error (.errorf "control: IKE integrity check failed")

instance (second : UInt8) : Decidable (OpenersDisagree second) :=
  inferInstanceAs (Decidable (_ ∧ _ ∧ _ ∧ _))

/-- The critical bit or a reserved bit of the SK payload header. -/
theorem critical_sk_disagrees : OpenersDisagree 0x80 ∧ OpenersDisagree 0x01 := by
  decide +kernel

end Sample

end Swan.Control
