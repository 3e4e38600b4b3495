import Swan.Lib.Checked
import Swan.Wire.Message

/-! # The message parser with run-time checks

The parsers of headers, payload chains and messages once more, with every index and every slice checked
and every loop iteration counted. `within_parseMessage`: on every byte string all checks succeed, the
result is that of `parseMessage`, and there are no more iterations than bytes. -/

namespace Swan.Wire.Checked

open Swan.Lib Swan.Lib.Checked

def parseHeader (b : Bytes) : Checked (Header × Bytes) :=
  if b.length < headerLen then fail
  else do
    let lengthField ← range b 24 28
    let declared ← uint32 lengthField
    if declared.toNat < headerLen then fail
    else if declared.toNat > b.length then fail
    else do
      let initiatorField ← range b 0 8
      let initiatorSPI ← uint64 initiatorField
      let responderField ← range b 8 16
      let responderSPI ← uint64 responderField
      let nextPayload ← index b 16
      let version ← index b 17
      let exchangeType ← index b 18
      let flags ← index b 19
      let idField ← range b 20 24
      let messageID ← uint32 idField
      if version ≠ ikeDefaultVersion then fail
      else if flags &&& ~~~flagsMask ≠ 0 then fail
      else do
        let rest ← range b headerLen declared.toNat
        pure ({ initiatorSPI, responderSPI, nextPayload, version, exchangeType, flags, messageID
                length := UInt32.ofNat declared.toNat }, rest)

def parseSkfHeader (b : Bytes) : Checked (SkfHeader × Bytes) :=
  if b.length < skfHeaderLen then fail
  else do
    let numberField ← range b 0 2
    let fragmentNumber ← uint16 numberField
    let totalField ← range b 2 4
    let totalFragments ← uint16 totalField
    if (⟨fragmentNumber, totalFragments⟩ : SkfHeader).Invalid then fail
    else do
      let tail ← rangeFrom b skfHeaderLen
      pure (⟨fragmentNumber, totalFragments⟩, tail)

def parseEnvelope (t payloadNext : PayloadType) (body : Bytes) : Checked EncryptedPayload :=
  if t = PayloadType.skf then do
    let (frag, tail) ← parseSkfHeader body
    pure { type := t, innerNext := payloadNext, fragmented := true, frag := frag, body := tail }
  else
    pure { type := t, innerNext := payloadNext, fragmented := false, frag := ⟨0, 0⟩, body := body }

def parseChain (stopAtEncrypted : Bool) :
    ℕ → Bytes → PayloadType → Checked (List Payload × Option EncryptedPayload)
  | 0, _, _ => fault
  | fuel + 1, rest, type =>
    if type = PayloadType.none then
      if rest.length ≠ 0 then fail else pure ([], none)
    else iteration (
      if rest.length < payloadHeaderLen then fail
      else do
        let payloadNext ← index rest 0
        let second ← index rest 1
        let lengthField ← range rest 2 4
        let length ← uint16 lengthField
        if length.toNat < payloadHeaderLen then fail
        else if length.toNat > rest.length then fail
        else do
          let body ← range rest payloadHeaderLen length.toNat
          if IsEncrypted type then
            if !stopAtEncrypted then fail
            else if length.toNat ≠ rest.length then fail
            else do
              let envelope ← parseEnvelope type payloadNext body
              pure ([], some envelope)
          else do
            let tail ← rangeFrom rest length.toNat
            let (payloads, encrypted) ←
              next rest.length tail.length (parseChain stopAtEncrypted fuel tail payloadNext)
            pure ({ type, critical := decide (second &&& 0x80 ≠ 0), next := payloadNext, body } :: payloads,
              encrypted))

def parsePayloads (buf : Bytes) (first : PayloadType) (stopAtEncrypted : Bool) :
    Checked (List Payload × Option EncryptedPayload) :=
  parseChain stopAtEncrypted (buf.length + 1) buf first

def parseMessage (b : Bytes) : Checked Message := do
  let (hdr, rest) ← parseHeader b
  let (payloads, encrypted) ← parsePayloads rest hdr.nextPayload true
  pure { header := hdr, payloads, encrypted }

theorem within_parseHeader (b : Bytes) :
    Within (fun r => headerLen + r.2.length) b.length (parseHeader b) (Wire.parseHeader b) := by
  refine Within.guard fun hlen => ?_
  rw [headerLen] at hlen
  refine Within.uint32At le_rfl (by omega) (Within.guard fun hlow => Within.guard fun hhigh => ?_)
  refine Within.uint64At le_rfl (by omega) (Within.uint64At le_rfl (by omega) ?_)
  refine Within.index (by omega) (Within.index (by omega) ?_)
  refine Within.index (by omega) (Within.index (by omega) (Within.uint32At le_rfl (by omega) ?_))
  refine Within.guard fun _ => Within.guard fun _ => Within.range (by omega) (by omega) ?_
  refine within_pure ?_
  rw [length_slice]
  omega

theorem within_parseSkfHeader (b : Bytes) :
    Within (fun _ => 0) 0 (parseSkfHeader b) (Wire.parseSkfHeader b) := by
  refine Within.guard fun hlen => ?_
  rw [skfHeaderLen] at hlen
  refine Within.uint16At le_rfl (by omega) (Within.uint16At le_rfl (by omega) (Within.guard fun _ => ?_))
  exact Within.rangeFrom (by rw [skfHeaderLen]; omega) (within_pure le_rfl)

theorem within_parseEnvelope (t payloadNext : PayloadType) (body : Bytes) :
    Within (fun _ => 0) 0 (parseEnvelope t payloadNext body) (Wire.parseEnvelope t payloadNext body) := by
  refine Within.ite (fun _ => ?_) fun _ => within_pure le_rfl
  exact (within_parseSkfHeader body).bind fun _ _ => within_pure le_rfl

theorem within_parseChain (stop : Bool) : ∀ (fuel : ℕ) (rest : Bytes) (type : PayloadType),
    rest.length < fuel →
    Within (fun _ => 0) (rest.length + 1) (parseChain stop fuel rest type)
      (Wire.parseChain stop fuel rest type)
  | 0, _, _, hf => absurd hf (Nat.not_lt_zero _)
  | fuel + 1, rest, type, hf => by
    refine Within.ite (fun _ => Within.guard fun _ => within_pure (Nat.zero_le _)) fun _ => ?_
    refine Within.iteration (Within.guard fun hlen => ?_)
    rw [payloadHeaderLen] at hlen
    refine Within.index (by omega) (Within.index (by omega) (Within.uint16At le_rfl (by omega) ?_))
    refine Within.guard fun hlow => Within.guard fun hhigh => ?_
    refine Within.range (by omega) (by omega) (Within.ite (fun _ => ?_) fun _ => ?_)
    · refine Within.guard fun _ => Within.guard fun _ => ?_
      exact ((within_parseEnvelope _ _ _).mono (Nat.zero_le _)).bind fun _ _ => within_pure le_rfl
    · rw [payloadHeaderLen] at hlow
      refine Within.rangeFrom (by omega) ?_
      have htail : (rest.drop (beUint16 (slice rest 2 4)).toNat).length + 1 ≤ rest.length := by
        rw [List.length_drop]
        omega
      refine Within.bind (Within.next (by omega) ?_) fun _ _ => within_pure le_rfl
      exact (within_parseChain stop fuel _ _ (by omega)).mono htail

/-- **The message parser stays in bounds.** -/
theorem within_parseMessage (b : Bytes) :
    Within (fun _ => 0) b.length (parseMessage b) (Wire.parseMessage b) := by
  refine (within_parseHeader b).bind fun ⟨hdr, rest⟩ _ => ?_
  have hpay : rest.length + 1 ≤ headerLen + rest.length := by rw [headerLen]; omega
  exact ((within_parseChain true _ rest hdr.nextPayload (Nat.lt_succ_self _)).mono hpay).bind fun _ _ =>
    within_pure le_rfl

end Swan.Wire.Checked
