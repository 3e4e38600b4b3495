import Swan.Control.State

/-! # Protected messages

Sealing a plaintext chain of payloads into SK packets or SKF fragments, and opening them again. The
two directions share the key halves by role. The walk to the encrypted payload (`findEncrypted`),
its authentication and decryption (`openEncryptedBody`) and the reassembly of fragments
(`collectSKFragment`) are separate definitions; `openProtectedRawState` runs them in this order, and
writes to the state only in the last. -/

namespace Swan.Control

open Swan.Lib Swan.Wire Swan.Xcrypto

/-! ### Plaintext chains -/

/-- One payload of a plaintext chain. -/
structure CesPayloadPart where
  typ : PayloadType
  body : Bytes
  deriving DecidableEq, Repr

def firstType : List CesPayloadPart → PayloadType
  | [] => PayloadType.none
  | p :: _ => p.typ

/-- The parts behind their generic headers, each announcing the next one. -/
def cesBuildChain : List CesPayloadPart → Bytes
  | [] => []
  | p :: ps => payloadHeader (firstType ps) false (4 + p.body.length) ++ (p.body ++ cesBuildChain ps)

/-- The plaintext of one payload; its type travels in the SK payload header. -/
def cepSinglePayload (body : Bytes) : Bytes :=
  payloadHeader PayloadType.none false (4 + body.length) ++ body

def chainPayloads : List CesPayloadPart → List Payload
  | [] => []
  | p :: ps => { type := p.typ, critical := false, next := firstType ps, body := p.body } ::
      chainPayloads ps

/-- A part that a chain can carry: its type is not that of an encrypted payload nor the sentinel of
the reassembly, and its body fits the length field. -/
structure CesPayloadPart.Fits (p : CesPayloadPart) : Prop where
  typ_ne_none : p.typ ≠ PayloadType.none
  typ_not_encrypted : ¬IsEncrypted p.typ
  typ_ne_unset : p.typ ≠ 0xff
  body_length : p.body.length ≤ 65531

theorem firstType_ne_unset {parts : List CesPayloadPart} (h : ∀ p ∈ parts, p.Fits) :
    firstType parts ≠ 0xff := by
  cases parts with
  | nil => decide
  | cons p ps => exact (h p List.mem_cons_self).typ_ne_unset

theorem cesBuildChain_eq_chainBytes : ∀ parts, cesBuildChain parts = chainBytes (chainPayloads parts)
  | [] => rfl
  | p :: ps => by rw [cesBuildChain, cesBuildChain_eq_chainBytes ps]; rfl

theorem linkedFrom_chainPayloads : ∀ {parts : List CesPayloadPart}, (∀ p ∈ parts, p.Fits) →
    LinkedFrom (firstType parts) (chainPayloads parts)
  | [], _ => rfl
  | p :: ps, h => by
    have hp := h p (by simp)
    have hl := hp.body_length
    refine ⟨rfl, hp.typ_ne_none, hp.typ_not_encrypted, ?_, linkedFrom_chainPayloads fun q hq =>
      h q (by simp [hq])⟩
    change 4 + p.body.length ≤ 0xffff
    omega

theorem parsePayloads_cesBuildChain {parts : List CesPayloadPart} (h : ∀ p ∈ parts, p.Fits) :
    parsePayloads (cesBuildChain parts) (firstType parts) false
      = .ok (chainPayloads parts, none) := by
  rw [cesBuildChain_eq_chainBytes]
  exact parsePayloads_chainBytes false _ _ (linkedFrom_chainPayloads h)

/-! ### Envelopes -/

def defaultFragmentPlaintextLimit : ℕ := 1024
def defaultSkfReassemblyTimeout : Duration := 15 * second

/-- Stands for the first inner payload type before fragment 1 has arrived. -/
def skfFirstPayloadUnset : PayloadType := 0xff

/-- The crypto context of one IKE SA. -/
structure IkeEnvelope where
  initiatorSPI : UInt64
  responderSPI : UInt64
  isOriginalInitiator : Bool
  selectedIKE : Option Selection
  ikeKeys : Option IKEKeys
  peer : PeerCapabilities
  deriving DecidableEq, Repr

def stateIKEEnvelope (state : State) : IkeEnvelope where
  initiatorSPI := state.initiatorSPI
  responderSPI := state.responderSPI
  isOriginalInitiator := state.isOriginalInitiator
  selectedIKE := state.selectedIKE
  ikeKeys := state.ikeKeys
  peer := state.peer

def oldIKEEnvelope (ctx : OldIKEContext) : IkeEnvelope where
  initiatorSPI := ctx.initiatorSPI
  responderSPI := ctx.responderSPI
  isOriginalInitiator := ctx.isOriginalInitiator
  selectedIKE := ctx.selectedIKE
  ikeKeys := ctx.ikeKeys
  peer := ⟨false, false, false⟩

def requestFlags (env : IkeEnvelope) : Flags :=
  if env.isOriginalInitiator then flagInitiator else 0

def responseFlags (env : IkeEnvelope) : Flags := flagResponse ||| requestFlags env

/-- The encryption and integrity keys for what the peer sends. -/
def inboundKeyHalves (isOriginalInitiator : Bool) (keys : IKEKeys) : Bytes × Bytes :=
  if isOriginalInitiator then (keys.sker, keys.skar) else (keys.skei, keys.skai)

/-- The encryption and integrity keys for what we send. -/
def outboundKeyHalves (isOriginalInitiator : Bool) (keys : IKEKeys) : Bytes × Bytes :=
  if isOriginalInitiator then (keys.skei, keys.skai) else (keys.sker, keys.skar)

/-! ### Padding -/

/-- The number of pad bytes in front of the pad length byte for a plaintext of length `n`. -/
def padLen (enc : EncryptionAlg) (n : ℕ) : ℕ :=
  let block := if enc.blockLen < 1 then 1 else enc.blockLen
  (block - (n + 1) % block) % block

/-- Append the pad bytes 1, 2, … and the pad length, up to a multiple of the padding block. -/
def padIKEPlaintext (enc : EncryptionAlg) (plain : Bytes) : Bytes :=
  let n := padLen enc plain.length
  plain ++ (List.range n).map (fun i => UInt8.ofNat (i + 1)) ++ [UInt8.ofNat n]

def stripIKEPlaintext (plain : Bytes) : Except Err Bytes :=
  if plain.length = 0 then .error (.errorf "control: empty protected plaintext")
  else
    let padLen := (plain.getD (plain.length - 1) 0).toNat
    if padLen ≥ plain.length then
      .error (.errorf s!"control: invalid protected padding length {padLen}")
    else .ok (plain.take (plain.length - 1 - padLen))

theorem padLen_lt (enc : EncryptionAlg) (n : ℕ) : padLen enc n < 16 := by
  rw [padLen, enc.blockLen_eq]
  cases enc.aead <;> simp <;> omega

theorem stripIKEPlaintext_padIKEPlaintext (enc : EncryptionAlg) (plain : Bytes) :
    stripIKEPlaintext (padIKEPlaintext enc plain) = .ok plain := by
  have hlt := padLen_lt enc plain.length
  rw [padIKEPlaintext]
  generalize padLen enc plain.length = n at hlt
  have hpad : (plain ++ (List.range n).map fun i => UInt8.ofNat (i + 1)).length
      = plain.length + n := by
    simp
  have hbyte : (UInt8.ofNat n).toNat = n := Nat.mod_eq_of_lt (by omega)
  rw [stripIKEPlaintext, List.length_append, hpad, List.length_singleton, if_neg (by omega),
    Nat.add_sub_cancel, List.getD_eq_getElem?_getD, ← hpad, List.getElem?_concat_length,
    Option.getD_some, hbyte, hpad]
  simp only [Nat.add_sub_cancel]
  rw [if_neg (by omega), List.append_assoc, List.take_left' rfl]

variable [Crypto]

/-! ### Sealing -/

def errSkfNumbers (f : SkfHeader) : Err :=
  .errorf s!"control: invalid SKF fragment numbers {f.fragmentNumber}/{f.totalFragments}"

def fragBytes : Option SkfHeader → Bytes
  | some f => f.bytes
  | none => []

def protectedHeader (env : IkeEnvelope) (exchange : ExchangeType) (msgID : UInt32)
    (encType : PayloadType) (flags : Flags) (packetLen : ℕ) : Header where
  initiatorSPI := env.initiatorSPI
  responderSPI := env.responderSPI
  nextPayload := encType
  version := ikeDefaultVersion
  exchangeType := exchange
  flags := flags
  messageID := msgID
  length := UInt32.ofNat packetLen

/-- The bytes of a protected packet before the IV, with both length fields filled in. -/
def protectedPrefix (env : IkeEnvelope) (exchange : ExchangeType) (msgID : UInt32)
    (innerNext encType : PayloadType) (frag : Option SkfHeader) (flags : Flags)
    (packetLen payloadLen : ℕ) : Bytes :=
  (protectedHeader env exchange msgID encType flags packetLen).marshalTo [] ++
    (payloadHeader innerNext false payloadLen ++ fragBytes frag)

/-- The length of the encrypted payload around a chunk of plaintext: its header, the fragment
header, the IV, the sealed text and the outer ICV. -/
def protectedPayloadLen (sel : Selection) (frag : Option SkfHeader) (plaintext : Bytes) : ℕ :=
  let enc := sel.encryption
  let sealedLen := (padIKEPlaintext enc plaintext).length + if enc.aead then enc.icvLen else 0
  let outerICVLen := if enc.aead then 0 else sel.integrity.outputLen
  payloadHeaderLen + (fragBytes frag).length + enc.ivLen + sealedLen + outerICVLen

/-- The bytes behind the prefix `pkt`: the IV, the sealed text and, without AEAD, the ICV over all
bytes before it. -/
def sealBody (sel : Selection) (encKey integKey pkt iv padded : Bytes) : Except Err Bytes := do
  let enc := sel.encryption
  let aad := if enc.aead then pkt else []
  let body ← wrap "control: encrypt protected payload: " (enc.seal' encKey iv aad padded)
  if enc.aead then .ok (iv ++ body)
  else do
    let icv ← wrap "control: sign IKE packet: "
      (sel.integrity.sign integKey (pkt ++ (iv ++ body)))
    .ok (iv ++ (body ++ icv))

/-- One complete SK or SKF packet around one chunk of plaintext. -/
def sealProtectedEnvelope (env : IkeEnvelope) (sel : Selection) (keys : IKEKeys)
    (exchange : ExchangeType) (msgID : UInt32) (innerNext encType : PayloadType)
    (frag : Option SkfHeader) (plaintext : Bytes) (flags : Flags) : Eff Rng Frame :=
  let enc := sel.encryption
  match frag.filter fun f => f.Invalid with
  | some f => Eff.fail (errSkfNumbers f)
  | none =>
  if enc.ivLen = 0 then Eff.fail (.errorf s!"control: invalid IKE cipher IV length {enc.ivLen}") else
  if !enc.aead ∧ sel.integrity.keyLen = 0 then
    Eff.fail (.errorf "control: non-AEAD IKE cipher has no integrity transform") else
  let payloadLen := protectedPayloadLen sel frag plaintext
  let packetLen := headerLen + payloadLen
  if payloadLen > 0xffff then
    Eff.fail (.errorf s!"control: protected payload too long: {payloadLen}") else
  if packetLen > 0xffffffff then
    Eff.fail (.errorf s!"control: protected packet too long: {packetLen}") else do
  -- the lengths are final before sealing, so the tag and the ICV cover them
  let pkt := protectedPrefix env exchange msgID innerNext encType frag flags packetLen payloadLen
  match ← (fill enc.ivLen).attempt with
  | .error e => Eff.fail (.wrapf "control: generate IKE IV: " e)
  | .ok iv =>
  let (encKey, integKey) := outboundKeyHalves env.isOriginalInitiator keys
  let body ← Eff.lift (sealBody sel encKey integKey pkt iv (padIKEPlaintext enc plaintext))
  pure { kind := .ike, payload := pkt ++ body }

theorem drawn_sealProtectedEnvelope (env : IkeEnvelope) (sel : Selection) (keys : IKEKeys)
    (exchange : ExchangeType) (msgID : UInt32) (innerNext encType : PayloadType)
    (frag : Option SkfHeader) (plaintext : Bytes) (flags : Flags) :
    (sealProtectedEnvelope env sel keys exchange msgID innerNext encType frag plaintext
      flags).Within Rng.Drawn := by
  unfold sealProtectedEnvelope
  dsimp only
  split
  · exact Eff.within_fail _
  refine .ite (Eff.within_fail _) (.ite (Eff.within_fail _) (.ite (Eff.within_fail _)
    (.ite (Eff.within_fail _) ((drawn_fill _).attempt.bind fun r => ?_))))
  cases r with
  | ok iv => exact (Eff.within_lift _).bind fun _ => Eff.within_pure _
  | error e => exact Eff.within_fail _

def fragmentLimit (cfg : Option Config) : ℕ :=
  match cfg with
  | some c => if c.fragmentPlaintextLimit > 0 then c.fragmentPlaintextLimit
      else defaultFragmentPlaintextLimit
  | none => defaultFragmentPlaintextLimit

omit [Crypto] in
theorem fragmentLimit_pos (cfg : Option Config) : 0 < fragmentLimit cfg := by
  unfold fragmentLimit
  split
  · split_ifs with h
    · exact h
    · decide
  · decide

/-- The number of packets for a plaintext of length `n`. -/
def fragmentTotal (peer : PeerCapabilities) (limit n : ℕ) : ℕ :=
  if peer.supportsFragmentation ∧ n > limit then chunkCount limit n else 1

/-- The plaintext of the `i`-th of `total` packets. -/
def fragmentPart (limit total : ℕ) (plaintext : Bytes) (i : ℕ) : Bytes :=
  if total > 1 then chunk limit plaintext i else plaintext

/-- The fragment header of the `i`-th of `total` packets. -/
def fragmentHeader (total i : ℕ) : Option SkfHeader :=
  if total > 1 then some ⟨UInt16.ofNat (i + 1), UInt16.ofNat total⟩ else none

/-- The next-payload field of the `i`-th packet: only the first one names the inner chain. -/
def fragmentNext (nextPayload : PayloadType) (i : ℕ) : PayloadType :=
  if i = 0 then nextPayload else PayloadType.none

/-- The last `left` of the `total` packets. -/
def sealFragments (env : IkeEnvelope) (sel : Selection) (keys : IKEKeys) (exchange : ExchangeType)
    (msgID : UInt32) (nextPayload : PayloadType) (plaintext : Bytes) (flags : Flags)
    (limit total : ℕ) : ℕ → Eff Rng (List Frame)
  | 0 => pure []
  | left + 1 => do
    let i := total - (left + 1)
    let encType := if total > 1 then PayloadType.skf else PayloadType.sk
    let frame ← sealProtectedEnvelope env sel keys exchange msgID (fragmentNext nextPayload i)
      encType (fragmentHeader total i) (fragmentPart limit total plaintext i) flags
    let frames ← sealFragments env sel keys exchange msgID nextPayload plaintext flags limit total
      left
    pure (frame :: frames)

/-- The packets of one protected message on an IKE SA. -/
def buildProtectedEnvelopeAs (cfg : Option Config) (env : IkeEnvelope) (exchange : ExchangeType)
    (msgID : UInt32) (nextPayload : PayloadType) (plaintext : Bytes) (flags : Flags) :
    Eff Rng (List Frame) :=
  match env.selectedIKE, env.ikeKeys with
  | some sel, some keys =>
    if env.initiatorSPI = 0 then
      Eff.fail (.errorf "control: initiator SPI missing for protected build") else
    let limit := fragmentLimit cfg
    let total := fragmentTotal env.peer limit plaintext.length
    if total > 0xffff then
      Eff.fail (.errorf s!"control: too many protected fragments: {total}")
    else sealFragments env sel keys exchange msgID nextPayload plaintext flags limit total total
  | _, _ => Eff.fail (.errorf "control: IKE cipher state missing for protected build")

theorem drawn_sealFragments (env : IkeEnvelope) (sel : Selection) (keys : IKEKeys)
    (exchange : ExchangeType) (msgID : UInt32) (nextPayload : PayloadType) (plaintext : Bytes)
    (flags : Flags) (limit total : ℕ) : ∀ left, (sealFragments env sel keys exchange msgID
      nextPayload plaintext flags limit total left).Within Rng.Drawn
  | 0 => Eff.within_pure _
  | left + 1 => (drawn_sealProtectedEnvelope _ _ _ _ _ _ _ _ _ _).bind fun _ =>
      (drawn_sealFragments env sel keys exchange msgID nextPayload plaintext flags limit total
        left).bind fun _ => Eff.within_pure _

theorem drawn_buildProtectedEnvelopeAs (cfg : Option Config) (env : IkeEnvelope)
    (exchange : ExchangeType) (msgID : UInt32) (nextPayload : PayloadType) (plaintext : Bytes)
    (flags : Flags) : (buildProtectedEnvelopeAs cfg env exchange msgID nextPayload plaintext
      flags).Within Rng.Drawn := by
  unfold buildProtectedEnvelopeAs
  split
  · exact .ite (Eff.within_fail _) (.ite (Eff.within_fail _) (drawn_sealFragments _ _ _ _ _ _ _ _ _ _ _))
  · exact Eff.within_fail _

/-- The packets of one protected message on the active IKE SA. -/
def buildProtectedStateAs (cfg : Option Config) (state : State) (exchange : ExchangeType)
    (msgID : UInt32) (nextPayload : PayloadType) (plaintext : Bytes) (flags : Flags) :
    Eff Rng (List Frame) :=
  buildProtectedEnvelopeAs cfg (stateIKEEnvelope state) exchange msgID nextPayload plaintext flags

/-- Short messages can be sealed while the random source works. -/
def IkeEnvelope.CanSeal (cfg : Option Config) (env : IkeEnvelope) : Prop :=
  ∀ rng : Rng, rng.Healthy → ∀ exchange msgID nextPayload plaintext flags,
    plaintext.length ≤ 64 → ∃ frames rng', (buildProtectedEnvelopeAs cfg env exchange msgID
      nextPayload plaintext flags).run rng = (.ok frames, rng')

/-- Messages of up to `n` bytes can be sealed while the random source works. -/
def IkeEnvelope.SealsUpTo (n : ℕ) (cfg : Option Config) (env : IkeEnvelope) : Prop :=
  ∀ rng : Rng, rng.Healthy → ∀ exchange msgID nextPayload plaintext flags,
    plaintext.length ≤ n → ∃ frames rng', (buildProtectedEnvelopeAs cfg env exchange msgID
      nextPayload plaintext flags).run rng = (.ok frames, rng')

theorem ne_nil_of_buildProtectedEnvelopeAs {cfg : Option Config} {env : IkeEnvelope}
    {exchange : ExchangeType} {msgID : UInt32} {nextPayload : PayloadType} {plaintext : Bytes}
    {flags : Flags} {rng rng' : Rng} {frames : List Frame}
    (h : (buildProtectedEnvelopeAs cfg env exchange msgID nextPayload plaintext flags).run rng =
      (.ok frames, rng')) : frames ≠ [] := by
  unfold buildProtectedEnvelopeAs at h
  split at h
  · split_ifs at h
    · cases h
    simp only at h
    split_ifs at h
    · cases h
    obtain ⟨k, hk⟩ : ∃ k, fragmentTotal env.peer (fragmentLimit cfg) plaintext.length = k + 1 :=
      Nat.exists_eq_succ_of_ne_zero (by
        unfold fragmentTotal
        split_ifs with hfrag
        · exact (one_lt_chunkCount (fragmentLimit_pos cfg) hfrag.2).ne_bot
        · decide)
    rw [hk, sealFragments] at h
    obtain ⟨frame, rng₁, -, h⟩ := Eff.run_bind_ok h
    obtain ⟨frames', rng₂, -, h⟩ := Eff.run_bind_ok h
    cases h
    simp
  · cases h

/-- An encrypt-then-MAC suite that can seal: its IV fits a packet and its keys have their lengths. -/
structure IkeEnvelope.CbcKeyed (env : IkeEnvelope) (sel : Selection) (keys : IKEKeys) : Prop where
  selection : env.selectedIKE = some sel
  ikeKeys : env.ikeKeys = some keys
  spi : env.initiatorSPI ≠ 0
  unfragmented : env.peer.supportsFragmentation = false
  cbc : sel.encryption.aead = false
  ivLen : sel.encryption.ivLen = 16
  saltLen : sel.encryption.saltLen = 0
  hmac : sel.integrity.newHMAC.isSome
  outputLen : sel.integrity.outputLen ≤ 64
  encKey : (outboundKeyHalves env.isOriginalInitiator keys).1.length = sel.encryption.keyLen
  integKey : (outboundKeyHalves env.isOriginalInitiator keys).2.length = sel.integrity.keyLen

omit [Crypto] in
theorem length_padIKEPlaintext (enc : EncryptionAlg) (plain : Bytes) :
    (padIKEPlaintext enc plain).length = plain.length + padLen enc plain.length + 1 := by
  simp [padIKEPlaintext, Nat.add_assoc]

namespace IkeEnvelope.CbcKeyed

variable {env : IkeEnvelope} {sel : Selection} {keys : IKEKeys}

theorem sealBody (h : env.CbcKeyed sel keys) (pkt plaintext iv : Bytes)
    (hiv : iv.length = 16) : ∃ body, sealBody sel (outboundKeyHalves env.isOriginalInitiator keys).1
      (outboundKeyHalves env.isOriginalInitiator keys).2 pkt iv
      (padIKEPlaintext sel.encryption plaintext) = .ok body := by
  obtain ⟨hash, hhash⟩ := Option.isSome_iff_exists.mp h.hmac
  have hpad : (padIKEPlaintext sel.encryption plaintext).length % 16 = 0 := by
    rw [length_padIKEPlaintext, padLen, sel.encryption.blockLen_eq, h.cbc]
    simp only [Bool.false_eq_true, if_false]
    rw [if_neg (by decide)]
    omega
  have hkey := sel.encryption.transformKeyLen_aes
  have hlen := h.encKey
  have heq := sel.encryption.keyLen_eq
  rw [h.saltLen] at heq
  have hcipher : newCipher (outboundKeyHalves env.isOriginalInitiator keys).1 =
      .ok (Crypto.aes (outboundKeyHalves env.isOriginalInitiator keys).1) := by
    unfold newCipher
    rw [if_pos (by omega)]
  simp [Control.sealBody, EncryptionAlg.seal', EncryptionAlg.checkKeyIV, Integrity.sign, cbcSeal,
    h.cbc, h.encKey, h.integKey, hiv, h.ivLen, hpad, hcipher, hhash, wrap]

theorem sealProtectedEnvelope (h : env.CbcKeyed sel keys) {rng : Rng} (hrng : rng.Healthy)
    (exchange : ExchangeType) (msgID : UInt32) (innerNext encType : PayloadType) {plaintext : Bytes}
    (flags : Flags) (hplain : plaintext.length ≤ 60000) : ∃ frame rng',
      (sealProtectedEnvelope env sel keys exchange msgID innerNext encType none plaintext flags).run
        rng = (.ok frame, rng') := by
  obtain ⟨bytes, hbytes⟩ := Option.isSome_iff_exists.mp (hrng 0)
  have hlen : protectedPayloadLen sel none plaintext ≤ 65000 := by
    have h1 := padLen_lt sel.encryption plaintext.length
    have h2 := h.outputLen
    simp only [protectedPayloadLen, length_padIKEPlaintext, h.cbc, h.ivLen, fragBytes,
      payloadHeaderLen]
    simp
    omega
  have hfill : (fill sel.encryption.ivLen).attempt.run rng =
      (.ok (.ok ((List.range 16).map bytes)), fun k => rng (k + 1)) := by
    rw [Eff.run_attempt, h.ivLen]
    simp [fill, Eff.run, hbytes]
    rfl
  have hiv : sel.encryption.ivLen ≠ 0 := by rw [h.ivLen]; decide
  have hinteg : sel.integrity.keyLen ≠ 0 := by
    obtain ⟨hash, hhash⟩ := Option.isSome_iff_exists.mp h.hmac
    rw [sel.integrity.keyLen_eq, hhash]
    cases hash <;> decide
  obtain ⟨body, hbody⟩ := h.sealBody (protectedPrefix env exchange msgID innerNext encType none flags
    (headerLen + protectedPayloadLen sel none plaintext) (protectedPayloadLen sel none plaintext))
    plaintext ((List.range 16).map bytes) (by simp)
  unfold Control.sealProtectedEnvelope
  rw [Option.filter_none]
  dsimp only
  rw [if_neg hiv, if_neg (by simp [hinteg]), if_neg (by omega),
    if_neg (by simp only [headerLen]; omega), Eff.run_bind_of_ok hfill]
  dsimp only
  rw [hbody]
  exact ⟨_, _, rfl⟩

theorem sealsUpTo (h : env.CbcKeyed sel keys) {n : ℕ} (hn : n ≤ 60000) (cfg : Option Config) :
    env.SealsUpTo n cfg := by
  intro rng hrng exchange msgID nextPayload plaintext flags hplain
  obtain ⟨frame, rng', hseal⟩ := h.sealProtectedEnvelope hrng exchange msgID
    (fragmentNext nextPayload 0) PayloadType.sk flags (hplain.trans hn)
  have htotal : fragmentTotal env.peer (fragmentLimit cfg) plaintext.length = 1 :=
    if_neg (by simp [h.unfragmented])
  refine ⟨[frame], rng', ?_⟩
  rw [buildProtectedEnvelopeAs, h.selection, h.ikeKeys]
  dsimp only
  rw [if_neg h.spi, htotal, if_neg (by decide), sealFragments]
  exact (Eff.run_bind_of_ok hseal).trans rfl

theorem canSeal (h : env.CbcKeyed sel keys) (cfg : Option Config) : env.CanSeal cfg :=
  h.sealsUpTo (by decide) cfg

end IkeEnvelope.CbcKeyed

omit [Crypto] in
theorem IkeEnvelope.cbcKeyed_iff {env : IkeEnvelope} {sel : Selection} {keys : IKEKeys} :
    env.CbcKeyed sel keys ↔ env.selectedIKE = some sel ∧ env.ikeKeys = some keys ∧
      (env.initiatorSPI ≠ 0 ∧ env.peer.supportsFragmentation = false ∧ sel.encryption.aead = false ∧
        sel.encryption.ivLen = 16 ∧ sel.encryption.saltLen = 0 ∧
        sel.integrity.newHMAC.isSome ∧ sel.integrity.outputLen ≤ 64 ∧
        (outboundKeyHalves env.isOriginalInitiator keys).1.length = sel.encryption.keyLen ∧
        (outboundKeyHalves env.isOriginalInitiator keys).2.length = sel.integrity.keyLen) :=
  ⟨fun ⟨h₁, h₂, h₃, h₄, h₅, h₆, h₇, h₈, h₉, h₁₀, h₁₁⟩ =>
      ⟨h₁, h₂, h₃, h₄, h₅, h₆, h₇, h₈, h₉, h₁₀, h₁₁⟩,
    fun ⟨h₁, h₂, h₃, h₄, h₅, h₆, h₇, h₈, h₉, h₁₀, h₁₁⟩ =>
      ⟨h₁, h₂, h₃, h₄, h₅, h₆, h₇, h₈, h₉, h₁₀, h₁₁⟩⟩

instance (env : IkeEnvelope) (sel : Selection) (keys : IKEKeys) :
    Decidable (env.CbcKeyed sel keys) := decidable_of_iff' _ IkeEnvelope.cbcKeyed_iff

/-- The packets of one protected request on the active IKE SA. -/
def buildProtectedState (cfg : Option Config) (state : State) (exchange : ExchangeType)
    (msgID : UInt32) (nextPayload : PayloadType) (plaintext : Bytes) : Eff Rng (List Frame) :=
  buildProtectedStateAs cfg state exchange msgID nextPayload plaintext
    (requestFlags (stateIKEEnvelope state))

/-! ### Opening -/

/-- Authenticate and decrypt the body of an encrypted payload. -/
def openEncryptedBody (sel : Selection) (encKey icvKey aad body : Bytes) : Except Err Bytes :=
  let enc := sel.encryption
  let integ := sel.integrity
  if body.length < enc.ivLen then .error (.errorf "control: protected body shorter than IV")
  else
    let iv := body.take enc.ivLen
    let rest := body.drop enc.ivLen
    if enc.aead then do
      let plain ← wrap "control: AEAD protected open failed: " (enc.open' encKey iv aad rest)
      stripIKEPlaintext plain
    else if integ.keyLen = 0 then
      .error (.errorf "control: non-AEAD IKE cipher has no integrity transform")
    else if rest.length < integ.outputLen then
      .error (.errorf "control: protected body shorter than ICV")
    else
      let ct := rest.take (rest.length - integ.outputLen)
      let icv := rest.drop (rest.length - integ.outputLen)
      if !integ.verify icvKey (aad ++ (iv ++ ct)) icv then
        .error (.errorf "control: IKE integrity check failed")
      else do
        let plain ← wrap "control: IKE CBC protected open failed: " (enc.open' encKey iv [] ct)
        stripIKEPlaintext plain

/-- Where the encrypted payload of a packet is, from the first byte of the packet. -/
structure EncLocation where
  encType : PayloadType
  innerNext : PayloadType
  payloadStart : ℕ
  payloadEnd : ℕ
  deriving DecidableEq, Repr

/-- The rounds of the walk over the outer chain `rest` to its encrypted payload. -/
def findEncrypted (rest : Bytes) : ℕ → PayloadType → ℕ → Except Err EncLocation
  | 0, _, _ => .error (.errorf "control: protected packet payload header truncated")
  | fuel + 1, next, off =>
    if next = PayloadType.none then
      .error (.errorf "control: protected packet has no encrypted payload")
    else if rest.length - off < payloadHeaderLen then
      .error (.errorf "control: protected packet payload header truncated")
    else
      let length := (beUint16 (slice rest (off + 2) (off + 4))).toNat
      if length < payloadHeaderLen ∨ off + length > rest.length then
        .error (.errorf "control: protected packet payload length out of bounds")
      else
        let innerNext := rest.getD off 0
        if IsEncrypted next then
          if off + length ≠ rest.length then
            .error (.errorf "control: encrypted payload must terminate the outer chain")
          else
            .ok { encType := next, innerNext, payloadStart := headerLen + off
                  payloadEnd := headerLen + off + length }
        else findEncrypted rest fuel innerNext (off + length)

/-- Store one fragment; the joined plaintext once no fragment is missing. -/
def storeFragment (slot : ℕ) (plain : Bytes) (existing : FragmentReassembly) :
    Eff (Option FragmentReassembly) (Option Bytes) :=
  let fragments := existing.fragments.put slot plain
  match fragments.collected with
  | none => do
    Eff.modify fun _ => some { existing with fragments }
    pure none
  | some parts => do
    Eff.modify fun _ => none
    pure (some parts.flatten)

def addFragment (enc : EncryptedPayload) (plain : Bytes) (existing : FragmentReassembly) :
    Eff (Option FragmentReassembly) (Option Bytes) := do
  Eff.modify fun _ => some existing
  let slot := enc.frag.fragmentNumber.toNat - 1
  -- a fragment of a smaller set is ignored
  if enc.frag.totalFragments.toNat < existing.fragments.length then pure none
  else if enc.frag.fragmentNumber = 1 then
    if existing.firstInnerPayload = skfFirstPayloadUnset then
      storeFragment slot plain { existing with firstInnerPayload := enc.innerNext }
    else if existing.firstInnerPayload ≠ enc.innerNext then
      Eff.fail (.errorf "control: SKF first-fragment payload mismatch")
    else storeFragment slot plain existing
  else if enc.innerNext ≠ PayloadType.none then
    Eff.fail (.errorf "control: non-initial SKF fragment must not carry next-payload")
  else storeFragment slot plain existing

/-- Collect a fragment: all fragments of a set belong to one exchange and message id, a larger
number of fragments starts over, and a set expires. -/
def collectSKFragment (enc : EncryptedPayload) (plain : Bytes) (msgID : UInt32)
    (exchange : ExchangeType) (timeout : Duration) (now : Time) :
    Eff (Option FragmentReassembly) (Option Bytes) :=
  if enc.type ≠ PayloadType.skf ∨ enc.fragmented = false then
    Eff.fail (.errorf "control: collectFragment requires an SKF envelope") else
  if enc.frag.Invalid then Eff.fail (errSkfNumbers enc.frag) else do
  let fresh : FragmentReassembly :=
    { exchangeType := exchange
      messageID := msgID
      firstInnerPayload := skfFirstPayloadUnset
      fragments := Table.empty enc.frag.totalFragments.toNat
      expiresAt := now + timeout }
  Eff.modify fun stored => stored.filter fun existing => ¬existing.expiresAt < now
  match ← Eff.get with
  | none => addFragment enc plain fresh
  | some existing =>
    if existing.exchangeType ≠ exchange then Eff.fail (.errorf "control: SKF exchange mismatch")
    else if existing.messageID ≠ msgID then Eff.fail (.errorf "control: SKF message-id mismatch")
    else if enc.frag.totalFragments.toNat > existing.fragments.length then
      addFragment enc plain fresh
    else addFragment enc plain { existing with expiresAt := now + timeout }

def skfTimeout (cfg : Option Config) : Duration :=
  match cfg with
  | some c => if c.timeouts.skfReassemblyTimeout > 0 then c.timeouts.skfReassemblyTimeout
      else defaultSkfReassemblyTimeout
  | none => defaultSkfReassemblyTimeout

/-- The fragment header at `bodyStart`, and where the body starts behind it. -/
def locateBody (raw : Bytes) (loc : EncLocation) : Except Err (Option SkfHeader × ℕ) :=
  let bodyStart := loc.payloadStart + payloadHeaderLen
  if loc.encType = PayloadType.skf then
    if bodyStart + skfHeaderLen > loc.payloadEnd then
      .error (.errorf "control: truncated SKF fragment header")
    else do
      let (frag, _) ← parseSkfHeader (slice raw bodyStart (bodyStart + skfHeaderLen))
      .ok (some frag, bodyStart + skfHeaderLen)
  else .ok (none, bodyStart)

/-- Run a computation on the stored fragments of a state. -/
def onFragments {α : Type} (x : Eff (Option FragmentReassembly) α) : Eff State α :=
  x.zoom State.inboundFragments State.withFragments

/-- What a packet says before any state is written: its header, its encrypted payload and, once that
is authenticated, its plaintext. -/
structure Opened where
  header : Header
  innerNext : PayloadType
  frag : Option SkfHeader
  body : Bytes
  plain : Bytes

/-- Find, authenticate and decrypt the encrypted payload of a packet. -/
def openRaw (isOriginalInitiator : Bool) (sel : Selection) (keys : IKEKeys) (raw : Bytes) :
    Except Err Opened := do
  let (hdr, rest) ← parseHeader raw
  let loc ← findEncrypted rest (rest.length + 1) hdr.nextPayload 0
  let (frag, ivStart) ← locateBody raw loc
  let (encKey, integKey) := inboundKeyHalves isOriginalInitiator keys
  let body := slice raw ivStart loc.payloadEnd
  let plain ← openEncryptedBody sel encKey integKey (raw.take ivStart) body
  .ok { header := hdr, innerNext := loc.innerNext, frag, body, plain }

/-- The inner payload type that the stored fragments know. -/
def fragFirst : Option FragmentReassembly → PayloadType
  | some f => f.firstInnerPayload
  | none => skfFirstPayloadUnset

/-- The inner payloads of an opened packet, or `none` while fragments are missing. -/
def finishOpened (cfg : Option Config) (now : Time) (o : Opened) :
    Eff State (Option (List Payload)) := do
  let state ← Eff.get
  match o.frag with
  | none =>
    let (payloads, _) ← Eff.lift (parsePayloads o.plain o.innerNext false)
    pure (some payloads)
  | some frag =>
    let first := fragFirst state.inboundFragments
    let envelope : EncryptedPayload :=
      { type := PayloadType.skf, innerNext := o.innerNext, fragmented := true, frag
        body := o.body }
    match ← onFragments (collectSKFragment envelope o.plain o.header.messageID
        o.header.exchangeType (skfTimeout cfg) now) with
    | none => pure none
    | some joined =>
      let innerNext := if first ≠ skfFirstPayloadUnset then first else o.innerNext
      let (payloads, _) ← Eff.lift (parsePayloads joined innerNext false)
      pure (some payloads)

/-- Open one packet: its inner payloads, or `none` while fragments are missing. -/
def openProtectedRawState (cfg : Option Config) (now : Time) (raw : Bytes) :
    Eff State (Option (List Payload)) := do
  let state ← Eff.get
  match state.selectedIKE, state.ikeKeys with
  | some sel, some keys =>
    let o ← Eff.lift (openRaw state.isOriginalInitiator sel keys raw)
    finishOpened cfg now o
  | _, _ => Eff.fail (.errorf "control: IKE cipher state missing for protected open")

theorem run_openProtectedRawState {cfg : Option Config} {now : Time} {raw : Bytes} {s : State}
    {sel : Selection} {keys : IKEKeys} {o : Opened} (hsel : s.selectedIKE = some sel)
    (hkeys : s.ikeKeys = some keys) (hopen : openRaw s.isOriginalInitiator sel keys raw = .ok o) :
    (openProtectedRawState cfg now raw).run s = (finishOpened cfg now o).run s := by
  rw [openProtectedRawState, Eff.run_bind_of_ok (Eff.run_get s), hsel, hkeys]
  exact Eff.run_bind_of_ok (by rw [hopen]; exact Eff.run_lift _ _)

/-- Two states that differ in their stored fragments only. -/
def OnlyFragments (s s' : State) : Prop := s' = s.withFragments s'.inboundFragments

instance : Std.Refl OnlyFragments := ⟨fun _ => rfl⟩

instance : IsTrans State OnlyFragments := ⟨fun s s' s'' h₁ h₂ => by
  rw [OnlyFragments, h₂, h₁]; rfl⟩

omit [Crypto] in
theorem within_onFragments {α : Type} (x : Eff (Option FragmentReassembly) α) :
    (onFragments x).Within OnlyFragments := fun _ => rfl

theorem within_openProtectedRawState (cfg : Option Config) (now : Time) (raw : Bytes) :
    (openProtectedRawState cfg now raw).Within OnlyFragments := by
  refine Eff.within_get.bind fun state => ?_
  split
  swap
  · exact Eff.within_fail _
  refine (Eff.within_lift _).bind fun o => Eff.within_get.bind fun state => ?_
  split
  · exact (Eff.within_lift _).bind fun _ => Eff.within_pure _
  refine (within_onFragments _).bind fun joined => ?_
  split
  · exact Eff.within_pure _
  · exact (Eff.within_lift _).bind fun _ => Eff.within_pure _

/-! ### Opening with a rebuilt prefix -/

/-- The bytes before the IV of a parsed message, rebuilt from its fields. -/
def rebuildPrefix (m : Message) : Except Err Bytes :=
  if ∃ p ∈ m.payloads, payloadHeaderLen + p.body.length > 0xffff then
    .error (.errorf "control: cannot rebuild AAD: payload too long")
  else
    match m.encrypted with
    | none => .error (.errorf "control: cannot rebuild AAD: no encrypted payload")
    | some enc =>
      let bodyLen := enc.body.length + if enc.fragmented then skfHeaderLen else 0
      if payloadHeaderLen + bodyLen > 0xffff then
        .error (.errorf "control: cannot rebuild AAD: encrypted payload too long")
      else
        .ok (m.header.marshalTo [] ++ chainBytes m.payloads ++
          payloadHeader enc.innerNext false (payloadHeaderLen + bodyLen) ++
          if enc.fragmented then enc.frag.bytes else [])

/-- Open a complete SK message with an explicit envelope. -/
def openProtectedMessageEnvelope (env : IkeEnvelope) (raw : Bytes) :
    Except Err (List Payload) := do
  let msg ← parseMessage raw
  match msg.encrypted with
  | none => .ok msg.payloads
  | some enc =>
    if enc.fragmented then .error (.errorf "control: fragmented old-SA IKE packet is unsupported")
    else do
      let aad ← rebuildPrefix msg
      match env.selectedIKE, env.ikeKeys with
      | some sel, some keys =>
        let (encKey, integKey) := inboundKeyHalves env.isOriginalInitiator keys
        let plain ← openEncryptedBody sel encKey integKey aad enc.body
        let (payloads, _) ← parsePayloads plain enc.innerNext false
        .ok payloads
      | _, _ => .error (.panicked "runtime error: invalid memory address or nil pointer dereference")

end Swan.Control
