import Swan.Control.Handshake.Exchange
import Swan.Control.Proposals
import Swan.Wire.Builder
import Swan.Xcrypto.Authenticator

/-! # The IKE_SA_INIT exchange

The request (`buildSAInitRequest`) and what the worker takes from a response
(`applySAInitResponse`): a response asks for another attempt, with a cookie or another group, or it is
complete and has the proposal, the nonce and the key exchange of the responder. The SPI and the nonce
of the initiator are the same in all attempts; the key pair is a new one in each. -/

namespace Swan.Control.Handshake

open Swan.Lib Swan.Wire Swan.Payload Swan.Xcrypto

def maxSAInitAttempts : ℕ := 3

/-- How a response was applied. -/
inductive SAInitOutcome where
  | established
  | retryCookie
  | retryDHGroup
  deriving DecidableEq, Repr

def signatureHashAlgorithmsNotify : Bytes := [0x00, 0x02, 0x00, 0x03, 0x00, 0x04]

def logicalNatTPort : UInt16 := 4500

def ipv4Zero : Bytes := v4InV6Prefix ++ [0, 0, 0, 0]

/-! ### NAT detection -/

section Nat

variable [Pki] (cfg : HandshakeConfig)

def localNATHashes (s : State) (responderSPI : UInt64) : Except Err (Bytes × Bytes) := do
  let localIP := if cfg.localIP = [] then ipv4Zero else cfg.localIP
  let src ← wrap "control: compute NAT-D source hash: "
    (natDetectionHash s.initiatorSPI responderSPI localIP logicalNatTPort)
  let dst ← wrap "control: compute NAT-D destination hash: "
    (natDetectionHash s.initiatorSPI responderSPI cfg.peerIP logicalNatTPort)
  .ok (src, dst)

/-- Whether a hash of the responder differs from ours; one that it did not send does not. -/
def natDetected (s : State) : Except Err Bool := do
  let (src, dst) ← localNATHashes cfg s s.responderSPI
  let srcMismatch := decide (s.nat.sourceHashRemote.length > 0 ∧ src ≠ s.nat.sourceHashRemote)
  let dstMismatch := decide (s.nat.destinationHashRemote.length > 0 ∧ dst ≠ s.nat.destinationHashRemote)
  .ok (srcMismatch || dstMismatch)

end Nat

/-! ### The request -/

/-- The local proposal of an attempt: the first one, or the first one with the group that the
responder asked for. -/
def selectIKESuite (cfg : Config) (forcedDHGroup : UInt16) :
    Except Err (Xcrypto.Proposal × Selection) :=
  match cfg.ike with
  | [] => .error (.errorf "control: IKE proposals are required")
  | first :: _ => do
    let suite ← if forcedDHGroup ≠ 0 then
        match cfg.ike.find? fun p => forcedDHGroup ∈ p.dh with
        | some p => .ok p
        | none => .error (.errorf s!"control: peer requested unsupported DH group {forcedDHGroup}")
      else .ok first
    let selection ← wrap "control: select IKE proposal: " (suite.select suite)
    .ok (suite, selection)

def pushNotifies : List (NotifyType × Bytes) → Builder → Except Err Builder
  | [], b => .ok b
  | (type, data) :: ns, b => do
    let body ← appendNotify ⟨notifyProtocolNone, [], type, data⟩
    let b ← b.push PayloadType.notify false body
    pushNotifies ns b

def saInitHeader (s : State) : Header where
  initiatorSPI := s.initiatorSPI
  responderSPI := 0
  nextPayload := PayloadType.none
  version := ikeDefaultVersion
  exchangeType := ExchangeType.ikeSAInit
  flags := flagInitiator
  messageID := 0
  length := 0

def buildSAInitPacket (cfg : Config) (s : State) : Except Err Bytes := do
  let b := newBuilder (saInitHeader s)
  let b ← if s.cookie.length > 0 then pushNotifies [(NotifyType.cookie, s.cookie)] b else .ok b
  let saBody ← appendIKEProposals cfg
  let b ← b.push PayloadType.sa false saBody
  let b ← b.push PayloadType.ke false (appendKE s.initiatorKE)
  let b ← b.push PayloadType.nonce false (appendNonce s.initiatorNonce)
  let b ← pushNotifies [(NotifyType.natDetectionSourceIP, s.nat.sourceHashLocal),
    (NotifyType.natDetectionDestinationIP, s.nat.destinationHashLocal),
    (NotifyType.fragmentationSupported, []),
    (NotifyType.signatureHashAlgorithms, signatureHashAlgorithmsNotify)] b
  .ok b.finish

section Request

variable [Crypto]

/-- Choose the SPI and the nonce of the initiator unless an earlier attempt did. -/
def chooseInitiator : Eff Handshake Unit := do
  let h ← Eff.get
  if h.state.initiatorSPI = 0 then do
    match ← (onRng generateSPI).attempt with
    | .error e => Eff.fail (.wrapf "control: generate initiator SPI: " e)
    | .ok v => modifyState fun s => { s with initiatorSPI := v }
  else pure ()
  if h.state.initiatorNonce.length = 0 then do
    match ← (onRng (generateNonce 32)).attempt with
    | .error e => Eff.fail (.wrapf "control: generate initiator nonce: " e)
    | .ok ni => modifyState fun s => { s with initiatorNonce := ni }
  else pure ()

/-- Generate the key pair of an attempt. -/
def chooseKE (selection : Selection) : Eff Handshake Unit :=
  match selection.dh with
  | none => Eff.fail nilDereference
  | some group => do
    match ← (onRng (generateDH group.transformID)).attempt with
    | .error e => Eff.fail (.wrapf "control: generate local KE: " e)
    | .ok dh => do
      let pub ← Eff.lift (wrap "control: encode local KE: " dh.publicBytes)
      modifyState fun s =>
        { s with localDH := some dh, initiatorKE := ⟨group.transformID, pub⟩ }

/-- The packet of an attempt; the group is 0 unless the responder asked for one. -/
def buildSAInitRequest [Pki] (cfg : HandshakeConfig) (forcedDHGroup : UInt16) :
    Eff Handshake (List Frame) := do
  let (_, selection) ← Eff.lift (selectIKESuite cfg.toConfig forcedDHGroup)
  modifyState fun s => { s with selectedIKE := some selection }
  chooseInitiator
  chooseKE selection
  let h ← Eff.get
  let (src, dst) ← Eff.lift (localNATHashes cfg h.state 0)
  modifyState fun s =>
    { s with nat := { s.nat with sourceHashLocal := src, destinationHashLocal := dst } }
  let h ← Eff.get
  let pkt ← Eff.lift (buildSAInitPacket cfg.toConfig h.state)
  modifyState fun s => { s with saInitRequest := pkt }
  pure [⟨.ike, pkt⟩]

end Request

/-! ### The response -/

/-- What the payloads of a response have said so far. -/
structure SAInitFields where
  sa : Option SA
  nonce : Option Bytes
  ke : Option KeyExchange
  cookie : Bytes
  hasInvalidKE : Bool
  deriving DecidableEq, Repr

def noFields : SAInitFields := ⟨none, none, none, [], false⟩

/-- The ids in a SIGNATURE_HASH_ALGORITHMS notify. -/
def beUint16s : Bytes → List UInt16
  | a :: b :: rest => beUint16 [a, b] :: beUint16s rest
  | _ => []

def parseSignatureHashAlgorithms (data : Bytes) : Except Err (List UInt16) :=
  if data.length = 0 ∨ data.length % 2 ≠ 0 then
    .error (.errorf "control: invalid SIGNATURE_HASH_ALGORITHMS notify data")
  else .ok (beUint16s data)

/-- Absorb a notify that must have protocol 0 and no SPI. -/
def unscoped (name : String) (n : Notify) (f : State → State) : Eff State Unit :=
  if n.protocolID ≠ notifyProtocolNone ∨ n.spi.length ≠ 0 then
    Eff.fail (.errorf s!"control: {name} must use protocol 0 and must not carry SPI")
  else Eff.modify f

def applySAInitNotify (n : Notify) (f : SAInitFields) : Eff State SAInitFields :=
  if n.type = NotifyType.cookie then
    if n.spi.length ≠ 0 ∨ n.data.length = 0 then
      Eff.fail (.errorf "control: COOKIE notify must not carry SPI and must carry data")
    else if f.cookie.length > 0 then Eff.fail (.errorf "control: duplicate COOKIE notify")
    else pure { f with cookie := n.data }
  else if n.type = NotifyType.invalidKePayload then
    if n.protocolID ≠ notifyProtocolNone ∨ n.spi.length ≠ 0 ∨ n.data.length ≠ 2 then
      Eff.fail (.errorf ("control: INVALID_KE_PAYLOAD notify must use protocol 0 and carry " ++
        "exactly one DH group"))
    else if f.hasInvalidKE then Eff.fail (.errorf "control: duplicate INVALID_KE_PAYLOAD notify")
    else pure { f with hasInvalidKE := true }
  else if n.type = NotifyType.natDetectionSourceIP then do
    unscoped "NAT_DETECTION_SOURCE_IP" n fun s =>
      { s with nat := { s.nat with sourceHashRemote := n.data } }
    pure f
  else if n.type = NotifyType.natDetectionDestinationIP then do
    unscoped "NAT_DETECTION_DESTINATION_IP" n fun s =>
      { s with nat := { s.nat with destinationHashRemote := n.data } }
    pure f
  else if n.type = NotifyType.fragmentationSupported then do
    unscoped "FRAGMENTATION_SUPPORTED" n fun s =>
      { s with peer := { s.peer with supportsFragmentation := true } }
    pure f
  else if n.type = NotifyType.signatureHashAlgorithms then do
    unscoped "SIGNATURE_HASH_ALGORITHMS" n id
    let hashes ← Eff.lift (parseSignatureHashAlgorithms n.data)
    Eff.modify fun s => { s with auth := { s.auth with peerSignatureHashAlgorithms := hashes } }
    pure f
  else if n.type = NotifyType.noProposalChosen then
    Eff.fail (.errorf "control: peer rejected IKE proposal (NO_PROPOSAL_CHOSEN)")
  else if n.type < 16384 then
    Eff.fail (.errorf s!"control: received IKE_SA_INIT error notify {n.type}")
  else pure f

def applySAInitPayload (p : Wire.Payload) (f : SAInitFields) : Eff State SAInitFields :=
  if p.type = PayloadType.sa then
    if f.sa.isSome then Eff.fail (.errorf "control: duplicate SA payload in IKE_SA_INIT response")
    else do
      let sa ← Eff.lift (wrap "control: parse IKE_SA_INIT SA: " (parseSA p.body))
      if sa.proposals.length ≠ 1 then
        Eff.fail (.errorf ("control: IKE_SA_INIT response must contain exactly one selected " ++
          "proposal"))
      else pure { f with sa := some sa }
  else if p.type = PayloadType.nonce then
    if f.nonce.isSome then
      Eff.fail (.errorf "control: duplicate NONCE payload in IKE_SA_INIT response")
    else do
      let n ← Eff.lift (wrap "control: parse IKE_SA_INIT nonce: " (parseNonce p.body))
      pure { f with nonce := some n }
  else if p.type = PayloadType.ke then
    if f.ke.isSome then Eff.fail (.errorf "control: duplicate KEE payload in IKE_SA_INIT response")
    else do
      let k ← Eff.lift (wrap "control: parse IKE_SA_INIT KE: " (parseKE p.body))
      pure { f with ke := some k }
  else if p.type = PayloadType.notify then do
    let n ← Eff.lift (wrap "control: parse IKE_SA_INIT notify: " (parseNotify p.body))
    applySAInitNotify n f
  else pure f

def applySAInitPayloads : List Wire.Payload → SAInitFields → Eff State SAInitFields
  | [], f => pure f
  | p :: ps, f => do
    let f ← applySAInitPayload p f
    applySAInitPayloads ps f

/-- The state before a response is absorbed: what the last attempt learned of the responder is gone. -/
def clearRemote (s : State) : State :=
  { s with
    nat := { s.nat with sourceHashRemote := [], destinationHashRemote := [] }
    peer := ⟨false, false, false⟩ }

/-- The state with the parts of a complete response. -/
def absorb (selection : Selection) (spi : UInt64) (nonce : Bytes) (ke : KeyExchange) (s : State) :
    State :=
  { s with
    cookie := []
    selectedIKE := some selection
    responderSPI := spi
    responderNonce := nonce
    responderKE := ke }

/-- Absorb a complete response. -/
def establish [Pki] (cfg : HandshakeConfig) (spi : UInt64) (f : SAInitFields) :
    Eff State SAInitOutcome :=
  match f.sa with
  | none => Eff.fail (.errorf "control: IKE_SA_INIT response missing SA payload")
  | some sa =>
    if spi = 0 then
      Eff.fail (.errorf ("control: IKE_SA_INIT response without responder SPI did not request " ++
        "COOKIE/INVALID_KE_PAYLOAD"))
    else
      match f.nonce with
      | none => Eff.fail (.errorf "control: IKE_SA_INIT response missing Nr")
      | some nonce =>
        match f.ke with
        | none => Eff.fail (.errorf "control: IKE_SA_INIT response missing KE")
        | some ke =>
          match sa.proposals with
          | [] => Eff.fail nilDereference
          | sp :: _ => do
            let selection ← Eff.lift (decodeIKESelection cfg.toConfig sp)
            Eff.modify (absorb selection spi nonce ke)
            let s ← Eff.get
            let detected ← Eff.lift (natDetected cfg s)
            Eff.modify fun s => { s with nat := { s.nat with detected } }
            pure .established

/-- The first payload of a response without an SPI is a notify. -/
def startsWithNotify (m : Message) : Bool :=
  match m.payloads with
  | p :: _ => decide (p.type = PayloadType.notify)
  | [] => false

def applySAInitResponse [Pki] (cfg : HandshakeConfig) (m : Message) : Eff State SAInitOutcome := do
  let spi := m.header.responderSPI
  if spi = 0 ∧ startsWithNotify m = false then
    Eff.fail (.errorf "control: IKE_SA_INIT without responder SPI must start with a NOTIFY")
  else do
    Eff.modify clearRemote
    let f ← applySAInitPayloads m.payloads noFields
    if f.cookie.length > 0 ∨ f.hasInvalidKE then
      if f.cookie.length > 0 ∧ f.hasInvalidKE then
        Eff.fail (.errorf "control: COOKIE and INVALID_KE_PAYLOAD cannot both require a retry")
      else if f.sa.isSome ∨ f.ke.isSome ∨ f.nonce.isSome then
        Eff.fail (.errorf "control: retry IKE_SA_INIT response must not include SA/KE/NONCE")
      else if f.cookie.length > 0 then do
        Eff.modify fun s => { s with cookie := f.cookie }
        pure .retryCookie
      else do
        Eff.modify fun s => { s with cookie := [] }
        pure .retryDHGroup
    else establish cfg spi f

/-- The group that an INVALID_KE_PAYLOAD notify asks for. -/
def invalidKEDHGroup (m : Message) : Option UInt16 :=
  m.payloads.findSome? fun p =>
    if p.type ≠ PayloadType.notify then none
    else
      match parseNotify p.body with
      | .error _ => none
      | .ok n =>
        if n.type ≠ NotifyType.invalidKePayload ∨ n.data.length ≠ 2 then none
        else some (beUint16 n.data)

/-! ### The keys -/

/-- Derive the keys of the IKE SA; the private key is used up. -/
def deriveIKEKeys [Crypto] : Eff State Unit := do
  let s ← Eff.get
  match s.localDH with
  | none => Eff.fail (.errorf "control: missing local DH keypair")
  | some dh =>
    match s.selectedIKE, s.ikeKeys with
    | some sel, none =>
      if s.initiatorNonce.length = 0 ∨ s.responderNonce.length = 0 ∨
          s.responderKE.data.length = 0 then
        Eff.fail (.errorf "control: IKE_SA_INIT is incomplete")
      else do
        Eff.modify fun s => { s with localDH := none }
        let shared ← Eff.lift (wrap "control: derive DH shared secret: "
          (dh.ecdh s.responderKE.data).1)
        let seed := skeyseed sel.prf s.initiatorNonce s.responderNonce shared
        let keys ← Eff.lift (wrap "control: derive IKE keys: "
          (Xcrypto.deriveIKEKeys sel.prf seed s.initiatorNonce s.responderNonce s.initiatorSPI
            s.responderSPI sel.encryption sel.integrity))
        Eff.modify fun s => { s with ikeKeys := some keys }
    | _, _ => Eff.fail (.errorf "control: missing IKE selection")

end Swan.Control.Handshake
