import Swan.Control.Handshake.Auth

/-! # The final IKE_AUTH exchange

The request with the AUTH payload of the initiator (`buildFinalAuthRequest`) and what the worker takes
from the response (`processFinalAuth`): the AUTH payload of the responder, the child SA that it has
chosen, the configuration that it assigns and the traffic selectors. -/

namespace Swan.Control.Handshake

open Swan.Lib Swan.Wire Swan.Payload Swan.Xcrypto

/-! ### The request -/

section Request

variable [Crypto] (cfg : HandshakeConfig)

def finalParts (s : State) (localAuth : Auth) : List CesPayloadPart :=
  let idBody := if s.auth.firstIDiPayload.length > 0 then s.auth.firstIDiPayload
    else appendID cfg.idi
  rightIDPart cfg ++ [⟨PayloadType.idi, idBody⟩, ⟨PayloadType.auth, appendAuth localAuth⟩]

def buildFinalAuthRequest (msgID : UInt32) : Eff Handshake (List Frame) := do
  let h ← Eff.get
  if cfg.idi.data.length = 0 then
    Eff.fail (.errorf "control: local identity missing before final AUTH")
  else do
    let localAuth ← Eff.lift (buildLocalAuth h.state cfg.idi)
    let first := if cfg.rightID.type ≠ 0 then PayloadType.idr else PayloadType.idi
    buildProtected cfg ExchangeType.ikeAuth msgID first
      (cesBuildChain (finalParts cfg h.state localAuth))

end Request

/-! ### Traffic selectors -/

/-- Whether two addresses are the same, in either form. -/
def ipEqual (a b : Bytes) : Bool :=
  if a.length = b.length then decide (a = b)
  else if a.length = 4 ∧ b.length = 16 then decide (b = v4InV6Prefix ++ a)
  else if a.length = 16 ∧ b.length = 4 then decide (a = v4InV6Prefix ++ b)
  else false

/-- Whether an address is an IPv4 or IPv6 link-local unicast address. -/
def isLinkLocalUnicast (ip : Bytes) : Bool :=
  match to4 ip with
  | some v4 => decide (v4.getD 0 0 = 169 ∧ v4.getD 1 0 = 254)
  | none => decide (ip.length = 16 ∧ ip.getD 0 0 = 0xfe ∧ ip.getD 1 0 &&& 0xc0 = 0x80)

/-- Whether a range is one link-local address with the interface identifier of the assigned one. -/
def cesAcceptWindowsLinkLocalTS (start stop assigned : Bytes) : Bool :=
  if ipEqual start stop = false ∨ isLinkLocalUnicast start = false then false
  else if to16 assigned = [] ∨ to16 start = [] then false
  else ipEqual ((to16 start).drop 8) ((to16 assigned).drop 8)

def cesCheckSelector (sel : Selector) : Except Err Unit :=
  if sel.protocolID ≠ 0 then
    .error (.errorf s!"selector must use protocol 0, got {sel.protocolID}")
  else if sel.startPort ≠ 0 ∨ sel.endPort ≠ 0xffff then
    .error (.errorf "selector must allow all ports")
  else .ok ()

section Selectors

variable [Pki]

def rangeText (sel : Selector) : String :=
  s!"{byteText (Pki.ipString sel.startAddr)}-{byteText (Pki.ipString sel.endAddr)}"

/-- A selector of TSi narrows to the assigned address of its family. -/
def validateTSi (assigned : AssignedConfig) (sel : Selector) : Except Err Unit := do
  wrap "control: invalid TSi selector: " (cesCheckSelector sel)
  if sel.type = tsTypeIPv4AddrRange then
    match assigned.internalIPv4 with
    | none => .error (.errorf
        s!"control: TSi is IPv4 ({rangeText sel}) but CP has no INTERNAL_IP4_ADDRESS")
    | some ip =>
      if ipEqual sel.startAddr ip = false ∨ ipEqual sel.endAddr ip = false then
        .error (.errorf (s!"control: TSi v4 {rangeText sel} must narrow to the CP-assigned " ++
          s!"INTERNAL_IP4_ADDRESS {byteText (Pki.ipString ip)}"))
      else .ok ()
  else if sel.type = tsTypeIPv6AddrRange then
    match assigned.internalIPv6 with
    | none => .error (.errorf
        s!"control: TSi is IPv6 ({rangeText sel}) but CP has no INTERNAL_IP6_ADDRESS")
    | some ip =>
      if (ipEqual sel.startAddr ip = false ∨ ipEqual sel.endAddr ip = false) ∧
          cesAcceptWindowsLinkLocalTS sel.startAddr sel.endAddr ip = false then
        .error (.errorf (s!"control: TSi v6 {rangeText sel} must narrow to the CP-assigned " ++
          s!"INTERNAL_IP6_ADDRESS {byteText (Pki.ipString ip)}"))
      else .ok ()
  else .error (.errorf s!"control: unsupported TSi traffic selector type {sel.type}")

def validateTSr (sel : Selector) : Except Err Unit := do
  wrap "control: invalid TSr selector: " (cesCheckSelector sel)
  if sel.type ≠ tsTypeIPv4AddrRange ∧ sel.type ≠ tsTypeIPv6AddrRange then
    .error (.errorf s!"control: unsupported TSr traffic selector type {sel.type}")
  else .ok ()

def validateTrafficSelectors (tsi tsr : TrafficSelectors) (assigned : AssignedConfig) :
    Except Err Unit :=
  if tsi.selectors.length = 0 ∨ tsr.selectors.length = 0 then
    .error (.errorf "control: final IKE_AUTH TS payload has empty selectors")
  else do
    tsi.selectors.forM (validateTSi assigned)
    tsr.selectors.forM validateTSr

end Selectors

/-! ### The response -/

/-- A notify with the SPI of a child SA. -/
structure CesSpiNotify where
  type : NotifyType
  protocol : UInt8
  spi : UInt32
  deriving DecidableEq, Repr

/-- What the payloads of the final response have said so far. -/
structure FinalFields where
  auth : Option Auth
  idr : Bytes
  eap : Bytes
  sa : Option SA
  tsi : Bytes
  tsr : Bytes
  cp : Bytes
  certs : List Bytes
  notifies : List Notify
  spiNotifies : List CesSpiNotify
  deriving DecidableEq, Repr

def noFinalFields : FinalFields := ⟨none, [], [], none, [], [], [], [], [], []⟩

def collectFinalNotify (n : Notify) (f : FinalFields) : Except Err FinalFields :=
  let f := { f with notifies := f.notifies ++ [n] }
  if n.spi.length > 0 then
    if n.spi.length ≠ 4 then
      .error (.errorf "control: unexpected SPI size in final IKE_AUTH notify")
    else if isChildFailureNotify n.type = false then
      .error (.errorf s!"control: unexpected SPI-scoped notify {n.type} in final IKE_AUTH")
    else .ok { f with
      spiNotifies := f.spiNotifies ++ [⟨n.type, n.protocolID, beUint32 n.spi⟩] }
  else .ok f

def collectFinalPayload (p : Wire.Payload) (f : FinalFields) : Except Err FinalFields :=
  if p.type = PayloadType.auth then do
    let a ← parseAuth p.body
    .ok { f with auth := some a }
  else if p.type = PayloadType.idr then .ok { f with idr := p.body }
  else if p.type = PayloadType.eap then .ok { f with eap := p.body }
  else if p.type = PayloadType.cert then do
    let c ← parseCert p.body
    let der ← certDER c
    .ok { f with certs := f.certs ++ [der] }
  else if p.type = PayloadType.sa then do
    let sa ← parseSA p.body
    .ok { f with sa := some sa }
  else if p.type = PayloadType.tsi then .ok { f with tsi := p.body }
  else if p.type = PayloadType.tsr then .ok { f with tsr := p.body }
  else if p.type = PayloadType.cp then .ok { f with cp := p.body }
  else if p.type = PayloadType.notify then do
    let n ← parseNotify p.body
    collectFinalNotify n f
  else .ok f

def collectFinalPayloads : List Wire.Payload → FinalFields → Except Err FinalFields
  | [], f => .ok f
  | p :: ps, f => do
    let f ← collectFinalPayload p f
    collectFinalPayloads ps f

def cesValidateSpiNotify (expectedOutbound inbound : UInt32) (n : CesSpiNotify) :
    Except Err Unit :=
  if n.protocol ≠ deleteProtocolESP then
    .error (.errorf s!"control: unexpected SPI-scoped notify protocol {n.protocol}")
  else if n.spi ≠ expectedOutbound ∧ n.spi ≠ inbound then
    .error (.errorf (s!"control: SPI-scoped notify {n.type} unexpected SPI 0x" ++
      String.join ((putUint32 n.spi).map hex2)))
  else .ok ()

def cesValidateSpiNotifies (notifies : List CesSpiNotify) (expectedOutbound inbound : UInt32) :
    Except Err Unit :=
  notifies.forM (cesValidateSpiNotify expectedOutbound inbound)

def childFailureName (t : NotifyType) : Option String :=
  if t = NotifyType.noProposalChosen then some "NO_PROPOSAL_CHOSEN"
  else if t = NotifyType.singlePairRequired then some "SINGLE_PAIR_REQUIRED"
  else if t = NotifyType.noAdditionalSAs then some "NO_ADDITIONAL_SAS"
  else if t = NotifyType.internalAddressFailure then some "INTERNAL_ADDRESS_FAILURE"
  else if t = NotifyType.failedCPRequired then some "FAILED_CP_REQUIRED"
  else if t = NotifyType.tsUnacceptable then some "TS_UNACCEPTABLE"
  else none

def cesChildFailureReason (notifies : List Notify) : Option String :=
  notifies.findSome? fun n => childFailureName n.type

variable [Pki] [Crypto] (cfg : HandshakeConfig)

/-- Authenticate the responder by the final response: the identity that the AUTH payload covers. -/
def authenticatePeer (f : FinalFields) : Eff State Unit := do
  if f.eap.length ≠ 0 then
    Eff.fail (.errorf "control: final IKE_AUTH response must not include EAP payload")
  else do
    validateAuthNotifies f.notifies
    match f.auth with
    | none => Eff.fail (.errorf "control: final IKE_AUTH response missing AUTH payload")
    | some auth => do
      let s ← Eff.get
      let peerIDr := inboundIDr f.idr s
      if peerIDr.length < 4 then
        Eff.fail (.errorf "control: final IKE_AUTH response missing IDr payload")
      else do
        recordPeerIdentity cfg peerIDr
        Eff.modify (storeCerts f.certs)
        verifyPeerAuth cfg peerIDr auth

/-- The configuration and the selectors of the final response, and whether the configuration came as
CFG_SET. -/
def checkAssigned (f : FinalFields) : Except Err (AssignedConfig × Bool) :=
  if f.cp.length = 0 then
    .error (.errorf "control: final IKE_AUTH response missing CP payload")
  else do
    let cp ← parseConfigPayload f.cp
    if cp.kind ≠ ConfigType.reply ∧ cp.kind ≠ ConfigType.set then
      .error (.errorf s!"control: final IKE_AUTH CP payload has unexpected kind {cp.kind}")
    else do
      let (assigned, _) ← cesDecodeAssignedCP cp
      if assigned.internalIPv4 = none ∧ assigned.internalIPv6 = none then
        .error (.errorf "control: final IKE_AUTH CP reply missing INTERNAL_IP4/6_ADDRESS")
      else if f.tsi.length = 0 ∨ f.tsr.length = 0 then
        .error (.errorf "control: final IKE_AUTH response missing TSi/TSr payload")
      else do
        let tsi ← parseTS f.tsi
        let tsr ← parseTS f.tsr
        validateTrafficSelectors tsi tsr assigned
        .ok (assigned, decide (cp.kind = ConfigType.set))

def installChild (assigned : AssignedConfig) (child : ChildSA) (s : State) : State :=
  { s with
    assigned := some assigned
    negotiatingChild := none
    activeChild := some child }

/-- The child SA of the final response, and whether the configuration came as CFG_SET. -/
def processFinalAuth (m : Message) : Eff State (ChildSA × Bool) := do
  let s ← Eff.get
  match s.negotiatingChild with
  | none => Eff.fail (.errorf "control: missing negotiating CHILD_SA state")
  | some negotiating => do
    let f ← Eff.lift (collectFinalPayloads m.payloads noFinalFields)
    authenticatePeer cfg f
    match f.sa with
    | none =>
      match cesChildFailureReason f.notifies with
      | some reason => Eff.fail (.errorf s!"control: CHILD_SA negotiation failed: {reason}")
      | none => Eff.fail (.errorf "control: final IKE_AUTH response missing CHILD_SA proposal")
    | some sa => do
      let (peerSPI, selection) ← Eff.lift (decodeChildSelection cfg.toConfig s.selectedIKE sa)
      Eff.lift (cesValidateSpiNotifies f.spiNotifies peerSPI negotiating.inboundSPI)
      Eff.modify fun s => { s with selectedESP := some selection }
      let (assigned, cfgSet) ← Eff.lift (checkAssigned f)
      let child : ChildSA := ⟨negotiating.inboundSPI, peerSPI, f.tsi, f.tsr, true⟩
      Eff.modify (installChild assigned child)
      pure (child, cfgSet)

def deriveChildKeys (s : State) : Except Err ChildKeys :=
  match s.ikeKeys with
  | none => .error errKeyMaterial
  | some keys =>
    if s.initiatorNonce.length = 0 ∨ s.responderNonce.length = 0 then
      .error (.errorf "control: missing nonce material")
    else
      match s.selectedIKE, s.selectedESP with
      | some ike, some esp =>
        Xcrypto.deriveChildKeys ike.prf keys.skd s.initiatorNonce s.responderNonce []
          esp.encryption esp.integrity
      | _, _ => .error (.errorf "control: missing selected algorithms")

end Swan.Control.Handshake
