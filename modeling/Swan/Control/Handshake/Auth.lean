import Swan.Control.Handshake.SAInit
import Swan.Control.Identity
import Swan.Payload.TrafficSelectors

/-! # The IKE_AUTH exchanges

The first IKE_AUTH request (`buildBootstrapAuthRequest`), what the worker takes from a response that
carries an EAP packet (`handleAuthResponse`), the AUTH payload of the initiator (`buildLocalAuth`) and
the check of the responder's (`verifyPeerAuth`). The AUTH payload of the responder covers the bytes of
its IKE_SA_INIT response, the nonce of the initiator and its identity (`computeSignedOctets`). -/

namespace Swan.Control.Handshake

open Swan.Lib Swan.Wire Swan.Payload Swan.Xcrypto

def byteText (b : Bytes) : String := String.ofList (b.map fun c => Char.ofNat c.toNat)

/-! ### The first request -/

/-- The IPv4 address with four given bytes. -/
def netIPv4 (a b c d : UInt8) : Bytes := v4InV6Prefix ++ [a, b, c, d]

def anyIPv4 : Selector := ⟨tsTypeIPv4AddrRange, 0, 0, 65535, ipv4Zero, netIPv4 255 255 255 255⟩

def tsiAnyDualStack : TrafficSelectors :=
  ⟨[anyIPv4, ⟨tsTypeIPv6AddrRange, 0, 0, 65535, List.replicate 16 0, List.replicate 16 0xff⟩]⟩

def tsrStrongswanDefault : TrafficSelectors :=
  ⟨[anyIPv4, ⟨tsTypeIPv6AddrRange, 0, 0, 65535, 0x20 :: List.replicate 15 0,
    0x3f :: List.replicate 15 0xff⟩]⟩

def bareNotify (type : NotifyType) : Except Err CesPayloadPart := do
  let body ← appendNotify ⟨notifyProtocolNone, [], type, []⟩
  .ok ⟨PayloadType.notify, body⟩

/-- The IDr payload that names the configured responder. -/
def rightIDPart (cfg : HandshakeConfig) : List CesPayloadPart :=
  if cfg.rightID.type ≠ 0 then [⟨PayloadType.idr, appendID cfg.rightID⟩] else []

/-- The payloads of the first IKE_AUTH request. -/
def bootstrapParts (cfg : HandshakeConfig) (inboundSPI : UInt32) :
    Except Err (List CesPayloadPart) := do
  let esp ← appendESPProposals cfg.toConfig inboundSPI
  let contact ← bareNotify NotifyType.initialContact
  let cp ← appendConfigRequest
  let tsi ← appendTS tsiAnyDualStack
  let tsr ← appendTS tsrStrongswanDefault
  let addresses ← bareNotify NotifyType.noAdditionalAddresses
  let multiple ← bareNotify NotifyType.multipleAuthSupported
  let eapOnly ← bareNotify NotifyType.eapOnlyAuthentication
  .ok ([⟨PayloadType.idi, appendID cfg.idi⟩, contact] ++ rightIDPart cfg ++
    [⟨PayloadType.cp, cp⟩, ⟨PayloadType.sa, esp⟩, ⟨PayloadType.tsi, tsi⟩, ⟨PayloadType.tsr, tsr⟩,
      addresses, multiple, eapOnly])

section Build

variable [Crypto] (cfg : HandshakeConfig)

/-- The packets of a protected request of the worker. -/
def buildProtected (exchange : ExchangeType) (msgID : UInt32) (nextPayload : PayloadType)
    (plaintext : Bytes) : Eff Handshake (List Frame) := do
  let h ← Eff.get
  onRng (buildProtectedState (some cfg.toConfig) h.state exchange msgID nextPayload plaintext)

def buildBootstrapAuthRequest (msgID : UInt32) : Eff Handshake (List Frame) := do
  let inboundSPI ← onRng generateChildSPI
  modifyState fun s =>
    { s with
      negotiatingChild := some ⟨inboundSPI⟩
      auth := { s.auth with firstIDiPayload := appendID cfg.idi } }
  let parts ← Eff.lift (bootstrapParts cfg inboundSPI)
  buildProtected cfg ExchangeType.ikeAuth msgID PayloadType.idi (cesBuildChain parts)

end Build

/-! ### Notifies -/

def isAllowedAuthNotify (t : NotifyType) : Bool :=
  t ∈ [NotifyType.additionalTSPossible, NotifyType.eapOnlyAuthentication,
    NotifyType.espTFCPaddingNotSupported, NotifyType.fragmentationSupported,
    NotifyType.ipCompSupported, NotifyType.messageIDSyncSupported,
    NotifyType.nonFirstFragmentsAlso, NotifyType.useTransportMode]

def isChildFailureNotify (t : NotifyType) : Bool :=
  t ∈ [NotifyType.noProposalChosen, NotifyType.singlePairRequired, NotifyType.noAdditionalSAs,
    NotifyType.internalAddressFailure, NotifyType.failedCPRequired, NotifyType.tsUnacceptable]

def validateAuthNotify (n : Notify) : Eff State Unit :=
  if isAllowedAuthNotify n.type then pure ()
  else if isChildFailureNotify n.type then pure ()
  else if n.type = NotifyType.messageIDSync then
    Eff.fail (.errorf "control: received unsupported IKEV2_MESSAGE_ID_SYNC notify")
  else if n.type = NotifyType.authenticationFailed then do
    Eff.modify fun s =>
      { s with
        suppressAuthFailedNotify := true
        phase := .failed
        failureReason := "received AUTHENTICATION_FAILED notify" }
    Eff.fail (.errorf "control: received AUTHENTICATION_FAILED notify")
  else if n.type < 16384 then
    Eff.fail (.errorf s!"control: received IKE_AUTH notify error type {n.type}")
  else pure ()

def validateAuthNotifies (notifies : List Notify) : Eff State Unit :=
  Eff.forEach validateAuthNotify notifies

/-! ### The identity of the responder -/

/-- Check an IDr payload against the configured identity and store it. -/
def recordPeerIdentity (cfg : HandshakeConfig) (idr : Bytes) : Eff State Unit := do
  let id ← Eff.lift (wrap "control: invalid IDr payload: " (parseID idr))
  if id.data.length = 0 then Eff.fail (.errorf "control: empty IDr value")
  else if cfg.rightID.type ≠ 0 ∧ rightIDMatches cfg.rightID id = false then
    Eff.fail (.errorf (s!"control: rightid mismatch: expected {byteText cfg.rightID.data}, " ++
      s!"received {byteText id.data}"))
  else Eff.modify fun s => { s with auth := { s.auth with peerIDr := idr } }

/-! ### AUTH payloads -/

def errKeyMaterial : Err := .errorf "control: IKE key material is missing"

def authMaterial (s : State) : Except Err (Selection × IKEKeys) :=
  match s.selectedIKE, s.ikeKeys with
  | some sel, some keys => .ok (sel, keys)
  | _, _ => .error errKeyMaterial

/-- The octets that an AUTH payload covers, of the responder or of the initiator. -/
def computeSignedOctets (s : State) (macedID : Bytes) (isResponder : Bool) : Except Err Bytes := do
  let _ ← authMaterial s
  if isResponder then
    if s.saInitResponse.length = 0 ∨ s.initiatorNonce.length = 0 then
      .error (.errorf "control: missing SA_INIT response checkpoint or initiator nonce")
    else .ok (s.saInitResponse ++ s.initiatorNonce ++ macedID)
  else if s.saInitRequest.length = 0 ∨ s.responderNonce.length = 0 then
    .error (.errorf "control: missing SA_INIT request checkpoint or responder nonce")
  else .ok (s.saInitRequest ++ s.responderNonce ++ macedID)

def localAuthSecret (s : State) (keys : IKEKeys) : Bytes :=
  if s.auth.localEAPMSK.length > 0 then s.auth.localEAPMSK else keys.skpi

def peerAuthSecret (s : State) (keys : IKEKeys) : Bytes :=
  if s.auth.localEAPMSK.length > 0 then s.auth.localEAPMSK else keys.skpr

def buildLocalAuth [Crypto] (s : State) (localID : ID) : Except Err Auth := do
  let (sel, keys) ← authMaterial s
  let idBody := if s.auth.firstIDiPayload.length = 0 then appendID localID
    else s.auth.firstIDiPayload
  let octets ← computeSignedOctets s (macedID sel.prf keys.skpi idBody) false
  .ok ⟨AuthMethod.sharedKeyMIC, authMAC sel.prf (localAuthSecret s keys) octets⟩

section Verify

variable [Pki] (cfg : HandshakeConfig)

def parseCertificates : List Bytes → Except Err (List ParsedCertificate)
  | [] => .ok []
  | der :: ders => do
    let c ← wrap "control: parse responder certificate: " (Pki.parseCertificate der)
    let cs ← parseCertificates ders
    .ok (⟨der, c⟩ :: cs)

/-- The certificates of the responder; the trust roots must be there unless they are not asked. -/
def peerCertificates (s : State) : Except Err (List ParsedCertificate) :=
  if s.auth.peerCerts.length = 0 then
    .error (.errorf "control: responder AUTH used certificate signature without CERT payload")
  else do
    let certs ← parseCertificates s.auth.peerCerts
    if cfg.insecureSkipPeerCertVerify then .ok certs
    else do
      wrap "control: load system trust roots: " Pki.systemCertPool
      .ok certs

/-- Try a signature with each type of key; the error of the last one. -/
def trySignature (verify : PublicKeyType → Except Err Unit) (lastErr : Err) :
    List PublicKeyType → Except Err Unit
  | [] => .error lastErr
  | kt :: kts =>
    match verify kt with
    | .ok () => .ok ()
    | .error e => trySignature verify e kts

/-- The algorithm, the types of key to try and the signature of an AUTH payload. -/
def signatureOf (s : State) (auth : Auth) :
    Except Err (SignatureAlgorithm × List PublicKeyType × Bytes) :=
  if auth.method = AuthMethod.digitalSignature then do
    let (parsed, sig) ← parseSignatureAuthData auth.data
    if s.auth.peerSignatureHashAlgorithms.length = 0 then
      .error (.errorf ("control: responder used AUTH method 14 without " ++
        "SIGNATURE_HASH_ALGORITHMS negotiation"))
    else if parsed.hashID ∉ s.auth.peerSignatureHashAlgorithms then
      .error (.errorf
        s!"control: AUTH method 14 used unadvertised signature hash algorithm {parsed.hashID}")
    else .ok (parsed, [parsed.keyType], sig)
  else .ok (⟨0, .sha1, .rsa⟩, [.rsa, .ecdsa], auth.data)

def checkSignature (s : State) (idr : Bytes) (auth : Auth) (octets : Except Err Bytes) :
    Except Err Unit := do
  let (alg, keyKinds, signature) ← signatureOf s auth
  let octets ← octets
  let id ← wrap "control: parse IDr for certificate identity: " (parseID idr)
  let certs ← peerCertificates cfg s
  wrap "control: AUTH signature verification failed: "
    (trySignature (fun kt => verifyPeerAuthSignature certs id.type id.data octets signature
      { alg with keyType := kt } cfg.insecureSkipPeerCertVerify) (.errorf "") keyKinds)

variable [Crypto]

/-- Check the AUTH payload of the responder with a given state. -/
def checkPeerAuth (s : State) (idr : Bytes) (auth : Auth) : Except Err Unit := do
  let (sel, keys) ← authMaterial s
  let octets := computeSignedOctets s (macedID sel.prf keys.skpr idr) true
  if auth.method = AuthMethod.sharedKeyMIC then do
    let octets ← octets
    if authMAC sel.prf (peerAuthSecret s keys) octets ≠ auth.data then
      .error (.errorf "control: AUTH verification failed")
    else .ok ()
  else if auth.method = AuthMethod.rsaDigitalSignature ∨
      auth.method = AuthMethod.dssDigitalSignature ∨ auth.method = AuthMethod.digitalSignature then
    checkSignature cfg s idr auth octets
  else .error (.errorf s!"control: unsupported AUTH method {auth.method}")

/-- Check the AUTH payload of the responder and note its method. -/
def verifyPeerAuth (idr : Bytes) (auth : Auth) : Eff State Unit := do
  let s ← Eff.get
  Eff.lift (checkPeerAuth cfg s idr auth)
  Eff.modify fun s => { s with auth := { s.auth with peerAuthMethod := auth.method } }

end Verify

/-! ### Responses with an EAP packet -/

/-- What the payloads of a response have said so far. -/
structure AuthFields where
  eap : Bytes
  auth : Option Auth
  idr : Bytes
  certs : List Bytes
  notifies : List Notify
  deriving DecidableEq, Repr

def certDER (c : Cert) : Except Err Bytes :=
  if c.encoding ≠ certEncodingX509Signature then
    .error (.errorf s!"control: unsupported CERT encoding {c.encoding}")
  else .ok c.der

def collectAuthPayload (p : Wire.Payload) (f : AuthFields) : Except Err AuthFields :=
  if p.type = PayloadType.eap then .ok { f with eap := p.body }
  else if p.type = PayloadType.auth then do
    let a ← wrap "control: parse IKE_AUTH AUTH payload: " (parseAuth p.body)
    .ok { f with auth := some a }
  else if p.type = PayloadType.idr then .ok { f with idr := p.body }
  else if p.type = PayloadType.cert then do
    let c ← wrap "control: parse IKE_AUTH CERT payload: " (parseCert p.body)
    let der ← certDER c
    .ok { f with certs := f.certs ++ [der] }
  else if p.type = PayloadType.notify then do
    let n ← wrap "control: parse IKE_AUTH notify: " (parseNotify p.body)
    if n.spi.length ≠ 0 then
      .error (.errorf "control: unexpected SPI-scoped notify during EAP progression")
    else .ok { f with notifies := f.notifies ++ [n] }
  else .ok f

def collectAuthPayloads : List Wire.Payload → AuthFields → Except Err AuthFields
  | [], f => .ok f
  | p :: ps, f => do
    let f ← collectAuthPayload p f
    collectAuthPayloads ps f

def containsNotify (notifies : List Notify) (type : NotifyType) : Bool :=
  notifies.any fun n => n.type = type

def learnCapabilities (notifies : List Notify) (s : State) : State :=
  { s with
    peer :=
      { supportsEAPOnlyAuthentication := containsNotify notifies NotifyType.eapOnlyAuthentication
        supportsMessageIDSync := containsNotify notifies NotifyType.messageIDSyncSupported
        supportsFragmentation := s.peer.supportsFragmentation ||
          containsNotify notifies NotifyType.fragmentationSupported } }

/-- The identity of a response: its own or the one of an earlier response. -/
def inboundIDr (idr : Bytes) (s : State) : Bytes := if idr.length = 0 then s.auth.peerIDr else idr

/-- The state with the certificates of a response, if it had some. -/
def storeCerts (certs : List Bytes) (s : State) : State :=
  if certs.length > 0 then { s with auth := { s.auth with peerCerts := certs } } else s

variable [Pki] [Crypto]

/-- The EAP packet of a response. The first response has an AUTH payload, or the responder supports
authentication by EAP alone. -/
def handleAuthResponse (cfg : HandshakeConfig) (m : Message) (firstResponse : Bool) :
    Eff State Bytes := do
  let f ← Eff.lift (collectAuthPayloads m.payloads ⟨[], none, [], [], []⟩)
  validateAuthNotifies f.notifies
  Eff.modify (learnCapabilities f.notifies)
  let s ← Eff.get
  let peerIDr := inboundIDr f.idr s
  if peerIDr.length = 0 then
    Eff.fail (.errorf "control: IKE_AUTH response missing IDr payload")
  else do
    recordPeerIdentity cfg peerIDr
    Eff.modify (storeCerts f.certs)
    let s ← Eff.get
    match f.auth with
    | some auth => verifyPeerAuth cfg peerIDr auth
    | none =>
      if firstResponse then
        if f.eap.length = 0 then
          Eff.fail (.errorf "control: first IKE_AUTH response missing AUTH payload")
        else if s.peer.supportsEAPOnlyAuthentication = false then
          Eff.fail (.errorf ("control: configured EAP-only authentication, but the peer does " ++
            "not support it"))
        else pure ()
      else pure ()
    if f.eap.length = 0 then
      Eff.fail (.errorf "control: IKE_AUTH response missing EAP payload")
    else pure f.eap

end Swan.Control.Handshake
