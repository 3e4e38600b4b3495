import Swan.Control.Handshake.FinalAuth
import Swan.Control.Steps
import Swan.Eap.Packet

/-! # The run of a handshake

The linear flow of the initiator: up to three IKE_SA_INIT attempts, the first IKE_AUTH request, one
IKE_AUTH exchange for each EAP round, the final IKE_AUTH exchange. Between two events the worker waits
in one of the receive loops; `Stage` says in which. `start` goes to the first wait, `step` handles one
event, and `run` a list of them until the handshake is established or has failed. The EAP method is a
parameter. -/

namespace Swan.Control

open Swan.Lib Swan.Wire Swan.Payload Swan.Xcrypto

/-- An EAP method with the states `μ`. -/
structure EapMethod (μ : Type) where
  /-- Build and set up the method. -/
  start : Except Err μ
  handle : μ → Bytes → UInt16 → Except Err Eap.Result × μ

/-- What the handshake hands to the running actor. -/
structure Established where
  assigned : AssignedConfig
  child : ChildSA
  state : State
  ikeKeys : Option IKEKeys
  childKeys : ChildKeys
  selection : Selection

namespace Handshake

/-- The receive loop that the worker is in. -/
inductive Stage (μ : Type) where
  | saInit (attempt : ℕ) (forcedDHGroup : UInt16)
  | eap (method : μ) (msgID : UInt32) (firstResponse : Bool) (round : ℕ)
  | finalAuth (msgID : UInt32)
  deriving DecidableEq, Repr

/-- How far the worker has come. -/
inductive Progress (μ : Type) where
  | waiting (stage : Stage μ)
  | established (e : Established)

def maxEAPRounds : ℕ := 64

section Flow

variable {μ : Type} [Pki] [Crypto] (cfg : HandshakeConfig) (method : EapMethod μ)

/-! ### The stages -/

/-- Send the request of an IKE_SA_INIT attempt and wait for the response. -/
def sendSAInit (attempt : ℕ) (forcedDHGroup : UInt16) : Eff Handshake (Progress μ) := do
  modifyState fun s => { s with phase := .saInitSent }
  let frames ← buildSAInitRequest cfg forcedDHGroup
  sendRequest frames
  startWait cfg.toConfig
  pure (.waiting (.saInit attempt forcedDHGroup))

/-- Wait for the response that carries the next EAP packet. -/
def recvEAP (m : μ) (firstResponse : Bool) (round : ℕ) : Eff Handshake (Progress μ) := do
  let h ← Eff.get
  if h.state.hasExpectedResponse = false then
    Eff.fail (.errorf "control: missing expected IKE_AUTH response message-id")
  else do
    startWait cfg.toConfig
    pure (.waiting (.eap m h.state.expectedResponseMessageID firstResponse round))

def saInitDone (s : State) : State :=
  { s with
    nextRequestMessageID := 1
    hasExpectedResponse := false
    expectedResponseMessageID := 0
    phase := .authBootstrap }

/-- Derive the keys, send the first IKE_AUTH request and wait for its response. -/
def beginAuth : Eff Handshake (Progress μ) := do
  onState deriveIKEKeys
  modifyState saInitDone
  let bootstrapID ← beginRequest
  let frames ← buildBootstrapAuthRequest cfg bootstrapID
  sendRequest frames
  modifyState fun s => { s with phase := .authEAPInProgress }
  let m ← Eff.lift method.start
  recvEAP cfg m true 0

/-- What follows from the response to an IKE_SA_INIT attempt. -/
def handleSAInit (attempt : ℕ) (forcedDHGroup : UInt16) (msg : Message) :
    Eff Handshake (Progress μ) := do
  let requestedGroup := (invalidKEDHGroup msg).getD 0
  match ← onState (applySAInitResponse cfg msg) with
  | .established => beginAuth cfg method
  | .retryCookie =>
    if attempt + 1 ≥ maxSAInitAttempts then
      Eff.fail (.errorf "control: peer requested too many COOKIE retries")
    else sendSAInit cfg (attempt + 1) forcedDHGroup
  | .retryDHGroup =>
    if requestedGroup = 0 then
      Eff.fail (.errorf "control: INVALID_KE_PAYLOAD retry without a DH group")
    else if attempt + 1 ≥ maxSAInitAttempts then
      Eff.fail (.errorf "control: peer requested too many INVALID_KE_PAYLOAD retries")
    else sendSAInit cfg (attempt + 1) requestedGroup

/-- Send the final IKE_AUTH request and wait for the response. -/
def beginFinalAuth : Eff Handshake (Progress μ) := do
  modifyState fun s => { s with phase := .childInstalling }
  let finalID ← beginRequest
  let frames ← buildFinalAuthRequest cfg finalID
  sendRequest frames
  startWait cfg.toConfig
  pure (.waiting (.finalAuth finalID))

def sendEAP (data : Bytes) : Eff Handshake Unit := do
  let msgID ← beginRequest
  let frames ← buildProtected cfg ExchangeType.ikeAuth msgID PayloadType.eap (cepSinglePayload data)
  sendRequest frames

/-- One EAP round: the method gets the packet of a response and answers it, or it is complete. -/
def handleEAP (m : μ) (firstResponse : Bool) (round : ℕ) (msg : Message) :
    Eff Handshake (Progress μ) := do
  let pkt ← onState (handleAuthResponse cfg msg firstResponse)
  let h ← Eff.get
  match method.handle m pkt h.state.nextRequestMessageID.toUInt16 with
  | (.error e, _) => Eff.fail (.wrapf s!"control: eap method round {round + 1}: " e)
  | (.ok (.send response), m') => do
    sendEAP cfg response
    if round + 1 < maxEAPRounds then recvEAP cfg m' false (round + 1)
    else Eff.fail (.errorf s!"control: eap loop exceeded {maxEAPRounds} rounds")
  | (.ok (.complete exportedMSK), _) => do
    modifyState fun s => { s with auth := { s.auth with localEAPMSK := exportedMSK } }
    beginFinalAuth cfg

/-- Acknowledge a configuration that came as CFG_SET. -/
def acknowledgeSet (finalID : UInt32) : Eff Handshake Unit := do
  let ackBody ← Eff.lift (appendConfigPayload ⟨ConfigType.ack, []⟩)
  let h ← Eff.get
  let frames ← onRng (buildProtectedStateAs (some cfg.toConfig) h.state ExchangeType.ikeAuth finalID
    PayloadType.cp (cepSinglePayload ackBody) (responseFlags (stateIKEEnvelope h.state)))
  Eff.forEach (sendFrame .response) frames

def handedOver (s : State) : State :=
  { s with phase := .running, hasExpectedResponse := false, expectedResponseMessageID := 0 }

def handOver (childKeys : ChildKeys) : Eff Handshake (Progress μ) := do
  let h ← Eff.get
  match h.state.assigned with
  | none => Eff.fail (.errorf "control: handshake completed without assigned configuration")
  | some assigned =>
    match h.state.selectedESP with
    | none => Eff.fail (.errorf "control: handshake completed without ESP selection")
    | some selection =>
      match h.state.activeChild with
      | none => Eff.fail (.errorf "control: handshake completed without an active CHILD_SA")
      | some child =>
        if h.state.auth.localEAPMSK.length = 0 then
          Eff.fail (.errorf "control: handshake completed without EAP MSK")
        else do
          modifyState handedOver
          pure (.established
            { assigned, child, state := handedOver h.state, ikeKeys := h.state.ikeKeys, childKeys
              selection })

def handleFinalAuth (finalID : UInt32) (msg : Message) : Eff Handshake (Progress μ) := do
  let (_, cfgSet) ← onState (processFinalAuth cfg msg)
  Eff.when (cfgSet = true) (acknowledgeSet cfg finalID)
  let h ← Eff.get
  let childKeys ← Eff.lift (deriveChildKeys h.state)
  handOver childKeys

/-! ### Events -/

def startState : State := { newState with phase := .starting, hasExpectedResponse := true }

/-- From the start of a handshake to its first wait. -/
def begin : Eff Handshake (Progress μ) := do
  modifyState fun _ => startState
  sendSAInit cfg 0 0

/-- One event in the receive loop of a stage: the response once it is complete. -/
def listen (ev : Event) : Stage μ → Eff Handshake (Option Message)
  | .saInit _ _ => waitSAInitResponse cfg.toConfig ev
  | .eap _ msgID _ _ => recvProtectedPayloads cfg.toConfig "eap" ExchangeType.ikeAuth msgID ev
  | .finalAuth msgID =>
    recvProtectedPayloads cfg.toConfig "final_auth" ExchangeType.ikeAuth msgID ev

/-- What follows from the complete response of a stage. -/
def proceed (msg : Message) : Stage μ → Eff Handshake (Progress μ)
  | .saInit attempt forced => handleSAInit cfg method attempt forced msg
  | .eap m _ firstResponse round => handleEAP cfg method m firstResponse round msg
  | .finalAuth msgID => handleFinalAuth cfg msgID msg

def turn (ev : Event) (stage : Stage μ) : Eff Handshake (Progress μ) := do
  match ← listen cfg ev stage with
  | none => pure (.waiting stage)
  | some msg => proceed cfg method msg stage

/-! ### Failure -/

def failureExchange (phase : Phase) : ExchangeType :=
  if phase = .authBootstrap ∨ phase = .authEAPInProgress ∨ phase = .childInstalling then
    ExchangeType.ikeAuth
  else ExchangeType.informational

def buildAuthFailedNotify : Eff Handshake (List Frame) := do
  let body ← Eff.lift (appendNotify ⟨notifyProtocolNone, [], NotifyType.authenticationFailed, []⟩)
  let h ← Eff.get
  modifyState fun s => { s with nextRequestMessageID := s.nextRequestMessageID + 1 }
  buildProtected cfg (failureExchange h.state.phase) h.state.nextRequestMessageID PayloadType.notify
    (cepSinglePayload body)

def failedState (e : Err) (s : State) : State :=
  { s.clearSession with failureReason := e.text, phase := .stopped }

/-- The failure path: tell the responder if there are keys to do it with, then clean up. -/
def fail (e : Err) : Eff Handshake Unit := do
  let h ← Eff.get
  if h.state.responderSPI ≠ 0 ∧ h.state.ikeKeys.isSome ∧
      h.state.suppressAuthFailedNotify = false then do
    match ← (buildAuthFailedNotify cfg).attempt with
    | .error _ => pure ()
    | .ok frames => Eff.forEach (offerFrame .request) frames
  else pure ()
  modifyState (failedState e)

/-- How a handshake stands after some events. -/
inductive Outcome (μ : Type) where
  | waiting (stage : Stage μ) (h : Handshake)
  | established (e : Established) (h : Handshake)
  | failed (e : Err) (h : Handshake)

def Outcome.worker : Outcome μ → Handshake
  | .waiting _ h => h
  | .established _ h => h
  | .failed _ h => h

def Outcome.stage : Outcome μ → Option (Stage μ)
  | .waiting stage _ => some stage
  | _ => none

omit [Pki] [Crypto] in
theorem Outcome.eq_waiting {o : Outcome μ} {stage : Stage μ} (h : o.stage = some stage) :
    o = .waiting stage o.worker := by
  cases o with
  | waiting stage' h' =>
    obtain rfl := Option.some.inj h
    rfl
  | established e h' => cases h
  | failed e h' => cases h

/-- How a handshake stands after a computation. A panic is not handled. -/
def settle : Except Err (Progress μ) × Handshake → Outcome μ
  | (.ok (.waiting stage), h) => .waiting stage h
  | (.ok (.established e), h) => .established e h
  | (.error (.panicked t), h) => .failed (.panicked t) h
  | (.error e, h) => .failed e ((fail cfg e).run h).2

def start (h : Handshake) : Outcome μ := settle cfg ((begin cfg).run h)

/-- The handshake after an event at the time `now`; one that has ended has no more events. -/
def step (now : Time) (ev : Event) : Outcome μ → Outcome μ
  | .waiting stage h => settle cfg ((turn cfg method ev stage).run { h with clock := now })
  | o => o

def run (evs : List (Time × Event)) (h : Handshake) : Outcome μ :=
  evs.foldl (fun o ev => step cfg method ev.1 ev.2 o) (start cfg h)

end Flow

/-! ### A run with a scripted responder

The datagrams of the responder are built from the state of the initiator when they arrive. -/

section Sample

attribute [local instance] plainCrypto plainPki

def sampleHandshakeConfig : HandshakeConfig :=
  { sampleConfig with
    idi := ⟨IDType.fqdn, ascii "client"⟩
    rightID := ⟨IDType.fqdn, ascii "*.gw"⟩
    localIP := []
    peerIP := [192, 0, 2, 1]
    insecureSkipPeerCertVerify := true }

def sampleWorker : Handshake where
  state := newState
  wait := ⟨0, 0, 0⟩
  clock := 0
  rng := countingRng
  cancel _ := false
  full _ := false
  sent := []

/-- A method that is complete with the first packet. -/
def sampleMethod : EapMethod Unit where
  start := .ok ()
  handle _ _ _ := (.ok (.complete (ascii "msk")), ())

def packetOf (r : Except Err Bytes) : Packet := ⟨.ike, r.toOption.getD []⟩

/-- The complete response to an IKE_SA_INIT request. -/
def sampleResponse (s : State) : Packet := packetOf <| do
  let transforms ← ikeProposalTransforms cbcProposal
  let sa ← appendSA ⟨[⟨1, deleteProtocolIKE, [], transforms⟩]⟩
  let b := newBuilder { saInitHeader s with responderSPI := 9, flags := flagResponse }
  let b ← b.push PayloadType.sa false sa
  let b ← b.push PayloadType.ke false (appendKE ⟨transformDHCurve25519, List.replicate 32 5⟩)
  let b ← b.push PayloadType.nonce false (List.replicate 32 6)
  .ok b.finish

def protectedResponse (cfg : Config) (s : State) (msgID : UInt32) (parts : List CesPayloadPart) :
    List Packet :=
  let env := { stateIKEEnvelope s with
    isOriginalInitiator := false, peer := ⟨false, false, true⟩ }
  match ((buildProtectedEnvelopeAs (some cfg) env ExchangeType.ikeAuth msgID (firstType parts)
      (cesBuildChain parts) (responseFlags env)).run zeroRng).1 with
  | .ok frames => frames.map fun f => ⟨f.kind, f.payload⟩
  | .error _ => []

def sampleIDr : Bytes := appendID ⟨IDType.fqdn, ascii "a.gw"⟩

def eapParts : List CesPayloadPart :=
  [⟨PayloadType.idr, sampleIDr⟩,
    ⟨PayloadType.notify, [0, 0] ++ putUint16 NotifyType.eapOnlyAuthentication⟩,
    ⟨PayloadType.eap, [3, 1, 0, 4]⟩]

def sampleAuth (s : State) : Bytes :=
  match authMaterial s with
  | .ok (sel, keys) => appendAuth ⟨AuthMethod.sharedKeyMIC, authMAC sel.prf (peerAuthSecret s keys)
      (s.saInitResponse ++ s.initiatorNonce ++ macedID sel.prf keys.skpr sampleIDr)⟩
  | .error _ => []

/-- The selector of the assigned address. -/
def sampleTS : Bytes :=
  [1, 0, 0, 0, tsTypeIPv4AddrRange, 0, 0, 16, 0, 0, 0xff, 0xff, 10, 0, 0, 2, 10, 0, 0, 2]

/-- The final response, with a child SA whose outbound SPI is given. -/
def finalResponseParts (s : State) (spi : Bytes) : List CesPayloadPart :=
  let sa := do
    let transforms ← espOfferTransforms ⟨cbcProposal.encryption, cbcProposal.integrity, [], false⟩
    appendSA ⟨[⟨1, deleteProtocolESP, spi, transforms⟩]⟩
  [⟨PayloadType.auth, sampleAuth s⟩, ⟨PayloadType.sa, sa.toOption.getD []⟩,
    ⟨PayloadType.tsi, sampleTS⟩, ⟨PayloadType.tsr, sampleTS⟩,
    ⟨PayloadType.cp, [ConfigType.reply, 0, 0, 0, 0, 1, 0, 4, 10, 0, 0, 2]⟩]

def deliverTo (cfg : HandshakeConfig) (now : Time) (pkt : Packet) (o : Outcome Unit) : Outcome Unit :=
  step cfg sampleMethod now (.packet (some pkt)) o

/-- The handshake after the IKE_SA_INIT exchange. -/
def sampleKeyed (cfg : HandshakeConfig) : Outcome Unit :=
  let o := start cfg sampleWorker
  deliverTo cfg 1 (sampleResponse o.worker.state) o

/-- The only datagram of a short response. -/
def onlyPacket (pkts : List Packet) : Packet := pkts.headD ⟨.ike, []⟩

def sampleProven (cfg : HandshakeConfig) : Outcome Unit :=
  let o := sampleKeyed cfg
  deliverTo cfg 2 (onlyPacket (protectedResponse cfg.toConfig o.worker.state 1 eapParts)) o

end Sample

end Handshake

end Swan.Control
