import Swan.Payload.Basic
import Swan.Payload.SA
import Swan.Xcrypto.Suite

/-! # The state of the control plane

The live state of an IKE SA, owned by the handshake and then by the running actor, the
configuration, and the messages to the data plane. A pointer that may be nil is an `Option`. Times
and durations are in nanoseconds. -/

namespace Swan.Control

open Swan.Lib Swan.Wire Swan.Payload Swan.Xcrypto

abbrev Time := ℤ
abbrev Duration := ℤ

def second : Duration := 1000000000

/-! ### Frames -/

/-- What a NAT-T datagram carries. -/
inductive Kind where
  | ike
  | esp
  | keepalive
  deriving DecidableEq, Repr

/-- An outbound datagram. -/
structure Frame where
  kind : Kind
  payload : Bytes
  deriving DecidableEq, Repr

/-- An inbound datagram. -/
structure Packet where
  kind : Kind
  payload : Bytes
  deriving DecidableEq, Repr

/-! ### Configuration -/

structure Timeouts where
  initialRTO : Duration
  maxRTO : Duration
  maxRetries : ℕ
  keepalive : Duration
  skfReassemblyTimeout : Duration
  deriving DecidableEq, Repr

structure RekeyConfig where
  ikeTime : Duration
  childTime : Duration
  childPFS : Bool
  randTime : Duration
  retryInterval : Duration
  deriving DecidableEq, Repr

/-- The configuration that the modelled functions read. -/
structure Config where
  ike : List Xcrypto.Proposal
  esp : List Xcrypto.Proposal
  strongswanCompatible : Bool
  rekey : RekeyConfig
  timeouts : Timeouts
  /-- The plaintext size above which protected messages are fragmented; 0 for the default. -/
  fragmentPlaintextLimit : ℕ
  /-- Whether the channel to the data plane is there. -/
  dataUpdates : Bool
  deriving DecidableEq, Repr

/-! ### State -/

inductive Phase where
  | stopped
  | starting
  | saInitSent
  | saInitEstablished
  | authBootstrap
  | authEAPInProgress
  | childInstalling
  | running
  | rekeyChildRequesting
  | rekeyChildInstalling
  | rekeyChildDeletingOld
  | rekeyIkeRequesting
  | rekeyIkeInstalling
  | rekeyIkeDeletingOld
  | failed
  deriving DecidableEq, Repr

/-- The NAT-D hashes and the verdict. -/
structure NatState where
  sourceHashLocal : Bytes
  destinationHashLocal : Bytes
  sourceHashRemote : Bytes
  destinationHashRemote : Bytes
  detected : Bool
  deriving DecidableEq, Repr

/-- What was learned from IKE_AUTH responses. -/
structure AuthState where
  firstIDiPayload : Bytes
  peerIDr : Bytes
  peerAuthMethod : UInt8
  peerSignatureHashAlgorithms : List UInt16
  peerCerts : List Bytes
  localEAPMSK : Bytes
  deriving DecidableEq, Repr

/-- The child SA of the initiator before it is confirmed. -/
structure NegotiatingChildSA where
  inboundSPI : UInt32
  deriving DecidableEq, Repr

/-- A child SA: its SPIs, traffic selectors, and whether we initiated its exchange. -/
structure ChildSA where
  inboundSPI : UInt32
  outboundSPI : UInt32
  tsi : Bytes
  tsr : Bytes
  localChildInitiator : Bool
  deriving DecidableEq, Repr

structure AssignedConfig where
  internalIPv4 : Option Bytes
  internalIPv6 : Option Bytes
  internalIPv6Prefix : UInt8
  dns4 : List Bytes
  dns6 : List Bytes
  /-- The lifetime of the lease, 0 if the responder sent none. -/
  addressExpirySeconds : UInt32
  deriving DecidableEq, Repr

/-- The SA family of a rekey. -/
inductive RekeyKind where
  | child
  | ike
  deriving DecidableEq, Repr

/-- Why a rekey started. -/
inductive RekeyTrigger where
  | time
  | nearWrap
  | flow
  deriving DecidableEq, Repr

/-- The single rekey in flight. -/
structure RekeyContext where
  kind : RekeyKind
  trigger : RekeyTrigger
  startedAt : Time
  /-- The message id of the request on the old SA. -/
  messageID : UInt32
  ni : Bytes
  localDH : Option DHKey
  localKE : Option KeyExchange
  oldChild : Option ChildSA
  newChild : Option NegotiatingChildSA
  newInitiatorSPI : UInt64
  newNonceN : Bytes
  newResponderSPI : UInt64
  deriving DecidableEq, Repr

/-- An outbound request kept for retransmission. -/
structure Checkpoint where
  messageID : UInt32
  packets : List Frame
  deriving DecidableEq, Repr

/-- A response kept for a duplicate of its request. -/
structure CachedResponse where
  messageID : UInt32
  responsePackets : List Frame
  deriving DecidableEq, Repr

/-- The inbound fragments of one message. A slot is empty until its fragment arrives. -/
structure FragmentReassembly where
  exchangeType : ExchangeType
  messageID : UInt32
  firstInnerPayload : PayloadType
  fragments : Table Bytes
  expiresAt : Time
  deriving DecidableEq, Repr

/-- The replaced IKE SA until its DELETE completes; it keeps its own numbering. -/
structure OldIKEContext where
  initiatorSPI : UInt64
  responderSPI : UInt64
  isOriginalInitiator : Bool
  selectedIKE : Option Selection
  ikeKeys : Option IKEKeys
  nextRequestMessageID : UInt32
  expectedResponseMessageID : UInt32
  hasExpectedResponse : Bool
  outboundRequest : Option Checkpoint
  inboundHistory : List CachedResponse
  inboundFragments : Option FragmentReassembly
  deriving DecidableEq, Repr

structure PeerCapabilities where
  supportsEAPOnlyAuthentication : Bool
  supportsMessageIDSync : Bool
  supportsFragmentation : Bool
  deriving DecidableEq, Repr

/-- The live IKE SA state. -/
structure State where
  phase : Phase
  nextRequestMessageID : UInt32
  expectedResponseMessageID : UInt32
  hasExpectedResponse : Bool
  lastCompletedResponseMessageID : UInt32
  hasLastCompletedResponse : Bool
  firstIKEAuthSeen : Bool
  isOriginalInitiator : Bool
  initiatorSPI : UInt64
  responderSPI : UInt64
  saInitRequest : Bytes
  saInitResponse : Bytes
  cookie : Bytes
  initiatorNonce : Bytes
  responderNonce : Bytes
  initiatorKE : KeyExchange
  responderKE : KeyExchange
  localDH : Option DHKey
  ikeKeys : Option IKEKeys
  selectedIKE : Option Selection
  selectedESP : Option Selection
  nat : NatState
  auth : AuthState
  negotiatingChild : Option NegotiatingChildSA
  activeChild : Option ChildSA
  /-- The replaced child while its DELETE is outstanding. -/
  oldChild : Option ChildSA
  rekey : Option RekeyContext
  /-- The replaced IKE SA until its DELETE completes. -/
  oldIKE : List OldIKEContext
  /-- The request in flight, kept for retransmission. -/
  outboundRequest : Option Checkpoint
  /-- The responses to peer requests, kept for replay. -/
  inboundHistory : List CachedResponse
  peer : PeerCapabilities
  inboundFragments : Option FragmentReassembly
  assigned : Option AssignedConfig
  failureReason : String
  suppressAuthFailedNotify : Bool
  deriving DecidableEq, Repr

def newState : State where
  phase := .stopped
  nextRequestMessageID := 0
  expectedResponseMessageID := 0
  hasExpectedResponse := false
  lastCompletedResponseMessageID := 0
  hasLastCompletedResponse := false
  firstIKEAuthSeen := false
  isOriginalInitiator := true
  initiatorSPI := 0
  responderSPI := 0
  saInitRequest := []
  saInitResponse := []
  cookie := []
  initiatorNonce := []
  responderNonce := []
  initiatorKE := ⟨0, []⟩
  responderKE := ⟨0, []⟩
  localDH := none
  ikeKeys := none
  selectedIKE := none
  selectedESP := none
  nat := ⟨[], [], [], [], false⟩
  auth := ⟨[], [], 0, [], [], []⟩
  negotiatingChild := none
  activeChild := none
  oldChild := none
  rekey := none
  oldIKE := []
  outboundRequest := none
  inboundHistory := []
  peer := ⟨false, false, false⟩
  inboundFragments := none
  assigned := none
  failureReason := ""
  suppressAuthFailedNotify := false

def State.withFragments (f : Option FragmentReassembly) (s : State) : State :=
  { s with inboundFragments := f }

@[simp] theorem State.inboundFragments_withFragments (f : Option FragmentReassembly) (s : State) :
    (s.withFragments f).inboundFragments = f := rfl

@[simp] theorem State.withFragments_withFragments (f g : Option FragmentReassembly) (s : State) :
    (s.withFragments f).withFragments g = s.withFragments g := rfl

/-- Wipe keys, nonces, children, checkpoints and fragments. -/
def State.clearSession (s : State) : State :=
  { s with
    ikeKeys := none
    initiatorNonce := []
    responderNonce := []
    cookie := []
    negotiatingChild := none
    activeChild := none
    oldChild := none
    rekey := none
    oldIKE := []
    outboundRequest := none
    inboundHistory := []
    inboundFragments := none
    assigned := none
    localDH := none
    auth := { s.auth with
      localEAPMSK := []
      firstIDiPayload := []
      peerIDr := []
      peerSignatureHashAlgorithms := []
      peerCerts := [] }
    saInitRequest := []
    saInitResponse := []
    hasExpectedResponse := false
    hasLastCompletedResponse := false
    firstIKEAuthSeen := false
    suppressAuthFailedNotify := false }

/-! ### Messages to the data plane -/

/-- An install, a deletion or a configuration change for the data plane. -/
inductive DataplaneUpdate where
  | childInstalled (child : ChildSA) (keys : ChildKeys) (selection : Selection)
  | childDeleted (child : ChildSA)
  | assigned (config : AssignedConfig)
  deriving DecidableEq, Repr

end Swan.Control
