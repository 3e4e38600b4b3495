import Swan.Control.Rekey

/-! # The control actor

The state of the actor that owns an IKE SA after the handshake, and the small operations from which
its handlers are made. The `World` holds what the actor does not decide: the random source, whether
a blocking operation is cancelled, whether the data plane acknowledges. It also keeps the log of
what the actor has put on its channels. IKE SAs are numbered in the order in which they become
current; the number, the purpose of a frame and the entries other than frames and updates are notes
on the log that no operation reads. -/

namespace Swan.Control

open Swan.Lib Swan.Wire Swan.Payload Swan.Xcrypto

/-! ### The log -/

/-- Why a frame was sent. -/
inductive Purpose where
  /-- A request, for the first time. -/
  | request
  | retransmission
  | response
  /-- A cached response, for a repeated request. -/
  | replay
  deriving DecidableEq, Repr

/-- What a request of the actor asks for. -/
inductive RequestKind where
  | keepalive
  | lease
  | rekey (kind : RekeyKind)
  /-- The DELETE of the child with this inbound SPI. -/
  | deleteChild (spi : UInt32)
  deriving DecidableEq, Repr

/-- What has happened so far. -/
inductive Entry where
  /-- A frame of the message `msgID` on the IKE SA number `sa` went to the transport. -/
  | frame (sa : ℕ) (purpose : Purpose) (msgID : UInt32) (frame : Frame)
  | update (u : DataplaneUpdate)
  /-- The actor issued the request `msgID`. -/
  | asked (sa : ℕ) (msgID : UInt32) (kind : RequestKind)
  /-- The authenticated response to the request `msgID` was accepted. -/
  | accepted (sa : ℕ) (msgID : UInt32)
  /-- The actor stopped to wait for the response to the request `msgID`. -/
  | gaveUp (sa : ℕ) (msgID : UInt32)
  /-- The peer has deleted the child with this outbound SPI: a replaced one or not. -/
  | peerDeleted (spi : UInt32) (replaced : Bool)
  /-- The CREATE_CHILD_SA request `msgID` of the peer was answered with an error notify. -/
  | refused (msgID : UInt32) (type : NotifyType)
  deriving DecidableEq, Repr

def logFrames (log : List Entry) : List Frame :=
  log.filterMap fun
    | .frame _ _ _ f => some f
    | _ => none

def logUpdates (log : List Entry) : List DataplaneUpdate :=
  log.filterMap fun
    | .update u => some u
    | _ => none

/-! ### The actor -/

/-- How waiting for the acknowledgement of an install ends. -/
inductive AckOutcome where
  | acked
  | timedOut
  | canceled
  deriving DecidableEq, Repr

/-- What the actor does not decide, for the operations to come, and the log. -/
structure World where
  rng : Rng
  /-- The draws of the pseudorandom generator. -/
  jitter : ℕ → ℕ
  /-- Whether the context ends before a blocking send. -/
  cancel : ℕ → Bool
  ack : ℕ → AckOutcome
  /-- Whether the channel to the data plane is full at a send that does not block. -/
  full : ℕ → Bool
  log : List Entry

/-- The control actor after the handshake. An armed timer has a deadline. -/
structure Running where
  state : State
  ikeSoft : Option Time
  childSoft : Option Time
  leaseTimer : Option Time
  retryTimer : Option Time
  /-- The hard expiry of the current lease. -/
  leaseDeadline : Option Time
  leasePending : Bool
  retryKind : RekeyKind
  retryTrigger : RekeyTrigger
  /-- The number of the current IKE SA. -/
  sa : ℕ
  world : World

namespace Running

def oldSA (r : Running) : ℕ := r.sa - r.state.oldIKE.length

/-- The actor with its state changed by `f`. -/
def mapState (f : State → State) (r : Running) : Running := { r with state := f r.state }

def logged (e : Entry) (r : Running) : Running :=
  { r with world := { r.world with log := r.world.log ++ [e] } }

end Running

def onState {α : Type} (x : Eff State α) : Eff Running α :=
  x.zoom Running.state fun s r => { r with state := s }

/-- Run a computation on the random source. -/
def onRng {α : Type} (x : Eff Rng α) : Eff Running α :=
  x.zoom (fun r => r.world.rng) fun g r => { r with world := { r.world with rng := g } }

def modifyState (f : State → State) : Eff Running Unit := Eff.modify (Running.mapState f)

@[simp] theorem run_modifyState (f : State → State) (r : Running) :
    (modifyState f).run r = (.ok (), r.mapState f) := rfl

def record (e : Entry) : Eff Running Unit := Eff.modify (Running.logged e)

@[simp] theorem run_record (e : Entry) (r : Running) :
    (record e).run r = (.ok (), r.logged e) := rfl

/-- The next draw of the pseudorandom generator. -/
def drawJitter : Eff Running ℕ := fun r =>
  (.ok (r.world.jitter 0),
    { r with world := { r.world with jitter := fun k => r.world.jitter (k + 1) } })

/-- Whether the next blocking send is cancelled. -/
def drawCancel : Eff Running Bool := fun r =>
  (.ok (r.world.cancel 0),
    { r with world := { r.world with cancel := fun k => r.world.cancel (k + 1) } })

def drawAck : Eff Running AckOutcome := fun r =>
  (.ok (r.world.ack 0), { r with world := { r.world with ack := fun k => r.world.ack (k + 1) } })

def drawFull : Eff Running Bool := fun r =>
  (.ok (r.world.full 0), { r with world := { r.world with full := fun k => r.world.full (k + 1) } })

theorem wp_drawCancel (Q : Except Err Bool → Running → Prop) (r : Running) :
    drawCancel.wp Q r ↔ Q (.ok (r.world.cancel 0)) (drawCancel.run r).2 := Iff.rfl

theorem wp_drawAck (Q : Except Err AckOutcome → Running → Prop) (r : Running) :
    drawAck.wp Q r ↔ Q (.ok (r.world.ack 0)) (drawAck.run r).2 := Iff.rfl

/-! ### State updates -/

def maxInboundResponseHistory : ℕ := 4

/-- The retained IKE SA after its DELETE got a message id. -/
def OldIKEContext.begin (o : OldIKEContext) : OldIKEContext :=
  { o with nextRequestMessageID := o.nextRequestMessageID + 1 }

/-- The retained IKE SA with its DELETE in flight. -/
def OldIKEContext.deleting (msgID : UInt32) (frames : List Frame) (o : OldIKEContext) :
    OldIKEContext :=
  { o with
    outboundRequest := some ⟨msgID, frames⟩
    expectedResponseMessageID := msgID
    hasExpectedResponse := true }

/-- The retained IKE SA with a stored response. -/
def OldIKEContext.remember (msgID : UInt32) (frames : List Frame) (o : OldIKEContext) :
    OldIKEContext :=
  { o with inboundHistory := o.inboundHistory ++ [⟨msgID, frames⟩] }

/-- The retained IKE SA after its DELETE was given up. -/
def OldIKEContext.giveUp (o : OldIKEContext) : OldIKEContext :=
  { o with hasExpectedResponse := false, outboundRequest := none }

namespace State

/-- The state after the next message id was taken for a request. -/
def beginRequest (s : State) : State :=
  { s with
    nextRequestMessageID := s.nextRequestMessageID + 1
    expectedResponseMessageID := s.nextRequestMessageID
    hasExpectedResponse := true }

/-- The state with the packets of the request in flight stored. -/
def setOutbound (msgID : UInt32) (frames : List Frame) (s : State) : State :=
  { s with outboundRequest := some ⟨msgID, frames⟩ }

def dropRequest (s : State) : State :=
  { s with hasExpectedResponse := false, outboundRequest := none, inboundFragments := none }

/-- The state after the request `msgID` was answered. -/
def answered (msgID : UInt32) (s : State) : State :=
  { s.dropRequest with hasLastCompletedResponse := true, lastCompletedResponseMessageID := msgID }

def startRekey (rc : RekeyContext) (frames : List Frame) (s : State) : State :=
  { s.setOutbound rc.messageID frames with
    rekey := some rc
    phase := match rc.kind with
      | .child => .rekeyChildRequesting
      | .ike => .rekeyIkeRequesting }

def startDeleteOldChild (msgID : UInt32) (frames : List Frame) (s : State) : State :=
  { s.setOutbound msgID frames with phase := .rekeyChildDeletingOld }

def finishDeleteOldChild (s : State) : State :=
  { s with
    oldChild := none
    phase := .running
    hasExpectedResponse := false
    outboundRequest := none }

/-- The state after the peer has deleted the replaced child. -/
def dropOldChild (s : State) : State :=
  { s with
    oldChild := none
    phase := if s.phase = .rekeyChildDeletingOld then .running else s.phase }

def installChildRekey (child : ChildSA) (selection : Selection) (s : State) : State :=
  { s.dropRequest with
    selectedESP := some selection
    activeChild := some child
    oldChild := s.activeChild
    rekey := none }

def installPeerChild (old child : ChildSA) (selection : Selection) (s : State) : State :=
  { s with selectedESP := some selection, oldChild := some old, activeChild := some child }

def abandonRekey (s : State) : State :=
  { s.dropRequest with rekey := none, oldChild := none, oldIKE := [], phase := .running }

/-- The state after a response was stored for replay; the oldest ones go. -/
def rememberResponse (msgID : UInt32) (frames : List Frame) (s : State) : State :=
  let history := s.inboundHistory ++ [⟨msgID, frames⟩]
  { s with inboundHistory := history.drop (history.length - maxInboundResponseHistory) }

/-- The stored response to a request. -/
def replayCachedFrames (s : State) (msgID : UInt32) : Option (List Frame) :=
  (s.inboundHistory.reverse.find? fun entry => entry.messageID = msgID).map
    CachedResponse.responsePackets

/-- The current IKE SA as a retained one. -/
def toOldIKE (s : State) : OldIKEContext where
  initiatorSPI := s.initiatorSPI
  responderSPI := s.responderSPI
  isOriginalInitiator := s.isOriginalInitiator
  selectedIKE := s.selectedIKE
  ikeKeys := s.ikeKeys
  nextRequestMessageID := s.nextRequestMessageID
  expectedResponseMessageID := s.expectedResponseMessageID
  hasExpectedResponse := false
  outboundRequest := none
  inboundHistory := s.inboundHistory
  inboundFragments := none

/-- The state after a new IKE SA became current and the previous one was retained. -/
def installIKE (spiI spiR : UInt64) (isOriginalInitiator : Bool) (ni nr : Bytes) (keys : IKEKeys)
    (selection : Selection) (s : State) : State :=
  { s with
    initiatorSPI := spiI
    responderSPI := spiR
    isOriginalInitiator
    initiatorNonce := ni
    responderNonce := nr
    ikeKeys := some keys
    selectedIKE := some selection
    nextRequestMessageID := 0
    expectedResponseMessageID := 0
    hasExpectedResponse := false
    lastCompletedResponseMessageID := 0
    hasLastCompletedResponse := false
    outboundRequest := none
    inboundHistory := []
    inboundFragments := none
    saInitRequest := []
    saInitResponse := []
    oldIKE := s.oldIKE ++ [s.toOldIKE]
    rekey := none
    phase := .rekeyIkeDeletingOld }

/-- The state with its first retained IKE SA changed. -/
def mapOldIKE (f : OldIKEContext → OldIKEContext) (s : State) : State :=
  match s.oldIKE with
  | [] => s
  | old :: rest => { s with oldIKE := f old :: rest }

/-- The state after the retained IKE SA is gone. -/
def finishOldIKEDelete (s : State) : State := { s with oldIKE := [], phase := .running }

end State

/-! ### Operations of the actor -/

/-- Put frames on the transport queue. The end of the context unblocks a full queue. -/
def sendFrames (sa : ℕ) (purpose : Purpose) (msgID : UInt32) (frames : List Frame) :
    Eff Running Unit :=
  Eff.forEach (fun frame => do
    if ← drawCancel then Eff.fail .canceled else record (.frame sa purpose msgID frame)) frames

/-- Take the next message id of the current IKE SA. -/
def beginRequest : Eff Running UInt32 := do
  let r ← Eff.get
  modifyState State.beginRequest
  pure r.state.nextRequestMessageID

theorem wp_beginRequest (Q : Except Err UInt32 → Running → Prop) (r : Running) :
    beginRequest.wp Q r ↔ Q (.ok r.state.nextRequestMessageID) (r.mapState State.beginRequest) :=
  Iff.rfl

/-- Note that the actor no longer waits for the response to its request, if it did. -/
def noteGivenUp : Eff Running Unit := do
  let r ← Eff.get
  Eff.when r.state.hasExpectedResponse (record (.gaveUp r.sa r.state.expectedResponseMessageID))

variable (cfg : Config) (now : Time)

def armRetryTimer : Eff Running Unit := do
  let draw ← drawJitter
  Eff.modify fun r =>
    { r with retryTimer := some (now + retryBackoff cfg.rekey.retryInterval draw) }

/-- Clear a failed rekey and schedule a retry. The current SAs remain. -/
def abandonRekey (retry : Bool) : Eff Running Unit := do
  noteGivenUp
  modifyState State.abandonRekey
  Eff.when retry (armRetryTimer cfg now)

def resetChildSoft : Eff Running Unit := do
  let draw ← drawJitter
  Eff.modify fun r => { r with
    childSoft := some (now + rekeyDeadline cfg.rekey.childTime cfg.rekey.randTime draw) }

def resetIkeSoft : Eff Running Unit := do
  let draw ← drawJitter
  Eff.modify fun r => { r with
    ikeSoft := some (now + rekeyDeadline cfg.rekey.ikeTime cfg.rekey.randTime draw) }

def armLeaseTimer : Eff Running Unit :=
  Eff.modify fun r =>
    match r.state.assigned with
    | none => r
    | some a =>
      if a.addressExpirySeconds = 0 then r
      else { r with
        leaseDeadline := some (now + a.addressExpirySeconds.toNat * second)
        leaseTimer := some (now + leaseRenewDelay a.addressExpirySeconds) }

/-- Put an update on the channel to the data plane unless it is full. -/
def offerUpdate (u : DataplaneUpdate) : Eff Running Unit :=
  if cfg.dataUpdates then do
    if ← drawFull then pure () else record (.update u)
  else pure ()

def dataplaneChildDeleted (child : ChildSA) : Eff Running Unit :=
  offerUpdate cfg (.childDeleted child)

/-- Hand a child to the data plane and wait for the acknowledgement. -/
def installChild (child : ChildSA) (keys : ChildKeys) (selection : Selection) : Eff Running Unit :=
  if !cfg.dataUpdates then
    Eff.fail (.errorf "control: data-plane update channel is not wired")
  else do
    if ← drawCancel then Eff.fail .canceled
    else
      record (.update (.childInstalled child keys selection))
      match ← drawAck with
      | .acked => pure ()
      | .timedOut => Eff.fail (.errorf "control: data-plane child install ack timed out")
      | .canceled => Eff.fail .canceled

/-- Store an assigned configuration, start the lease over if it has an expiry, and tell the data
plane if it changed: whether it changed, and the stored value. -/
def applyConfigUpdate (incoming : AssignedConfig) (present : CesAssignedMask)
    (mode : ConfigApplyMode) : Eff Running (Bool × AssignedConfig) := do
  let r ← Eff.get
  let next := updatedAssigned r.state.assigned incoming present mode
  modifyState fun s => { s with assigned := some next }
  Eff.when (next.addressExpirySeconds > 0) (armLeaseTimer now)
  Eff.when (r.state.assigned ≠ some next) (offerUpdate cfg (.assigned next))
  pure (decide (r.state.assigned ≠ some next), next)

/-- Try a renewal again later, or fail once the lease has expired. -/
def leaseRetryOrExpire : Eff Running Unit := do
  noteGivenUp
  Eff.modify fun r => { r with leasePending := false, state := r.state.dropRequest }
  let r ← Eff.get
  if (r.state.assigned.map AssignedConfig.addressExpirySeconds).getD 0 = 0 then pure ()
  else
    match r.leaseDeadline with
    | none => Eff.fail (.errorf "control: CP address lease expired")
    | some deadline =>
      if now ≥ deadline then
        Eff.fail (.errorf s!"control: CP address lease expired at {deadline}")
      else
        Eff.modify fun r =>
          { r with leaseTimer := some (now + leaseRetryDelay now (deadline - now)) }

/-- Store a sent response for replay. -/
def rememberResponse (msgID : UInt32) (frames : List Frame) : Eff Running Unit :=
  modifyState (State.rememberResponse msgID frames)

variable [Crypto]

/-- Seal a message on the current IKE SA. -/
def sealCurrent (sealCfg : Option Config) (exchange : ExchangeType) (msgID : UInt32)
    (nextPayload : PayloadType) (plaintext : Bytes) (flags : IkeEnvelope → Flags) :
    Eff Running (List Frame) := do
  let r ← Eff.get
  onRng (buildProtectedStateAs sealCfg r.state exchange msgID nextPayload plaintext
    (flags (stateIKEEnvelope r.state)))

/-- Seal a response on the current IKE SA, send it and store it. -/
def respond (sealCfg : Option Config) (exchange : ExchangeType) (msgID : UInt32)
    (nextPayload : PayloadType) (plaintext : Bytes) : Eff Running Unit := do
  let frames ← sealCurrent sealCfg exchange msgID nextPayload plaintext responseFlags
  let r ← Eff.get
  sendFrames r.sa .response msgID frames
  rememberResponse msgID frames

/-- Take a message id, seal a request on the current IKE SA, store it as the one in flight by
`store`, and send it. -/
def issueRequest (cfg : Config) (kind : RequestKind) (exchange : ExchangeType)
    (nextPayload : PayloadType) (plaintext : Except Err Bytes)
    (store : UInt32 → List Frame → Running → Running) : Eff Running Unit := do
  let r ← Eff.get
  let msgID ← beginRequest
  let plaintext ← Eff.lift plaintext
  let frames ← sealCurrent (some cfg) exchange msgID nextPayload plaintext requestFlags
  Eff.modify (store msgID frames)
  record (.asked r.sa msgID kind)
  sendFrames r.sa .request msgID frames

end Swan.Control
