import Swan.Control.RunningRekey
import Swan.Payload.Authentication

/-! # The exchanges of the handshake

The worker that owns the state of the SA until it is established, and how it carries one request and
its response: it sends the request, keeps the packets for retransmission and waits. The wait is
modelled event by event. An event is a datagram, the end of the inbound channel or of the context, or
the retransmission timer; each receive loop of the source is a function of one event that returns
`none` while the loop goes on. The local variables of a loop are a `Wait`. The clock is read once for
an event. -/

namespace Swan.Control

open Swan.Lib Swan.Wire Swan.Payload Swan.Xcrypto

/-- The configuration of a handshake. An address that is not given is empty. -/
structure HandshakeConfig extends Config where
  idi : ID
  rightID : ID
  localIP : Bytes
  peerIP : Bytes
  insecureSkipPeerCertVerify : Bool
  deriving DecidableEq, Repr

/-! ### The worker -/

/-- The local variables of a receive loop; the timer fires at the deadline. -/
structure Wait where
  rto : Duration
  retries : ℕ
  deadline : Time
  deriving DecidableEq, Repr

/-- A frame that was handed to the transport. -/
structure Sent where
  time : Time
  purpose : Purpose
  frame : Frame
  deriving DecidableEq, Repr

/-- The worker, what it does not decide, and the log of what it has sent. -/
structure Handshake where
  state : State
  wait : Wait
  clock : Time
  rng : Rng
  /-- Whether the context ends before a blocking send. -/
  cancel : ℕ → Bool
  /-- Whether the queue of the transport is full at a send that does not block. -/
  full : ℕ → Bool
  sent : List Sent

/-- What a receive loop selects on. -/
inductive Handshake.Event where
  | packet (pkt : Option Packet)
  | timer
  | closed
  | done
  deriving DecidableEq, Repr

namespace Handshake

def mapState (f : State → State) (h : Handshake) : Handshake := { h with state := f h.state }

def onState {α : Type} (x : Eff State α) : Eff Handshake α :=
  x.zoom Handshake.state fun s h => { h with state := s }

def onRng {α : Type} (x : Eff Rng α) : Eff Handshake α :=
  x.zoom Handshake.rng fun g h => { h with rng := g }

def modifyState (f : State → State) : Eff Handshake Unit := Eff.modify (mapState f)

def drawCancel : Eff Handshake Bool := fun h =>
  (.ok (h.cancel 0), { h with cancel := fun k => h.cancel (k + 1) })

def drawFull : Eff Handshake Bool := fun h =>
  (.ok (h.full 0), { h with full := fun k => h.full (k + 1) })

/-! ### Requests -/

def logSent (purpose : Purpose) (frame : Frame) (h : Handshake) : Handshake :=
  { h with sent := h.sent ++ [⟨h.clock, purpose, frame⟩] }

def sendFrame (purpose : Purpose) (frame : Frame) : Eff Handshake Unit := do
  if ← drawCancel then Eff.fail .canceled else Eff.modify (logSent purpose frame)

/-- Hand over one frame unless the queue is full. -/
def offerFrame (purpose : Purpose) (frame : Frame) : Eff Handshake Unit := do
  if ← drawFull then pure () else Eff.modify (logSent purpose frame)

/-- The state after the next message id was taken for a request; the last id is taken again. -/
def begun (s : State) : State :=
  { s with
    expectedResponseMessageID := s.nextRequestMessageID
    hasExpectedResponse := true
    nextRequestMessageID :=
      if s.nextRequestMessageID ≠ 0xffffffff then s.nextRequestMessageID + 1
      else s.nextRequestMessageID }

def beginRequest : Eff Handshake UInt32 := do
  let h ← Eff.get
  modifyState begun
  pure h.state.nextRequestMessageID

def sendRequest (packets : List Frame) : Eff Handshake Unit := do
  let h ← Eff.get
  if h.state.hasExpectedResponse = false then
    Eff.fail (.errorf "control: sendRequest without an expected response message-id")
  else do
    modifyState fun s => s.setOutbound s.expectedResponseMessageID packets
    Eff.forEach (sendFrame .request) packets

/-! ### Responses -/

/-- What an inbound packet is to the request that is outstanding. -/
inductive Disposition where
  | expected
  | duplicateOrStale
  | ignore
  deriving DecidableEq, Repr

def classifyResponse (s : State) (hdr : Header) (msgID : UInt32) : Except Err Disposition :=
  if hdr.initiatorSPI ≠ s.initiatorSPI then .ok .ignore
  else if s.responderSPI ≠ 0 ∧ hdr.responderSPI ≠ s.responderSPI then .ok .ignore
  else do
    validateResponseEnvelopeForRole hdr s.isOriginalInitiator
    let id := hdr.messageID
    if id = msgID then .ok .expected
    else if id < msgID ∧ s.hasLastCompletedResponse ∧ id ≤ s.lastCompletedResponseMessageID then
      .ok .duplicateOrStale
    else if id < msgID then
      .error (.errorf s!"control: stale response message-id {id} while waiting for {msgID}")
    else .error (.errorf s!"control: future response message-id {id} while waiting for {msgID}")

def debugExchangeName (t : ExchangeType) : String :=
  if t = ExchangeType.ikeSAInit then "IKE_SA_INIT"
  else if t = ExchangeType.ikeAuth then "IKE_AUTH"
  else if t = ExchangeType.createChild then "CREATE_CHILD_SA"
  else if t = ExchangeType.informational then "INFORMATIONAL"
  else "#0x" ++ String.ofList (Nat.toDigits 16 t.toNat)

def validateResponseHeader (hdr : Header) (exchange : ExchangeType) (msgID : UInt32) :
    Eff State Unit := do
  let s ← Eff.get
  Eff.lift (validateResponseEnvelopeForRole hdr s.isOriginalInitiator)
  if hdr.initiatorSPI ≠ s.initiatorSPI then
    Eff.fail (.errorf "control: initiator SPI mismatch in response")
  else if s.responderSPI ≠ 0 ∧ hdr.responderSPI ≠ s.responderSPI then
    Eff.fail (.errorf "control: responder SPI mismatch in response")
  else if hdr.exchangeType ≠ exchange then
    Eff.fail (.errorf (s!"control: unexpected exchange type {debugExchangeName hdr.exchangeType}, " ++
      s!"want {debugExchangeName exchange}"))
  else if hdr.messageID ≠ msgID then
    Eff.fail (.errorf s!"control: unexpected message-id {hdr.messageID}, want {msgID}")
  else if exchange = ExchangeType.ikeSAInit then
    if hdr.responderSPI = 0 then
      if hdr.nextPayload ≠ PayloadType.notify then
        Eff.fail (.errorf
          "control: IKE_SA_INIT without responder SPI must start with a NOTIFY payload")
      else pure ()
    -- a responder SPI is kept even if the response asks for another attempt
    else Eff.modify fun s => { s with responderSPI := hdr.responderSPI }
  else pure ()

/-! ### The receive loops -/

/-- The local variables at the start of a receive loop. -/
def startWait (cfg : Config) : Eff Handshake Unit := Eff.modify fun h =>
  { h with wait := ⟨cfg.timeouts.initialRTO, 0, h.clock + cfg.timeouts.initialRTO⟩ }

/-- Start the timer again with the current timeout. -/
def resetTimer : Eff Handshake Unit := Eff.modify fun h =>
  { h with wait := { h.wait with deadline := h.clock + h.wait.rto } }

/-- Send the outstanding request again and double the timeout. -/
def retransmit (cfg : Config) (step : String) : Eff Handshake Unit := do
  let h ← Eff.get
  match h.state.outboundRequest with
  | none => Eff.fail (.errorf
      s!"control: timed out while waiting for {step} without an outbound checkpoint")
  | some request =>
    if request.messageID ≠ h.state.expectedResponseMessageID then
      Eff.fail (.errorf
        s!"control: outbound request checkpoint mismatch while retransmitting {step}")
    else if h.wait.retries ≥ cfg.timeouts.maxRetries then
      Eff.fail (.errorf (s!"control: timed out waiting for {step} after " ++
        s!"{cfg.timeouts.maxRetries} retransmits"))
    else do
      Eff.modify fun h => { h with wait := { h.wait with retries := h.wait.retries + 1 } }
      modifyState (State.withFragments none)
      Eff.forEach (sendFrame .retransmission) request.packets
      Eff.modify fun h => { h with wait := { h.wait with
        rto := if 2 * h.wait.rto > cfg.timeouts.maxRTO then cfg.timeouts.maxRTO
          else 2 * h.wait.rto } }

/-- What a receive loop does with a message: any other than the expected one is dropped, and the timer
starts again. -/
def dispose (exchange : ExchangeType) (msgID : UInt32) (msg : Message) :
    Disposition → Eff Handshake (Option Message)
  | .expected => do
    onState (validateResponseHeader msg.header exchange msgID)
    pure (some msg)
  | .duplicateOrStale => do resetTimer; pure none
  | .ignore => do resetTimer; pure none

/-- A datagram, if it is the expected response. -/
def receive (exchange : ExchangeType) (msgID : UInt32) (pkt : Packet) :
    Eff Handshake (Option Message) := do
  if pkt.kind ≠ .ike then do resetTimer; pure none
  else
    match parseMessage pkt.payload with
    | .error _ => do resetTimer; pure none
    | .ok msg =>
      let h ← Eff.get
      let disposition ← Eff.lift (classifyResponse h.state msg.header msgID)
      dispose exchange msgID msg disposition

/-- One event of a receive loop; `accept` is what the loop does with the expected response. -/
def await {α : Type} (cfg : Config) (step : String)
    (accept : Packet → Eff Handshake (Option α)) : Event → Eff Handshake (Option α)
  | .packet none => pure none
  | .packet (some pkt) => accept pkt
  | .timer => do
    retransmit cfg step
    resetTimer
    pure none
  | .closed => Eff.fail (.errorf s!"control: inbound channel closed while waiting for {step}")
  | .done => Eff.fail .canceled

/-- The loop that waits for a datagram of the response to an IKE_AUTH request. -/
def waitResponseRaw (cfg : Config) (step : String) (exchange : ExchangeType) (msgID : UInt32) :
    Event → Eff Handshake (Option Bytes) :=
  await cfg step fun pkt => do
    match ← receive exchange msgID pkt with
    | none => pure none
    | some _ => pure (some pkt.payload)

/-- The state after the response to the IKE_SA_INIT request was stored. -/
def recordResponse (raw : Bytes) (s : State) : State :=
  { s with
    saInitResponse := raw
    lastCompletedResponseMessageID := 0
    hasLastCompletedResponse := true
    outboundRequest := none }

/-- The loop that waits for the response to the IKE_SA_INIT request. -/
def waitSAInitResponse (cfg : Config) : Event → Eff Handshake (Option Message) :=
  await cfg "ike_sa_init" fun pkt => do
    match ← receive ExchangeType.ikeSAInit 0 pkt with
    | none => pure none
    | some msg => do
      modifyState (recordResponse pkt.payload)
      pure (some msg)

/-- The state after the response `msgID` was complete. -/
def completed (msgID : UInt32) (s : State) : State :=
  { s with
    lastCompletedResponseMessageID := msgID
    hasLastCompletedResponse := true
    hasExpectedResponse := false
    expectedResponseMessageID := 0
    outboundRequest := none
    inboundFragments := none }

variable [Crypto]

/-- What a datagram of a protected response does: the message once it is complete. After a fragment
that does not complete it, the loop of `waitResponseRaw` is entered anew. -/
def openResponse (cfg : Config) (exchange : ExchangeType) (msgID : UInt32) (raw : Bytes) :
    Eff Handshake (Option Message) := do
  let h ← Eff.get
  let opened ← onState (openProtectedRawState (some cfg) h.clock raw)
  Eff.when (exchange = ExchangeType.ikeAuth) (modifyState fun s => { s with firstIKEAuthSeen := true })
  match opened with
  | none => do
    startWait cfg
    pure none
  | some inner => do
    modifyState (completed msgID)
    let msg ← Eff.lift (parseMessage raw)
    pure (some { msg with payloads := inner, encrypted := none })

/-- The loop that waits for a complete protected response. -/
def recvProtectedPayloads (cfg : Config) (step : String) (exchange : ExchangeType) (msgID : UInt32)
    (ev : Event) : Eff Handshake (Option Message) := do
  match ← waitResponseRaw cfg step exchange msgID ev with
  | none => pure none
  | some raw => openResponse cfg exchange msgID raw

end Handshake

end Swan.Control
