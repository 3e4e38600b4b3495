import Swan.Control.RunningRekey

/-! # The running actor

The packets of an established IKE SA (`processPacket`) and the loop of the actor (`Loop.step`): one
step takes one event at one instant. The loop goes on after a packet that a handler rejects; other
failures end it. A timer fires only while it is armed and its deadline has passed
(`Event.Enabled`). -/

namespace Swan.Control

open Swan.Lib Swan.Wire Swan.Payload Swan.Xcrypto

variable [Crypto] (cfg : Config) (now : Time)

/-! ### Requests of the actor -/

/-- Send an empty INFORMATIONAL request unless a request is outstanding. -/
def sendKeepalive : Eff Running Unit := do
  let r ← Eff.get
  if r.state.hasExpectedResponse then pure ()
  else
    issueRequest cfg .keepalive ExchangeType.informational PayloadType.none (.ok [])
      fun msgID frames => Running.mapState (State.setOutbound msgID frames)

/-- Ask for the assigned addresses again. -/
def sendLeaseRenewal : Eff Running Unit := do
  let r ← Eff.get
  match r.state.assigned with
  | none => pure ()
  | some assigned =>
    issueRequest cfg .lease ExchangeType.informational PayloadType.cp
      (cepSinglePayload <$> appendConfigRenewRequest
        ⟨assigned.internalIPv4, assigned.internalIPv6, assigned.internalIPv6Prefix⟩)
      fun msgID frames r =>
        { r with leasePending := true, state := r.state.setOutbound msgID frames }

def renewedConfig (inner : List Payload) : Option AssignedConfig :=
  ((inner.find? fun p => p.type = PayloadType.cp).filter fun p => p.body.length ≠ 0).bind fun p =>
    (cesDecodeAssigned p.body).toOption

/-- Use the answer to a renewal. -/
def finishLeaseResponse (inner : List Payload) : Eff Running Unit := do
  Eff.modify fun r => { r with leasePending := false }
  match (inner.find? fun p => p.type = PayloadType.cp).filter fun p => p.body.length ≠ 0 with
  | none => leaseRetryOrExpire now
  | some p =>
    match cesDecodeAssigned p.body with
    | .error e => do
      let _ ← Eff.attempt (leaseRetryOrExpire now)
      Eff.fail e
    | .ok assigned => do
      let _ ← applyConfigUpdate cfg now assigned ⟨false, false, false, false, false⟩ .replace
      pure ()

/-! ### Packets -/

def singleDelete : List Payload → Option Delete → Except Err (Option Delete)
  | [], acc => .ok acc
  | p :: ps, acc =>
    if p.type ≠ PayloadType.delete then
      .error (.errorf "control: unexpected non-delete payload in running request")
    else do
      let d ← parseDelete p.body
      if acc.isSome then
        .error (.errorf "control: multiple delete payloads in one running request")
      else singleDelete ps (some d)

/-- Drop the child that a peer DELETE names by its outbound SPI. -/
def deleteChild (spi : UInt32) : Eff Running Unit := do
  let r ← Eff.get
  record (.peerDeleted spi (r.state.oldChild.any fun old => spi = old.outboundSPI))
  match r.state.oldChild.filter fun old => spi = old.outboundSPI with
  | some old => do
    dataplaneChildDeleted cfg old
    modifyState State.dropOldChild
  | none =>
    match r.state.activeChild.filter fun active => spi = active.outboundSPI with
    | none => pure ()
    | some active => do
      dataplaneChildDeleted cfg active
      modifyState fun s => { s with activeChild := none }

/-- Apply an INFORMATIONAL request: whether the peer shuts the session down, and whether a CFG_SET
is to be acknowledged. -/
def handleInformationalForPayloads (plds : List Payload) : Eff Running (Bool × Bool) :=
  match plds with
  | [] => pure (false, false)
  | p :: ps =>
    if ps.length = 0 ∧ p.type = PayloadType.cp then do
      let cp ← Eff.lift (parseConfigPayload p.body)
      if cp.kind ≠ ConfigType.set then
        Eff.fail (.errorf "control: unexpected non-delete payload in running request")
      else do
        let (assigned, present) ← Eff.lift (cesDecodeAssignedCP cp)
        let _ ← applyConfigUpdate cfg now assigned present .merge
        pure (false, true)
    else do
      match ← Eff.lift (singleDelete (p :: ps) none) with
      | none => Eff.fail (.errorf "control: running request carries no delete payload")
      | some d =>
        if d.protocolID = deleteProtocolIKE then
          if d.spis.length ≠ 0 then Eff.fail (.errorf "control: ike delete must not carry spis")
          else pure (true, false)
        else if d.protocolID = deleteProtocolESP then
          match d.spis with
          | [spi] => do
            deleteChild cfg spi
            pure (false, false)
          | _ => Eff.fail (.errorf "control: esp delete must carry exactly one spi")
        else Eff.fail (.errorf s!"control: unsupported delete protocol {d.protocolID}")

/-- Answer an INFORMATIONAL request, with a CFG_ACK if it set the configuration. -/
def answerInformational (msgID : UInt32) (cfgAck : Bool) : Eff Running Unit :=
  if cfgAck then do
    let body ← Eff.lift (appendConfigPayload ⟨ConfigType.ack, []⟩)
    respond none ExchangeType.informational msgID PayloadType.cp (cepSinglePayload body)
  else respond none ExchangeType.informational msgID PayloadType.none []

/-- The state after the peer has deleted the IKE SA. -/
def State.shutdown (s : State) : State := { s.clearSession with phase := .stopped }

/-- Apply an INFORMATIONAL request and answer it. -/
def processInformational (msgID : UInt32) (inner : List Payload) : Eff Running Bool := do
  let (shutdown, cfgAck) ← handleInformationalForPayloads cfg now inner
  answerInformational msgID cfgAck
  Eff.when shutdown (modifyState State.shutdown)
  pure shutdown

/-- The handler of the request that a response answers. -/
def completeResponse (msgID : UInt32) (inner : List Payload) : Eff Running Unit := do
  let r ← Eff.get
  match r.state.rekey with
  | some rc =>
    if rc.kind = .child then do
      finishChildRekeyResponse cfg now inner
      -- the DELETE of the old child may be the request in flight by now
      let r ← Eff.get
      Eff.when (r.state.phase ≠ .rekeyChildDeletingOld) (modifyState State.dropRequest)
    else do
      finishIKERekeyResponse cfg now inner
      modifyState State.dropRequest
  | none =>
    if r.leasePending then do
      finishLeaseResponse cfg now inner
      modifyState State.dropRequest
    else do
      modifyState (State.answered msgID)
      Eff.when (r.state.phase = .rekeyChildDeletingOld) (finishDeleteOldChild cfg)

/-- A response on the current IKE SA. -/
def processResponse (hdr : Header) (raw : Bytes) : Eff Running Unit := do
  let r ← Eff.get
  match validateResponseEnvelopeForRole hdr r.state.isOriginalInitiator with
  | .error _ => pure ()
  | .ok () =>
    if hdr.initiatorSPI ≠ r.state.initiatorSPI then pure ()
    else if r.state.responderSPI ≠ 0 ∧ hdr.responderSPI ≠ r.state.responderSPI then pure ()
    else if r.state.hasExpectedResponse = false ∨
        hdr.messageID ≠ r.state.expectedResponseMessageID then pure ()
    else do
      match ← onState (openProtectedRawState none now raw) with
      | none => pure ()
      | some inner => do
        record (.accepted r.sa hdr.messageID)
        completeResponse cfg now hdr.messageID inner

/-- A complete request on the current IKE SA: replay its response, refuse it, or handle it. -/
def processRequest (hdr : Header) (inner : List Payload) : Eff Running Bool := do
  let r ← Eff.get
  match r.state.replayCachedFrames hdr.messageID with
  | some frames => do
    sendFrames r.sa .replay hdr.messageID frames
    pure false
  | none =>
    match r.state.inboundHistory.getLast?.filter fun last => hdr.messageID ≤ last.messageID with
    | some last => Eff.fail (.errorf
        s!"control: stale inbound running request {hdr.messageID} after {last.messageID}")
    | none =>
      if hdr.exchangeType = ExchangeType.informational then
        processInformational cfg now hdr.messageID inner
      else if hdr.exchangeType = ExchangeType.createChild then do
        processCreateChild cfg now hdr.messageID inner
        pure false
      else pure false

/-- The retained IKE SA that a packet is addressed to. -/
def State.oldIKEFor (s : State) (hdr : Header) : Option OldIKEContext :=
  s.oldIKE.head?.filter fun old =>
    hdr.initiatorSPI = old.initiatorSPI ∧ hdr.responderSPI = old.responderSPI

def errMoreFragments : Err :=
  .errorf "control: inbound rekey/control request requires more fragments"

/-- Handle one packet: whether the peer shut the session down. -/
def processPacket (pkt : Packet) : Eff Running Bool :=
  if pkt.kind ≠ .ike then pure false
  else do
    let msg ← Eff.lift (parseMessage pkt.payload)
    match msg.encrypted with
    | none => Eff.fail (.errorf "control: cleartext packet rejected in running state")
    | some _ => do
      let r ← Eff.get
      match r.state.oldIKEFor msg.header with
      | some old => do
        processOldIKEPacket cfg old msg.header pkt.payload
        pure false
      | none =>
        if msg.header.flags &&& flagResponse ≠ 0 then do
          processResponse cfg now msg.header pkt.payload
          pure false
        else do
          match ← onState (openProtectedRawState none now pkt.payload) with
          | none => Eff.fail errMoreFragments
          | some inner => processRequest cfg now msg.header inner

/-! ### The loop -/

/-- The actor and the variables of its loop. -/
structure Loop where
  actor : Running
  rto : Duration
  retries : ℕ
  /-- The deadline of the retransmission timer while it is armed. -/
  rtoC : Option Time
  rtoArmedID : UInt32
  oldRto : Duration
  oldRetries : ℕ
  oldRtoC : Option Time

/-- What the loop waits for. -/
inductive Event where
  | ctxDone
  | rto
  | oldRto
  | tick
  | ikeSoft
  | childSoft
  | nearWrap
  | retry
  | lease
  /-- A packet, or a nil pointer. -/
  | packet (pkt : Option Packet)
  | inClosed
  deriving DecidableEq, Repr

def fired (timer : Option Time) : Prop := ∃ deadline, timer = some deadline ∧ deadline ≤ now

instance (timer : Option Time) : Decidable (fired now timer) :=
  match timer with
  | none => isFalse fun ⟨_, h, _⟩ => by cases h
  | some deadline => decidable_of_iff (deadline ≤ now) (by simp [fired])

def Event.Enabled (l : Loop) : Event → Prop
  | .rto => fired now l.rtoC
  | .oldRto => fired now l.oldRtoC
  | .ikeSoft => fired now l.actor.ikeSoft
  | .childSoft => fired now l.actor.childSoft
  | .retry => fired now l.actor.retryTimer
  | .lease => fired now l.actor.leaseTimer
  | _ => True

instance (l : Loop) : (ev : Event) → Decidable (ev.Enabled now l)
  | .rto => inferInstanceAs (Decidable (fired now l.rtoC))
  | .oldRto => inferInstanceAs (Decidable (fired now l.oldRtoC))
  | .ikeSoft => inferInstanceAs (Decidable (fired now l.actor.ikeSoft))
  | .childSoft => inferInstanceAs (Decidable (fired now l.actor.childSoft))
  | .retry => inferInstanceAs (Decidable (fired now l.actor.retryTimer))
  | .lease => inferInstanceAs (Decidable (fired now l.actor.leaseTimer))
  | .ctxDone | .tick | .nearWrap | .packet _ | .inClosed => isTrue trivial

/-- Whether the loop goes on, or the result with which it returns. -/
abbrev Exit := Option (Except Err Unit)

def onActor {α : Type} (x : Eff Running α) : Eff Loop α :=
  x.zoom Loop.actor fun r l => { l with actor := r }

namespace Loop

/-- The next retransmission interval. -/
def backoff (rto : Duration) : Duration :=
  if rto < cfg.timeouts.maxRTO then
    if rto * 2 > cfg.timeouts.maxRTO then cfg.timeouts.maxRTO else rto * 2
  else rto

def armRTO (l : Loop) : Loop := { l with rtoC := some (now + l.rto) }

def armOldRTO (l : Loop) : Loop := { l with oldRtoC := some (now + l.oldRto) }

/-- The variables after a request was given up. -/
def resetRTO (l : Loop) : Loop := { l with retries := 0, rto := cfg.timeouts.initialRTO }

/-- The variables after a request was sent. -/
def restartRTO (l : Loop) : Loop :=
  armRTO now { resetRTO cfg l with rtoArmedID := l.actor.state.expectedResponseMessageID }

/-- The retransmission timer of the current IKE SA. -/
def onRTO : Eff Loop Exit := do
  Eff.modify fun l => { l with rtoC := none }
  let l ← Eff.get
  let s := l.actor.state
  if s.hasExpectedResponse = false then pure none
  else if l.retries ≥ cfg.timeouts.maxRetries then
    if s.rekey.isSome then do
      onActor (abandonRekey cfg now true)
      Eff.modify (resetRTO cfg)
      pure none
    else if l.actor.leasePending then do
      match ← Eff.attempt (onActor (leaseRetryOrExpire now)) with
      | .error e => pure (some (.error e))
      | .ok () => do
        Eff.modify (resetRTO cfg)
        pure none
    else pure (some (.error (.errorf (s!"control: keepalive request " ++
      s!"{s.expectedResponseMessageID} unanswered after {l.retries} retries"))))
  else
    match s.outboundRequest with
    | none => pure (some (.error
        (.errorf "control: outstanding request has no retransmit checkpoint")))
    | some cp => do
      match ← Eff.attempt (onActor (sendFrames l.actor.sa .retransmission cp.messageID
          cp.packets)) with
      | .error e => pure (some (.error e))
      | .ok () => do
        Eff.modify fun l =>
          armRTO now { l with retries := l.retries + 1, rto := backoff cfg l.rto }
        pure none

/-- The retransmission timer of the retained IKE SA. -/
def onOldRTO : Eff Loop Exit := do
  Eff.modify fun l => { l with oldRtoC := none }
  let l ← Eff.get
  match l.actor.state.oldIKE with
  | [] => pure none
  | old :: _ =>
    if old.hasExpectedResponse = false then pure none
    else if l.oldRetries ≥ cfg.timeouts.maxRetries then do
      onActor do
        record (.gaveUp l.actor.oldSA old.expectedResponseMessageID)
        modifyState (State.mapOldIKE OldIKEContext.giveUp)
      Eff.modify fun l => { l with oldRetries := 0, oldRto := cfg.timeouts.initialRTO }
      pure none
    else
      match old.outboundRequest with
      | none => pure none
      | some cp => do
        match ← Eff.attempt (onActor (sendFrames l.actor.oldSA .retransmission cp.messageID
            cp.packets)) with
        | .error e =>
          if e.isCanceled then pure (some (.error e))
          else do
            Eff.modify fun l => { l with oldRto := cfg.timeouts.initialRTO }
            pure none
        | .ok () => do
          Eff.modify fun l => armOldRTO now
            { l with oldRetries := l.oldRetries + 1, oldRto := backoff cfg l.oldRto }
          pure none

def onTick : Eff Loop Exit := do
  Eff.modify fun l => { l with actor := l.actor.mapState fun s =>
    { s with inboundFragments := s.inboundFragments.filter fun f => ¬f.expiresAt < now } }
  let l ← Eff.get
  if l.actor.state.hasExpectedResponse then pure none
  else do
    match ← Eff.attempt (onActor (sendKeepalive cfg)) with
    | .error e => pure (some (.error e))
    | .ok () => do
      Eff.modify fun l => armRTO now
        { l with retries := 0, rtoArmedID := l.actor.state.expectedResponseMessageID }
      pure none

/-- Start a rekey; a failure other than the end of the context is retried later. -/
def tryRekey (start : Eff Running Unit) : Eff Loop Exit := do
  match ← Eff.attempt (onActor start) with
  | .error e =>
    if e.isCanceled then pure (some (.error e))
    else do
      onActor (abandonRekey cfg now true)
      pure none
  | .ok () => do
    Eff.modify (restartRTO cfg now)
    pure none

def onIkeSoft : Eff Loop Exit := do
  Eff.modify fun l => { l with actor := { l.actor with ikeSoft := none } }
  let l ← Eff.get
  if l.actor.state.safeToRekey then tryRekey cfg now (startIKERekey cfg now .time) else pure none

def onChildSoft : Eff Loop Exit := do
  Eff.modify fun l => { l with actor := { l.actor with childSoft := none } }
  let l ← Eff.get
  if l.actor.state.safeToRekey then tryRekey cfg now (startChildRekey cfg now .time)
  else pure none

/-- The signal that outbound sequence numbers run out. -/
def onNearWrap : Eff Loop Exit := do
  let l ← Eff.get
  if l.actor.state.safeToRekey ∧ l.actor.state.activeChild.isSome then
    tryRekey cfg now (startChildRekey cfg now .nearWrap)
  else pure none

/-- The retry of a rekey; here the end of the context is retried like any other failure. -/
def onRetry : Eff Loop Exit := do
  Eff.modify fun l => { l with actor := { l.actor with retryTimer := none } }
  let l ← Eff.get
  if l.actor.state.safeToRekey then do
    let start : Eff Running Unit := match l.actor.retryKind with
      | .ike => startIKERekey cfg now l.actor.retryTrigger
      | .child => startChildRekey cfg now l.actor.retryTrigger
    match ← Eff.attempt (onActor start) with
    | .error _ => do
      onActor (abandonRekey cfg now true)
      pure none
    | .ok () => do
      Eff.modify (restartRTO cfg now)
      pure none
  else pure none

def onLease : Eff Loop Exit := do
  Eff.modify fun l => { l with actor := { l.actor with leaseTimer := none } }
  let l ← Eff.get
  if l.actor.state.safeToRenewLease then do
    match ← Eff.attempt (onActor (sendLeaseRenewal cfg)) with
    | .error e =>
      if e.isCanceled then pure (some (.error e))
      else do
        match ← Eff.attempt (onActor (leaseRetryOrExpire now)) with
        | .error e => pure (some (.error e))
        | .ok () => pure none
    | .ok () => do
      Eff.modify (restartRTO cfg now)
      pure none
  else pure none

def afterPacket (l : Loop) : Loop :=
  let s := l.actor.state
  let oldExpected := s.oldIKE.head?.any fun old => old.hasExpectedResponse
  let l := if s.hasExpectedResponse ∧ l.rtoArmedID ≠ s.expectedResponseMessageID then
      restartRTO cfg now l
    else if s.hasExpectedResponse = false ∧ oldExpected = false then
      { resetRTO cfg l with rtoC := none, rtoArmedID := 0 }
    else l
  if oldExpected then armOldRTO now l else { l with oldRtoC := none }

def onPacket : Option Packet → Eff Loop Exit
  | none => pure none
  | some pkt => do
    match ← Eff.attempt (onActor (processPacket cfg now pkt)) with
    | .error _ => pure none
    | .ok shutdown => do
      Eff.modify (afterPacket cfg now)
      pure (if shutdown then some (.ok ()) else none)

def step : Event → Eff Loop Exit
  | .ctxDone => pure (some (.error .canceled))
  | .rto => onRTO cfg now
  | .oldRto => onOldRTO cfg now
  | .tick => onTick cfg now
  | .ikeSoft => onIkeSoft cfg now
  | .childSoft => onChildSoft cfg now
  | .nearWrap => onNearWrap cfg now
  | .retry => onRetry cfg now
  | .lease => onLease cfg now
  | .packet pkt => onPacket cfg now pkt
  | .inClosed => pure (some (.error (.errorf "control: running inbound channel closed")))

/-- The loop when it starts on an established IKE SA. -/
def start (state : State) (world : World) : Loop :=
  let actor : Running :=
    { state, ikeSoft := none, childSoft := none, leaseTimer := none, retryTimer := none
      leaseDeadline := none, leasePending := false, retryKind := .child, retryTrigger := .time
      sa := 0, world }
  let arm : Eff Running Unit := do
    resetIkeSoft cfg now
    resetChildSoft cfg now
    armLeaseTimer now
  { actor := (arm.run actor).2, rto := cfg.timeouts.initialRTO, retries := 0, rtoC := none
    rtoArmedID := 0, oldRto := cfg.timeouts.initialRTO, oldRetries := 0, oldRtoC := none }

end Loop

end Swan.Control
