import Swan.Control.Actor

/-! # Rekeying

The handlers of the rekey exchanges: the requests of the actor and what it does with the answers
(`startChildRekey`, `finishChildRekeyResponse`, `startIKERekey`, `finishIKERekeyResponse`), the
requests of the peer (`processPeerChildRekey`, `processPeerIKERekey`), and the packets of the IKE SA
that a rekey has replaced (`processOldIKEPacket`). A failure of a handler leaves the state as it was
at that point. -/

namespace Swan.Control

open Swan.Lib Swan.Wire Swan.Payload Swan.Xcrypto

def State.safeToRekey (s : State) : Bool :=
  decide (s.phase = .running ∧ s.hasExpectedResponse = false ∧ s.rekey = none ∧ s.oldIKE = [])

def State.safeToRenewLease (s : State) : Bool :=
  s.safeToRekey && decide ((s.assigned.map AssignedConfig.addressExpirySeconds).getD 0 > 0)

def nilDereference : Err :=
  .panicked "runtime error: invalid memory address or nil pointer dereference"

/-- Check the version and the flags of a response for the role of the receiver. -/
def validateResponseEnvelopeForRole (hdr : Header) (localOriginalInitiator : Bool) :
    Except Err Unit :=
  let hasInitiator := decide (hdr.flags &&& flagInitiator ≠ 0)
  let wantInitiator := !localOriginalInitiator
  if hdr.version ≠ ikeDefaultVersion then
    .error (.errorf s!"control: unexpected IKE version 0x{hex2 hdr.version}")
  else if hdr.flags &&& flagResponse = 0 then
    .error (.errorf "control: expected response flag in inbound message")
  else if hasInitiator ≠ wantInitiator then
    .error (.errorf ("control: unexpected initiator flag in response " ++
      s!"(have={hasInitiator} want={wantInitiator})"))
  else if hdr.flags &&& ~~~flagsMask ≠ 0 then
    .error (.errorf s!"control: unexpected reserved flag bits 0x{hex2 (hdr.flags &&& ~~~flagsMask)}")
  else .ok ()

variable [Crypto] (cfg : Config) (now : Time)

/-! ### Requests of the actor -/

def startChildRekey (trigger : RekeyTrigger) : Eff Running Unit := do
  let r ← Eff.get
  if !r.state.safeToRekey then pure ()
  else
    match r.state.activeChild with
    | none => pure ()
    | some old => do
      let inboundSPI ← onRng generateChildSPI
      let (parts, ni, ke) ← onRng (buildChildRekeyRequestPayloads cfg old inboundSPI)
      issueRequest cfg (.rekey .child) ExchangeType.createChild PayloadType.notify
        (.ok (cesBuildChain parts)) fun msgID frames => Running.mapState (State.startRekey
          { kind := .child, trigger, startedAt := now, messageID := msgID, ni
            localDH := ke.map Prod.fst, localKE := ke.map Prod.snd, oldChild := some old
            newChild := some ⟨inboundSPI⟩, newInitiatorSPI := 0, newNonceN := []
            newResponderSPI := 0 } frames)

def startIKERekey (trigger : RekeyTrigger) : Eff Running Unit := do
  let r ← Eff.get
  if !r.state.safeToRekey then pure ()
  else do
    let (parts, ni, spiI, dh, ke) ← onRng (buildIKERekeyRequestPayloads cfg)
    issueRequest cfg (.rekey .ike) ExchangeType.createChild PayloadType.sa
      (.ok (cesBuildChain parts)) fun msgID frames => Running.mapState (State.startRekey
        { kind := .ike, trigger, startedAt := now, messageID := msgID, ni
          localDH := some dh, localKE := some ke, oldChild := none, newChild := none
          newInitiatorSPI := spiI, newNonceN := [], newResponderSPI := 0 } frames)

/-- Do `x`; if it fails, give the rekey up and fail. -/
def orAbandon {α : Type} (x : Eff Running α) : Eff Running α := do
  match ← Eff.attempt x with
  | .ok a => pure a
  | .error e => do
    abandonRekey cfg now true
    Eff.fail e

def sendDeleteOldChild : Eff Running Unit := do
  let r ← Eff.get
  match r.state.oldChild with
  | none => modifyState fun s => { s with phase := .running }
  | some old =>
    issueRequest cfg (.deleteChild old.inboundSPI) ExchangeType.informational PayloadType.delete
      (cepSinglePayload <$> appendDelete ⟨deleteProtocolESP, [old.inboundSPI]⟩)
      fun msgID frames => Running.mapState (State.startDeleteOldChild msgID frames)

/-- Install the child of an accepted answer and delete the old one. -/
def finishChildRekeyResponse (inner : List Payload) : Eff Running Unit := do
  let r ← Eff.get
  match r.state.rekey with
  | none => Eff.fail (.errorf "control: child rekey response without rekey context")
  | some rc =>
    match rc.kind, rc.oldChild with
    | .child, some oldChild => do
      let resp ← orAbandon cfg now
        (Eff.lift (parseChildRekeyResponse cfg r.state.selectedIKE inner))
      if resp.tsi ≠ oldChild.tsi ∨ resp.tsr ≠ oldChild.tsr then
        orAbandon cfg now
          (Eff.fail (.errorf "control: child rekey response changed traffic selectors"))
      else do
        let keys ← orAbandon cfg now
          (Eff.lift (deriveChildRekeyKeys cfg r.state rc resp.nr resp.ker resp.selection))
        match rc.newChild with
        | none => Eff.fail nilDereference
        | some newChild =>
          let child : ChildSA := ⟨newChild.inboundSPI, resp.peerSPI, resp.tsi, resp.tsr, true⟩
          if r.state.activeChild ≠ some oldChild then
            orAbandon cfg now
              (Eff.fail (.errorf "control: active child changed during child rekey"))
          else do
            orAbandon cfg now (installChild cfg child keys resp.selection)
            modifyState (State.installChildRekey child resp.selection)
            resetChildSoft cfg now
            sendDeleteOldChild cfg
    | _, _ => Eff.fail (.errorf "control: child rekey response without rekey context")

/-- Tell the data plane that the replaced child is gone, if there is one. -/
def oldChildDeleted : Option ChildSA → Eff Running Unit
  | some old => dataplaneChildDeleted cfg old
  | none => pure ()

/-- A child rekey ends when the DELETE of the old child is answered. -/
def finishDeleteOldChild : Eff Running Unit := do
  let r ← Eff.get
  oldChildDeleted cfg r.state.oldChild
  modifyState State.finishDeleteOldChild

/-- Make a new IKE SA the current one. -/
def installIKE (spiI spiR : UInt64) (isOriginalInitiator : Bool) (ni nr : Bytes) (keys : IKEKeys)
    (selection : Selection) : Eff Running Unit :=
  Eff.modify fun r => { r with
    state := r.state.installIKE spiI spiR isOriginalInitiator ni nr keys selection
    sa := r.sa + 1 }

/-- Send the DELETE of the retained IKE SA, under its own keys and numbering. -/
def sendOldIKEDelete : Eff Running Unit := do
  let r ← Eff.get
  match r.state.oldIKE with
  | [] => modifyState fun s => { s with phase := .running }
  | old :: _ => do
    let env := oldIKEEnvelope old
    let msgID := old.nextRequestMessageID
    modifyState (State.mapOldIKE OldIKEContext.begin)
    let body ← Eff.lift (appendDelete ⟨deleteProtocolIKE, []⟩)
    let frames ← onRng (buildProtectedEnvelopeAs (some cfg) env ExchangeType.informational msgID
      PayloadType.delete (cepSinglePayload body) (requestFlags env))
    modifyState (State.mapOldIKE (OldIKEContext.deleting msgID frames))
    sendFrames r.oldSA .request msgID frames

/-- Install the IKE SA of an accepted answer and delete the old one. -/
def finishIKERekeyResponse (inner : List Payload) : Eff Running Unit := do
  let r ← Eff.get
  match r.state.rekey with
  | none => Eff.fail (.errorf "control: IKE rekey response without rekey context")
  | some rc =>
    if rc.kind ≠ .ike then
      Eff.fail (.errorf "control: IKE rekey response without rekey context")
    else do
      let (selection, responderSPI, nr, ker) ← orAbandon cfg now
        (Eff.lift (parseIKERekeyResponse cfg inner))
      let keys ← orAbandon cfg now (Eff.lift
        (deriveIKERekeyKeys r.state rc nr ker rc.newInitiatorSPI responderSPI selection))
      installIKE rc.newInitiatorSPI responderSPI true rc.ni nr keys selection
      resetIkeSoft cfg now
      sendOldIKEDelete cfg

/-! ### Requests of the peer -/

def plainNotify (type : NotifyType) : Notify := ⟨notifyProtocolNone, [], type, []⟩

/-- Answer a CREATE_CHILD_SA request with one notify. -/
def respondNotify (msgID : UInt32) (n : Notify) : Eff Running Unit := do
  let body ← Eff.lift (appendNotify n)
  respond (some cfg) ExchangeType.createChild msgID PayloadType.notify (cepSinglePayload body)
  record (.refused msgID n.type)

def sendCreateChildTemporaryFailure (msgID : UInt32) : Eff Running Unit :=
  respondNotify cfg msgID (plainNotify NotifyType.temporaryFailure)

/-- The KE answer to a peer and the shared secret, both empty without PFS. -/
def answerKE (peerKE : Bytes) : Eff Running (Option KeyExchange × Bytes) :=
  if peerKE.length > 0 then do
    let (dh, ke) ← onRng generateRekeyDH
    let shared ← Eff.lift (dh.ecdh peerKE).1
    pure (some ke, shared)
  else pure (none, [])

/-- Accept a peer rekey of the child `old`, or refuse its proposals. -/
def acceptPeerChildRekey (msgID : UInt32) (old : ChildSA) (targetSPI : UInt32) (sa : SA)
    (p : PeerRekey) : Eff Running Unit := do
  let responseSPI ← onRng generateChildSPI
  match ← Eff.attempt (Eff.lift (selectPeerESPProposal cfg sa responseSPI
      (decide (p.ke.length > 0)))) with
  | .error _ => respondNotify cfg msgID (espNotify targetSPI NotifyType.noProposalChosen)
  | .ok (selected, selection) => do
    let ourNr ← onRng (generateNonce 32)
    let (ke, shared) ← answerKE p.ke
    let saBody ← Eff.lift (appendSA selected)
    let parts : List CesPayloadPart :=
      [⟨PayloadType.sa, saBody⟩, ⟨PayloadType.nonce, appendNonce ourNr⟩] ++ keParts ke ++
        [⟨PayloadType.tsi, p.tsi⟩, ⟨PayloadType.tsr, p.tsr⟩]
    let frames ← sealCurrent (some cfg) ExchangeType.createChild msgID PayloadType.sa
      (cesBuildChain parts) responseFlags
    let r ← Eff.get
    match r.state.ikeKeys with
    | none => Eff.fail nilDereference
    | some ikeKeys => do
      let keys ← Eff.lift (deriveChildKeys selection.prf ikeKeys.skd p.ni ourNr shared
        selection.encryption selection.integrity)
      let child : ChildSA := ⟨responseSPI, selectedPeerOutboundSPI sa, p.tsr, p.tsi, false⟩
      installChild cfg child keys selection
      modifyState (State.installPeerChild old child selection)
      resetChildSoft cfg now
      sendFrames r.sa .response msgID frames
      rememberResponse msgID frames

/-- Resolve a collision with an own child rekey, then accept. -/
def resolvePeerChildRekey (msgID : UInt32) (old : ChildSA) (targetSPI : UInt32) (sa : SA)
    (p : PeerRekey) : Eff Running Unit := do
  let r ← Eff.get
  match r.state.rekey.filter fun rc => rc.kind = .child with
  | none => acceptPeerChildRekey cfg now msgID old targetSPI sa p
  | some rc =>
    match decideNonceCollision rc.ni p.ni with
    | .weLose => do
      abandonRekey cfg now false
      acceptPeerChildRekey cfg now msgID old targetSPI sa p
    | _ => sendCreateChildTemporaryFailure cfg msgID

def processPeerChildRekey (msgID : UInt32) (inner : List Payload) : Eff Running Unit := do
  let r ← Eff.get
  match ← Eff.lift (findRekeyNotify inner) with
  | none => Eff.fail (.errorf "control: peer child rekey missing REKEY_SA notify")
  | some n =>
    if n.protocolID ≠ deleteProtocolESP ∨ n.spi.length ≠ 4 then
      Eff.fail (.errorf "control: malformed REKEY_SA notify in peer child rekey")
    else
      let targetSPI := beUint32 n.spi
      match r.state.activeChild.filter fun old =>
          targetSPI = old.outboundSPI ∨ targetSPI = old.inboundSPI with
      | none => respondNotify cfg msgID (espNotify targetSPI NotifyType.childSANotFound)
      | some old => do
        let p ← Eff.lift (collectPeerRekey "peer child rekey" childPeerTS inner
          ⟨none, [], [], [], []⟩)
        match p.sa.filter fun _ => p.tsi.length ≠ 0 ∧ p.tsr.length ≠ 0 ∧ p.ni.length ≠ 0 with
        | none => Eff.fail (.errorf "control: peer child rekey missing SA/TS/NONCE payload")
        | some sa =>
          if p.tsi ≠ old.tsr ∨ p.tsr ≠ old.tsi then
            Eff.fail (.errorf
              "control: peer child rekey selectors do not match the existing child")
          else resolvePeerChildRekey cfg now msgID old targetSPI sa p

/-- Accept a peer rekey of the IKE SA, or refuse its proposals. -/
def acceptPeerIKERekey (msgID : UInt32) (inner : List Payload) : Eff Running Unit := do
  let p ← Eff.lift (collectPeerRekey "peer IKE rekey" ikePeerTS inner ⟨none, [], [], [], []⟩)
  match p.sa.filter fun _ => p.ni.length ≠ 0 ∧ p.ke.length ≠ 0 with
  | none => Eff.fail (.errorf "control: peer IKE rekey missing SA/NONCE/KE payload")
  | some sa => do
    let newResponderSPI ← onRng generateSPI
    match ← Eff.attempt (Eff.lift (selectPeerIKEProposal cfg sa newResponderSPI)) with
    | .error _ => respondNotify cfg msgID (plainNotify NotifyType.noProposalChosen)
    | .ok (selected, selection, peerInitiatorSPI) => do
      let ourNr ← onRng (generateNonce 32)
      let (dh, ke) ← onRng generateRekeyDH
      let shared ← Eff.lift (dh.ecdh p.ke).1
      let saBody ← Eff.lift (appendSA selected)
      let parts : List CesPayloadPart := [⟨PayloadType.sa, saBody⟩,
        ⟨PayloadType.nonce, appendNonce ourNr⟩, ⟨PayloadType.ke, appendKE ke⟩]
      let frames ← sealCurrent (some cfg) ExchangeType.createChild msgID PayloadType.sa
        (cesBuildChain parts) responseFlags
      let r ← Eff.get
      match r.state.selectedIKE, r.state.ikeKeys with
      | some ike, some ikeKeys => do
        let seed := rekeySKEYSEED ike.prf ikeKeys.skd shared p.ni ourNr
        let newKeys ← Eff.lift (deriveIKEKeys selection.prf seed p.ni ourNr peerInitiatorSPI
          newResponderSPI selection.encryption selection.integrity)
        -- the response goes out under the keys of the SA that it replaces
        sendFrames r.sa .response msgID frames
        installIKE peerInitiatorSPI newResponderSPI false p.ni ourNr newKeys selection
        resetIkeSoft cfg now
        modifyState (State.mapOldIKE (OldIKEContext.remember msgID frames))
      | _, _ => Eff.fail nilDereference

def processPeerIKERekey (msgID : UInt32) (inner : List Payload) : Eff Running Unit := do
  let r ← Eff.get
  match r.state.rekey with
  | some rc =>
    if rc.kind = .ike then
      match firstInnerNonce inner with
      | none => sendCreateChildTemporaryFailure cfg msgID
      | some peerNi =>
        match decideNonceCollision rc.ni peerNi with
        | .weLose => do
          abandonRekey cfg now false
          acceptPeerIKERekey cfg now msgID inner
        | _ => sendCreateChildTemporaryFailure cfg msgID
    else sendCreateChildTemporaryFailure cfg msgID
  | none =>
    if r.state.oldIKE.length > 0 then sendCreateChildTemporaryFailure cfg msgID
    else acceptPeerIKERekey cfg now msgID inner

/-- A CREATE_CHILD_SA request of the peer; traffic selectors tell a child from an IKE rekey. -/
def processCreateChild (msgID : UInt32) (inner : List Payload) : Eff Running Unit :=
  if ∃ p ∈ inner, p.type = PayloadType.tsi ∨ p.type = PayloadType.tsr then
    processPeerChildRekey cfg now msgID inner
  else processPeerIKERekey cfg now msgID inner

/-! ### The retained IKE SA -/

/-- Whether a DELETE payload for the IKE SA is among the payloads. -/
def hasIKEDelete : List Payload → Except Err Bool
  | [] => .ok false
  | p :: ps =>
    if p.type ≠ PayloadType.delete then hasIKEDelete ps
    else do
      let d ← parseDelete p.body
      let rest ← hasIKEDelete ps
      .ok (decide (d.protocolID = deleteProtocolIKE ∧ d.spis.length = 0) || rest)

/-- A response on the retained IKE SA: the answer to its DELETE. -/
def processOldIKEResponse (old : OldIKEContext) (hdr : Header) (raw : Bytes) : Eff Running Unit :=
  match validateResponseEnvelopeForRole hdr old.isOriginalInitiator with
  | .error _ => pure ()
  | .ok () =>
    if old.hasExpectedResponse = false ∨ hdr.messageID ≠ old.expectedResponseMessageID then pure ()
    else do
      let _ ← Eff.lift (openProtectedMessageEnvelope (oldIKEEnvelope old) raw)
      let r ← Eff.get
      record (.accepted r.oldSA hdr.messageID)
      modifyState State.finishOldIKEDelete

def processOldIKERequest (old : OldIKEContext) (hdr : Header) (raw : Bytes) :
    Eff Running Unit := do
  let env := oldIKEEnvelope old
  let plds ← Eff.lift (openProtectedMessageEnvelope env raw)
  if hdr.messageID = 0 then
    Eff.fail (.errorf "control: old IKE SA request missing message-id")
  else do
    let r ← Eff.get
    match old.inboundHistory.find? fun entry => entry.messageID = hdr.messageID with
    | some entry => sendFrames r.oldSA .replay hdr.messageID entry.responsePackets
    | none =>
      if hdr.exchangeType = ExchangeType.informational then do
        let ikeDelete ← Eff.lift (hasIKEDelete plds)
        let frames ← onRng (buildProtectedEnvelopeAs (some cfg) env ExchangeType.informational
          hdr.messageID PayloadType.none [] (responseFlags env))
        sendFrames r.oldSA .response hdr.messageID frames
        modifyState (State.mapOldIKE (OldIKEContext.remember hdr.messageID frames))
        Eff.when ikeDelete (modifyState State.finishOldIKEDelete)
      else pure ()

/-- A packet with the SPIs of the retained IKE SA. -/
def processOldIKEPacket (old : OldIKEContext) (hdr : Header) (raw : Bytes) : Eff Running Unit :=
  if hdr.flags &&& flagResponse ≠ 0 then processOldIKEResponse old hdr raw
  else processOldIKERequest cfg old hdr raw

end Swan.Control
