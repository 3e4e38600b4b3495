import Swan.Control.Proposals
import Swan.Control.Protected

/-! # Rekey messages

The payload chains of the rekey requests and how the answers and the peer's requests are read
(`buildChildRekeyRequestPayloads`, `parseChildRekeyResponse`, `collectPeerRekey`, …), the keys that
follow from them, the comparison of nonces in a collision, and the arithmetic of the timers. Nothing
here writes to the state of the actor. -/

namespace Swan.Control

open Swan.Lib Swan.Wire Swan.Payload Swan.Xcrypto

/-! ### Timer arithmetic

A draw of the pseudorandom generator is a natural number; `Int63n n` is its remainder. -/

/-- The delay until a soft rekey: the lifetime less a random jitter. -/
def rekeyDeadline (lifetime jitterCap : Duration) (draw : ℕ) : Duration :=
  let jitter := if jitterCap ≤ 0 then lifetime.tdiv 10 else jitterCap
  let jitter := if jitter < 0 ∨ jitter > lifetime then lifetime.tdiv 10 else jitter
  let d := if lifetime - jitter < 0 then lifetime else lifetime - jitter
  let d := if jitter > 0 then d + (draw : ℤ) % jitter else d
  if d < lifetime.tdiv 2 then lifetime.tdiv 2 else d

/-- The retry interval with a jitter of 20 % either way. -/
def retryBackoff (base : Duration) (draw : ℕ) : Duration :=
  let base := if base ≤ 0 then 30 * second else base
  let jitter := if base.tdiv 5 ≤ 0 then second else base.tdiv 5
  base - jitter + (draw : ℤ) % (2 * jitter + 1)

/-- The renewal trigger at 80 % of the expiry, in 64-bit arithmetic, at least one second. -/
def leaseRenewDelay (expirySeconds : UInt32) : Duration :=
  let delay : Duration := (expirySeconds.toUInt64 * 1000000000 * 8 / 10).toNat
  if delay < second then second else delay

def randInt63n (now : Time) (n : ℤ) : ℤ := if n ≤ 0 then 0 else now.tmod n

/-- The delay of the next renewal attempt. -/
def leaseRetryDelay (now : Time) (remaining : Duration) : Duration :=
  let delay := remaining.tdiv 2
  let delay := if delay > 60 * second then 60 * second else delay
  let delay := delay + randInt63n now (delay.tdiv 20 + 1)
  if delay < second then second else delay

/-! ### Collisions -/

/-- The outcome of the comparison of nonces. -/
inductive CollisionDecision where
  | noCollision
  | weWin
  | weLose
  deriving DecidableEq, Repr

/-- The lexicographic order of byte strings. -/
def bytesLt : Bytes → Bytes → Bool
  | _, [] => false
  | [], _ :: _ => true
  | a :: as, b :: bs => if a < b then true else if b < a then false else bytesLt as bs

/-- The smaller nonce loses, compared over the shorter length. -/
def decideNonceCollision (ours theirs : Bytes) : CollisionDecision :=
  if ours.length = 0 ∨ theirs.length = 0 then .noCollision
  else
    let n := min ours.length theirs.length
    if bytesLt (ours.take n) (theirs.take n) then .weLose else .weWin

/-! ### Requests -/

variable [Crypto]

/-- A random inbound ESP SPI that is not 0. -/
def generateChildSPI : Eff Rng UInt32 := do
  match ← Eff.attempt (generateNonce 4) with
  | .error e => Eff.fail (.wrapf "control: generate child SPI: " e)
  | .ok raw => pure (if beUint32 raw = 0 then 1 else beUint32 raw)

/-- An ephemeral key pair and its KE payload. -/
def generateRekeyDH : Eff Rng (DHKey × KeyExchange) := do
  match ← Eff.attempt (generateDH transformDHCurve25519) with
  | .error e => Eff.fail (.wrapf "control: generate rekey DH: " e)
  | .ok dh =>
    let pub ← Eff.lift (wrap "control: encode rekey KE: " dh.publicBytes)
    pure (dh, ⟨transformDHCurve25519, pub⟩)

omit [Crypto] in
theorem succeeds_generateChildSPI {rng : Rng} (h : rng.Healthy) :
    generateChildSPI.Succeeds Rng.Drawn (fun _ => True) rng := by
  obtain ⟨raw, hraw, -, hd⟩ := succeeds_generateNonce (n := 4) (by decide) h
  have hrun : (Eff.attempt (generateNonce 4)).run rng =
      (.ok (.ok raw), ((generateNonce 4).run rng).2) :=
    Eff.run_attempt_of_ok (Prod.ext hraw rfl)
  rw [Eff.Succeeds, generateChildSPI]
  exact Eff.wp_of_run_eq (Eff.run_bind_of_ok hrun) ⟨_, rfl, trivial, hd⟩

theorem succeeds_generateRekeyDH {rng : Rng} (h : rng.Healthy) :
    generateRekeyDH.Succeeds Rng.Drawn (fun v => v.1.key.isSome ∧ v.2.data.length = 32) rng := by
  obtain ⟨dh, hdh, hkey, hd⟩ := succeeds_generateDH h
  have hrun : (Eff.attempt (generateDH transformDHCurve25519)).run rng =
      (.ok (.ok dh), ((generateDH transformDHCurve25519).run rng).2) :=
    Eff.run_attempt_of_ok (Prod.ext hdh rfl)
  obtain ⟨key, hk⟩ := Option.isSome_iff_exists.mp hkey
  have hpub : wrap "control: encode rekey KE: " dh.publicBytes = .ok (Crypto.x25519Public key) := by
    rw [DHKey.publicBytes, hk]
    rfl
  rw [Eff.Succeeds, generateRekeyDH]
  refine Eff.wp_of_run_eq (Eff.run_bind_of_ok hrun) ?_
  dsimp only
  rw [hpub]
  exact ⟨_, rfl, ⟨hkey, Crypto.length_x25519Public key⟩, hd⟩

omit [Crypto] in
theorem drawn_generateChildSPI : generateChildSPI.Within Rng.Drawn := by
  refine (drawn_generateNonce 4).attempt.bind fun r => ?_
  cases r with
  | ok raw => exact Eff.within_pure _
  | error e => exact Eff.within_fail _

theorem drawn_generateRekeyDH : generateRekeyDH.Within Rng.Drawn := by
  refine (drawn_generateDH _).attempt.bind fun r => ?_
  cases r with
  | ok dh => exact (Eff.within_lift _).bind fun _ => Eff.within_pure _
  | error e => exact Eff.within_fail _

/-- A notify about a child SA. -/
def espNotify (spi : UInt32) (type : NotifyType) : Notify :=
  ⟨deleteProtocolESP, putUint32 spi, type, []⟩

def keParts : Option KeyExchange → List CesPayloadPart
  | some ke => [⟨PayloadType.ke, appendKE ke⟩]
  | none => []

def childRekeyDH (cfg : Config) : Eff Rng (Option (DHKey × KeyExchange)) :=
  if cfg.rekey.childPFS then some <$> generateRekeyDH else pure none

/-- The parts of a child rekey request for the child `old`, and the nonce and key pair it used. -/
def buildChildRekeyRequestPayloads (cfg : Config) (old : ChildSA) (newInboundSPI : UInt32) :
    Eff Rng (List CesPayloadPart × Bytes × Option (DHKey × KeyExchange)) := do
  match ← Eff.attempt (generateNonce 32) with
  | .error e => Eff.fail (.wrapf "control: generate child rekey nonce: " e)
  | .ok ni =>
    let notify ← Eff.lift (appendNotify (espNotify old.inboundSPI NotifyType.rekeySA))
    let sa ← Eff.lift (appendESPProposalsForRekey cfg newInboundSPI cfg.rekey.childPFS)
    let ke ← childRekeyDH cfg
    pure ([⟨PayloadType.notify, notify⟩, ⟨PayloadType.sa, sa⟩,
        ⟨PayloadType.nonce, appendNonce ni⟩] ++ keParts (ke.map Prod.snd) ++
        [⟨PayloadType.tsi, old.tsi⟩, ⟨PayloadType.tsr, old.tsr⟩], ni, ke)

/-- The parts of an IKE rekey request, its nonce, new SPI and key pair. -/
def buildIKERekeyRequestPayloads (cfg : Config) :
    Eff Rng (List CesPayloadPart × Bytes × UInt64 × DHKey × KeyExchange) := do
  match ← Eff.attempt (generateNonce 32) with
  | .error e => Eff.fail (.wrapf "control: generate IKE rekey nonce: " e)
  | .ok ni =>
    match ← Eff.attempt generateSPI with
    | .error e => Eff.fail (.wrapf "control: generate new initiator SPI: " e)
    | .ok spiI =>
      let (dh, ke) ← generateRekeyDH
      let sa ← Eff.lift (appendIKEProposalsWithSPI cfg spiI)
      pure ([⟨PayloadType.sa, sa⟩, ⟨PayloadType.nonce, appendNonce ni⟩,
        ⟨PayloadType.ke, appendKE ke⟩], ni, spiI, dh, ke)

theorem drawn_childRekeyDH (cfg : Config) : (childRekeyDH cfg).Within Rng.Drawn :=
  .ite (drawn_generateRekeyDH.bind fun _ => Eff.within_pure _) (Eff.within_pure _)

theorem drawn_buildChildRekeyRequestPayloads (cfg : Config) (old : ChildSA)
    (newInboundSPI : UInt32) :
    (buildChildRekeyRequestPayloads cfg old newInboundSPI).Within Rng.Drawn := by
  refine (drawn_generateNonce 32).attempt.bind fun r => ?_
  cases r with
  | ok ni => exact (Eff.within_lift _).bind fun _ => (Eff.within_lift _).bind fun _ =>
      (drawn_childRekeyDH cfg).bind fun _ => Eff.within_pure _
  | error e => exact Eff.within_fail _

theorem drawn_buildIKERekeyRequestPayloads (cfg : Config) :
    (buildIKERekeyRequestPayloads cfg).Within Rng.Drawn := by
  refine (drawn_generateNonce 32).attempt.bind fun r => ?_
  cases r with
  | error e => exact Eff.within_fail _
  | ok ni =>
    refine drawn_generateSPI.attempt.bind fun r => ?_
    cases r with
    | error e => exact Eff.within_fail _
    | ok spiI => exact drawn_generateRekeyDH.bind fun _ =>
        (Eff.within_lift _).bind fun _ => Eff.within_pure _

/-! ### Responses -/

/-- The payloads of a rekey answer, each at most once. -/
structure RekeyAnswer where
  sa : Option SA
  nr : Option Bytes
  ker : Option Bytes
  tsi : Bytes
  tsr : Bytes

/-- The validated answer to a child rekey. -/
structure ChildRekeyResponse where
  peerSPI : UInt32
  nr : Bytes
  ker : Option Bytes
  tsi : Bytes
  tsr : Bytes
  selection : Selection

/-- The KE data of a payload body for the only group. -/
def parseRekeyKE (what : String) (body : Bytes) : Except Err Bytes := do
  let ke ← parseKE body
  if ke.dhGroup ≠ transformDHCurve25519 then
    .error (.errorf s!"control: unsupported {what} DH group {ke.dhGroup}")
  else .ok ke.data

/-- Read one payload of an answer; types other than SA, NONCE and KE go to `other`. -/
def answerPayload (what : String) (other : Payload → RekeyAnswer → Except Err RekeyAnswer)
    (p : Payload) (acc : RekeyAnswer) : Except Err RekeyAnswer :=
  if p.type = PayloadType.sa then
    if acc.sa.isSome then .error (.errorf s!"control: duplicate SA payload in {what} response")
    else do let sa ← parseSA p.body; .ok { acc with sa := some sa }
  else if p.type = PayloadType.nonce then
    if acc.nr.isSome then .error (.errorf s!"control: duplicate NONCE payload in {what} response")
    else do let nr ← parseNonce p.body; .ok { acc with nr := some nr }
  else if p.type = PayloadType.ke then
    if acc.ker.isSome then .error (.errorf s!"control: duplicate KE payload in {what} response")
    else do let ker ← parseRekeyKE what p.body; .ok { acc with ker := some ker }
  else other p acc

def collectAnswer (what : String) (other : Payload → RekeyAnswer → Except Err RekeyAnswer) :
    List Payload → RekeyAnswer → Except Err RekeyAnswer
  | [], acc => .ok acc
  | p :: ps, acc => do
    let acc ← answerPayload what other p acc
    collectAnswer what other ps acc

def childAnswerOther (p : Payload) (acc : RekeyAnswer) : Except Err RekeyAnswer :=
  if p.type = PayloadType.tsi then .ok { acc with tsi := p.body }
  else if p.type = PayloadType.tsr then .ok { acc with tsr := p.body }
  else if p.type = PayloadType.auth ∨ p.type = PayloadType.eap then
    .error (.errorf "control: AUTH/EAP is forbidden in a rekey response")
  else .ok acc

def ikeAnswerOther (p : Payload) (acc : RekeyAnswer) : Except Err RekeyAnswer :=
  if p.type = PayloadType.tsi ∨ p.type = PayloadType.tsr ∨ p.type = PayloadType.auth ∨
      p.type = PayloadType.eap then
    .error (.errorf s!"control: unexpected payload type {p.type} in IKE rekey response")
  else .ok acc

def parseChildRekeyResponse (cfg : Config) (selectedIKE : Option Selection) (inner : List Payload) :
    Except Err ChildRekeyResponse := do
  let a ← collectAnswer "child rekey" childAnswerOther inner ⟨none, none, none, [], []⟩
  match a.sa with
  | none => .error (.errorf "control: child rekey response missing SA payload")
  | some sa =>
    match a.nr with
    | none => .error (.errorf "control: child rekey response missing NONCE payload")
    | some nr =>
      if a.tsi.length = 0 ∨ a.tsr.length = 0 then
        .error (.errorf "control: child rekey response missing TSi/TSr payload")
      else if !cfg.rekey.childPFS ∧ a.ker.isSome then
        .error (.errorf "control: unexpected KE payload in non-PFS child rekey response")
      else if cfg.rekey.childPFS ∧ a.ker.isNone then
        .error (.errorf "control: PFS child rekey response missing KE payload")
      else do
        let (peerSPI, selection) ← decodeChildSelection cfg selectedIKE sa
        .ok ⟨peerSPI, nr, a.ker, a.tsi, a.tsr, selection⟩

/-- The algorithms, the new responder SPI, the nonce and the KE data of an IKE rekey answer. -/
def parseIKERekeyResponse (cfg : Config) (inner : List Payload) :
    Except Err (Selection × UInt64 × Bytes × Bytes) := do
  let a ← collectAnswer "IKE rekey" ikeAnswerOther inner ⟨none, none, none, [], []⟩
  match a.sa with
  | none => .error (.errorf "control: IKE rekey response missing SA payload")
  | some sa =>
    match a.nr with
    | none => .error (.errorf "control: IKE rekey response missing NONCE payload")
    | some nr =>
      match a.ker with
      | none => .error (.errorf "control: IKE rekey response missing KE payload")
      | some ker =>
        match sa.proposals with
        | [sp] => do
          let (spi, sel) ← decodeIKESelectionWithSPI cfg sp
          .ok (sel, spi, nr, ker)
        | _ => .error (.errorf
            "control: IKE rekey response must contain exactly one selected proposal")

/-- The DH secret of a child rekey, empty without PFS. -/
def childRekeySecret (cfg : Config) (rc : RekeyContext) (peerKE : Option Bytes) :
    Except Err Bytes :=
  if cfg.rekey.childPFS then
    match rc.localDH, peerKE with
    | some dh, some ke => wrap "control: derive child rekey DH secret: " (dh.ecdh ke).1
    | _, _ => .error (.errorf "control: missing DH material for PFS child rekey")
  else .ok []

def deriveChildRekeyKeys (cfg : Config) (state : State) (rc : RekeyContext) (peerNr : Bytes)
    (peerKE : Option Bytes) (selection : Selection) : Except Err ChildKeys :=
  match state.ikeKeys with
  | none => .error (.errorf "control: IKE key material is missing")
  | some keys => do
    let shared ← childRekeySecret cfg rc peerKE
    match state.selectedIKE with
    | none => .error (.panicked "runtime error: invalid memory address or nil pointer dereference")
    | some ike =>
      deriveChildKeys ike.prf keys.skd rc.ni peerNr shared selection.encryption selection.integrity

/-- The IKE keys after the answer: SKEYSEED from the old SA's PRF, expansion with the new one's. -/
def deriveIKERekeyKeys (state : State) (rc : RekeyContext) (peerNr peerKE : Bytes)
    (newSPIi newSPIr : UInt64) (newSelection : Selection) : Except Err IKEKeys :=
  match rc.localDH with
  | none => .error (.errorf "control: missing IKE rekey DH keypair")
  | some dh => do
    let shared ← wrap "control: derive IKE rekey DH secret: " (dh.ecdh peerKE).1
    match state.selectedIKE, state.ikeKeys with
    | some ike, some keys =>
      let seed := rekeySKEYSEED ike.prf keys.skd shared rc.ni peerNr
      wrap "control: derive IKE rekey keys: " (deriveIKEKeys newSelection.prf seed rc.ni peerNr
        newSPIi newSPIr newSelection.encryption newSelection.integrity)
    | _, _ =>
      .error (.panicked "runtime error: invalid memory address or nil pointer dereference")

/-! ### Peer requests -/

def firstInnerNonce (inner : List Payload) : Option Bytes :=
  match inner.find? fun p => p.type = PayloadType.nonce with
  | none => none
  | some p => (parseNonce p.body).toOption

/-- The first REKEY_SA notify; a malformed notify before it is an error. -/
def findRekeyNotify : List Payload → Except Err (Option Notify)
  | [] => .ok none
  | p :: ps =>
    if p.type ≠ PayloadType.notify then findRekeyNotify ps
    else do
      let n ← parseNotify p.body
      if n.type = NotifyType.rekeySA then .ok (some n) else findRekeyNotify ps

/-- The payloads of a peer rekey request; of several of one type the last counts. -/
structure PeerRekey where
  sa : Option SA
  ni : Bytes
  ke : Bytes
  tsi : Bytes
  tsr : Bytes
  deriving DecidableEq

/-- Read one payload of a peer rekey request; traffic selectors go to `onTS`. -/
def peerRekeyPayload (what : String) (onTS : Payload → PeerRekey → Except Err PeerRekey)
    (p : Payload) (acc : PeerRekey) : Except Err PeerRekey :=
  if p.type = PayloadType.sa then do
    let sa ← parseSA p.body; .ok { acc with sa := some sa }
  else if p.type = PayloadType.nonce then do
    let ni ← parseNonce p.body; .ok { acc with ni := ni }
  else if p.type = PayloadType.ke then do
    let ke ← parseRekeyKE what p.body; .ok { acc with ke := ke }
  else if p.type = PayloadType.tsi ∨ p.type = PayloadType.tsr then onTS p acc
  else .ok acc

def collectPeerRekey (what : String) (onTS : Payload → PeerRekey → Except Err PeerRekey) :
    List Payload → PeerRekey → Except Err PeerRekey
  | [], acc => .ok acc
  | p :: ps, acc => do
    let acc ← peerRekeyPayload what onTS p acc
    collectPeerRekey what onTS ps acc

def childPeerTS (p : Payload) (acc : PeerRekey) : Except Err PeerRekey :=
  if p.type = PayloadType.tsi then .ok { acc with tsi := p.body }
  else .ok { acc with tsr := p.body }

def ikePeerTS (_ : Payload) (_ : PeerRekey) : Except Err PeerRekey :=
  .error (.errorf "control: unexpected TS payload in peer IKE rekey")

/-! ### Assigned configuration -/

/-- The categories that a CP body carries. -/
structure CesAssignedMask where
  v4Addr : Bool
  v4DNS : Bool
  v6Addr : Bool
  v6DNS : Bool
  expiry : Bool
  deriving DecidableEq, Repr

def noAssigned : AssignedConfig := ⟨none, none, 0, [], [], 0⟩

def decodeAssignedAttribute (attr : ConfigAttribute) (out : AssignedConfig × CesAssignedMask) :
    Except Err (AssignedConfig × CesAssignedMask) :=
  let (cfg, mask) := out
  if attr.type = configAttrInternalIPv4Address then
    if attr.value.length = 0 then .ok out
    else if attr.value.length ≠ 4 then
      .error (.errorf s!"control: invalid INTERNAL_IP4_ADDRESS length {attr.value.length}")
    else .ok ({ cfg with internalIPv4 := some attr.value }, { mask with v4Addr := true })
  else if attr.type = configAttrInternalIPv4DNS then
    if attr.value.length ≠ 4 then
      .error (.errorf s!"control: invalid INTERNAL_IP4_DNS length {attr.value.length}")
    else .ok ({ cfg with dns4 := cfg.dns4 ++ [attr.value] }, { mask with v4DNS := true })
  else if attr.type = configAttrInternalIPv6Address then
    if attr.value.length = 0 then .ok out
    else if attr.value.length ≠ 17 then
      .error (.errorf s!"control: invalid INTERNAL_IP6_ADDRESS length {attr.value.length}")
    else if attr.value.getD 16 0 > 128 then
      .error (.errorf
        s!"control: invalid INTERNAL_IP6_ADDRESS prefix length {attr.value.getD 16 0}")
    else .ok ({ cfg with
        internalIPv6 := some (attr.value.take 16)
        internalIPv6Prefix := attr.value.getD 16 0 }, { mask with v6Addr := true })
  else if attr.type = configAttrInternalIPv6DNS then
    if attr.value.length ≠ 16 then
      .error (.errorf s!"control: invalid INTERNAL_IP6_DNS length {attr.value.length}")
    else .ok ({ cfg with dns6 := cfg.dns6 ++ [attr.value] }, { mask with v6DNS := true })
  else if attr.type = configAttrInternalAddressExpiry then
    if attr.value.length = 4 then
      .ok ({ cfg with addressExpirySeconds := beUint32 attr.value }, { mask with expiry := true })
    else .ok out
  else .ok out

def decodeAssignedAttributes : List ConfigAttribute → AssignedConfig × CesAssignedMask →
    Except Err (AssignedConfig × CesAssignedMask)
  | [], out => .ok out
  | attr :: attrs, out => do
    let out ← decodeAssignedAttribute attr out
    decodeAssignedAttributes attrs out

/-- A CFG_REPLY or CFG_SET as a configuration and the categories it carried. -/
def cesDecodeAssignedCP (cp : ConfigPayload) : Except Err (AssignedConfig × CesAssignedMask) :=
  decodeAssignedAttributes cp.attributes (noAssigned, ⟨false, false, false, false, false⟩)

def cesDecodeAssigned (b : Bytes) : Except Err AssignedConfig := do
  let cp ← parseConfigPayload b
  if cp.kind ≠ ConfigType.reply ∧ cp.kind ≠ ConfigType.set then
    .error (.errorf "control: expected CFG_REPLY or CFG_SET")
  else do
    let (assigned, _) ← cesDecodeAssignedCP cp
    .ok assigned

/-- The previous configuration with the categories that an update carried. -/
def mergeAssigned (prev incoming : AssignedConfig) (present : CesAssignedMask) : AssignedConfig where
  internalIPv4 := if present.v4Addr then incoming.internalIPv4 else prev.internalIPv4
  internalIPv6 := if present.v6Addr then incoming.internalIPv6 else prev.internalIPv6
  internalIPv6Prefix :=
    if present.v6Addr then incoming.internalIPv6Prefix else prev.internalIPv6Prefix
  dns4 := if present.v4DNS then incoming.dns4 else prev.dns4
  dns6 := if present.v6DNS then incoming.dns6 else prev.dns6
  addressExpirySeconds :=
    if present.expiry then incoming.addressExpirySeconds else prev.addressExpirySeconds

/-- Whole replacement (CFG_REPLY) or merging (CFG_SET). -/
inductive ConfigApplyMode where
  | replace
  | merge
  deriving DecidableEq, Repr

def updatedAssigned (prev : Option AssignedConfig) (incoming : AssignedConfig)
    (present : CesAssignedMask) : ConfigApplyMode → AssignedConfig
  | .replace => incoming
  | .merge => match prev with
    | some prev => mergeAssigned prev incoming present
    | none => incoming

end Swan.Control
