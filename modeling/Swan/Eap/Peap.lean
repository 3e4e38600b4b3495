import Swan.Eap.PeapFragment
import Swan.Eap.Verified

/-! # PEAP

The peer of PEAP: the outer packets of the server carry, in fragments, the messages of a TLS session;
once that session stands and the identity of its server is verified, EAP-MSCHAPv2 runs inside it. The
TLS engine is any state with the calls that the method makes.

`events` is not in the source: it records, in order, what the calls so far have brought about. -/

namespace Swan.Eap.Peap

open Swan.Lib Swan.Xcrypto

/-! ### The TLS engine -/

/-- The outcome of feeding one inbound record to the engine. -/
inductive Step where
  | needMoreData
  | outbound
  | established
  deriving DecidableEq, Repr

/-- What the method asks of its TLS engine. -/
class Engine (E : Type) where
  start : Eff E Bytes
  feed : Bytes → Eff E (Bytes × Step)
  established : Eff E Bool
  verifyServerIdentity : Bytes → Eff E Unit
  protect : Bytes → Eff E Bytes
  unprotect : Bytes → Eff E Bytes
  exportMSK : Eff E Bytes

/-! ### Tunneled packets -/

def msAVPSuccess : Bytes := [0x80, 0x03, 0x00, 0x02, 0x00, 0x01]
def msAVPFailure : Bytes := [0x80, 0x03, 0x00, 0x02, 0x00, 0x02]

/-- The payload of a request that carries a success or a failure. -/
def isMSAVP (tlsData : Bytes) : Option Bytes :=
  if tlsData.length ≠ 11 ∨ tlsData.getD 4 0 ≠ typeMSTLV then none else some (tlsData.drop 5)

/-- Whether the declared length is the length. -/
def completeEAPPacket (b : Bytes) : Bool :=
  4 ≤ b.length ∧ (beUint16 (slice b 2 4)).toNat = b.length

def completeInnerRequest (b : Bytes) : Bool := completeEAPPacket b && b.headD 0 == codeRequest

/-- The inner packet in the plaintext of the tunnel. -/
def decodeInnerRequest (tlsData : Bytes) (eapID : UInt8) : Except Err Bytes :=
  if tlsData.length > 4 ∧ completeInnerRequest tlsData then
    if tlsData.length = 5 ∧ tlsData.getD 4 0 = typeIdentity then .ok tlsData
    else
      match isMSAVP tlsData with
      | some payload =>
        if payload = msAVPSuccess then .ok [codeSuccess, tlsData.getD 1 0, 0, 4]
        else if payload = msAVPFailure then .ok [codeFailure, tlsData.getD 1 0, 0, 4]
        else .error (.errorf "github.com/wsm25/swan/eap/peap: unknown ms-avp message")
      | none => .ok tlsData
  else
    -- the server leaves out the header of most inner requests
    let total := 4 + tlsData.length
    if total > 65535 then
      .error (.errorf s!"github.com/wsm25/swan/eap/peap: inner eap packet too large: {total}")
    else .ok (codeRequest :: eapID :: putUint16 (UInt16.ofNat total) ++ tlsData)

def msAVPPayloadFor (code : UInt8) : Bytes := if code = codeSuccess then msAVPSuccess else msAVPFailure

def encodeInnerResponse (inner : Bytes) : Except Err Bytes :=
  if completeEAPPacket inner = false then
    .error (.errorf "github.com/wsm25/swan/eap/peap: inner eap packet too short or length mismatch")
  else if inner.headD 0 = codeSuccess ∨ inner.headD 0 = codeFailure then
    .ok (codeResponse :: inner.getD 1 0 :: 0 :: 11 :: typeMSTLV :: msAVPPayloadFor (inner.headD 0))
  else if inner.length < 5 then
    .error (.errorf "github.com/wsm25/swan/eap/peap: inner eap packet missing type")
  else .ok (inner.drop 4)

/-! ### The method -/

inductive Phase where
  | idle
  | outerIdentity
  | tlsTunnel
  | innerMethod
  | awaitingOuterSuccess
  | awaitingOuterFailure
  | completed
  | failed
  deriving DecidableEq, Repr

structure Options where
  fragmentSize : ℤ
  /-- No cap unless positive. -/
  maxMessageCount : ℤ
  includeLength : Bool
  strongswanCompatible : Bool
  insecureSkipVerify : Bool
  deriving DecidableEq, Repr

structure Method (E : Type) where
  serverName : Bytes
  identity : Bytes
  password : Bytes
  opts : Options
  inner : Option MSCHAPv2.Method
  tls : Option E
  phase : Phase
  pendingOut : Option OutboundFragmenter
  pendingIn : Option InboundFragmenter
  messages : ℕ
  msk : Option Bytes

/-- What a call has brought about. -/
inductive Event where
  /-- The engine has reported the handshake complete. -/
  | established
  /-- The identity of the server was verified. -/
  | identified
  /-- The inner method was called. -/
  | inner (call : MSCHAPv2.Call)
  /-- The server has sent the success of the inner method. -/
  | innerSuccess
  /-- The server has sent the outer success. -/
  | outerSuccess

/-- The method, the random source and the events so far. -/
structure Machine (E : Type) extends Method E where
  rng : Rng
  events : List Event

section Handle

variable {E : Type}

def new (serverName identity password : Bytes) (opts : Options) : Method E :=
  ⟨serverName, identity, password, opts, none, none, .idle, none, none, 0, none⟩

def nilDereference : Err := .panicked "invalid memory address or nil pointer dereference"

def setPhase (p : Phase) : Eff (Machine E) Unit := Eff.modify fun m => { m with phase := p }

def note (e : Event) : Eff (Machine E) Unit := Eff.modify fun m => { m with events := m.events ++ [e] }

def onTLS {α : Type} : Eff E α → Eff (Machine E) α :=
  Eff.zoomPart (fun m => m.tls) (fun tls m => { m with tls := some tls }) nilDereference

/-- A call of the TLS engine whose error gets a text in front. -/
def onTLSf {α : Type} (text : String) (x : Eff E α) : Eff (Machine E) α := do
  match ← Eff.attempt (onTLS x) with
  | .error e => Eff.fail (.wrapf text e)
  | .ok a => pure a

def onOut {α : Type} : Err → Eff OutboundFragmenter α → Eff (Machine E) α :=
  Eff.zoomPart (fun m => m.pendingOut) fun f m => { m with pendingOut := some f }

def onIn {α : Type} : Eff InboundFragmenter α → Eff (Machine E) α :=
  Eff.zoomPart (fun m => m.pendingIn) (fun f m => { m with pendingIn := some f })
    (.errorf "github.com/wsm25/swan/eap/peap: nil inbound fragmenter")

theorem run_onOut {α : Type} {m : Machine E} {f : OutboundFragmenter} (missing : Err)
    (x : Eff OutboundFragmenter α) (h : m.pendingOut = some f) :
    (onOut missing x).run m = ((x.run f).1, { m with pendingOut := some (x.run f).2 }) :=
  Eff.run_zoomPart h

def initializeInner : Eff (Machine E) Unit := do
  let m ← Eff.get
  match m.inner with
  | none => Eff.fail nilDereference
  | some inner => do
    let inner ← Eff.lift inner.initialize
    Eff.modify fun m => { m with inner := some inner }

variable [Digests]

/-- A call of the inner method, with a record of it. -/
def handleByInner (packet : Bytes) : Eff (Machine E) Result := fun m =>
  match m.inner with
  | none => (.error nilDereference, m)
  | some inner =>
    let (r, s) := (MSCHAPv2.handle packet).run ⟨inner, m.rng⟩
    (r, { m with inner := some s.method, rng := s.rng, events := m.events ++ [.inner ⟨packet, r⟩] })

/-! ### Initialization -/

/-- Rebuild the state of a run. -/
def reset (newEngine : Bytes → Options → Except Err E) : Eff (Machine E) Unit := do
  Eff.modify fun m => { m with tls := none }
  let m ← Eff.get
  let tlsEngine ← Eff.lift (newEngine m.serverName m.opts)
  Eff.modify fun m => { m with
    inner := some (MSCHAPv2.new m.identity m.password)
    tls := some tlsEngine
    phase := .outerIdentity
    pendingOut := newOutboundFragmenter m.opts.fragmentSize m.opts.includeLength }
  let m ← Eff.get
  if m.pendingOut = none then Eff.fail (.errorf "peap fragment_size must be > 0")
  else Eff.modify fun m => { m with
    pendingIn := some newInboundFragmenter, messages := 0, msk := none, events := [] }

def Machine.initialize (newEngine : Bytes → Options → Except Err E) : Eff (Machine E) Unit := do
  let m ← Eff.get
  if m.identity = [] then Eff.fail (.errorf "peap identity is empty")
  else if m.password = [] then Eff.fail (.errorf "peap password is empty")
  else if m.serverName = [] then Eff.fail (.errorf "peap aaa_identity is empty")
  else if m.opts.fragmentSize ≤ 0 then Eff.fail (.errorf "peap fragment_size must be > 0")
  else reset newEngine

/-! ### Responses -/

def encodePeapResponse (id : UInt8) (frag : Bytes) : Except Err Bytes :=
  let totalLen := 5 + frag.length
  if totalLen > 0xFFFF then .error (.errorf "peap packet too large")
  else .ok (codeResponse :: id :: putUint16 (UInt16.ofNat totalLen) ++ typePEAP :: frag)

/-- An empty response, which asks for the next fragment of the server. -/
def encodeEmptyAck (id : UInt8) : Eff (Machine E) Result :=
  Result.send <$> Eff.lift (buildRequest codeResponse id typePEAP [0])

def emitFragmentedOrSingle (id : UInt8) (payload : Bytes) (baseFlags : UInt8) : Eff (Machine E) Result := do
  let frag ← onOut (.errorf "github.com/wsm25/swan/eap/peap: nil outbound fragmenter")
    (OutboundFragmenter.start payload (baseFlags ||| supportedVersion))
  Result.send <$> Eff.lift (encodePeapResponse id frag.1)

def emitNextFragment (id : UInt8) : Eff (Machine E) Result := do
  let frag ← onOut (.errorf "github.com/wsm25/swan/eap/peap: no outbound peap fragments pending")
    OutboundFragmenter.next
  Result.send <$> Eff.lift (encodePeapResponse id frag.1)

/-! ### The phases -/

variable [Engine E]

/-- The tunnel stands: verify the identity of its server and begin the inner method. -/
def enterInnerMethod : Eff (Machine E) Unit := do
  note .established
  let m ← Eff.get
  onTLS (Engine.verifyServerIdentity m.serverName)
  note .identified
  setPhase .innerMethod
  initializeInner

/-- A record of the engine goes out; it may be the last one of the handshake. -/
def enterIfEstablished : Eff (Machine E) Unit := do
  let m ← Eff.get
  if m.phase = .tlsTunnel then do
    let established ← onTLS Engine.established
    Eff.when (established = true) enterInnerMethod
  else pure ()

def onTLSStep (id : UInt8) (out : Bytes) : Step → Eff (Machine E) Result
  | .needMoreData => encodeEmptyAck id
  | .outbound => do
    enterIfEstablished
    emitFragmentedOrSingle id out 0
  | .established => do
    enterInnerMethod
    encodeEmptyAck id

/-- Send an inner response through the tunnel; `next` is done once it is encrypted. -/
def tunnelResponse (id : UInt8) (inner : Bytes) (next : Eff (Machine E) Unit) : Eff (Machine E) Result := do
  let tunneled ← Eff.lift (encodeInnerResponse inner)
  let encrypted ← onTLS (Engine.protect tunneled)
  next
  emitFragmentedOrSingle id encrypted 0

/-- One packet of the inner method. The two terminal packets do not go to it. -/
def handleInnerMethod (id : UInt8) (plain : Bytes) : Eff (Machine E) Result := do
  let innerReq ← Eff.lift (decodeInnerRequest plain id)
  if innerReq.headD 0 = codeSuccess then do
    note .innerSuccess
    tunnelResponse id innerReq (setPhase .awaitingOuterSuccess)
  else if innerReq.headD 0 = codeFailure then
    tunnelResponse id innerReq (setPhase .awaitingOuterFailure)
  else do
    match ← handleByInner innerReq with
    | .complete _ => Eff.fail (.errorf
        "unexpected standalone mschapv2 completion without terminal inner packet")
    | .send response => tunnelResponse id response (pure ())

def inOuterIdentity (outer : Packet) (peap : Option PeapRequest) : Eff (Machine E) Result :=
  if outer.code = codeRequest ∧ outer.type = typeIdentity then do
    let m ← Eff.get
    Result.send <$> Eff.lift (buildRequest codeResponse outer.identifier typeIdentity m.identity)
  else
    match peap with
    | none => Eff.fail (.errorf "unexpected outer eap packet during peap outer identity phase")
    | some peap =>
      if peap.flags &&& flagStart = 0 then Eff.fail (.errorf "expected peap start flag")
      else if peap.hasLength = true ∨ peap.data.length ≠ 0 then
        Eff.fail (.errorf "unexpected peap tls data on start")
      else do
        setPhase .tlsTunnel
        let hello ← onTLSf "start peap tls handshake: " Engine.start
        emitFragmentedOrSingle peap.identifier hello 0

/-- The two phases with TLS records of the server. `what` names the phase, and `use` is what it does with
a record. -/
def inTunnel (what : String) (use : UInt8 → Bytes → Eff (Machine E) Result) (outer : Packet)
    (peap : Option PeapRequest) : Eff (Machine E) Result :=
  if outer.code = codeRequest ∧ outer.type = typeIdentity then
    Eff.fail (.errorf s!"unexpected outer identity request during peap {what}")
  else if outer.code = codeFailure then Eff.fail (.errorf "peap authentication failed")
  else if outer.code = codeSuccess then
    Eff.fail (.errorf s!"unexpected outer EAP success {outer.identifier} during peap {what}")
  else
    match peap with
    | none => Eff.fail (.errorf s!"unexpected outer eap packet during peap {what}")
    | some peap =>
      if peap.flags &&& flagStart ≠ 0 then Eff.fail (.errorf "unexpected peap start flag")
      else if isAckRequest peap then encodeEmptyAck peap.identifier
      else do
        match ← onIn (collectTLSRecord peap) with
        | none => encodeEmptyAck peap.identifier
        | some record => use peap.identifier record

def useHandshake (id : UInt8) (record : Bytes) : Eff (Machine E) Result := do
  let step ← onTLSf "peap tls handshake: " (Engine.feed record)
  onTLSStep id step.1 step.2

def useTunneled (id : UInt8) (record : Bytes) : Eff (Machine E) Result := do
  let plain ← onTLSf "peap tls unprotect: " (Engine.unprotect record)
  if plain.length = 0 then Eff.fail (.errorf "unexpected empty inner tunneled payload")
  else handleInnerMethod id plain

def inAwaitingOuterSuccess (outer : Packet) : Eff (Machine E) Result :=
  if outer.code = codeSuccess then do
    let msk ← onTLS Engine.exportMSK
    Eff.modify fun m => { m with msk := some msk, phase := .completed, events := m.events ++ [.outerSuccess] }
    pure (.complete msk)
  else if outer.code = codeFailure then
    Eff.fail (.errorf s!"unexpected outer EAP failure {outer.identifier} after inner success")
  else Eff.fail (.errorf "unexpected outer eap packet while awaiting outer success")

def inAwaitingOuterFailure (outer : Packet) : Eff (Machine E) Result :=
  if outer.code = codeFailure then Eff.fail (.errorf "peap authentication failed")
  else if outer.code = codeSuccess then
    Eff.fail (.errorf s!"unexpected outer EAP success {outer.identifier} after inner failure")
  else Eff.fail (.errorf "unexpected outer eap packet while awaiting outer failure")

def inPhase (outer : Packet) (peap : Option PeapRequest) : Eff (Machine E) Result := do
  let m ← Eff.get
  match m.phase with
  | .idle => Eff.fail (.errorf "peap method was not initialized")
  | .outerIdentity => inOuterIdentity outer peap
  | .tlsTunnel => inTunnel "tls tunnel" useHandshake outer peap
  | .innerMethod => inTunnel "inner method" useTunneled outer peap
  | .awaitingOuterSuccess => inAwaitingOuterSuccess outer
  | .awaitingOuterFailure => inAwaitingOuterFailure outer
  | .completed =>
    match m.msk with
    | none => Eff.fail (.errorf "peap completed without exported msk")
    | some msk => pure (.complete msk)
  | .failed => Eff.fail (.errorf "peap method is in failure state")

def Method.OutPending (m : Method E) : Prop := ∃ f, m.pendingOut = some f ∧ f.Pending

instance (m : Method E) : Decidable m.OutPending :=
  match h : m.pendingOut with
  | none => .isFalse fun ⟨_, hf, _⟩ => nomatch h.symm.trans hf
  | some f =>
    if hp : f.Pending then .isTrue ⟨f, h, hp⟩
    else .isFalse fun ⟨_, hg, hp'⟩ => hp (Option.some.inj (h.symm.trans hg) ▸ hp')

/-- A PEAP request is counted; while fragments go out it has to be the one that asks for the next. -/
def paced (outer : Packet) (peap : PeapRequest) : Eff (Machine E) Result := do
  Eff.modify fun m => { m with messages := m.messages + 1 }
  let m ← Eff.get
  if m.opts.maxMessageCount > 0 ∧ (m.messages : ℤ) > m.opts.maxMessageCount then
    Eff.fail (.errorf "peap packet count exceeded")
  else if m.OutPending then
    if isAckRequest peap = false then
      Eff.fail (.errorf "expected peap ack while outbound fragments pending")
    else emitNextFragment peap.identifier
  else inPhase outer (some peap)

def handleInner (packet : Bytes) : Eff (Machine E) Result := do
  let outer ← Eff.lift (parse packet)
  let m ← Eff.get
  if m.pendingOut = none ∨ m.pendingIn = none then
    Eff.fail (.errorf "peap method was not initialized")
  else if outer.code = codeRequest ∧ outer.type = typePEAP then do
    let peap ← Eff.lift (parsePeapRequest outer.identifier outer.data)
    paced outer peap
  else inPhase outer none

/-- One packet of the server. Any error flips the method into the failed phase. -/
def handle (packet : Bytes) : Eff (Machine E) Result := do
  match ← Eff.attempt (handleInner packet) with
  | .error e => do
    setPhase .failed
    Eff.fail e
  | .ok res => pure res

end Handle

/-! ### A method to try things on -/

abbrev plainEngine : Engine Unit where
  start := pure [1, 2, 3, 4, 5]
  feed _ := pure ([], .established)
  established := pure true
  verifyServerIdentity _ := pure ()
  protect := pure
  unprotect := pure
  exportMSK := pure (List.replicate 64 7)

def sampleNew (fragmentSize : ℤ) : Machine Unit :=
  { new (ascii "aaa") (ascii "user") (ascii "pass") ⟨fragmentSize, 0, false, false, false⟩ with
    rng := zeroRng, events := [] }

def sampleMethod (fragmentSize : ℤ) : Machine Unit :=
  (Eff.run ((fun _ _ => .ok ()) |> Machine.initialize) (sampleNew fragmentSize)).2

def sampleRequest (flags : UInt8) (data : Bytes) : Bytes :=
  codeRequest :: 1 :: putUint16 (UInt16.ofNat (data.length + 6)) ++ typePEAP :: flags :: data

end Swan.Eap.Peap
