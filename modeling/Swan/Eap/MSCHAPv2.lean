import Swan.Eap.MD4
import Swan.Eap.Packet
import Swan.Lib.Utf8
import Swan.Xcrypto.Primitives

/-! # EAP-MSCHAPv2

The peer answers a challenge of the server with a response that rests on its password, and the server
proves that it knows the password too: its success packet carries the authenticator of that response.
After that, and the outer success packet, the method exports a key that rests on the same response. -/

namespace Swan.Eap

open Swan.Lib Swan.Xcrypto

/-- The digest and the block cipher of the standard library that MSCHAPv2 rests on. -/
class Digests where
  sha1 : Bytes → Bytes
  length_sha1 : ∀ b, (sha1 b).length = 20
  /-- DES on one block, under a key of eight bytes. -/
  des : Bytes → Bytes → Bytes
  length_des : ∀ key block, (des key block).length = 8

namespace MSCHAPv2

def opChallenge : UInt8 := 1

def opResponse : UInt8 := 2

def opSuccess : UInt8 := 3

def opFailure : UInt8 := 4

def challengeLen : ℕ := 16

def authStringHexLen : ℕ := 40

def magic1 : Bytes := ascii "Magic server to client signing constant"

def magic2 : Bytes := ascii "Pad to make it do more than one iteration"

def mskMagic1 : Bytes := ascii "This is the MPPE Master Key"

def mskMagic2 : Bytes :=
  ascii "On the client side, this is the send key; on the server side, it is the receive key."

def mskMagic3 : Bytes :=
  ascii "On the client side, this is the receive key; on the server side, it is the send key."

def shapad1 : Bytes := List.replicate 40 0

def shapad2 : Bytes := List.replicate 40 0xF2

/-! ### Hashes -/

/-- A password in 16-bit units, least significant byte first. -/
def utf16LE (s : Bytes) : Bytes :=
  (Utf8.utf16 s).flatMap fun u => [UInt8.ofNat u, UInt8.ofNat (u / 256)]

def ntPasswordHash (password : Bytes) : Bytes := md4 (utf16LE password)

/-- Set the low bit so that the number of ones is odd. -/
def oddParity (b : UInt8) : UInt8 :=
  let b := b &&& 0xFE
  if ((List.range 8).filter fun i => b.toNat.testBit i).length % 2 = 0 then b ||| 1 else b

/-- A DES key from seven bytes: seven bits a byte, and a bit for the parity. -/
def expandDesKey (key7 : Bytes) : Bytes :=
  let k := fun i => key7.getD i 0
  [k 0 &&& 0xFE,
    ((k 0 <<< 7) ||| (k 1 >>> 1)) &&& 0xFE,
    ((k 1 <<< 6) ||| (k 2 >>> 2)) &&& 0xFE,
    ((k 2 <<< 5) ||| (k 3 >>> 3)) &&& 0xFE,
    ((k 3 <<< 4) ||| (k 4 >>> 4)) &&& 0xFE,
    ((k 4 <<< 3) ||| (k 5 >>> 5)) &&& 0xFE,
    ((k 5 <<< 2) ||| (k 6 >>> 6)) &&& 0xFE,
    k 6 <<< 1].map oddParity

def hexDigits : Bytes := ascii "0123456789ABCDEF"

def hexEncode (b : Bytes) : Bytes :=
  b.flatMap fun v => [hexDigits.getD (v.toNat / 16) 0, hexDigits.getD (v.toNat % 16) 0]

section Hashes

variable [Digests]

/-- The challenge that both sides have contributed to. -/
def challengeHash (peerChallenge authChallenge username : Bytes) : Bytes :=
  (Digests.sha1 (peerChallenge ++ authChallenge ++ username)).take 8

def generateNTResponse (peerChallenge authChallenge username password : Bytes) : Bytes :=
  let challenge := challengeHash peerChallenge authChallenge username
  let zeroPadded := ntPasswordHash password ++ List.replicate 5 0
  (List.range 3).flatMap fun i =>
    Digests.des (expandDesKey (slice zeroPadded (i * 7) ((i + 1) * 7))) challenge

def generateAuthenticatorResponse (peerChallenge authChallenge username password ntResponse : Bytes) :
    Bytes :=
  let pwHashHash := md4 (ntPasswordHash password)
  let first := Digests.sha1 (pwHashHash ++ ntResponse ++ magic1)
  let challenge := challengeHash peerChallenge authChallenge username
  hexEncode (Digests.sha1 (first ++ challenge ++ magic2))

/-- The master session key of a response. -/
def generateMSK (password ntResponse : Bytes) : Bytes :=
  let pwHashHash := md4 (ntPasswordHash password)
  let master := (Digests.sha1 (pwHashHash ++ ntResponse ++ mskMagic1)).take 16
  let recv := Digests.sha1 (master ++ shapad1 ++ mskMagic2 ++ shapad2)
  let send := Digests.sha1 (master ++ shapad1 ++ mskMagic3 ++ shapad2)
  recv.take 16 ++ send.take 16 ++ List.replicate 16 0 ++ List.replicate 16 0

end Hashes

/-! ### Texts of the server -/

def isDigit (c : UInt8) : Bool := 0x30 ≤ c ∧ c ≤ 0x39

def isHexDigit (c : UInt8) : Bool := isDigit c || (0x61 ≤ c && c ≤ 0x66) || (0x41 ≤ c && c ≤ 0x46)

/-- Whether a text is hexadecimal, in either case. -/
def isHex (s : Bytes) : Bool := s.length % 2 = 0 && s.all isHexDigit

def toLower (c : UInt8) : UInt8 := if 0x41 ≤ c ∧ c ≤ 0x5A then c + 32 else c

/-- Whether two ASCII texts differ only in case. -/
def equalFold (s t : Bytes) : Bool := s.map toLower = t.map toLower

/-- The rest of a text after a given beginning. -/
def cutPrefix (pre s : Bytes) : Option Bytes :=
  if pre.isPrefixOf s then some (s.drop pre.length) else none

/-- Check the authenticator in a success packet. -/
def verifySuccess (payload expected : Bytes) : Except Err Unit :=
  if payload.length < 2 + authStringHexLen then
    .error (.errorf "mschapv2 success payload too short")
  else if Utf8.valid payload = false then
    .error (.errorf "mschapv2 success payload is not utf8")
  else
    let sig := ((Utf8.fields payload).findSome? (cutPrefix (ascii "S="))).getD []
    if sig = [] then .error (.errorf "mschapv2 success missing authenticator response")
    else if sig.length ≠ authStringHexLen then
      .error (.errorf "mschapv2 success invalid auth string length")
    else if isHex sig = false then
      .error (.errorf "mschapv2 success invalid auth string encoding")
    else if equalFold sig expected = false then
      .error (.errorf "mschapv2 success authenticator response mismatch")
    else .ok ()

/-- The tokens that were seen in a failure packet. -/
structure FailureTokens where
  hasErrorCode : Bool
  hasRetryFlag : Bool
  hasChallenge : Bool

def failureToken (t : FailureTokens) (token : Bytes) : Except Err FailureTokens :=
  let key := token.takeWhile (· ≠ 0x3D)
  let value := token.drop (key.length + 1)
  if key.length = token.length then
    .error (.errorf s!"mschapv2 failure has malformed token {quoted token}")
  else if key = ascii "E" then
    if value = [] ∨ value.all isDigit = false ∨
        2 ^ 32 ≤ value.foldl (fun n c => 10 * n + (c.toNat - 0x30)) 0 then
      .error (.errorf "mschapv2 failure has invalid E code")
    else .ok { t with hasErrorCode := true }
  else if key = ascii "R" then
    if value ≠ ascii "0" ∧ value ≠ ascii "1" then
      .error (.errorf "mschapv2 failure has invalid R token")
    else .ok { t with hasRetryFlag := true }
  else if key = ascii "C" then
    if value.length ≠ challengeLen * 2 ∨ isHex value = false then
      .error (.errorf "mschapv2 failure has invalid challenge token")
    else .ok { t with hasChallenge := true }
  else if key = ascii "V" then
    if value = [] ∨ value.all isDigit = false then
      .error (.errorf "mschapv2 failure has invalid V token")
    else .ok t
  else if key = ascii "M" then
    if value = [] then .error (.errorf "mschapv2 failure has invalid M token") else .ok t
  else .error (.errorf s!"mschapv2 failure has unsupported token {quoted key}")

/-- Check the text of a failure packet. -/
def parseFailureTokens (payload : Bytes) : Except Err Unit :=
  if payload.length < 3 then .error (.errorf "mschapv2 failure payload too short")
  else if Utf8.valid payload = false then
    .error (.errorf "mschapv2 failure payload is not utf8")
  else do
    let t ← (Utf8.fields payload).foldlM failureToken ⟨false, false, false⟩
    if t.hasErrorCode = false then .error (.errorf "mschapv2 failure payload missing E token")
    else if t.hasRetryFlag = false then
      .error (.errorf "mschapv2 failure payload missing R token")
    else if t.hasChallenge = false then
      .error (.errorf "mschapv2 failure payload missing C token")
    else .ok ()

/-! ### The method -/

inductive Phase where
  | negotiating
  | challenging
  | verifying
  | completed
  | failed
  deriving DecidableEq, Repr

/-- The challenge that was answered last. -/
structure ChallengeState where
  mschapID : UInt8
  expectingSuccess : Bool
  authHex : Bytes
  msk : Bytes
  deriving DecidableEq, Repr

structure Method where
  identity : Bytes
  password : Bytes
  phase : Phase
  state : Option ChallengeState
  deriving DecidableEq, Repr

/-- The method and the random source. -/
structure Machine where
  method : Method
  rng : Rng

namespace Machine

def setPhase (p : Phase) (m : Machine) : Machine := { m with method := { m.method with phase := p } }

def setState (st : Option ChallengeState) (m : Machine) : Machine :=
  { m with method := { m.method with state := st } }

end Machine

def new (identity password : Bytes) : Method := ⟨identity, password, .negotiating, none⟩

def Method.reset (m : Method) : Method := { m with phase := .negotiating, state := none }

def Method.initialize (m : Method) : Except Err Method :=
  if m.identity = [] then .error (.errorf "mschapv2 identity is empty")
  else if m.password = [] then .error (.errorf "mschapv2 password is empty")
  else .ok m.reset

def extractUsername (identity : Bytes) : Bytes :=
  if 0x5C ∈ identity then (identity.dropWhile (· ≠ 0x5C)).drop 1 else identity

def nakResponse (eapID : UInt8) : Except Err Bytes :=
  buildRequest codeResponse eapID typeNAK [typeMSCHAPV2]

def buildResponse (eapID mschapID : UInt8) (peerChallenge ntResponse identity : Bytes) :
    Except Err Bytes :=
  let value := 49 :: peerChallenge ++ List.replicate 8 0 ++ ntResponse ++ 0 :: identity
  buildRequest codeResponse eapID typeMSCHAPV2
    (opResponse :: mschapID :: putUint16 (UInt16.ofNat (value.length + 4)) ++ value)

def buildSuccess (eapID : UInt8) : Except Err Bytes :=
  buildRequest codeResponse eapID typeMSCHAPV2 [opSuccess]

/-- The challenge state that a success or a failure packet refers to. -/
def currentChallenge (what : String) (mschapID : UInt8) (m : Machine) : Except Err ChallengeState :=
  match m.method.state with
  | none => .error (.errorf s!"mschapv2 {what} without prior challenge")
  | some st =>
    if st.expectingSuccess = false then
      .error (.errorf s!"unexpected mschapv2 {what} in current state")
    else if st.mschapID ≠ mschapID then .error (.errorf (s!"mschapv2 id mismatch: " ++
      s!"expected {st.mschapID.toNat}, got {mschapID.toNat}"))
    else .ok st

def onSuccess (eapID mschapID : UInt8) (data : Bytes) : Eff Machine Bytes := do
  let m ← Eff.get
  let st ← Eff.lift (currentChallenge "success" mschapID m)
  Eff.lift (verifySuccess data st.authHex)
  Eff.modify (Machine.setState (some { st with expectingSuccess := false }))
  Eff.lift (buildSuccess eapID)

def onFailure (mschapID : UInt8) (data : Bytes) : Eff Machine Bytes := do
  let m ← Eff.get
  let _ ← Eff.lift (currentChallenge "failure" mschapID m)
  Eff.lift (parseFailureTokens data)
  Eff.modify (Machine.setState none)
  Eff.fail (.errorf "inner mschapv2 authentication failed")

def failWith {α : Type} (e : Err) : Eff Machine α := do
  Eff.modify (Machine.setPhase .failed)
  Eff.fail e

variable [Digests]

def answerChallenge (m : Method) (eapID mschapID : UInt8) (peerChallenge authChallenge : Bytes) :
    ChallengeState × Except Err Bytes :=
  let username := extractUsername m.identity
  let ntResponse := generateNTResponse peerChallenge authChallenge username m.password
  (⟨mschapID, true,
      generateAuthenticatorResponse peerChallenge authChallenge username m.password ntResponse,
      generateMSK m.password ntResponse⟩,
    buildResponse eapID mschapID peerChallenge ntResponse m.identity)

def onChallenge (eapID mschapID : UInt8) (data : Bytes) : Eff Machine Bytes := do
  let m ← Eff.get
  if m.method.state.any ChallengeState.expectingSuccess then
    Eff.fail (.errorf "received unexpected mschapv2 challenge while waiting for success")
  else if data.length ≤ challengeLen + 1 then
    Eff.fail (.errorf "mschapv2 challenge payload too short")
  else if (data.headD 0).toNat ≠ challengeLen then
    Eff.fail (.errorf s!"unsupported mschapv2 challenge size {(data.headD 0).toNat}")
  else do
    match ← Eff.attempt ((fill challengeLen).zoom Machine.rng fun g m => { m with rng := g }) with
    | .error e => Eff.fail (.wrapf "generate mschapv2 peer challenge: " e)
    | .ok peerChallenge =>
      let (st, response) :=
        answerChallenge m.method eapID mschapID peerChallenge (slice data 1 (1 + challengeLen))
      Eff.modify (Machine.setState (some st))
      Eff.lift response

/-- One MSCHAPv2 request: the bytes after the type of the packet. -/
def onRequest (eapID : UInt8) : Bytes → Eff Machine Bytes
  | opcode :: mschapID :: l₁ :: l₀ :: data =>
    let declaredLen := (beUint16 [l₁, l₀]).toNat
    if declaredLen < 4 ∨ declaredLen ≠ data.length + 4 then do
      Eff.modify (Machine.setPhase .failed)
      Eff.fail (.errorf "invalid mschapv2 length")
    else if opcode = opChallenge then onChallenge eapID mschapID data
    else if opcode = opSuccess then onSuccess eapID mschapID data
    else if opcode = opFailure then onFailure mschapID data
    else Eff.fail (.errorf s!"unsupported mschapv2 opcode {opcode.toNat}")
  | _ => do
    Eff.modify (Machine.setPhase .failed)
    Eff.fail (.errorf "mschapv2 payload too short")

def handle (packet : Bytes) : Eff Machine Result := do
  let m ← Eff.get
  if m.method.phase = .failed then Eff.fail (.errorf "mschapv2 method is in failure state")
  else
    match parse packet with
    | .error e => failWith e
    | .ok pkt =>
      if pkt.code = codeRequest then
        if pkt.type = typeIdentity then do
          Eff.modify (Machine.setPhase .negotiating)
          Result.send <$> Eff.lift
            (buildRequest codeResponse pkt.identifier typeIdentity m.method.identity)
        else if pkt.type = typeMSCHAPV2 then do
          Eff.modify (Machine.setPhase
            (if m.method.state.isSome then .verifying else .challenging))
          match ← Eff.attempt (onRequest pkt.identifier pkt.data) with
          | .error e => failWith e
          | .ok resp => pure (.send resp)
        else do
          Eff.modify (Machine.setPhase .negotiating)
          Result.send <$> Eff.lift (nakResponse pkt.identifier)
      else if pkt.code = codeSuccess then
        match m.method.state with
        | none => failWith (.errorf "mschapv2 success without prior challenge")
        | some st =>
          if st.expectingSuccess then
            failWith (.errorf "outer eap success before verified mschapv2")
          else do
            Eff.modify (Machine.setPhase .completed)
            pure (.complete st.msk)
      else if pkt.code = codeFailure then
        failWith (.errorf s!"received eap failure with identifier {pkt.identifier.toNat}")
      else failWith (.errorf s!"unsupported outer eap code {pkt.code.toNat} for mschapv2")

end MSCHAPv2

end Swan.Eap
