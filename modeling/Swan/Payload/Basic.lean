import Swan.Wire.Message

/-! # The bodies of the simple payloads

KE, NONCE, ID, NOTIFY, DELETE and CP. Each body has a writer and a parser; `parseKE_appendKE`,
`parseNonce_appendNonce`, `parseID_appendID` and `parseNotify_appendNotify` read back what was written. A
value that has no wire form makes the writer panic. -/

namespace Swan.Payload

open Swan.Lib Swan.Wire

/-! ### Protocol numbers -/

def keFixedLen : ℕ := 4
def idFixedLen : ℕ := 4
def notifyFixedLen : ℕ := 4
def deleteFixedLen : ℕ := 4
def configFixedLen : ℕ := 4
def configAttrFixedLen : ℕ := 4

abbrev NotifyType := UInt16

namespace NotifyType
def noProposalChosen : NotifyType := 14
def invalidKePayload : NotifyType := 17
def temporaryFailure : NotifyType := 43
def childSANotFound : NotifyType := 44
def cookie : NotifyType := 16390
def rekeySA : NotifyType := 16393
end NotifyType

def notifyProtocolNone : UInt8 := 0
def deleteProtocolIKE : UInt8 := 1
def deleteProtocolAH : UInt8 := 2
def deleteProtocolESP : UInt8 := 3

/-! ### KE -/

/-- The DH group and the public value of a KE payload. -/
structure KeyExchange where
  dhGroup : UInt16
  data : Bytes
  deriving DecidableEq, Repr

def appendKE (ke : KeyExchange) : Bytes := putUint16 ke.dhGroup ++ [0, 0] ++ ke.data

def parseKE (b : Bytes) : Except Err KeyExchange :=
  if b.length < keFixedLen then .error (.errorf s!"ke payload too short: {b.length} bytes")
  else if (b.drop keFixedLen).length = 0 then
    .error (.errorf "ke payload is missing public key data")
  else .ok { dhGroup := beUint16 (slice b 0 2), data := b.drop keFixedLen }

/-! ### NONCE -/

def appendNonce (nonce : Bytes) : Bytes := nonce

def parseNonce (b : Bytes) : Except Err Bytes :=
  if b.length = 0 then .error (.errorf "nonce payload is empty") else .ok b

/-! ### ID -/

namespace IDType
def ipv4Addr : UInt8 := 1
def fqdn : UInt8 := 2
def rfc822Addr : UInt8 := 3
def ipv6Addr : UInt8 := 5
def keyID : UInt8 := 11
end IDType

/-- The body of an IDi or IDr payload. -/
structure ID where
  type : UInt8
  data : Bytes
  deriving DecidableEq, Repr

def appendID (id : ID) : Bytes := [id.type, 0, 0, 0] ++ id.data

def parseID (b : Bytes) : Except Err ID :=
  if b.length < idFixedLen then .error (.errorf s!"id payload too short: {b.length} bytes")
  else if (b.drop idFixedLen).length = 0 then
    .error (.errorf "id payload is missing identity data")
  else .ok { type := b.getD 0 0, data := b.drop idFixedLen }

theorem parseID_appendID {id : ID} (h : id.data ≠ []) : parseID (appendID id) = .ok id := by
  have hdrop : (appendID id).drop idFixedLen = id.data := List.drop_left' rfl
  rw [parseID, hdrop, if_neg (by simp [appendID, idFixedLen]), if_neg (by simpa using h)]
  rfl

/-! ### NOTIFY -/

structure Notify where
  protocolID : UInt8
  spi : Bytes
  type : NotifyType
  data : Bytes
  deriving DecidableEq, Repr

def appendNotify (n : Notify) : Except Err Bytes :=
  if n.spi.length > 255 then
    .error (.panicked
      s!"github.com/wsm25/swan/payload: notify SPI length {n.spi.length} exceeds wire limit 255")
  else .ok ([n.protocolID, UInt8.ofNat n.spi.length] ++ putUint16 n.type ++ n.spi ++ n.data)

def checkNotifyScope (protocolID : UInt8) (spiLen : ℕ) : Except Err Unit :=
  if spiLen = 0 then
    if protocolID ≠ notifyProtocolNone ∧ protocolID ≠ deleteProtocolIKE then
      .error (.errorf s!"notify without spi must use protocol 0 or ike, got {protocolID}")
    else .ok ()
  else if protocolID ≠ deleteProtocolAH ∧ protocolID ≠ deleteProtocolESP then
    .error (.errorf s!"notify with spi must target ah or esp, got {protocolID}")
  else .ok ()

def parseNotify (b : Bytes) : Except Err Notify :=
  if b.length < notifyFixedLen then
    .error (.errorf s!"notify payload too short: {b.length} bytes")
  else
    let spiSize := (b.getD 1 0).toNat
    if notifyFixedLen + spiSize > b.length then
      .error (.errorf "notify payload spi exceeds remaining bytes")
    else do
      let n : Notify :=
        { protocolID := b.getD 0 0
          spi := slice b notifyFixedLen (notifyFixedLen + spiSize)
          type := beUint16 (slice b 2 4)
          data := b.drop (notifyFixedLen + spiSize) }
      checkNotifyScope n.protocolID n.spi.length
      .ok n

theorem parseNotify_appendNotify {n : Notify} {b : Bytes} (hb : appendNotify n = .ok b)
    (hs : checkNotifyScope n.protocolID n.spi.length = .ok ()) : parseNotify b = .ok n := by
  unfold appendNotify at hb
  split_ifs at hb with h255
  obtain rfl := Except.ok.inj hb
  set hd : Bytes := [n.protocolID, UInt8.ofNat n.spi.length] ++ putUint16 n.type with hhd
  have hlen : hd.length = notifyFixedLen := by simp [hhd, notifyFixedLen]
  have e1 : ((hd ++ n.spi ++ n.data).getD 1 0).toNat = n.spi.length := by
    simp only [hhd, List.cons_append, List.getD_cons_succ, List.getD_cons_zero]
    exact Nat.mod_eq_of_lt (by omega)
  have e0 : (hd ++ n.spi ++ n.data).getD 0 0 = n.protocolID := by simp [hhd]
  have e2 : slice (hd ++ n.spi ++ n.data) 2 4 = putUint16 n.type := by simp [slice, hhd]
  have e3 : slice (hd ++ n.spi ++ n.data) notifyFixedLen (notifyFixedLen + n.spi.length)
      = n.spi := by
    rw [← hlen, List.append_assoc]; exact slice_middle _ _ _
  have e4 : (hd ++ n.spi ++ n.data).drop (notifyFixedLen + n.spi.length) = n.data :=
    List.drop_left' (by simp [hlen])
  simp only [parseNotify, e0, e1, e2, e3, e4, beUint16_putUint16, hs, ok_bind]
  rw [if_neg (by simp [hlen]), if_neg (by simp [hlen])]

/-! ### DELETE -/

structure Delete where
  protocolID : UInt8
  spis : List UInt32
  deriving DecidableEq, Repr

/-- The panic of the writer for a DELETE without a wire form. -/
def deletePanic (d : Delete) : Option String :=
  if d.protocolID = deleteProtocolIKE then
    if d.spis.length ≠ 0 then
      some "github.com/wsm25/swan/payload: IKE delete must not carry SPIs" else none
  else if d.protocolID = deleteProtocolESP then
    if d.spis.length = 0 ∨ d.spis.length > 0xFFFF then
      some "github.com/wsm25/swan/payload: ESP delete must carry 1..65535 SPIs" else none
  else some s!"github.com/wsm25/swan/payload: unsupported delete protocol {d.protocolID}"

def appendDelete (d : Delete) : Except Err Bytes :=
  match deletePanic d with
  | some text => .error (.panicked text)
  | none =>
    let spiSize : UInt8 := if d.protocolID = deleteProtocolESP then 4 else 0
    .ok ([d.protocolID, spiSize] ++ putUint16 (UInt16.ofNat d.spis.length)
      ++ d.spis.flatMap putUint32)

/-- The 4-byte numbers of a byte string, `n` of them. -/
def beUint32s : ℕ → Bytes → List UInt32
  | 0, _ => []
  | n + 1, b => beUint32 b :: beUint32s n (b.drop 4)

def parseDelete (b : Bytes) : Except Err Delete :=
  if b.length < deleteFixedLen then
    .error (.errorf s!"delete payload too short: {b.length} bytes")
  else
    let protocolID := b.getD 0 0
    let spiSize := (b.getD 1 0).toNat
    let count := (beUint16 (slice b 2 4)).toNat
    let body : Except Err Delete :=
      let expected := deleteFixedLen + count * spiSize
      if b.length ≠ expected then
        .error (.errorf
          s!"invalid delete payload length: declared {expected}, have {b.length}")
      else .ok { protocolID, spis := beUint32s (count * spiSize / 4) (b.drop deleteFixedLen) }
    if protocolID = deleteProtocolIKE then
      if spiSize ≠ 0 then .error (.errorf "ike delete must not carry spi values")
      else if count ≠ 0 then .error (.errorf "ike delete must not carry spi count")
      else body
    else if protocolID = deleteProtocolESP then
      if spiSize ≠ 4 then
        .error (.errorf s!"esp delete must carry 4-byte spis, got size {spiSize}")
      else if count = 0 then .error (.errorf "esp delete must carry at least one spi")
      else body
    else .error (.errorf s!"unsupported delete protocol {protocolID}")

/-! ### CP -/

/-- The kind of a CP payload. -/
abbrev ConfigType := UInt8

namespace ConfigType
def request : ConfigType := 1
def reply : ConfigType := 2
def set : ConfigType := 3
def ack : ConfigType := 4
end ConfigType

def configAttrInternalIPv4Address : UInt16 := 1
def configAttrInternalIPv4DNS : UInt16 := 3
def configAttrInternalAddressExpiry : UInt16 := 5
def configAttrInternalIPv6Address : UInt16 := 8
def configAttrInternalIPv6DNS : UInt16 := 10

structure ConfigAttribute where
  type : UInt16
  value : Bytes
  deriving DecidableEq, Repr

structure ConfigPayload where
  kind : ConfigType
  attributes : List ConfigAttribute
  deriving DecidableEq, Repr

def appendConfigAttribute (attr : ConfigAttribute) : Except Err Bytes :=
  if attr.value.length > 0xFFFF then
    .error (.panicked (s!"github.com/wsm25/swan/payload: configuration attribute value " ++
      s!"{attr.value.length} exceeds wire limit 65535"))
  else .ok (putUint16 attr.type ++ putUint16 (UInt16.ofNat attr.value.length) ++ attr.value)

def appendConfigAttributes : List ConfigAttribute → Except Err Bytes
  | [] => .ok []
  | attr :: attrs => do
    let b ← appendConfigAttribute attr
    let rest ← appendConfigAttributes attrs
    .ok (b ++ rest)

def appendConfigPayload (cp : ConfigPayload) : Except Err Bytes := do
  let cfgType := if cp.kind = 0 then ConfigType.request else cp.kind
  let attrs ← appendConfigAttributes cp.attributes
  .ok ([cfgType, 0, 0, 0] ++ attrs)

def parseConfigAttribute (b : Bytes) : Except Err (ConfigAttribute × Bytes) :=
  if b.length < configAttrFixedLen then
    .error (.errorf s!"configuration attribute too short: {b.length} bytes")
  else
    let valueLen := (beUint16 (slice b 2 4)).toNat
    if configAttrFixedLen + valueLen > b.length then
      .error (.errorf "configuration attribute value exceeds remaining bytes")
    else
      .ok ({ type := beUint16 (slice b 0 2)
             value := slice b configAttrFixedLen (configAttrFixedLen + valueLen) },
        b.drop (configAttrFixedLen + valueLen))

/-- The rounds of the attribute loop; every round consumes an attribute header. -/
def parseConfigAttributes : ℕ → Bytes → Except Err (List ConfigAttribute)
  | _, [] => .ok []
  | 0, _ :: _ => .ok []
  | fuel + 1, rest => do
    let (attr, tail) ← parseConfigAttribute rest
    let attrs ← parseConfigAttributes fuel tail
    .ok (attr :: attrs)

def parseConfigPayload (b : Bytes) : Except Err ConfigPayload :=
  if b.length < configFixedLen then
    .error (.errorf s!"configuration payload too short: {b.length} bytes")
  else
    let kind := b.getD 0 0
    if kind ≠ ConfigType.request ∧ kind ≠ ConfigType.reply ∧ kind ≠ ConfigType.set ∧
        kind ≠ ConfigType.ack then
      .error (.errorf s!"unsupported configuration payload type {kind}")
    else if b.getD 1 0 ≠ 0 ∨ b.getD 2 0 ≠ 0 ∨ b.getD 3 0 ≠ 0 then
      .error (.errorf "configuration payload has non-zero reserved bytes")
    else do
      let attrs ← parseConfigAttributes b.length (b.drop configFixedLen)
      .ok { kind, attributes := attrs }

/-- The suggested addresses of a lease renewal. An IPv4 address has 4 bytes, an IPv6 address 16. -/
structure ConfigRenewRequest where
  internalIPv4 : Option Bytes
  internalIPv6 : Option Bytes
  internalIPv6Prefix : UInt8
  deriving DecidableEq, Repr

def appendConfigRenewRequest (req : ConfigRenewRequest) : Except Err Bytes :=
  let v4 := match req.internalIPv4 with
    | some v4 => [{ type := configAttrInternalIPv4Address, value := v4 }]
    | none => []
  let v6 := match req.internalIPv6 with
    | some v6 => [{ type := configAttrInternalIPv6Address, value := v6 ++ [req.internalIPv6Prefix] }]
    | none => []
  appendConfigPayload
    { kind := ConfigType.request
      attributes := v4 ++ [{ type := configAttrInternalIPv4DNS, value := [] }] ++ v6 ++
        [{ type := configAttrInternalIPv6DNS, value := [] }] }

end Swan.Payload
