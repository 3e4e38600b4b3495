import Swan.Esp.Replay
import Swan.Xcrypto.Prepared
import Swan.Xcrypto.Suite

/-! # The inbound codec

`Inbound.processPooled` decrypts one datagram: the SPI filter, the authentication, the trailer
(`openDatagram`) and last the replay window, so that only an authentic packet moves the window. -/

namespace Swan.Esp

open Swan.Lib Swan.Xcrypto

def espHeaderLen : ℕ := 8
def nextHeaderIPv4 : UInt8 := 4
def nextHeaderIPv6 : UInt8 := 41

structure InboundConfig where
  /-- The SPI that we generated. -/
  spi : UInt32
  selection : Selection
  keys : ChildKeys
  deriving DecidableEq, Repr

/-- The encryption and the integrity key of an inbound codec. -/
def InboundConfig.inboundKeys (cfg : InboundConfig) : Bytes × Bytes := (cfg.keys.sker, cfg.keys.skar)

/-- An inbound codec. Its keyed ciphers are a function of the frozen configuration. -/
structure Inbound where
  cfg : InboundConfig
  window : ReplayWindow
  deriving DecidableEq, Repr

def newInbound (cfg : InboundConfig) : Inbound := ⟨cfg, .zero⟩

def seqOf (datagram : Bytes) : UInt32 := beUint32 (slice datagram 4 8)

def InboundConfig.acceptSPI (cfg : InboundConfig) (datagram : Bytes) : Bool :=
  decide (espHeaderLen ≤ datagram.length ∧ beUint32 (datagram.take 4) = cfg.spi)

/-- Remove padding and trailer and check the inner protocol. -/
def stripTrailer (plain : Bytes) : Except Err Bytes :=
  if plain.length < 2 then
    .error (.errorf "github.com/wsm25/swan/esp: ESP plaintext is missing the trailer") else
  let padLen := (plain.getD (plain.length - 2) 0).toNat
  let nextHeader := plain.getD (plain.length - 1) 0
  if padLen + 2 > plain.length then
    .error (.errorf "github.com/wsm25/swan/esp: ESP padding length does not fit the plaintext") else
  if nextHeader ≠ nextHeaderIPv4 ∧ nextHeader ≠ nextHeaderIPv6 then
    .error (.errorf s!"github.com/wsm25/swan/esp: unsupported inner protocol {nextHeader}") else
  let inner := plain.take (plain.length - padLen - 2)
  if inner.length = 0 then .error (.errorf "github.com/wsm25/swan/esp: empty inner packet")
  else .ok inner

def errReplay : Err :=
  .errorf "github.com/wsm25/swan/esp: ESP replay window rejected the packet"

variable [Crypto]

def prepareCodec (sel : Selection) (encKey integKey : Bytes) :
    Except Err (PreparedEncryption × Option PreparedIntegrity) := do
  let enc := sel.encryption
  let state ← wrap "github.com/wsm25/swan/esp: prepare ESP encryption: " (enc.prepare encKey)
  if enc.aead then .ok (state, none)
  else do
    let integ ← wrap "github.com/wsm25/swan/esp: prepare ESP integrity: "
      (sel.integrity.prepare integKey)
    .ok (state, some integ)

def prepareInbound (cfg : InboundConfig) : Except Err (PreparedEncryption × Option PreparedIntegrity) :=
  prepareCodec cfg.selection cfg.inboundKeys.1 cfg.inboundKeys.2

/-- Authenticate and decrypt the bytes behind the header: the plaintext with its trailer. -/
def decryptBody (sel : Selection) (enc : PreparedEncryption) (integ : Option PreparedIntegrity)
    (datagram : Bytes) : Except Err Bytes :=
  let icvLen := if sel.encryption.aead then sel.encryption.icvLen else sel.integrity.outputLen
  let body := datagram.drop espHeaderLen
  if body.length < sel.encryption.ivLen + icvLen then
    .error (.errorf "github.com/wsm25/swan/esp: ESP packet too short for IV and ICV") else
  let iv := body.take sel.encryption.ivLen
  let rest := body.drop sel.encryption.ivLen
  if sel.encryption.aead then
    -- the header is the additional data, the tag stands at the end of `rest`
    wrap "github.com/wsm25/swan/esp: decrypt ESP: "
      (enc.openTo [] iv (datagram.take espHeaderLen) rest)
  else
    match integ with
    | none => .error (.errorf "github.com/wsm25/swan/esp: CBC requires an integrity transform")
    | some integ =>
      let cipherLen := rest.length - icvLen
      if !integ.verify (datagram.take (datagram.length - icvLen)) (rest.drop cipherLen) then
        .error (.errorf "github.com/wsm25/swan/esp: ESP integrity check failed")
      else wrap "github.com/wsm25/swan/esp: decrypt ESP: " (enc.openTo [] iv [] (rest.take cipherLen))

/-- The inner packet of a datagram, before the replay check. -/
def openDatagram (cfg : InboundConfig) (datagram : Bytes) : Except Err Bytes := do
  let (enc, integ) ← prepareInbound cfg
  if !cfg.acceptSPI datagram then
    .error (.errorf "github.com/wsm25/swan/esp: ESP SPI does not match the inbound SPI")
  else if datagram.length < espHeaderLen then
    .error (.errorf "github.com/wsm25/swan/esp: ESP packet too short for header")
  else if seqOf datagram = 0 then
    .error (.errorf "github.com/wsm25/swan/esp: ESP sequence number 0 is invalid")
  else do
    let plain ← decryptBody cfg.selection enc integ datagram
    stripTrailer plain

/-- Decrypt one datagram. The replay window advances only for an authentic packet. -/
def Inbound.processPooled (datagram : Bytes) : Eff Inbound Bytes := do
  let p ← Eff.get
  let inner ← Eff.lift (openDatagram p.cfg datagram)
  match p.window.accept (seqOf datagram) with
  | none => Eff.fail errReplay
  | some window => do
    Eff.modify fun p => { p with window }
    pure inner

namespace Inbound

variable {p : Inbound} {datagram : Bytes}

theorem run_processPooled_of_error {e : Err} (h : openDatagram p.cfg datagram = .error e) :
    (processPooled datagram).run p = (.error e, p) := by
  have hopen : (Eff.lift (openDatagram p.cfg datagram) : Eff Inbound Bytes).run p = (.error e, p) := by
    rw [Eff.run_lift, h]
  unfold processPooled
  rw [Eff.run_bind_of_ok (Eff.run_get p), Eff.run_bind_of_error hopen]

theorem run_processPooled_of_ok {inner : Bytes} (h : openDatagram p.cfg datagram = .ok inner) :
    (processPooled datagram).run p = match p.window.accept (seqOf datagram) with
      | none => (.error errReplay, p)
      | some w => (.ok inner, { p with window := w }) := by
  have hopen : (Eff.lift (openDatagram p.cfg datagram) : Eff Inbound Bytes).run p = (.ok inner, p) := by
    rw [Eff.run_lift, h]
  unfold processPooled
  rw [Eff.run_bind_of_ok (Eff.run_get p), Eff.run_bind_of_ok hopen]
  cases p.window.accept (seqOf datagram) <;> rfl

theorem run_processPooled (p : Inbound) (datagram : Bytes) :
    (∃ e, (processPooled datagram).run p = (.error e, p)) ∨
    ∃ inner w, p.window.accept (seqOf datagram) = some w ∧
      (processPooled datagram).run p = (.ok inner, { p with window := w }) := by
  cases ho : openDatagram p.cfg datagram with
  | error e => exact .inl ⟨e, run_processPooled_of_error ho⟩
  | ok inner =>
    rw [run_processPooled_of_ok ho]
    cases p.window.accept (seqOf datagram) with
    | none => exact .inl ⟨errReplay, rfl⟩
    | some w => exact .inr ⟨inner, w, rfl, rfl⟩

end Inbound

end Swan.Esp
