import Swan.Lib.ByteString
import Swan.Lib.Effect

/-! # The IKE header and the protocol numbers

The numbers of the wire format, the fixed 28-byte IKE header and the 4-byte fragment header of an
SKF payload. `parseHeader_marshalTo` and `parseSkfHeader_bytes` read back what was written.

An SPI is kept as the 64-bit number its eight bytes stand for. -/

namespace Swan.Wire

open Swan.Lib

/-! ### Protocol numbers -/

def headerLen : ℕ := 28
def payloadHeaderLen : ℕ := 4
def skfHeaderLen : ℕ := 4
def ikeDefaultVersion : UInt8 := 0x20

/-- The IKE header flag byte. -/
abbrev Flags := UInt8

def flagInitiator : Flags := 0x08
def flagVersion : Flags := 0x10
def flagResponse : Flags := 0x20

abbrev PayloadType := UInt8

namespace PayloadType
def none : PayloadType := 0
def sa : PayloadType := 33
def ke : PayloadType := 34
def idi : PayloadType := 35
def idr : PayloadType := 36
def cert : PayloadType := 37
def auth : PayloadType := 39
def nonce : PayloadType := 40
def notify : PayloadType := 41
def delete : PayloadType := 42
def tsi : PayloadType := 44
def tsr : PayloadType := 45
def sk : PayloadType := 46
def cp : PayloadType := 47
def eap : PayloadType := 48
def skf : PayloadType := 53
end PayloadType

abbrev ExchangeType := UInt8

namespace ExchangeType
def ikeSAInit : ExchangeType := 34
def ikeAuth : ExchangeType := 35
def createChild : ExchangeType := 36
def informational : ExchangeType := 37
end ExchangeType

/-! ### The IKE header -/

/-- The fixed 28-byte IKE header. -/
structure Header where
  initiatorSPI : UInt64
  responderSPI : UInt64
  nextPayload : PayloadType
  version : UInt8
  exchangeType : ExchangeType
  flags : Flags
  messageID : UInt32
  length : UInt32
  deriving DecidableEq, Repr

def flagsMask : Flags := flagResponse ||| flagVersion ||| flagInitiator

def hex2 (x : UInt8) : String :=
  let digits := Nat.toDigits 16 x.toNat
  String.ofList (if digits.length < 2 then '0' :: digits else digits)

/-- The header in the first 28 bytes, and the rest of the datagram up to the declared length. -/
def parseHeader (b : Bytes) : Except Err (Header × Bytes) :=
  if b.length < headerLen then
    .error (.errorf s!"ike packet too short: have {b.length}, want at least {headerLen}")
  else
    let declared := (beUint32 (slice b 24 28)).toNat
    if declared < headerLen then
      .error (.errorf s!"invalid ike total length {declared}: below header size")
    else if declared > b.length then
      .error (.errorf s!"invalid ike total length {declared}: only {b.length} bytes available")
    else
      let h : Header :=
        { initiatorSPI := beUint64 (slice b 0 8)
          responderSPI := beUint64 (slice b 8 16)
          nextPayload := b.getD 16 0
          version := b.getD 17 0
          exchangeType := b.getD 18 0
          flags := b.getD 19 0
          messageID := beUint32 (slice b 20 24)
          length := UInt32.ofNat declared }
      if h.version ≠ ikeDefaultVersion then
        .error (.errorf s!"unexpected ike version 0x{hex2 h.version}")
      else if h.flags &&& ~~~flagsMask ≠ 0 then
        .error (.errorf s!"invalid ike flags 0x{hex2 h.flags}")
      else .ok (h, slice b headerLen declared)

def Header.marshalTo (h : Header) (dst : Bytes) : Bytes :=
  dst ++ (putUint64 h.initiatorSPI ++ putUint64 h.responderSPI ++
    [h.nextPayload, h.version, h.exchangeType, h.flags] ++
    putUint32 h.messageID ++ putUint32 h.length)

@[simp] theorem length_marshalTo (h : Header) (dst : Bytes) :
    (h.marshalTo dst).length = dst.length + headerLen := by
  simp [Header.marshalTo, headerLen]

theorem parseHeader_marshalTo (h : Header) (t : Bytes) (hv : h.version = ikeDefaultVersion)
    (hf : h.flags &&& ~~~flagsMask = 0) (hl : h.length.toNat = headerLen + t.length) :
    parseHeader (h.marshalTo [] ++ t) = .ok (h, t) := by
  have e0 : slice (h.marshalTo [] ++ t) 0 8 = putUint64 h.initiatorSPI := by
    simp [slice, Header.marshalTo]
  have e8 : slice (h.marshalTo [] ++ t) 8 16 = putUint64 h.responderSPI := by
    simp [slice, Header.marshalTo, List.take_append, List.take_of_length_le]
  have e20 : slice (h.marshalTo [] ++ t) 20 24 = putUint32 h.messageID := by
    simp [slice, Header.marshalTo, List.take_append, List.drop_append, List.take_of_length_le,
      List.drop_eq_nil_of_le]
  have e24 : slice (h.marshalTo [] ++ t) 24 28 = putUint32 h.length := by
    simp [slice, Header.marshalTo, List.take_append, List.drop_append, List.take_of_length_le,
      List.drop_eq_nil_of_le]
  have erest : slice (h.marshalTo [] ++ t) headerLen (headerLen + t.length) = t := by
    simpa using slice_append_to_end (h.marshalTo []) t
  have e16 : (h.marshalTo [] ++ t).getD 16 0 = h.nextPayload := by
    simp [Header.marshalTo, List.getElem?_append]
  have e17 : (h.marshalTo [] ++ t).getD 17 0 = h.version := by
    simp [Header.marshalTo, List.getElem?_append]
  have e18 : (h.marshalTo [] ++ t).getD 18 0 = h.exchangeType := by
    simp [Header.marshalTo, List.getElem?_append]
  have e19 : (h.marshalTo [] ++ t).getD 19 0 = h.flags := by
    simp [Header.marshalTo, List.getElem?_append]
  have hlen : (h.marshalTo [] ++ t).length = headerLen + t.length := by simp
  unfold parseHeader
  simp only [e24, e20, e0, e8, e16, e17, e18, e19, hlen, beUint64_putUint64, beUint32_putUint32,
    hl, erest, hv, hf]
  rw [if_neg (by omega), if_neg (by omega), if_neg (by omega), if_neg (by simp), if_neg (by simp),
    ← hl, UInt32.ofNat_toNat, ← hv]

/-! ### The fragment header of an SKF payload -/

/-- Fragment number and number of fragments, both counted from 1. -/
structure SkfHeader where
  fragmentNumber : UInt16
  totalFragments : UInt16
  deriving DecidableEq, Repr

/-- A fragment header that names none of its fragments. -/
def SkfHeader.Invalid (h : SkfHeader) : Prop :=
  h.fragmentNumber = 0 ∨ h.totalFragments = 0 ∨ h.fragmentNumber > h.totalFragments

instance (h : SkfHeader) : Decidable h.Invalid := inferInstanceAs (Decidable (_ ∨ _ ∨ _))

/-- The fragment header in the first four bytes, and the rest. -/
def parseSkfHeader (b : Bytes) : Except Err (SkfHeader × Bytes) :=
  if b.length < skfHeaderLen then
    .error (.errorf s!"skf fragment header too short: have {b.length}, want {skfHeaderLen}")
  else
    let h : SkfHeader :=
      { fragmentNumber := beUint16 (slice b 0 2), totalFragments := beUint16 (slice b 2 4) }
    if h.Invalid then
      .error (.errorf
        s!"invalid skf fragment numbers {h.fragmentNumber}/{h.totalFragments}")
    else .ok (h, b.drop skfHeaderLen)

def SkfHeader.bytes (h : SkfHeader) : Bytes :=
  putUint16 h.fragmentNumber ++ putUint16 h.totalFragments

@[simp] theorem length_skfHeader_bytes (h : SkfHeader) : h.bytes.length = skfHeaderLen := by
  simp [SkfHeader.bytes, skfHeaderLen]

theorem parseSkfHeader_bytes (h : SkfHeader) (hv : ¬h.Invalid) (t : Bytes) :
    parseSkfHeader (h.bytes ++ t) = .ok (h, t) := by
  have e0 : slice (h.bytes ++ t) 0 2 = putUint16 h.fragmentNumber := by
    simp [slice, SkfHeader.bytes]
  have e2 : slice (h.bytes ++ t) 2 4 = putUint16 h.totalFragments := by
    simp [slice, SkfHeader.bytes, List.take_append, List.take_of_length_le]
  have ed : (h.bytes ++ t).drop skfHeaderLen = t :=
    List.drop_left' (length_skfHeader_bytes h)
  unfold parseSkfHeader
  simp only [e0, e2, ed, beUint16_putUint16]
  rw [if_neg (by simp), if_neg hv]

end Swan.Wire
