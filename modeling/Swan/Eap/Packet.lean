import Swan.Lib.ByteString
import Swan.Lib.Effect

/-! # EAP packets

The packets that the server sends and the peer answers, and what one step of a method returns. -/

namespace Swan.Eap

open Swan.Lib

def codeRequest : UInt8 := 1

def codeResponse : UInt8 := 2

def codeSuccess : UInt8 := 3

def codeFailure : UInt8 := 4

def typeIdentity : UInt8 := 1

def typeNAK : UInt8 := 3

/-- The type of the packets that carry the success or the failure of an inner method. -/
def typeMSTLV : UInt8 := 33

def typePEAP : UInt8 := 25

def typeMSCHAPV2 : UInt8 := 26

/-- One packet of the server. The type is zero where the packet has none. -/
structure Packet where
  code : UInt8
  identifier : UInt8
  type : UInt8
  data : Bytes
  deriving DecidableEq, Repr

def codeName (c : UInt8) : String :=
  if c = codeRequest then "Request"
  else if c = codeResponse then "Response"
  else if c = codeSuccess then "Success"
  else if c = codeFailure then "Failure"
  else s!"code({c.toNat})"

def parse : Bytes → Except Err Packet
  | code :: identifier :: l₁ :: l₀ :: rest =>
    let declared := (beUint16 [l₁, l₀]).toNat
    let actual := rest.length + 4
    if declared ≠ actual then .error (.errorf (s!"github.com/wsm25/swan/eap: declared length " ++
      s!"{declared} does not match buffer length {actual}"))
    else if code = codeRequest then
      match rest with
      | [] => .error (.errorf
          s!"github.com/wsm25/swan/eap: {codeName code} packet missing type byte")
      | type :: data => .ok ⟨code, identifier, type, data⟩
    else if code = codeSuccess ∨ code = codeFailure then .ok ⟨code, identifier, 0, rest⟩
    else .error (.errorf s!"github.com/wsm25/swan/eap: unsupported code {code.toNat}")
  | b => .error (.errorf s!"github.com/wsm25/swan/eap: packet too short: {b.length} bytes")

/-- A whole packet; one that is too long for its length field is a panic. -/
def buildRequest (code id type : UInt8) (data : Bytes) : Except Err Bytes :=
  let body := if code = codeRequest ∨ code = codeResponse then type :: data else data
  let packetLen := body.length + 4
  if packetLen > 0xFFFF then
    .error (.panicked s!"github.com/wsm25/swan/eap: packet too large: {packetLen} bytes")
  else .ok (code :: id :: putUint16 (UInt16.ofNat packetLen) ++ body)

theorem panicked_of_buildRequest {code id type : UInt8} {data : Bytes} {e : Err}
    (h : buildRequest code id type data = .error e) : ∃ t, e = .panicked t := by
  simp only [buildRequest] at h
  split_ifs at h
  · exact ⟨_, (Except.error.inj h).symm⟩
  · exact ⟨_, (Except.error.inj h).symm⟩

/-- What a method does with a packet: it sends a response, or it is complete and exports the
master session key. -/
inductive Result where
  | send (response : Bytes)
  | complete (exportedMSK : Bytes)
  deriving DecidableEq, Repr

end Swan.Eap
