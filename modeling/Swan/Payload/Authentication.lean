import Swan.Payload.Basic

/-! # The payloads of the IKE_AUTH exchanges

AUTH, CERT and the configuration request, and the notify types that an SA_INIT or IKE_AUTH message
may carry. `parseAuth_appendAuth` reads back what was written. -/

namespace Swan.Payload

open Swan.Lib

namespace NotifyType
def authenticationFailed : NotifyType := 24
def singlePairRequired : NotifyType := 34
def noAdditionalSAs : NotifyType := 35
def internalAddressFailure : NotifyType := 36
def failedCPRequired : NotifyType := 37
def tsUnacceptable : NotifyType := 38
def initialContact : NotifyType := 16384
def additionalTSPossible : NotifyType := 16386
def ipCompSupported : NotifyType := 16387
def natDetectionSourceIP : NotifyType := 16388
def natDetectionDestinationIP : NotifyType := 16389
def useTransportMode : NotifyType := 16391
def espTFCPaddingNotSupported : NotifyType := 16394
def nonFirstFragmentsAlso : NotifyType := 16395
def noAdditionalAddresses : NotifyType := 16399
def multipleAuthSupported : NotifyType := 16404
def eapOnlyAuthentication : NotifyType := 16417
def messageIDSyncSupported : NotifyType := 16420
def messageIDSync : NotifyType := 16422
def fragmentationSupported : NotifyType := 16430
def signatureHashAlgorithms : NotifyType := 16431
end NotifyType

/-! ### AUTH -/

abbrev AuthMethod := UInt8

namespace AuthMethod
def rsaDigitalSignature : AuthMethod := 1
def sharedKeyMIC : AuthMethod := 2
def dssDigitalSignature : AuthMethod := 3
def digitalSignature : AuthMethod := 14
end AuthMethod

def authFixedLen : ℕ := 4

structure Auth where
  method : AuthMethod
  data : Bytes
  deriving DecidableEq, Repr

def appendAuth (a : Auth) : Bytes := [a.method, 0, 0, 0] ++ a.data

def parseAuth (b : Bytes) : Except Err Auth :=
  if b.length < authFixedLen then .error (.errorf s!"auth payload too short: {b.length} bytes")
  else if b.getD 1 0 ≠ 0 ∨ b.getD 2 0 ≠ 0 ∨ b.getD 3 0 ≠ 0 then
    .error (.errorf "auth payload has non-zero reserved bytes")
  else .ok { method := b.getD 0 0, data := b.drop authFixedLen }

theorem parseAuth_appendAuth (a : Auth) : parseAuth (appendAuth a) = .ok a := by
  rw [parseAuth, if_neg (by simp [appendAuth, authFixedLen]), if_neg (by simp [appendAuth])]
  rfl

/-! ### CERT -/

def certEncodingX509Signature : UInt8 := 4

structure Cert where
  encoding : UInt8
  der : Bytes
  deriving DecidableEq, Repr

def parseCert (b : Bytes) : Except Err Cert :=
  if b.length < 1 then .error (.errorf "cert payload too short")
  else if (b.drop 1).length = 0 then .error (.errorf "cert payload is missing der data")
  else .ok { encoding := b.getD 0 0, der := b.drop 1 }

/-! ### The configuration request -/

/-- The CFG_REQUEST of the first IKE_AUTH request: addresses and name servers of both families. -/
def appendConfigRequest : Except Err Bytes :=
  appendConfigPayload
    { kind := ConfigType.request
      attributes := [⟨configAttrInternalIPv4Address, []⟩, ⟨configAttrInternalIPv4DNS, []⟩,
        ⟨configAttrInternalIPv6Address, []⟩, ⟨configAttrInternalIPv6DNS, []⟩] }

end Swan.Payload
