import Swan.Wire.Header
import Swan.Xcrypto.Keying
import Swan.Xcrypto.X509

/-! # The authenticators of the handshake

The values that the two ends prove to each other: the MIC under a shared secret (`authMAC`), the
signature of the responder under the key of its certificate (`verifyPeerAuthSignature`) and the
hashes that tell a NAT (`natDetectionHash`). The digests, the certificates and the signature schemes
are those of the standard library, an arbitrary instance of `Pki`; nothing is assumed of them. -/

namespace Swan.Xcrypto

open Swan.Lib Swan.Payload Swan.Wire

inductive PublicKeyType where
  | rsa
  | ecdsa
  deriving DecidableEq, Repr

/-- What the standard library knows about digests, certificates and addresses. -/
class Pki where
  digest : HashKind → Bytes → Bytes
  parseCertificate : Bytes → Except Err Certificate
  /-- Whether the trust roots of the system can be loaded. -/
  systemCertPool : Except Err Unit
  /-- The chain of a leaf, then the intermediates, against the roots of the system. -/
  verifyChain : List Bytes → Except Err Unit
  /-- A signature of a digest under the key of a certificate, with the types of key and digest. -/
  verifyDigest : Bytes → PublicKeyType → HashKind → Bytes → Bytes → Except Err Unit
  /-- The text of an address. -/
  ipString : Bytes → Bytes

/-! ### The shared-key MIC -/

def authKeyPad : Bytes := ascii "Key Pad for IKEv2"

section Mac

variable [Crypto]

def macedID (prf : PRF) (key idPayload : Bytes) : Bytes := prf.sum key idPayload

def authMAC (prf : PRF) (secret octets : Bytes) : Bytes := prf.sum (prf.sum secret authKeyPad) octets

end Mac

/-! ### NAT detection -/

variable [Pki]

def natDetectionHash (spiI spiR : UInt64) (ip : Bytes) (port : UInt16) : Except Err Bytes :=
  if ipOctets ip = [] then .error (.errorf "xcrypto: invalid NAT-D address")
  else .ok (Pki.digest .sha1 (putUint64 spiI ++ putUint64 spiR ++ ipOctets ip ++ putUint16 port))

/-! ### Signatures -/

/-- An AlgorithmIdentifier: the digest, with its number, and the type of the key. -/
structure SignatureAlgorithm where
  hashID : UInt16
  hash : HashKind
  keyType : PublicKeyType
  deriving DecidableEq, Repr

def hashAlgorithmSHA256 : UInt16 := 2
def hashAlgorithmSHA384 : UInt16 := 3
def hashAlgorithmSHA512 : UInt16 := 4

/-- The supported AlgorithmIdentifiers and their DER encodings. -/
def signatureAlgIDs : List (Bytes × SignatureAlgorithm) :=
  [([0x30, 0x0d, 0x06, 0x09, 0x2a, 0x86, 0x48, 0x86, 0xf7, 0x0d, 0x01, 0x01, 0x0b, 0x05, 0x00],
      ⟨hashAlgorithmSHA256, .sha256, .rsa⟩),
    ([0x30, 0x0d, 0x06, 0x09, 0x2a, 0x86, 0x48, 0x86, 0xf7, 0x0d, 0x01, 0x01, 0x0c, 0x05, 0x00],
      ⟨hashAlgorithmSHA384, .sha384, .rsa⟩),
    ([0x30, 0x0d, 0x06, 0x09, 0x2a, 0x86, 0x48, 0x86, 0xf7, 0x0d, 0x01, 0x01, 0x0d, 0x05, 0x00],
      ⟨hashAlgorithmSHA512, .sha512, .rsa⟩),
    ([0x30, 0x0a, 0x06, 0x08, 0x2a, 0x86, 0x48, 0xce, 0x3d, 0x04, 0x03, 0x02],
      ⟨hashAlgorithmSHA256, .sha256, .ecdsa⟩),
    ([0x30, 0x0a, 0x06, 0x08, 0x2a, 0x86, 0x48, 0xce, 0x3d, 0x04, 0x03, 0x03],
      ⟨hashAlgorithmSHA384, .sha384, .ecdsa⟩),
    ([0x30, 0x0a, 0x06, 0x08, 0x2a, 0x86, 0x48, 0xce, 0x3d, 0x04, 0x03, 0x04],
      ⟨hashAlgorithmSHA512, .sha512, .ecdsa⟩)]

/-- The AlgorithmIdentifier and the signature in the data of AUTH method 14. -/
def parseSignatureAuthData (data : Bytes) : Except Err (SignatureAlgorithm × Bytes) :=
  if data.length < 2 then .error (.errorf "xcrypto: AUTH method 14 data too short")
  else
    let algLen := (data.getD 0 0).toNat
    if algLen = 0 ∨ data.length ≤ 1 + algLen then
      .error (.errorf "xcrypto: AUTH method 14 missing AlgorithmIdentifier")
    else
      let algID := slice data 1 (1 + algLen)
      match signatureAlgIDs.find? fun entry => entry.1 = algID with
      | some entry => .ok (entry.2, data.drop (1 + algLen))
      | none => .error (.errorf ("xcrypto: unsupported AUTH method 14 AlgorithmIdentifier " ++
          String.join (algID.map hex2)))

/-- A certificate and its DER encoding. -/
structure ParsedCertificate where
  der : Bytes
  certificate : Certificate

def verifyCertificateChain (certs : List ParsedCertificate) (skipVerify : Bool) : Except Err Unit :=
  if skipVerify then .ok ()
  else wrap "xcrypto: verify responder certificate chain: "
    (Pki.verifyChain (certs.map ParsedCertificate.der))

def verifySignature (leaf : ParsedCertificate) (octets signature : Bytes) (alg : SignatureAlgorithm) :
    Except Err Unit :=
  Pki.verifyDigest leaf.der alg.keyType alg.hash (Pki.digest alg.hash octets) signature

/-- The signature of the responder: the chain of its certificate, the identity in it and the
signature of the octets. -/
def verifyPeerAuthSignature (certs : List ParsedCertificate) (idType : UInt8)
    (idData octets signature : Bytes) (alg : SignatureAlgorithm) (skipChainVerify : Bool) :
    Except Err Unit :=
  match certs with
  | [] => .error (.errorf
      "xcrypto: responder AUTH used a certificate signature without CERT payload")
  | leaf :: _ => do
    verifyCertificateChain certs skipChainVerify
    verifyCertIdentity Pki.ipString leaf.certificate idType idData
    verifySignature leaf octets signature alg

/-- A library that takes every certificate and signature. -/
abbrev plainPki : Pki where
  digest _ b := b.take 20
  parseCertificate _ := .ok ⟨fun _ => .ok ()⟩
  systemCertPool := .ok ()
  verifyChain _ := .ok ()
  verifyDigest _ _ _ _ _ := .ok ()
  ipString b := b

end Swan.Xcrypto
