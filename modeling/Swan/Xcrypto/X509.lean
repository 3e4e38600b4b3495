import Swan.Payload.ClassifyID

/-! # The identity in a certificate

`verifyCertIdentity` of `xcrypto/x509.go` compares the identity of the responder with its certificate: it
checks the form of the identity for its type and then asks the certificate for the host name or the text of
the address. -/

namespace Swan.Xcrypto

open Swan.Lib Swan.Payload

/-- A certificate, as far as it is asked here: whether it is valid for a host name or the text of an
address. -/
structure Certificate where
  verifyHostname : Bytes → Except Err Unit

def utf8Valid (b : Bytes) : Bool := (ByteArray.mk b.toArray).validateUTF8

/-- Compare the identity of the responder with the certificate; `ipString` is the text of an address of 16
bytes. -/
def verifyCertIdentity (ipString : Bytes → Bytes) (leaf : Certificate) (idType : UInt8) (idData : Bytes) :
    Except Err Unit :=
  if idType = IDType.fqdn then
    if utf8Valid idData then
      wrap "xcrypto: responder certificate does not match IDr FQDN: " (leaf.verifyHostname idData)
    else .error (.errorf "xcrypto: IDr FQDN is not valid UTF-8")
  else if idType = IDType.ipv4Addr then
    if idData.length ≠ 4 then
      .error (.errorf s!"xcrypto: invalid IDr IPv4 address length {idData.length}")
    else
      wrap "xcrypto: responder certificate does not match IDr IP address: "
        (leaf.verifyHostname (ipString (v4InV6Prefix ++ idData)))
  else if idType = IDType.ipv6Addr then
    if idData.length ≠ 16 then
      .error (.errorf s!"xcrypto: invalid IDr IPv6 address length {idData.length}")
    else
      wrap "xcrypto: responder certificate does not match IDr IP address: "
        (leaf.verifyHostname (ipString idData))
  else if idType = IDType.rfc822Addr then
    .error (.errorf "xcrypto: certificate identity verification does not support RFC822 IDr for MVP")
  else if idType = IDType.keyID then
    .error (.errorf "xcrypto: certificate identity verification does not support KEY_ID IDr for MVP")
  else
    .error (.errorf s!"xcrypto: unsupported IDr type {idType} for certificate identity verification")

theorem verifyCertIdentity_address (ipString : Bytes → Bytes) (leaf : Certificate) {id : ID}
    (h : id.type = IDType.ipv4Addr ∧ id.data.length = 4 ∨ id.type = IDType.ipv6Addr ∧ id.data.length = 16) :
    verifyCertIdentity ipString leaf id.type id.data =
      wrap "xcrypto: responder certificate does not match IDr IP address: "
        (leaf.verifyHostname (ipString (to16 id.data))) := by
  rcases h with ⟨htype, hlen⟩ | ⟨htype, hlen⟩
  · simp [verifyCertIdentity, htype, hlen, to16, IDType.fqdn, IDType.ipv4Addr]
  · simp [verifyCertIdentity, htype, hlen, to16, IDType.fqdn, IDType.ipv4Addr, IDType.ipv6Addr]

end Swan.Xcrypto
