import Swan.Lib.ByteString
import Swan.Lib.Effect

/-! # NAT-T datagrams

`transport/frame.go`: what a datagram on the wire is, told from its first bytes, and the datagram of an
outbound frame. -/

namespace Swan.Transport

open Swan.Lib

/-- The largest legal payload of a datagram. -/
def maxWireDatagram : ℕ := 65535

/-- The length of the marker of zeros before an IKE message. -/
def nonESPMarkerLen : ℕ := 4

inductive Kind where
  | ike
  | esp
  | keepalive
  deriving DecidableEq, Repr

def zeros (b : Bytes) : Bool := b.all (· == 0)

/-- The kind of a datagram: a single `0xff` is a keepalive, a marker of zeros begins an IKE message. -/
def classify (payload : Bytes) : Kind :=
  if payload = [0xff] then .keepalive
  else if nonESPMarkerLen ≤ payload.length ∧ zeros (payload.take nonESPMarkerLen) then .ike
  else .esp

end Swan.Transport
