import Swan.Lib.ByteString
import Swan.Lib.Rfc1320
import Swan.Lib.Expansion
import Swan.Lib.Rfc3610
import Swan.Lib.Heap
import Swan.Lib.Effect
import Swan.Lib.Checked
import Swan.Lib.Glob
import Swan.Lib.Log
import Swan.Lib.Run
import Swan.Lib.Preference
import Swan.Lib.Reassembly
import Swan.Lib.Utf8
import Swan.Wire.Header
import Swan.Wire.Message
import Swan.Wire.Builder
import Swan.Wire.Bounds
import Swan.Payload.Basic
import Swan.Payload.SA
import Swan.Payload.Codecs
import Swan.Payload.TrafficSelectors
import Swan.Payload.Bounds
import Swan.Xcrypto.Primitives
import Swan.Xcrypto.Cipher
import Swan.Xcrypto.Keying
import Swan.Xcrypto.Expansion
import Swan.Xcrypto.Suite
import Swan.Xcrypto.Tokens
import Swan.Xcrypto.Instance
import Swan.Xcrypto.Ccm
import Swan.Control.State
import Swan.Control.Protected
import Swan.Control.Fragments
import Swan.Control.FragmentSets
import Swan.Control.RoundTrip
import Swan.Control.Exchange
import Swan.Control.Proposals
import Swan.Control.Choices
import Swan.Control.Configuration
import Swan.Control.Rekey
import Swan.Control.Negotiation
import Swan.Control.Actor
import Swan.Control.RunningRekey
import Swan.Control.Running
import Swan.Control.Acts
import Swan.Control.Handlers
import Swan.Control.PeerRekeys
import Swan.Control.Packets
import Swan.Control.Steps
import Swan.Control.Invariant
import Swan.Control.History
import Swan.Control.Routing
import Swan.Control.Window
import Swan.Control.Children
import Swan.Control.Retained
import Swan.Control.Triggers
import Swan.Control.Retries
import Swan.Control.Inert
import Swan.Control.Refusals
import Swan.Control.Answers
import Swan.Control.PeerChild
import Swan.Control.Close
import Swan.Control.LeaseTiming
import Swan.Control.Leases
import Swan.Control.Addresses
import Swan.Control.Openers
import Swan.Lib.IPText
import Swan.Payload.ClassifyID
import Swan.Xcrypto.X509
import Swan.Control.Identity
import Swan.Control.Bounds
import Swan.Xcrypto.Prepared
import Swan.Xcrypto.Buffers
import Swan.Esp.Replay
import Swan.Esp.Inflow
import Swan.Lib.Feed
import Swan.Esp.Outflow
import Swan.Esp.Numbering
import Swan.Eap.PeapFragment
import Swan.Esp.Pipeline
import Swan.Eap.Packet
import Swan.Eap.MD4
import Swan.Eap.MSCHAPv2
import Swan.Eap.Verified
import Swan.Eap.Peap
import Swan.Eap.PeapFailure
import Swan.Eap.PeapCompletion
import Swan.Events.Hub
import Swan.Transport.Frame
import Swan.Transport.RxWorker
import Swan.Transport.TxWorker
import Swan.Session.FramedWire
import Swan.Session.TunnelReads
import Swan.Session.Updates
import Swan.Session.Workers
import Swan.Session.Traffic
import Swan.Session.Agreement
import Swan.Session.Install
import Swan.Session.Lifecycle
import Swan.Payload.Authentication
import Swan.Xcrypto.Authenticator
import Swan.Control.Handshake.Exchange
import Swan.Control.Handshake.SAInit
import Swan.Control.Handshake.Auth
import Swan.Control.Handshake.FinalAuth
import Swan.Control.Handshake.Run
import Swan.Control.Handshake.Receive
import Swan.Control.Handshake.Schedule
import Swan.Control.Handshake.Disturbance
import Swan.Control.Handshake.EspChoice
import Swan.Control.Handshake.Discipline
