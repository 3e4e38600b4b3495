import Swan.Control.State
import Swan.Esp.Pipeline
import Swan.Lib.Feed

/-! # Updates of the data plane

`watchControlUpdates` applies the updates of the control plane to the pipeline and to the public
tunnel. `childInboundConfig` and `childOutboundConfig` choose the key halves of a child: the ends of
a child use them mirrored (`outboundKeys_mirror`). -/

namespace Swan.Session

open Swan.Lib Swan.Xcrypto Swan.Control Swan.Esp

/-- The keys with the halves of the two directions exchanged. -/
def swapKeys (keys : ChildKeys) : ChildKeys := ⟨keys.sker, keys.skar, keys.skei, keys.skai⟩

/-- The inbound codec of a child: a child that the peer initiated uses the other key halves. -/
def childInboundConfig (child : ChildSA) (sel : Selection) (keys : ChildKeys) : InboundConfig :=
  ⟨child.inboundSPI, sel, if child.localChildInitiator then keys else swapKeys keys⟩

def childOutboundConfig (flow : FlowConfig) (child : ChildSA) (sel : Selection) (keys : ChildKeys) :
    OutboundConfig :=
  ⟨child.outboundSPI, sel, if child.localChildInitiator then keys else swapKeys keys, flow⟩

theorem outboundKeys_mirror {child child' : ChildSA} (flow : FlowConfig) (sel : Selection)
    (keys : ChildKeys) (h : child'.localChildInitiator = !child.localChildInitiator) :
    (childOutboundConfig flow child sel keys).outboundKeys =
      (childInboundConfig child' sel keys).inboundKeys := by
  rw [childOutboundConfig, childInboundConfig, h]
  cases child.localChildInitiator <;> rfl

/-- What the session shows of its tunnel. -/
structure Tunnel where
  childSA : ChildSA
  assigned : AssignedConfig
  ended : Bool
  deriving DecidableEq, Repr

/-- The pipeline and the tunnel of a started session. -/
structure Dataplane where
  pipeline : Pipeline
  tunnel : Tunnel

def Dataplane.start (flow : FlowConfig) (child : ChildSA) (sel : Selection) (keys : ChildKeys)
    (assigned : AssignedConfig) : Dataplane :=
  ⟨.newPipeline (newInbound (childInboundConfig child sel keys))
    (newOutbound (childOutboundConfig flow child sel keys)), ⟨child, assigned, false⟩⟩

def watchControlUpdates (flow : FlowConfig) (u : DataplaneUpdate) (d : Dataplane) : Dataplane :=
  match u with
  | .childInstalled child keys sel =>
    ⟨d.pipeline.replaceChild (newInbound (childInboundConfig child sel keys))
      (newOutbound (childOutboundConfig flow child sel keys)) d.tunnel.childSA.inboundSPI,
      { d.tunnel with childSA := child }⟩
  | .childDeleted child =>
    if d.tunnel.childSA.outboundSPI = child.outboundSPI then
      { d with tunnel := { d.tunnel with ended := true } }
    else { d with pipeline := d.pipeline.dropInboundSPI child.inboundSPI }
  | .assigned config => { d with tunnel := { d.tunnel with assigned := config } }

def installedChildren (us : List DataplaneUpdate) : List ChildSA :=
  us.filterMap fun
    | .childInstalled child _ _ => some child
    | _ => none

@[simp] theorem installedChildren_append (us us' : List DataplaneUpdate) :
    installedChildren (us ++ us') = installedChildren us ++ installedChildren us' :=
  List.filterMap_append

/-- The flow of the sample sessions. -/
def sampleFlow : FlowConfig := ⟨0, false, ⟨0, 0⟩⟩

end Swan.Session
