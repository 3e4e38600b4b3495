import Swan.Control.Running
import Swan.Lib.Log

/-! # What the actor can do

`Act` lists the changes that the handlers make to the actor, each with what the code has checked
before it, so that an invariant of the actor is proved once per act and not once per handler. Two
fields that the code writes one after the other, with no failure in between, change in one act. A
`Guard` says which of the acts that an argument may want to rule out can happen. `Quiet` and `Calm`
are the operations that touch the world only; `Swan.Control.Handlers` shows that every handler is a
sequence of acts. -/

namespace Swan.Control

open Swan.Lib Swan.Wire Swan.Payload Swan.Xcrypto

/-! ### The world -/

namespace World

structure Draws (w w' : World) : Prop where
  rng : w.rng.Drawn w'.rng
  cancel : Shifted w.cancel w'.cancel
  ack : Shifted w.ack w'.ack
  full : Shifted w.full w'.full
  log : w'.log = w.log

instance : Std.Refl Draws :=
  ⟨fun _ => ⟨refl_of Rng.Drawn _, refl_of Shifted _, refl_of Shifted _, refl_of Shifted _, rfl⟩⟩

instance : IsTrans World Draws := ⟨fun _ _ _ h₁ h₂ =>
  ⟨trans_of Rng.Drawn h₁.rng h₂.rng, trans_of Shifted h₁.cancel h₂.cancel,
    trans_of Shifted h₁.ack h₂.ack, trans_of Shifted h₁.full h₂.full, h₂.log.trans h₁.log⟩⟩

def extend (es : List Entry) (w : World) : World := { w with log := w.log ++ es }

theorem Draws.extend {w w' : World} (h : w.Draws w') (es : List Entry) :
    (w.extend es).Draws (w'.extend es) :=
  ⟨h.rng, h.cancel, h.ack, h.full, congrArg (· ++ es) h.log⟩

theorem Draws.of_extend {w w' : World} (es : List Entry) (h : (w.extend es).Draws w') :
    ∃ w₁, w.Draws w₁ ∧ w' = w₁.extend es :=
  ⟨{ w' with log := w.log }, ⟨h.rng, h.cancel, h.ack, h.full, rfl⟩, by
    rw [World.extend, show w.log ++ es = w'.log from h.log.symm]⟩

end World

/-- An entry that is neither a frame of a new request, nor the note of one, nor an update, nor the
note that the peer has deleted a replaced child. -/
def Entry.Plain : Entry → Prop
  | .frame _ .request _ _ | .asked _ _ _ | .update _ | .peerDeleted _ true => False
  | _ => True

/-- The note of a request on an IKE SA. -/
def Entry.asks (sa : ℕ) : Entry → Bool
  | .asked sa' _ _ => decide (sa' = sa)
  | _ => false

theorem Entry.Plain.asks {e : Entry} (h : e.Plain) (sa : ℕ) : e.asks sa = false := by
  cases e with
  | asked => exact absurd h id
  | _ => rfl

def World.Calm (w w' : World) : Prop := ∃ es, (∀ e ∈ es, e.Plain) ∧ (w.extend es).Draws w'

instance : Std.Refl World.Calm := ⟨fun w => ⟨[], by simp, by
  have h : w.extend [] = w := by simp [World.extend]
  rw [h]; exact refl_of World.Draws w⟩⟩

instance : IsTrans World World.Calm := ⟨fun w w₁ w₂ ⟨es₁, hp₁, h₁⟩ ⟨es₂, hp₂, h₂⟩ =>
  ⟨es₁ ++ es₂, fun e he => (List.mem_append.mp he).elim (hp₁ e) (hp₂ e), by
    have h := trans_of World.Draws (h₁.extend es₂) h₂
    simpa [World.extend, List.append_assoc] using h⟩⟩

theorem World.Draws.calm {w w' : World} (h : w.Draws w') : w.Calm w' :=
  ⟨[], by simp, by simpa [World.extend] using h⟩

theorem World.Calm.log {w w' : World} (h : w.Calm w') : w.log <+: w'.log := by
  obtain ⟨es, -, hd⟩ := h
  exact ⟨es, hd.log.symm⟩

/-! ### Computations that touch the world only -/

/-- Two actors that differ in their worlds only, by draws. -/
structure Quiet (a a' : Running) : Prop where
  world : a' = { a with world := a'.world }
  draws : a.world.Draws a'.world

/-- Two actors that differ in their worlds only, by draws and plain entries. -/
structure Calm (a a' : Running) : Prop where
  world : a' = { a with world := a'.world }
  calm : a.world.Calm a'.world

instance : Std.Refl Quiet := ⟨fun _ => ⟨rfl, refl_of World.Draws _⟩⟩

instance : IsTrans Running Quiet := ⟨fun _ _ _ h₁ h₂ =>
  ⟨by rw [h₂.world, h₁.world], trans_of World.Draws h₁.draws h₂.draws⟩⟩

instance : Std.Refl Calm := ⟨fun _ => ⟨rfl, refl_of World.Calm _⟩⟩

instance : IsTrans Running Calm := ⟨fun _ _ _ h₁ h₂ =>
  ⟨by rw [h₂.world, h₁.world], trans_of World.Calm h₁.calm h₂.calm⟩⟩

section Calm

variable {a a' : Running}

theorem Quiet.calm (h : Quiet a a') : Calm a a' := ⟨h.world, h.draws.calm⟩

theorem Calm.state (h : Calm a a') : a'.state = a.state := by rw [h.world]

theorem Calm.sa (h : Calm a a') : a'.sa = a.sa := by rw [h.world]

theorem Calm.leasePending (h : Calm a a') : a'.leasePending = a.leasePending := by rw [h.world]

theorem Calm.log (h : Calm a a') : a.world.log <+: a'.world.log := h.calm.log

end Calm

theorem quiet_drawJitter : drawJitter.Within Quiet := fun _ => ⟨rfl,
  ⟨refl_of Rng.Drawn _, refl_of Shifted _, refl_of Shifted _, refl_of Shifted _, rfl⟩⟩

theorem quiet_drawCancel : drawCancel.Within Quiet := fun _ => ⟨rfl,
  ⟨refl_of Rng.Drawn _, .tail _, refl_of Shifted _, refl_of Shifted _, rfl⟩⟩

theorem quiet_drawFull : drawFull.Within Quiet := fun _ => ⟨rfl,
  ⟨refl_of Rng.Drawn _, refl_of Shifted _, refl_of Shifted _, .tail _, rfl⟩⟩

theorem quiet_onRng {α : Type} {x : Eff Rng α} (hx : x.Within Rng.Drawn) :
    (onRng x).Within Quiet := fun r => ⟨rfl,
  ⟨hx r.world.rng, refl_of Shifted _, refl_of Shifted _, refl_of Shifted _, rfl⟩⟩

theorem calm_logged {a : Running} {e : Entry} (he : e.Plain) : Calm a (a.logged e) :=
  ⟨rfl, [e], by simpa using he, refl_of World.Draws _⟩

theorem calm_record {e : Entry} (he : e.Plain) : (record e).Within Calm :=
  fun _ => calm_logged he

theorem calm_of_quiet {α : Type} {x : Eff Running α} (h : x.Within Quiet) : x.Within Calm :=
  h.mono fun _ _ h => h.calm

theorem calm_sendFrames {sa : ℕ} {purpose : Purpose} (hp : purpose ≠ .request) (msgID : UInt32)
    (frames : List Frame) : (sendFrames sa purpose msgID frames).Within Calm := by
  refine Eff.Within.forEach (fun f => (calm_of_quiet quiet_drawCancel).bind fun canceled => ?_)
    frames
  refine Eff.Within.ite (Eff.within_fail _) (calm_record ?_)
  cases purpose with
  | request => exact absurd rfl hp
  | retransmission | response | replay => exact trivial

theorem sendFrames_ok {sa : ℕ} {purpose : Purpose} {msgID : UInt32} :
    ∀ {frames : List Frame} {a b : Running},
      (sendFrames sa purpose msgID frames).run a = (.ok (), b) →
        b = { a with world := b.world } ∧
        b.world.log = a.world.log ++ frames.map (.frame sa purpose msgID)
  | [], a, b, h => by
    obtain rfl := congrArg Prod.snd h
    simp [sendFrames, Eff.forEach]
  | f :: fs, a, b, h => by
    obtain ⟨⟨⟩, a₂, hone, h⟩ := Eff.run_bind_ok h
    obtain ⟨stop, a₁, hdraw, hone⟩ := Eff.run_bind_ok hone
    obtain ⟨rfl, rfl⟩ := Prod.mk.inj hdraw |>.imp Except.ok.inj id
    split_ifs at hone
    · cases hone
    obtain rfl := congrArg Prod.snd hone
    obtain ⟨hstate, hlog⟩ := sendFrames_ok h
    rw [hstate, hlog]
    refine ⟨rfl, ?_⟩
    rw [List.map_cons, ← List.singleton_append, ← List.append_assoc]
    rfl

theorem wp_sendFrames_error (sa : ℕ) (purpose : Purpose) (msgID : UInt32) (frames : List Frame)
    (a : Running) : (sendFrames sa purpose msgID frames).wp
      (fun r _ => r = .ok () ∨ r = .error .canceled) a := by
  refine Eff.wp_forEach (I := fun r _ => r = .ok () ∨ r = .error .canceled) (fun f a₁ _ => ?_)
    frames a (.inl rfl)
  rw [Eff.wp_bind, wp_drawCancel, Eff.next_ok]
  exact Eff.wp_ite (fun _ => .inr rfl) fun _ => .inl rfl

/-! ### Acts -/

/-- The request `msgID` of an IKE SA was answered or given up. -/
def Done (log : List Entry) (sa : ℕ) (msgID : UInt32) : Prop :=
  .accepted sa msgID ∈ log ∨ .gaveUp sa msgID ∈ log

namespace Running

/-- The request in flight, if there is one, was answered or given up. -/
def Settled (a : Running) : Prop :=
  a.state.hasExpectedResponse = true → Done a.world.log a.sa a.state.expectedResponseMessageID

/-- The request in flight was answered. -/
def Accepted (a : Running) : Prop :=
  .accepted a.sa a.state.expectedResponseMessageID ∈ since (Entry.asks a.sa) a.world.log

/-- The message id is beyond that of the last answered request. -/
def Fresh (a : Running) (msgID : UInt32) : Prop :=
  ∀ last ∈ a.state.inboundHistory.getLast?, last.messageID < msgID

/-- The actor with a note that the request in flight, if there is one, is given up. -/
def noted (a : Running) : Running :=
  if a.state.hasExpectedResponse then a.logged (.gaveUp a.sa a.state.expectedResponseMessageID)
  else a

/-- The actor after it has taken a message id for a request and stored the request by `f`. -/
def issue (kind : RequestKind) (f : State → State) (a : Running) : Running :=
  (a.mapState fun s => f s.beginRequest).logged (.asked a.sa a.state.nextRequestMessageID kind)

/-- The actor after an update was offered to the data plane and got through or not. -/
def offered (u : DataplaneUpdate) (through : Bool) (a : Running) : Running :=
  if through then a.logged (.update u) else a

/-- The actor after the deletion of a child was offered, if there is one. -/
def offeredDeletion (child : Option ChildSA) (through : Bool) (a : Running) : Running :=
  match child with
  | some c => a.offered (.childDeleted c) through
  | none => a

theorem exists_offered (u : DataplaneUpdate) (through : Bool) (a : Running) :
    ∃ es, (∀ e ∈ es, e = .update u ∧ through = true) ∧
      a.offered u through = { a with world := a.world.extend es } := by
  cases through with
  | true => exact ⟨[.update u], by simp, rfl⟩
  | false => exact ⟨[], by simp, by simp [offered, World.extend]⟩

theorem exists_offeredDeletion (child : Option ChildSA) (through : Bool) (a : Running) :
    ∃ es, (∀ e ∈ es, ∃ c, child = some c ∧ e = .update (.childDeleted c)) ∧
      a.offeredDeletion child through = { a with world := a.world.extend es } := by
  cases child with
  | none => exact ⟨[], by simp, by simp [offeredDeletion, World.extend]⟩
  | some c =>
    obtain ⟨es, hes, h⟩ := exists_offered (.childDeleted c) through a
    exact ⟨es, fun e he => ⟨c, rfl, (hes e he).1⟩, h⟩

theorem offeredDeletion_eq (child : Option ChildSA) (through : Bool) (a : Running) :
    a.offeredDeletion child through = { a with world := (a.offeredDeletion child through).world } := by
  obtain ⟨es, -, h⟩ := exists_offeredDeletion child through a
  rw [h]

/-- The actor after a child was installed and its soft lifetime has started. -/
def childInstalled (child : ChildSA) (keys : ChildKeys) (selection : Selection) (t : Time)
    (f : State → State) (a : Running) : Running :=
  { a.logged (.update (.childInstalled child keys selection)) with
    state := f a.state, childSoft := some t }

/-- The actor after an IKE SA became current and its soft lifetime has started. -/
def ikeInstalled (t : Time) (f : State → State) (a : Running) : Running :=
  { a with state := f a.state, sa := a.sa + 1, ikeSoft := some t }

end Running

/-- The acts that can happen, among those that an argument may want to rule out. What is said of the
actor is about neither its world nor its stored fragments. -/
structure Guard where
  /-- The request that follows an accepted answer could not be sealed. -/
  sealFails : Prop
  /-- The data plane did not acknowledge an install. -/
  ackFails : Prop
  /-- An update did not get through. -/
  lost : Prop
  /-- The SA of an own rekey becomes current. -/
  installs : RekeyKind → Running → Prop
  /-- A rekey is given up, with a retry or without. -/
  abandon : Bool → Running → Prop
  peerChild : Running → Prop
  peerIKE : Running → Prop
  /-- The DELETE of the retained IKE SA is given up. -/
  oldGiveUp : Running → Prop
  /-- A keepalive or a rekey is requested. -/
  begins : Prop
  /-- A renewal of the lease is requested. -/
  renews : Prop
  /-- A renewal of the lease fails when the lease has run out. -/
  expires : Prop
  /-- A stored configuration has no address although the previous one had. -/
  bare : Prop
  installs_idle : ∀ {kind a w f}, installs kind a →
    installs kind { a with world := w, state := a.state.withFragments f }
  abandon_idle : ∀ {retry a w f}, abandon retry a →
    abandon retry { a with world := w, state := a.state.withFragments f }
  peerChild_idle : ∀ {a w f}, peerChild a →
    peerChild { a with world := w, state := a.state.withFragments f }
  peerIKE_idle : ∀ {a w f}, peerIKE a →
    peerIKE { a with world := w, state := a.state.withFragments f }

namespace Guard

variable (G : Guard) {a : Running} {w : World}

theorem installs_world {kind : RekeyKind} (h : G.installs kind a) :
    G.installs kind { a with world := w } := G.installs_idle (f := a.state.inboundFragments) h

theorem abandon_world {retry : Bool} (h : G.abandon retry a) :
    G.abandon retry { a with world := w } := G.abandon_idle (f := a.state.inboundFragments) h

theorem peerChild_world (h : G.peerChild a) : G.peerChild { a with world := w } :=
  G.peerChild_idle (f := a.state.inboundFragments) h

theorem peerIKE_world (h : G.peerIKE a) : G.peerIKE { a with world := w } :=
  G.peerIKE_idle (f := a.state.inboundFragments) h

end Guard

def Guard.any : Guard :=
  ⟨True, True, True, fun _ _ => True, fun _ _ => True, fun _ => True, fun _ => True, fun _ => True,
    True, True, True, True, id, id, id, id⟩

def State.Leased (s : State) : Prop :=
  (s.assigned.map AssignedConfig.addressExpirySeconds).getD 0 ≠ 0

instance (s : State) : Decidable s.Leased := inferInstanceAs (Decidable (_ ≠ _))

def AssignedConfig.HasAddress (c : AssignedConfig) : Prop :=
  c.internalIPv4.isSome ∨ c.internalIPv6.isSome

instance (c : AssignedConfig) : Decidable c.HasAddress := inferInstanceAs (Decidable (_ ∨ _))

def State.HasAddress (s : State) : Prop := ∃ c, s.assigned = some c ∧ c.HasAddress

/-- The timer of the lease after a renewal has failed: it is armed again, unless there is no lease
or it has run out. -/
def Guard.Rearms (G : Guard) (a : Running) (timer : Option Time) : Prop :=
  timer.isSome ∨ timer = a.leaseTimer ∧ (¬a.state.Leased ∨ G.expires)

inductive Act (G : Guard) : Running → Running → Prop
  | calm {a : Running} {w : World} (h : a.world.Calm w) : Act G a { a with world := w }
  | fragments {a : Running} (f : Option FragmentReassembly) :
      Act G a (a.mapState (State.withFragments f))
  -- requests of the actor
  | sendRequest {a : Running} (f : Frame) (h : a.state.hasExpectedResponse = true) :
      Act G a (a.logged (.frame a.sa .request a.state.expectedResponseMessageID f))
  | keepalive {a : Running} (frames : List Frame) (h : a.state.hasExpectedResponse = false)
      (g : G.begins) :
      Act G a (a.issue .keepalive (State.setOutbound a.state.nextRequestMessageID frames))
  | answered {a : Running} (msgID : UInt32) (h : a.Accepted) (hrekey : a.state.rekey = none)
      (hp : a.leasePending = false) (hphase : a.state.phase ≠ .rekeyChildDeletingOld) :
      Act G a (a.mapState (State.answered msgID))
  -- rekeys of the actor
  | startRekey {a : Running} (rc : RekeyContext) (frames : List Frame)
      (hsafe : a.state.safeToRekey = true) (hid : rc.messageID = a.state.nextRequestMessageID)
      (hchild : rc.kind = .child → a.state.activeChild.isSome ∧ a.state.activeChild = rc.oldChild)
      (g : G.begins) :
      Act G a (a.issue (.rekey rc.kind) (State.startRekey rc frames))
  | startFailed {a : Running} (t : Time) (hsafe : a.state.safeToRekey = true)
      (g : G.abandon true a) :
      Act G a { a.logged (.gaveUp a.sa a.state.nextRequestMessageID) with
        state := a.state.beginRequest.abandonRekey, retryTimer := some t }
  | abandon {a : Running} (hs : a.Settled) (hrekey : a.state.rekey.isSome)
      (g : G.abandon false a) : Act G a (a.mapState State.abandonRekey)
  | abandonRetry {a : Running} (t : Time) (hs : a.Settled)
      (h : a.state.rekey.isSome ∨ a.state.safeToRekey = true) (g : G.abandon true a) :
      Act G a { a with state := a.state.abandonRekey, retryTimer := some t }
  | replaceChild {a : Running} {rc : RekeyContext} {old : ChildSA} (child : ChildSA)
      (keys : ChildKeys) (selection : Selection) (t : Time) (frames : List Frame) (h : a.Accepted)
      (hrekey : a.state.rekey = some rc) (hkind : rc.kind = .child)
      (hactive : a.state.activeChild = some old) (g : G.installs .child a) :
      Act G a ((a.childInstalled child keys selection t
        (State.installChildRekey child selection)).issue (.deleteChild old.inboundSPI)
          (State.startDeleteOldChild a.state.nextRequestMessageID frames))
  | replaceChildUnsealed {a : Running} {rc : RekeyContext} {old : ChildSA} (child : ChildSA)
      (keys : ChildKeys) (selection : Selection) (t : Time) (h : a.Accepted)
      (hrekey : a.state.rekey = some rc) (hkind : rc.kind = .child)
      (hactive : a.state.activeChild = some old) (gi : G.installs .child a) (g : G.sealFails) :
      Act G a ((a.childInstalled child keys selection t
        (State.installChildRekey child selection)).mapState State.beginRequest)
  | ackFailed {a : Running} (child : ChildSA) (keys : ChildKeys) (selection : Selection)
      (g : G.ackFails) : Act G a (a.logged (.update (.childInstalled child keys selection)))
  | finishDelete {a : Running} (msgID : UInt32) (through : Bool) (h : a.Accepted)
      (hrekey : a.state.rekey = none) (hp : a.leasePending = false)
      (hphase : a.state.phase = .rekeyChildDeletingOld) (g : through = false → G.lost) :
      Act G a ((a.offeredDeletion a.state.oldChild through).mapState fun s =>
        (s.answered msgID).finishDeleteOldChild)
  | replaceIKE {a : Running} {rc : RekeyContext} (spiI spiR : UInt64) (ni nr : Bytes)
      (keys : IKEKeys) (selection : Selection) (t : Time) (frames : List Frame) (h : a.Accepted)
      (hrekey : a.state.rekey = some rc) (hkind : rc.kind = .ike) (hold : a.state.oldIKE = [])
      (g : G.installs .ike a) :
      Act G a (a.ikeInstalled t fun s => (s.installIKE spiI spiR true ni nr keys selection).mapOldIKE
        fun o => o.begin.deleting o.nextRequestMessageID frames)
  | replaceIKEUnsealed {a : Running} {rc : RekeyContext} (spiI spiR : UInt64) (ni nr : Bytes)
      (keys : IKEKeys) (selection : Selection) (t : Time) (h : a.Accepted)
      (hrekey : a.state.rekey = some rc) (hkind : rc.kind = .ike) (hold : a.state.oldIKE = [])
      (g : G.sealFails) :
      Act G a (a.ikeInstalled t fun s => (s.installIKE spiI spiR true ni nr keys selection).mapOldIKE
        OldIKEContext.begin)
  -- requests of the peer
  | remember {a : Running} (msgID : UInt32) (frames : List Frame) (h : a.Fresh msgID) :
      Act G a (a.mapState (State.rememberResponse msgID frames))
  | peerChild {a : Running} (old child : ChildSA) (keys : ChildKeys) (selection : Selection)
      (t : Time) (hold : a.state.activeChild = some old) (g : G.peerChild a) :
      Act G a (a.childInstalled child keys selection t
        (State.installPeerChild old child selection))
  | peerIKE {a : Running} (spiI spiR : UInt64) (ni nr : Bytes) (keys : IKEKeys)
      (selection : Selection) (t : Time) (msgID : UInt32) (frames : List Frame)
      (hrekey : a.state.rekey = none) (hold : a.state.oldIKE = []) (h : a.Fresh msgID)
      (g : G.peerIKE a) :
      Act G a (a.ikeInstalled t fun s =>
        (s.installIKE spiI spiR false ni nr keys selection).mapOldIKE
          (OldIKEContext.remember msgID frames))
  | dropOldChild {a : Running} {old : ChildSA} (through : Bool) (hold : a.state.oldChild = some old)
      (g : through = false → G.lost) :
      Act G a (((a.logged (.peerDeleted old.outboundSPI true)).offered (.childDeleted old)
        through).mapState State.dropOldChild)
  | dropActiveChild {a : Running} {active : ChildSA} (through : Bool)
      (hactive : a.state.activeChild = some active) (g : through = false → G.lost) :
      Act G a (((a.logged (.peerDeleted active.outboundSPI false)).offered (.childDeleted active)
        through).mapState fun s => { s with activeChild := none })
  -- leases
  | lease {a : Running} (frames : List Frame) (hsafe : a.state.safeToRekey = true) (g : G.renews) :
      Act G a (Running.issue .lease (State.setOutbound a.state.nextRequestMessageID frames)
        { a with leasePending := true })
  | dropLease {a : Running} (timer : Option Time) (ht : G.Rearms a timer)
      (hrekey : a.state.rekey = none) (hp : a.leasePending = true) (hs : a.Settled) :
      Act G a { a with leasePending := false, state := a.state.dropRequest, leaseTimer := timer }
  | leaseFailed {a : Running} (timer : Option Time) (ht : G.Rearms a timer)
      (hsafe : a.state.safeToRekey = true) :
      Act G a { a.logged (.gaveUp a.sa a.state.nextRequestMessageID) with
        leasePending := false
        state := a.state.beginRequest.dropRequest
        leaseTimer := timer }
  | assign {a : Running} (config : AssignedConfig) (deadline timer : Option Time) (through : Bool)
      (ht : config.addressExpirySeconds ≠ 0 → deadline.isSome ∧ timer.isSome)
      (g : through = false → G.lost ∨ a.state.assigned = some config)
      (hnew : through = true → a.state.assigned ≠ some config)
      (haddr : G.bare ∨ (a.state.HasAddress → config.HasAddress)) :
      Act G a ({ a.offered (.assigned config) through with
        leaseDeadline := deadline, leaseTimer := timer }.mapState fun s =>
          { s with assigned := some config })
  -- the retained IKE SA
  | oldSend {a : Running} {old : OldIKEContext} {rest : List OldIKEContext} (f : Frame)
      (hold : a.state.oldIKE = old :: rest) (h : old.hasExpectedResponse = true) :
      Act G a (a.logged (.frame a.oldSA .request old.expectedResponseMessageID f))
  | oldRemember {a : Running} {old : OldIKEContext} {rest : List OldIKEContext} (msgID : UInt32)
      (frames : List Frame) (hold : a.state.oldIKE = old :: rest)
      (hnew : ∀ e ∈ old.inboundHistory, e.messageID ≠ msgID) :
      Act G a (a.mapState (State.mapOldIKE (OldIKEContext.remember msgID frames)))
  | oldGiveUp {a : Running} {old : OldIKEContext} {rest : List OldIKEContext}
      (hold : a.state.oldIKE = old :: rest) (g : G.oldGiveUp a) :
      Act G a ((a.logged (.gaveUp a.oldSA old.expectedResponseMessageID)).mapState
        (State.mapOldIKE OldIKEContext.giveUp))
  | finishOld {a : Running} (hold : a.state.oldIKE ≠ []) :
      Act G a (a.mapState State.finishOldIKEDelete)

abbrev Acts (G : Guard) : Running → Running → Prop := Relation.ReflTransGen (Act G)

variable {G : Guard} {a a' : Running}

theorem Calm.acts (h : Calm a a') : Acts G a a' := by
  rw [h.world]
  exact .single (.calm h.calm)

theorem Acts.invariant {I : Running → Prop} (hstep : ∀ {a a'}, Act G a a' → I a → I a')
    (h : Acts G a a') (ha : I a) : I a' := by
  induction h with
  | refl => exact ha
  | tail _ hact ih => exact hstep hact ih

/-! ### Tidiness -/

/-- A rekey is in flight only while no IKE SA is retained. -/
def Running.Tidy (a : Running) : Prop := a.state.rekey.isSome → a.state.oldIKE = []

theorem tidy_mapOldIKE {s : State} (h : s.rekey.isSome → s.oldIKE = [])
    (f : OldIKEContext → OldIKEContext) :
    (s.mapOldIKE f).rekey.isSome → (s.mapOldIKE f).oldIKE = [] := by
  unfold State.mapOldIKE
  split
  · exact h
  · next hold => intro hrekey; rw [h hrekey] at hold; cases hold

theorem tidy_act (h : Act G a a') (ht : a.Tidy) : a'.Tidy := by
  cases h with
  | startRekey rc frames hsafe hid hchild =>
    exact fun _ => (by simpa [State.safeToRekey] using hsafe : _ ∧ _ ∧ _ ∧ a.state.oldIKE = []).2.2.2
  | startFailed | abandon | abandonRetry | finishOld => exact fun _ => rfl
  | replaceChild | replaceChildUnsealed => exact fun h => by cases h
  | replaceIKE | replaceIKEUnsealed | peerIKE => exact tidy_mapOldIKE (fun h => by cases h) _
  | finishDelete _ through =>
    rw [Running.offeredDeletion_eq]
    exact ht
  | dropOldChild through | dropActiveChild through | assign _ _ _ through =>
    cases through <;> exact ht
  | oldRemember | oldGiveUp => exact tidy_mapOldIKE ht _
  | _ => exact ht

theorem log_act (h : Act G a a') : a.world.log <+: a'.world.log := by
  have hself : a.world.log <+: a.world.log := List.prefix_refl _
  cases h with
  | calm h => exact h.log
  | fragments | answered | abandon | abandonRetry | replaceIKE | replaceIKEUnsealed | remember |
    peerIKE | dropLease | oldRemember | finishOld => exact hself
  | sendRequest | keepalive | startRekey | startFailed | replaceChildUnsealed | ackFailed |
    peerChild | lease | leaseFailed | oldSend | oldGiveUp => exact List.prefix_append _ _
  | replaceChild =>
    exact (List.prefix_append _ _).trans (List.prefix_append _ _)
  | finishDelete _ through =>
    obtain ⟨es, -, heq⟩ := Running.exists_offeredDeletion a.state.oldChild through a
    rw [heq]
    exact List.prefix_append _ _
  | dropOldChild through | dropActiveChild through =>
    cases through with
    | false => exact List.prefix_append _ _
    | true => exact (List.prefix_append _ _).trans (List.prefix_append _ _)
  | assign _ _ _ through =>
    cases through with
    | false => exact hself
    | true => exact List.prefix_append _ _

/-! ### Smooth worlds -/

/-- Nothing that the actor does not decide fails. -/
structure World.Smooth (w : World) : Prop where
  rng : w.rng.Healthy
  cancel : ∀ k, w.cancel k = false
  ack : ∀ k, w.ack k = .acked
  full : ∀ k, w.full k = false

theorem World.Smooth.draws {w w' : World} (h : w.Smooth) (hd : w.Draws w') : w'.Smooth :=
  ⟨h.rng.drawn hd.rng, Shifted.forall (P := (· = false)) hd.cancel h.cancel,
    Shifted.forall (P := (· = .acked)) hd.ack h.ack, Shifted.forall (P := (· = false)) hd.full h.full⟩

theorem World.Smooth.extend {w : World} (h : w.Smooth) (es : List Entry) : (w.extend es).Smooth :=
  ⟨h.rng, h.cancel, h.ack, h.full⟩

theorem smooth_act (h : Act G a a') (hs : a.world.Smooth) :
    a'.world.Smooth := by
  cases h with
  | calm h =>
    obtain ⟨es, -, hd⟩ := h
    exact (hs.extend es).draws hd
  | finishDelete _ through =>
    obtain ⟨es, -, heq⟩ := Running.exists_offeredDeletion a.state.oldChild through a
    rw [heq]
    exact hs.extend es
  | dropOldChild through | dropActiveChild through | assign _ _ _ through =>
    cases through <;> exact ⟨hs.rng, hs.cancel, hs.ack, hs.full⟩
  | _ => exact ⟨hs.rng, hs.cancel, hs.ack, hs.full⟩

end Swan.Control
