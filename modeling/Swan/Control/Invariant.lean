import Swan.Control.Steps

/-! # The invariant of the running state

`State.Coherent` relates the fields in which the actor keeps what it is waiting for: the rekey in
flight, the phase, the request in flight and the retained IKE SA. Every act keeps it as long as
requests can be sealed (`coherent_act`), so that it holds in every state of every run
(`Loop.coherent_of_runs`). -/

namespace Swan.Control

open Swan.Lib Swan.Wire Swan.Payload Swan.Xcrypto

def RekeyKind.requesting : RekeyKind → Phase
  | .child => .rekeyChildRequesting
  | .ike => .rekeyIkeRequesting

/-- The fields about requests, rekeys and the retained IKE SA agree. -/
structure State.Coherent (s : State) : Prop where
  rekeying : ∀ rc, s.rekey = some rc → s.phase = rc.kind.requesting ∧
    s.hasExpectedResponse = true ∧ s.expectedResponseMessageID = rc.messageID
  requesting : ∀ kind : RekeyKind, s.phase = kind.requesting → s.rekey.isSome
  outbound : s.hasExpectedResponse = true → ∃ frames,
    s.outboundRequest = some ⟨s.expectedResponseMessageID, frames⟩ ∧
      s.nextRequestMessageID = s.expectedResponseMessageID + 1
  single : s.oldIKE.length ≤ 1
  retained : s.phase = .rekeyIkeDeletingOld ↔ s.oldIKE ≠ []

namespace State.Coherent

variable {s : State}

theorem of_rekey_eq_none (hrekey : s.rekey = none)
    (hphase : ∀ kind : RekeyKind, s.phase ≠ kind.requesting)
    (hout : s.hasExpectedResponse = true → ∃ frames,
      s.outboundRequest = some ⟨s.expectedResponseMessageID, frames⟩ ∧
        s.nextRequestMessageID = s.expectedResponseMessageID + 1)
    (hsingle : s.oldIKE.length ≤ 1) (hret : s.phase = .rekeyIkeDeletingOld ↔ s.oldIKE ≠ []) :
    s.Coherent where
  rekeying rc h := by rw [hrekey] at h; cases h
  requesting kind h := absurd h (hphase kind)
  outbound := hout
  single := hsingle
  retained := hret

theorem of_idle (hrekey : s.rekey = none) (hphase : ∀ kind : RekeyKind, s.phase ≠ kind.requesting)
    (hexp : s.hasExpectedResponse = false) (hsingle : s.oldIKE.length ≤ 1)
    (hret : s.phase = .rekeyIkeDeletingOld ↔ s.oldIKE ≠ []) : s.Coherent :=
  .of_rekey_eq_none hrekey hphase (fun h => by rw [hexp] at h; cases h) hsingle hret

theorem of_running (hphase : s.phase = .running) (hrekey : s.rekey = none) (hold : s.oldIKE = [])
    (hexp : s.hasExpectedResponse = false) : s.Coherent :=
  .of_idle hrekey (fun kind => by rw [hphase]; cases kind <;> decide) hexp (by simp [hold])
    (by simp [hphase, hold])

theorem rekey_eq_none (h : s.Coherent) (hexp : s.hasExpectedResponse = false) : s.rekey = none := by
  cases hrc : s.rekey with
  | none => rfl
  | some rc => have := (h.rekeying rc hrc).2.1; rw [hexp] at this; cases this

theorem ne_requesting (h : s.Coherent) (hrekey : s.rekey = none) (kind : RekeyKind) :
    s.phase ≠ kind.requesting := by
  intro hphase
  have := h.requesting kind hphase
  rw [hrekey] at this
  cases this

theorem oldIKE_eq_nil (h : s.Coherent) (hphase : s.phase ≠ .rekeyIkeDeletingOld) : s.oldIKE = [] := by
  by_contra hne
  exact hphase (h.retained.mpr hne)

theorem tidy (h : s.Coherent) (hrekey : s.rekey.isSome) : s.oldIKE = [] := by
  obtain ⟨rc, hrc⟩ := Option.isSome_iff_exists.mp hrekey
  refine h.oldIKE_eq_nil ?_
  rw [(h.rekeying rc hrc).1]
  cases rc.kind <;> decide

theorem dropRequest (h : s.Coherent) (hrekey : s.rekey = none) : s.dropRequest.Coherent :=
  .of_idle hrekey (h.ne_requesting hrekey) rfl h.single h.retained

theorem abandonRekey (s : State) : s.abandonRekey.Coherent := .of_running rfl rfl rfl rfl

theorem setOutbound (h : s.Coherent) (hrekey : s.rekey = none) (frames : List Frame) :
    (s.beginRequest.setOutbound s.nextRequestMessageID frames).Coherent :=
  .of_rekey_eq_none hrekey (h.ne_requesting hrekey) (fun _ => ⟨frames, rfl, rfl⟩) h.single h.retained

theorem startRekey (hold : s.oldIKE = []) {rc : RekeyContext}
    (hid : rc.messageID = s.nextRequestMessageID) (frames : List Frame) :
    (s.beginRequest.startRekey rc frames).Coherent := by
  have hphase : (s.beginRequest.startRekey rc frames).phase = rc.kind.requesting := by
    unfold State.startRekey
    cases rc.kind <;> rfl
  refine ⟨fun rc' hrc => ?_, fun _ _ => rfl, fun _ => ⟨frames, ?_, rfl⟩, ?_, ?_⟩
  · obtain rfl := Option.some.inj hrc
    exact ⟨hphase, rfl, hid.symm⟩
  · exact congrArg (fun id => some (Checkpoint.mk id frames)) hid
  · exact (congrArg List.length hold).trans_le zero_le_one
  · refine iff_of_false (fun h => ?_) (fun h => h hold)
    rw [hphase] at h
    cases hk : rc.kind <;> rw [hk] at h <;> cases h

theorem startDeleteOldChild (hrekey : s.rekey = none) (hold : s.oldIKE = []) (frames : List Frame) :
    (s.beginRequest.startDeleteOldChild s.nextRequestMessageID frames).Coherent :=
  .of_rekey_eq_none hrekey (fun kind h => by cases kind <;> cases h) (fun _ => ⟨frames, rfl, rfl⟩)
    ((congrArg List.length hold).trans_le zero_le_one)
    (iff_of_false (fun h => by cases h) fun h => h hold)

theorem installIKE (hold : s.oldIKE = []) (spiI spiR : UInt64) (initiator : Bool) (ni nr : Bytes)
    (keys : IKEKeys) (selection : Selection) (f : OldIKEContext → OldIKEContext) :
    ((s.installIKE spiI spiR initiator ni nr keys selection).mapOldIKE f).Coherent := by
  have h : (s.installIKE spiI spiR initiator ni nr keys selection).mapOldIKE f =
      { s.installIKE spiI spiR initiator ni nr keys selection with oldIKE := [f s.toOldIKE] } := by
    simp [State.mapOldIKE, State.installIKE, hold]
  rw [h]
  exact .of_idle rfl (fun kind => by cases kind <;> (intro h; cases h)) rfl (by simp)
    ⟨fun _ => List.cons_ne_nil _ _, fun _ => rfl⟩

theorem dropOldChild (h : s.Coherent) : s.dropOldChild.Coherent := by
  unfold State.dropOldChild
  by_cases hphase : s.phase = .rekeyChildDeletingOld
  · have hrekey : s.rekey = none := by
      by_contra hne
      obtain ⟨rc, hrc⟩ := Option.ne_none_iff_exists'.mp hne
      have hk := (h.rekeying rc hrc).1
      rw [hphase] at hk
      cases hkind : rc.kind <;> rw [hkind] at hk <;> cases hk
    have hold : s.oldIKE = [] := h.oldIKE_eq_nil (by rw [hphase]; decide)
    rw [if_pos hphase]
    exact .of_rekey_eq_none hrekey (fun kind => by cases kind <;> (intro h; cases h)) h.outbound
      h.single (iff_of_false (fun h => by cases h) fun h => h hold)
  · rw [if_neg hphase]
    exact ⟨h.rekeying, h.requesting, h.outbound, h.single, h.retained⟩

theorem mapOldIKE (h : s.Coherent) (f : OldIKEContext → OldIKEContext) : (s.mapOldIKE f).Coherent := by
  unfold State.mapOldIKE
  split
  · exact h
  next old rest hold =>
    refine ⟨h.rekeying, h.requesting, h.outbound, ?_, ?_⟩
    · have := h.single
      rw [hold] at this
      simpa using this
    · exact h.retained.trans (by simp [hold])

end State.Coherent

/-- **Every act keeps the invariant** if requests can be sealed. -/
theorem coherent_act {G : Guard} (hseal : ¬G.sealFails) {a a' : Running} (h : Act G a a')
    (hc : a.state.Coherent) : a'.state.Coherent := by
  cases h with
  | calm | sendRequest | ackFailed | oldSend => exact hc
  | fragments | remember | peerChild =>
    exact ⟨hc.rekeying, hc.requesting, hc.outbound, hc.single, hc.retained⟩
  | keepalive frames h => exact hc.setOutbound (hc.rekey_eq_none h) frames
  | answered msgID h hrekey hp hphase =>
    have h := hc.dropRequest hrekey
    exact ⟨h.rekeying, h.requesting, h.outbound, h.single, h.retained⟩
  | startRekey rc frames hsafe hid hchild => exact .startRekey (State.safeToRekey_iff.mp hsafe).2.2.2 hid frames
  | startFailed | abandon | abandonRetry => exact .abandonRekey _
  | replaceChild child keys selection t frames h hrekey hkind hactive =>
    exact .startDeleteOldChild (s := State.installChildRekey child selection a.state) rfl
      (hc.tidy (by rw [hrekey]; rfl)) frames
  | replaceChildUnsealed child keys selection t h hrekey hkind hactive gi g => exact absurd g hseal
  | finishDelete msgID through h hrekey hp hphase g =>
    have hold : a.state.oldIKE = [] := hc.oldIKE_eq_nil (by rw [hphase]; decide)
    rw [Running.offeredDeletion_eq]
    exact .of_running rfl hrekey hold rfl
  | replaceIKE spiI spiR ni nr keys selection t frames h hrekey hkind hold g =>
    exact .installIKE hold _ _ _ _ _ _ _ _
  | replaceIKEUnsealed spiI spiR ni nr keys selection t h hrekey hkind hold g => exact absurd g hseal
  | peerIKE spiI spiR ni nr keys selection t msgID frames hrekey hold h g =>
    exact .installIKE hold _ _ _ _ _ _ _ _
  | dropOldChild through hold g =>
    cases through <;> exact hc.dropOldChild
  | dropActiveChild through | assign _ _ _ through =>
    cases through <;> exact ⟨hc.rekeying, hc.requesting, hc.outbound, hc.single, hc.retained⟩
  | lease frames hsafe =>
    exact hc.setOutbound (State.safeToRekey_iff.mp hsafe).2.2.1 frames
  | dropLease timer ht hrekey hp hs => exact hc.dropRequest hrekey
  | leaseFailed timer ht hsafe =>
    have hrekey := (State.safeToRekey_iff.mp hsafe).2.2.1
    exact .of_idle hrekey (hc.ne_requesting hrekey) rfl hc.single hc.retained
  | oldRemember | oldGiveUp => exact hc.mapOldIKE _
  | finishOld hold =>
    have hrekey : a.state.rekey = none := by
      by_contra hne
      exact hold (hc.tidy (Option.isSome_iff_ne_none.mpr hne))
    exact .of_rekey_eq_none hrekey (fun kind => by cases kind <;> (intro h; cases h)) hc.outbound
      (Nat.zero_le 1) ⟨fun h => (by cases h), fun h => absurd rfl h⟩

def Guard.sealing : Guard := { Guard.any with sealFails := False }

section Runs

variable [Crypto] {cfg : Config}

theorem Guard.sealing_allows (now : Time) (ev : Event) {l : Loop} (h : l.actor.CanSeal cfg) :
    Guard.sealing.Allows cfg now ev l where
  __ := Guard.any_allows cfg now ev l
  lets := ⟨.inr h, .inl trivial, .inl trivial⟩
  packet pkt hev :=
    { (Guard.any_allows cfg now ev l).packet pkt hev with
      peer := fun inner hp => { ((Guard.any_allows cfg now ev l).packet pkt hev).peer inner hp with } }
  retry _ _ _ _ _ _ := trivial

omit [Crypto] in
theorem coherent_of_handedOff {s : State} (h : s.HandedOff) : s.Coherent :=
  .of_running h.phase h.rekey h.oldIKE h.hasExpectedResponse

omit [Crypto] in
theorem State.coherent_shutdown (s : State) : s.shutdown.Coherent :=
  .of_idle rfl (fun kind => by cases kind <;> (intro h; cases h)) rfl (Nat.zero_le 1)
    ⟨fun h => (by cases h), fun h => absurd rfl h⟩

namespace Loop

variable {now : Time} {ev : Event} {l l' : Loop}

theorem coherent_step {r : Except Err Exit} (hseal : l.actor.CanSeal cfg)
    (hrun : (step cfg now ev).run l = (r, l')) (hr : r = .ok none ∨ r = .ok (some (.ok ())))
    (hc : l.actor.state.Coherent) : l'.actor.state.Coherent := by
  have hstep := Eff.wp_of_run (wp_step cfg now hc.tidy
    (Guard.sealing_allows now ev hseal)) hrun
  have hinv : ∀ {a'}, Acts Guard.sealing (ev.disarm l.actor) a' → a'.state.Coherent := fun h =>
    h.invariant (I := fun a => a.state.Coherent) (coherent_act id) (by rwa [Event.state_disarm])
  rcases hr with rfl | rfl
  · exact hinv (hstep.acts rfl)
  · obtain ⟨a₁, hacts, ha'⟩ := hstep.shutdown rfl
    rw [ha']
    exact State.coherent_shutdown _

theorem coherent_of_runs {s : State} {w : World} (hs : s.HandedOff)
    (h : Runs cfg (fun _ _ l => l.actor.CanSeal cfg) (start cfg now s w) l) :
    l.actor.state.Coherent :=
  h.invariant (I := fun l => l.actor.state.Coherent)
    (by rw [state_actor_start]; exact coherent_of_handedOff hs)
    fun hC hgo hc => coherent_step hC hgo.run (.inl rfl) hc

omit [Crypto] in
theorem append_ne {p t : String} (h : ¬p.toList <+: t.toList) (s : String) : p ++ s ≠ t := by
  rintro rfl
  exact h (by rw [String.toList_append]; exact List.prefix_append _ _)

/-- The failure of the retransmission timer that finds a request without its packets. -/
def errNoCheckpoint : Err := .errorf "control: outstanding request has no retransmit checkpoint"

omit [Crypto] in
theorem leaseRetryOrExpire_ne_errNoCheckpoint (now : Time) (a : Running) :
    ((leaseRetryOrExpire now).run a).1 ≠ .error errNoCheckpoint := by
  unfold leaseRetryOrExpire
  rw [Eff.run_bind_of_ok (run_noteGivenUp a), Eff.run_bind_of_ok (Eff.run_modify _ _),
    Eff.run_bind_of_ok (Eff.run_get _)]
  split_ifs
  · simp
  · split
    · simp [errNoCheckpoint]
    · split_ifs
      · exact fun h => append_ne (p := "control: CP address lease expired at ") (by decide) _
          (Err.errorf.inj (Except.error.inj h))
      · simp

omit [Crypto] in
theorem onRTO_ne_errNoCheckpoint (hc : l.actor.state.Coherent) :
    ((onRTO cfg now).run l).1 ≠ .ok (some (.error errNoCheckpoint)) := by
  change (onRTO cfg now).wp (fun r _ => r ≠ .ok (some (.error errNoCheckpoint))) l
  unfold onRTO
  rw [Eff.wp_bind, Eff.wp_modify, Eff.next_ok, Eff.wp_bind, Eff.wp_get, Eff.next_ok]
  refine Eff.wp_ite (fun _ => by simp) fun hexp => ?_
  obtain ⟨frames, hout, -⟩ := hc.outbound (by simpa using hexp)
  refine Eff.wp_ite (fun _ => Eff.wp_ite (fun _ => ?_) fun _ => Eff.wp_ite (fun _ => ?_) fun _ => ?_)
    fun _ => ?_
  · obtain ⟨t, w, -, hrun⟩ := run_abandonRekey_true cfg now l.actor
    rw [Eff.wp, Eff.run_bind_of_ok (run_onActor (l := { l with rtoC := none }) hrun)]
    simp [Eff.run_bind]
  · rw [Eff.wp_bind, Eff.wp_attempt]
    have hne := leaseRetryOrExpire_ne_errNoCheckpoint now l.actor
    rcases hrun : (leaseRetryOrExpire now).run l.actor with ⟨r, a'⟩
    rw [hrun] at hne
    refine Eff.wp_run (run_onActor (l := { l with rtoC := none }) hrun) ?_
    cases r with
    | ok u => simp
    | error e =>
      refine Eff.next_caught_error (by simp) ?_
      simpa using hne
  · exact fun h => append_ne (p := "control: keepalive request ") (by decide) _
      (Err.errorf.inj (Except.error.inj (Option.some.inj (Except.ok.inj h))))
  · split
    · next h => rw [show _ = l.actor.state.outboundRequest from rfl, hout] at h; cases h
    next cp _ =>
    rw [Eff.wp_bind, Eff.wp_attempt]
    refine wp_onActor (Eff.wp_mono (wp_sendFrames_error _ _ _ _ _) fun r a' h => ?_)
    rcases h with rfl | rfl
    · simp
    · simp [errNoCheckpoint, caught]

/-- **The running state is coherent in every run**: as long as requests can be sealed, the fields
about requests, rekeys and the retained IKE SA agree in every state in which the loop waits, and in
the one in which it returns when the peer has deleted the IKE SA. The timer of a request never finds
it without its packets. -/
theorem running_coherent {s : State} {w : World} (hs : s.HandedOff)
    (h : Runs cfg (fun _ _ l => l.actor.CanSeal cfg) (start cfg now s w) l) :
    l.actor.state.Coherent ∧
      (∀ t, ((onRTO cfg t).run l).1 ≠ .ok (some (.error errNoCheckpoint))) ∧
      ∀ t ev l', l.actor.CanSeal cfg → (step cfg t ev).run l = (.ok (some (.ok ())), l') →
        l'.actor.state.Coherent := by
  have hc := coherent_of_runs hs h
  exact ⟨hc, fun t => onRTO_ne_errNoCheckpoint hc, fun t ev l' hseal hrun =>
    coherent_step hseal hrun (.inr rfl) hc⟩

end Loop

end Runs

section Sample

attribute [local instance] plainCrypto

theorem canSeal_sampleStart : sampleStart.actor.CanSeal sampleConfig := by
  have hs : sampleStart.actor.state = sampleSession := Loop.state_actor_start _ _ _ _
  have hkeyed : (stateIKEEnvelope sampleSession).CbcKeyed cbcSelection cbcKeys :=
    ⟨rfl, rfl, by decide, rfl, rfl, rfl, rfl, rfl, by decide, rfl, rfl⟩
  refine ⟨fun _ => rfl, ?_, ?_⟩ <;> rw [hs]
  · exact hkeyed.canSeal _
  · exact hkeyed.canSeal _

theorem goes_sampleChildSoft : ∃ l : Loop,
    Loop.Goes sampleConfig (1000 * second) .childSoft sampleStart l ∧
      l.actor.state.rekey.isSome = true := by
  obtain ⟨l, hl, hrekey⟩ := Loop.exists_of_follow sampleConfig sampleStart
    [(1000 * second, .childSoft)] (P := fun l => l.actor.state.rekey.isSome = true)
    (by decide +kernel)
  exact ⟨l, Loop.goes_of_follow hl, hrekey⟩

/-- The sample session after the soft lifetime of its child: a rekey is in flight. -/
theorem coherent_sampleRekey : ∃ l : Loop, l.actor.state.rekey.isSome = true ∧
    l.actor.state.Coherent := by
  obtain ⟨l, hgo, hrekey⟩ := goes_sampleChildSoft
  exact ⟨l, hrekey, (Loop.running_coherent handedOff_sampleSession
    (.single ⟨(1000 * second, .childSoft), canSeal_sampleStart, hgo⟩)).1⟩

end Sample

end Swan.Control
