import Swan.Control.Retained

/-! # Rekey triggers

The soft lifetimes of the IKE SA and of the child are one-shot timers. `ikeArmed_act` and
`childArmed_act` say that an act which disarms one leaves the rekey in flight or the retry timer
armed; `triggers_kept` is the result for whole runs. A trigger is lost when its timer fires while no
rekey may start (`ikeTrigger_lost`), and when a rekey is given up without a retry of its own kind:
the retry timer always retries the child. -/

namespace Swan.Control

open Swan.Lib Swan.Wire Swan.Payload Swan.Xcrypto

/-! ### What acts leave armed -/

namespace Running

/-- The IKE SA will be rekeyed: its timer is armed or the rekey is in flight. -/
def IKEArmed (a : Running) : Prop := a.ikeSoft.isSome ∨ a.Rekeying .ike

/-- The child will be rekeyed: its timer or the retry timer is armed or the rekey is in flight. -/
def ChildArmed (a : Running) : Prop :=
  a.state.activeChild.isSome → a.childSoft.isSome ∨ a.Rekeying .child ∨ a.retryTimer.isSome

def ChildStarted (a : Running) : Prop := a.Rekeying .child ∨ a.state.activeChild = none

variable {a : Running} {k : RekeyKind}

theorem Rekeying.kind_unique {k' : RekeyKind} (h : a.Rekeying k) (h' : a.Rekeying k') : k = k' := by
  obtain ⟨rc, hrc, rfl⟩ := h
  obtain ⟨rc', hrc', rfl⟩ := h'
  rw [Option.some.inj (hrc.symm.trans hrc')]

theorem not_rekeying (h : a.state.rekey = none) : ¬a.Rekeying k := by
  rintro ⟨rc, hrc, -⟩
  rw [h] at hrc
  cases hrc

theorem not_rekeying_of_safe (h : a.state.safeToRekey = true) :
    ¬a.Rekeying k :=
  not_rekeying (by simpa [State.safeToRekey] using h : _ ∧ _ ∧ a.state.rekey = none ∧ _).2.2.1

theorem IKEArmed.ikeSoft_of_child (h : a.IKEArmed) (hr : a.Rekeying .child) :
    a.ikeSoft.isSome :=
  h.resolve_right fun hike => by cases hr.kind_unique hike

theorem IKEArmed.ikeSoft_of_safe (h : a.IKEArmed) (hsafe : a.state.safeToRekey = true) :
    a.ikeSoft.isSome :=
  h.resolve_right (not_rekeying_of_safe hsafe)

theorem ChildArmed.of_not_rekeying (h : a.ChildArmed) (hr : ¬a.Rekeying .child)
    (hactive : a.state.activeChild.isSome) : a.childSoft.isSome ∨ a.retryTimer.isSome :=
  (h hactive).imp_right fun h => h.resolve_left hr

end Running

/-- The guard under which a rekey is given up only with a retry, and only that of a child. -/
def Guard.triggers : Guard :=
  { Guard.any with
    abandon := fun retry a => retry = true ∧ a.ikeSoft.isSome
    abandon_idle := id }

theorem activeChild_mapOldIKE (f : OldIKEContext → OldIKEContext) (s : State) :
    (s.mapOldIKE f).activeChild = s.activeChild := by
  unfold State.mapOldIKE
  split <;> rfl

variable {a a' : Running}

theorem ikeArmed_act (h : Act Guard.triggers a a') (ha : a.IKEArmed) :
    a'.IKEArmed := by
  cases h with
  | startRekey rc frames hsafe => exact .inl (ha.ikeSoft_of_safe hsafe)
  | startFailed _ _ g | abandonRetry _ _ _ g => exact .inl g.2
  | abandon hs hrekey g => cases g.1
  | replaceChild _ _ _ _ _ _ hrekey hkind | replaceChildUnsealed _ _ _ _ _ hrekey hkind =>
    exact .inl (ha.ikeSoft_of_child ⟨_, hrekey, hkind⟩)
  | replaceIKE | replaceIKEUnsealed | peerIKE => exact .inl rfl
  | finishDelete _ through =>
    rw [Running.offeredDeletion_eq]
    exact ha
  | dropOldChild through | dropActiveChild through | assign _ _ _ through =>
    cases through <;> exact ha
  | oldRemember | oldGiveUp =>
    refine ha.imp_right fun ⟨rc, hrc, hkind⟩ => ⟨rc, ?_, hkind⟩
    exact (sameRequest_mapOldIKE _ _).rekey.trans hrc
  | _ => exact ha

theorem childArmed_act (h : Act Guard.triggers a a') (ha : a.ChildArmed) :
    a'.ChildArmed := by
  cases h with
  | startRekey rc frames hsafe =>
    exact fun hactive => (ha.of_not_rekeying (Running.not_rekeying_of_safe hsafe) hactive).imp_right
      .inr
  | startFailed | abandonRetry => exact fun _ => .inr (.inr rfl)
  | abandon hs hrekey g => cases g.1
  | replaceChild | replaceChildUnsealed | peerChild => exact fun _ => .inl rfl
  | replaceIKE _ _ _ _ _ _ _ _ _ hrekey hkind | replaceIKEUnsealed _ _ _ _ _ _ _ _ hrekey hkind =>
    refine fun hactive => (ha.of_not_rekeying ?_ ?_).imp_right .inr
    · exact fun hr => by cases hr.kind_unique ⟨_, hrekey, hkind⟩
    · exact (activeChild_mapOldIKE _ _ ▸ hactive :)
  | peerIKE spiI spiR ni nr keys selection t msgID frames hrekey hold h g =>
    refine fun hactive => (ha.of_not_rekeying (Running.not_rekeying hrekey) ?_).imp_right .inr
    exact (activeChild_mapOldIKE _ _ ▸ hactive :)
  | finishDelete _ through =>
    rw [Running.offeredDeletion_eq]
    exact ha
  | dropActiveChild through => cases through <;> exact fun h => by cases h
  | dropOldChild through | assign _ _ _ through => cases through <;> exact ha
  | oldRemember | oldGiveUp =>
    intro hactive
    refine (ha (activeChild_mapOldIKE _ _ ▸ hactive :)).imp_right (Or.imp_left ?_)
    exact fun ⟨rc, hrc, hkind⟩ => ⟨rc, (sameRequest_mapOldIKE _ _).rekey.trans hrc, hkind⟩
  | _ => exact ha

theorem retry_act {G : Guard} (h : Act G a a') :
    a'.retryKind = a.retryKind ∧ a'.retryTrigger = a.retryTrigger := by
  cases h with
  | finishDelete _ through =>
    rw [Running.offeredDeletion_eq]
    exact ⟨rfl, rfl⟩
  | dropOldChild through | dropActiveChild through | assign _ _ _ through =>
    cases through <;> exact ⟨rfl, rfl⟩
  | _ => exact ⟨rfl, rfl⟩

/-! ### Rounds that start a rekey -/

section Start

variable {cfg : Config} {now : Time} {l l' : Loop} {start : Eff Running Unit} {P : Running → Prop}

theorem wp_abandonRekey_armed (cfg : Config) (now : Time) (l : Loop) :
    (onActor (abandonRekey cfg now true) >>= fun _ => pure (none : Exit)).wp
      (fun _ l' => l'.actor.retryTimer.isSome) l := by
  obtain ⟨t, w, -, hrun⟩ := run_abandonRekey_true cfg now l.actor
  exact Eff.wp_of_run_eq (Eff.run_bind_of_ok (run_onActor hrun)) rfl

theorem wp_tryRekey_armed (hstart : start.wp (fun r a' => r = .ok () → P a') l.actor) :
    (Loop.tryRekey cfg now start).wp
      (fun r l' => r = .ok none → P l'.actor ∨ l'.actor.retryTimer.isSome) l := by
  rcases hrun : start.run l.actor with ⟨r, a'⟩
  unfold Loop.tryRekey
  rw [Eff.wp_bind, Eff.wp_attempt]
  refine Eff.wp_run (run_onActor hrun) ?_
  cases r with
  | ok u => exact fun _ => .inl (Eff.wp_of_run hstart hrun rfl)
  | error e =>
    refine Eff.next_caught_error (fun h => by cases h) (Eff.wp_ite (fun _ h => by cases h) fun _ => ?_)
    exact Eff.wp_mono (wp_abandonRekey_armed cfg now _) fun _ _ h _ => .inr h

variable [Crypto]

theorem wp_startChildRekey_ok {a : Running} (trigger : RekeyTrigger)
    (hsafe : a.state.safeToRekey = true) : (startChildRekey cfg now trigger).wp
      (fun r a' => r = .ok () → a'.ChildStarted) a := by
  refine Eff.wp_mono (wp_startChildRekey (G := Guard.any) cfg now trigger hsafe trivial) fun r a' h hr => ?_
  subst hr
  rcases h.acts.2 with h | ⟨hactive, rfl⟩
  · exact .inl h.1
  · exact .inr hactive

omit [Crypto] in
theorem childArmed_of_started {a : Running}
    (h : a.ChildStarted ∨ a.retryTimer.isSome) : a.ChildArmed := by
  intro hactive
  rcases h with (h | h) | h
  · exact .inr (.inl h)
  · rw [h] at hactive
    cases hactive
  · exact .inr (.inr h)

theorem childArmed_onChildSoft (hsafe : l.actor.state.safeToRekey = true)
    (hrun : (Loop.onChildSoft cfg now).run l = (.ok none, l')) : l'.actor.ChildArmed := by
  have hwp : (Loop.onChildSoft cfg now).wp (fun r l' => r = .ok none →
      l'.actor.ChildStarted ∨ l'.actor.retryTimer.isSome) l := by
    unfold Loop.onChildSoft
    rw [Eff.wp_bind, Eff.wp_modify, Eff.next_ok, Eff.wp_bind, Eff.wp_get, Eff.next_ok,
      if_pos hsafe]
    exact wp_tryRekey_armed (P := Running.ChildStarted) (wp_startChildRekey_ok .time hsafe)
  exact childArmed_of_started (Eff.wp_of_run hwp hrun rfl)

theorem rekeying_onNearWrap (hsafe : l.actor.state.safeToRekey = true)
    (hactive : l.actor.state.activeChild.isSome)
    (hrun : (Loop.onNearWrap cfg now).run l = (.ok none, l')) :
    l'.actor.ChildStarted ∨ l'.actor.retryTimer.isSome := by
  have hwp : (Loop.onNearWrap cfg now).wp (fun r l' => r = .ok none →
      l'.actor.ChildStarted ∨ l'.actor.retryTimer.isSome) l := by
    unfold Loop.onNearWrap
    rw [Eff.wp_bind, Eff.wp_get, Eff.next_ok, if_pos ⟨hsafe, hactive⟩]
    exact wp_tryRekey_armed (P := Running.ChildStarted) (wp_startChildRekey_ok .nearWrap hsafe)
  exact Eff.wp_of_run hwp hrun rfl

theorem childArmed_onRetry (hkind : l.actor.retryKind = .child)
    (hsafe : l.actor.state.safeToRekey = true)
    (hrun : (Loop.onRetry cfg now).run l = (.ok none, l')) : l'.actor.ChildArmed := by
  have hwp : (Loop.onRetry cfg now).wp (fun r l' => r = .ok none →
      l'.actor.ChildStarted ∨ l'.actor.retryTimer.isSome) l := by
    unfold Loop.onRetry
    rw [Eff.wp_bind, Eff.wp_modify, Eff.next_ok, Eff.wp_bind, Eff.wp_get, Eff.next_ok,
      if_pos hsafe, hkind]
    rcases hst : (startChildRekey cfg now l.actor.retryTrigger).run (Event.retry.disarm l.actor) with
      ⟨r, a'⟩
    have hok : (startChildRekey cfg now l.actor.retryTrigger).wp
        (fun r a' => r = .ok () → a'.ChildStarted) (Event.retry.disarm l.actor) :=
      wp_startChildRekey_ok l.actor.retryTrigger hsafe
    rw [Eff.wp_bind, Eff.wp_attempt]
    refine Eff.wp_run (run_onActor (l := { l with actor := Event.retry.disarm l.actor }) hst) ?_
    cases r with
    | ok u => exact fun _ => .inl (Eff.wp_of_run hok hst rfl)
    | error e =>
      refine Eff.next_caught_error (fun h => by cases h) ?_
      exact Eff.wp_mono (wp_abandonRekey_armed cfg now _) fun _ _ h _ => .inr h
  exact childArmed_of_started (Eff.wp_of_run hwp hrun rfl)

theorem run_issueRequest {a : Running} {kind : RequestKind} {exchange : ExchangeType}
    {nextPayload : PayloadType} {plain : Bytes} {frames : List Frame} {rng : Rng}
    {store : UInt32 → List Frame → Running → Running}
    (hseal : (buildProtectedEnvelopeAs (some cfg) (stateIKEEnvelope a.state) exchange
      a.state.nextRequestMessageID nextPayload plain
      (requestFlags (stateIKEEnvelope a.state))).run a.world.rng = (.ok frames, rng))
    (hc : ∀ k, a.world.cancel k = false)
    (hstore : ∀ msgID frames a, (store msgID frames a).world = a.world) :
    ∃ a', (issueRequest cfg kind exchange nextPayload (.ok plain) store).run a = (.ok (), a') := by
  have hbegin : beginRequest.run a =
      (.ok a.state.nextRequestMessageID, a.mapState State.beginRequest) := rfl
  have hsealed : (sealCurrent (some cfg) exchange a.state.nextRequestMessageID nextPayload plain
      requestFlags).run (a.mapState State.beginRequest) =
      (.ok frames, { a.mapState State.beginRequest with world := { a.world with rng := rng } }) :=
    (Eff.run_bind_of_ok (Eff.run_get _)).trans (run_onRng hseal)
  rw [issueRequest, Eff.run_bind_of_ok (Eff.run_get a), Eff.run_bind_of_ok hbegin,
    Eff.run_bind_of_ok (Eff.run_lift _ _), Eff.run_bind_of_ok hsealed,
    Eff.run_bind_of_ok (Eff.run_modify _ _), record, Eff.run_bind_of_ok (Eff.run_modify _ _)]
  refine ⟨_, run_sendFrames _ _ _ frames fun k => ?_⟩
  rw [Running.logged, hstore]
  exact hc k

/-- The request of an IKE rekey can be built, sealed and sent. -/
structure Running.CanRekeyIKE (cfg : Config) (a : Running) : Prop where
  cancel : ∀ k, a.world.cancel k = false
  sealed : ∃ parts ni spiI dh ke rng, (buildIKERekeyRequestPayloads cfg).run a.world.rng =
      (.ok (parts, ni, spiI, dh, ke), rng) ∧
    ∃ frames rng', (buildProtectedEnvelopeAs (some cfg) (stateIKEEnvelope a.state)
      ExchangeType.createChild a.state.nextRequestMessageID PayloadType.sa (cesBuildChain parts)
      (requestFlags (stateIKEEnvelope a.state))).run rng = (.ok frames, rng')

theorem Running.CanRekeyIKE.run {a : Running} (h : a.CanRekeyIKE cfg)
    (hsafe : a.state.safeToRekey = true) (now : Time) (trigger : RekeyTrigger) :
    ∃ a', (startIKERekey cfg now trigger).run a = (.ok (), a') := by
  obtain ⟨parts, ni, spiI, dh, ke, rng, hbuild, frames, rng', hseal⟩ := h.sealed
  rw [startIKERekey, Eff.run_bind_of_ok (Eff.run_get a), if_neg (by simp [hsafe]),
    Eff.run_bind_of_ok (run_onRng hbuild)]
  exact run_issueRequest hseal h.cancel fun _ _ _ => rfl

end Start

/-! ### Runs -/

section Runs

variable [Crypto] {cfg : Config} {now t₀ : Time} {ev : Event} {s : State} {w : World} {l l' : Loop}

/-- A round in which no trigger is discarded: a timer fires when a rekey may start (or another timer
of the child is armed), an IKE rekey can start, and one in flight is neither given up after its
retries nor answered unusably nor lost to the peer. -/
structure Loop.KeepsTriggers (cfg : Config) (now : Time) (ev : Event) (l : Loop) : Prop where
  ikeSoft : ev = .ikeSoft → l.actor.state.safeToRekey = true ∧ l.actor.CanRekeyIKE cfg
  childSoft : ev = .childSoft → l.actor.state.safeToRekey = true ∨ l.actor.Rekeying .child ∨
    l.actor.retryTimer.isSome
  retry : ev = .retry → l.actor.state.safeToRekey = true ∨ l.actor.Rekeying .child ∨
    l.actor.childSoft.isSome
  rto : ev = .rto → l.retries ≥ cfg.timeouts.maxRetries → ¬l.actor.Rekeying .ike
  answer : ∀ pkt hdr inner, ev = .packet (some pkt) → l.actor.CurrentResponse pkt hdr →
    l.actor.Opens now pkt.payload inner → l.actor.Rekeying .ike →
    ValidIKEAnswer cfg l.actor.state inner
  collision : ∀ pkt inner, ev = .packet (some pkt) → l.actor.PeerRekeys now pkt inner →
    ¬LosesChild l.actor.state inner ∧ ¬LosesIKE l.actor.state inner

/-- The triggers that a run keeps. -/
structure Loop.Triggers (l : Loop) : Prop where
  tidy : l.actor.Tidy
  ike : l.actor.IKEArmed
  child : l.actor.ChildArmed
  retryKind : l.actor.retryKind = .child

omit [Crypto] in
theorem ikeArmed_disarm {a : Running} (h : a.IKEArmed) (hev : ev ≠ .ikeSoft) :
    (ev.disarm a).IKEArmed := by
  cases ev with
  | ikeSoft => exact absurd rfl hev
  | _ => exact h

omit [Crypto] in
theorem retryKind_disarm (a : Running) : (ev.disarm a).retryKind = a.retryKind := by
  cases ev <;> rfl

theorem Guard.triggers_allows (hk : l.KeepsTriggers cfg now ev) (h : l.Triggers) :
    Guard.triggers.Allows cfg now ev l where
  lets := ⟨.inl trivial, .inl trivial, .inl trivial⟩
  packet pkt hev :=
    { answer := fun hdr inner hresp hopen rc hrekey => by
        cases hkind : rc.kind with
        | child => exact .inl ⟨rfl, h.ike.ikeSoft_of_child ⟨rc, hrekey, hkind⟩⟩
        | ike => exact .inr ⟨rfl, hk.answer pkt hdr inner hev hresp hopen ⟨rc, hrekey, hkind⟩⟩
      install := fun _ _ _ _ _ _ => trivial
      peer := fun inner hpeer => ⟨fun _ _ => trivial,
        fun _ hlose => absurd hlose (hk.collision pkt inner hev hpeer).1, fun _ _ _ => trivial,
        fun _ hlose => absurd hlose (hk.collision pkt inner hev hpeer).2⟩
      lease := fun _ _ _ _ _ => .inl trivial
      renewed := fun _ _ _ _ _ _ => .inl trivial }
  rto hev hge _ _ := ⟨rfl, h.ike.resolve_right (hk.rto hev hge)⟩
  oldRto _ _ := trivial
  start start hstart hsafe := by
    by_cases hev : ev = .ikeSoft
    · subst hev
      obtain rfl := Option.some.inj hstart
      obtain ⟨-, hcan⟩ := hk.ikeSoft rfl
      exact .inr (Running.CanRekeyIKE.run (a := Event.ikeSoft.disarm l.actor)
        ⟨hcan.cancel, hcan.sealed⟩ hsafe now .time)
    · refine .inl ⟨rfl, (ikeArmed_disarm h.ike hev).ikeSoft_of_safe ?_⟩
      rwa [Event.state_disarm]
  retry hev _ a' hacts hr _ := by
    subst hev
    rw [h.retryKind] at hr
    have ha' : a'.IKEArmed := hacts.invariant ikeArmed_act (ikeArmed_disarm h.ike (by decide))
    exact ⟨rfl, ha'.ikeSoft_of_child hr⟩
  begins _ := trivial
  lease _ := trivial

theorem ikeArmed_onIkeSoft (hsafe : l.actor.state.safeToRekey = true)
    (hcan : l.actor.CanRekeyIKE cfg) (hrun : (Loop.onIkeSoft cfg now).run l = (.ok none, l')) :
    l'.actor.IKEArmed := by
  obtain ⟨a', ha'⟩ := Running.CanRekeyIKE.run (a := Event.ikeSoft.disarm l.actor)
    ⟨hcan.cancel, hcan.sealed⟩ hsafe now .time
  have hr : a'.Rekeying .ike := (Eff.wp_of_run (wp_startIKERekey (G := Guard.any) cfg now .time
    (a := Event.ikeSoft.disarm l.actor) hsafe trivial) ha').acts.2.1
  rw [Loop.onIkeSoft, Eff.run_bind_of_ok (Eff.run_modify _ _), Eff.run_bind_of_ok (Eff.run_get _),
    if_pos hsafe, Loop.tryRekey] at hrun
  have hstart := run_onActor (l := { l with actor := Event.ikeSoft.disarm l.actor }) ha'
  have hend := hrun.symm.trans (Eff.run_bind_of_ok (Eff.run_attempt_of_ok hstart))
  rw [(Prod.mk.inj hend).2]
  exact .inr hr

theorem triggers_step (hk : l.KeepsTriggers cfg now ev) (hgo : Loop.Goes cfg now ev l l')
    (h : l.Triggers) : l'.Triggers := by
  have hacts := hgo.acts h.tidy (Guard.triggers_allows hk h)
  have hchild : (ev.disarm l.actor).ChildArmed → l'.actor.ChildArmed :=
    hacts.invariant childArmed_act
  refine ⟨hacts.invariant tidy_act (by simpa [Running.Tidy] using h.tidy), ?_, ?_, ?_⟩
  · by_cases hev : ev = .ikeSoft
    · subst hev
      exact ikeArmed_onIkeSoft (hk.ikeSoft rfl).1 (hk.ikeSoft rfl).2 hgo.run
    · exact hacts.invariant ikeArmed_act (ikeArmed_disarm h.ike hev)
  · cases ev with
    | childSoft =>
      rcases hk.childSoft rfl with hsafe | harmed
      · exact childArmed_onChildSoft hsafe hgo.run
      · exact hchild (fun _ => .inr harmed)
    | retry =>
      rcases hk.retry rfl with hsafe | hr | hsoft
      · exact childArmed_onRetry h.retryKind hsafe hgo.run
      · exact hchild (fun _ => .inr (.inl hr))
      · exact hchild (fun _ => .inl hsoft)
    | ikeSoft | lease | ctxDone | rto | oldRto | tick | nearWrap | packet pkt | inClosed =>
      exact hchild h.child
  · have hkind : ∀ a', Acts Guard.triggers (ev.disarm l.actor) a' → a'.retryKind = .child :=
      fun a' ha => ha.invariant (I := fun a => a.retryKind = .child)
        (fun hact h => (retry_act hact).1.trans h) ((retryKind_disarm _).trans h.retryKind)
    exact hkind _ hacts

omit [Crypto] in
theorem triggers_start (hs : s.HandedOff) : (Loop.start cfg t₀ s w).Triggers := by
  refine ⟨tidy_start hs, ?_, ?_, ?_⟩ <;>
    obtain ⟨ti, tc, deadline, lease, h⟩ := Loop.actor_start cfg t₀ s w
  · rw [h]
    exact .inl rfl
  · rw [h]
    exact fun _ => .inl rfl
  · rw [h]

/-- **No rekey trigger is lost in a run whose rounds discard none.** For the IKE SA, the timer is
armed, or its rekey is in flight, or the previous SA is being deleted, or the retry timer will rekey
it; likewise for the child; and a signal that sequence numbers run out starts a rekey or arms the
retry timer. -/
theorem triggers_kept (hs : s.HandedOff)
    (h : Loop.Runs cfg (fun now ev l => l.KeepsTriggers cfg now ev) (Loop.start cfg t₀ s w) l) :
    (l.actor.ikeSoft.isSome ∨ l.actor.Rekeying .ike ∨ l.actor.state.oldIKE ≠ [] ∨
      l.actor.retryTimer.isSome ∧ l.actor.retryKind = .ike) ∧
    (l.actor.state.activeChild.isSome → l.actor.childSoft.isSome ∨ l.actor.Rekeying .child ∨
      l.actor.state.phase = .rekeyChildDeletingOld ∨
      l.actor.retryTimer.isSome ∧ l.actor.retryKind = .child) ∧
    ∀ now l', l.KeepsTriggers cfg now .nearWrap → l.actor.state.safeToRekey = true →
      l.actor.state.activeChild.isSome → Loop.Goes cfg now .nearWrap l l' →
      l'.actor.Rekeying .child ∨ l'.actor.state.activeChild = none ∨
        l'.actor.retryTimer.isSome ∧ l'.actor.retryKind = .child := by
  have ht : l.Triggers := h.invariant (triggers_start hs) triggers_step
  refine ⟨ht.ike.imp_right .inl, fun hactive => ?_, fun now l' hk hsafe hactive hgo => ?_⟩
  · exact (ht.child hactive).imp_right (Or.imp_right fun h => .inr ⟨h, ht.retryKind⟩)
  · have hkind := (triggers_step hk hgo ht).retryKind
    rcases rekeying_onNearWrap hsafe hactive hgo.run with (hr | hnone) | hretry
    · exact .inl hr
    · exact .inr (.inl hnone)
    · exact .inr (.inr ⟨hretry, hkind⟩)

end Runs

section Sample

attribute [local instance] plainCrypto

/-- The soft lifetime of the IKE SA ends while a keepalive is in flight. -/
theorem ikeTrigger_lost : ∃ l : Loop, Loop.Runs sampleConfig (fun _ _ _ => True) sampleStart l ∧
    l.actor.ikeSoft = none ∧ l.actor.state.rekey = none ∧ l.actor.state.oldIKE = [] ∧
    l.actor.retryTimer = none := by
  obtain ⟨l, hl, h⟩ := Loop.exists_of_follow sampleConfig sampleStart
    [(4000 * second, .tick), (4000 * second, .ikeSoft)]
    (P := fun l => l.actor.ikeSoft = none ∧ l.actor.state.rekey = none ∧
      l.actor.state.oldIKE = [] ∧ l.actor.retryTimer = none) (by decide +kernel)
  exact ⟨l, Loop.runs_of_follow hl, h⟩

/-- The soft lifetime of the child ends: its rekey is in flight, and the timer of the IKE SA is
armed. -/
theorem sample_triggers_kept : ∃ l : Loop, l.actor.state.rekey.isSome = true ∧
    (l.actor.ikeSoft.isSome ∨ l.actor.Rekeying .ike ∨ l.actor.state.oldIKE ≠ [] ∨
      l.actor.retryTimer.isSome ∧ l.actor.retryKind = .ike) := by
  obtain ⟨l, hgo, hrekey⟩ := goes_sampleChildSoft
  refine ⟨l, hrekey, (triggers_kept handedOff_sampleSession
    (.single ⟨(1000 * second, .childSoft), ?_, hgo⟩)).1⟩
  refine ⟨fun h => (by cases h), fun _ => .inl (by decide +kernel), fun h => (by cases h),
    fun h => (by cases h), fun _ _ _ h => (by cases h), fun _ _ h => (by cases h)⟩

end Sample

end Swan.Control
