import Swan.Control.Routing

/-! # Leases

The peer may assign an address for a limited time. A timer asks for a renewal before that time is
over; a renewal that fails is tried again until the hard deadline, after which the session fails.
`lease_under_renewal` shows that a leased address always has its timer armed or a renewal in flight,
whose retransmission timer is armed, in every run in which

* the timer of the lease fires while a renewal may start, and before the deadline,
* the peer does not rekey the IKE SA while a renewal is in flight,
* every response to a renewal arrives before the deadline.

The timer fires once: if a renewal may not start then, nothing arms it again
(`lease_forgotten`). -/

namespace Swan.Control

open Swan.Lib Swan.Wire Swan.Payload Swan.Xcrypto

/-! ### Acts -/

namespace Running

def Dated (a : Running) : Prop := a.state.Leased → a.leaseDeadline.isSome

/-- The timer of a lease is armed, or its renewal is in flight. -/
def Renewing (a : Running) : Prop :=
  a.state.Leased → a.leaseTimer.isSome ∨ a.leasePending = true

end Running

/-- The acts of a round in which no lease runs out; a renewal is requested only if `renews`. -/
def Guard.leasing (renews : Prop) : Guard :=
  { Guard.routing with renews, expires := False }

theorem leased_assign {s : State} {config : AssignedConfig} :
    State.Leased { s with assigned := some config } ↔ config.addressExpirySeconds ≠ 0 := Iff.rfl

/-- Acts other than those of the lease leave its fields as they are. -/
structure SameLease (a a' : Running) : Prop where
  assigned : a'.state.assigned = a.state.assigned
  leaseDeadline : a'.leaseDeadline = a.leaseDeadline
  leaseTimer : a'.leaseTimer = a.leaseTimer
  leasePending : a'.leasePending = a.leasePending

theorem lease_act {G : Guard} {a a' : Running} (h : Act G a a') : SameLease a a' ∨
    (G.renews ∧ a'.leasePending = true ∧ a'.leaseDeadline = a.leaseDeadline ∧
      a'.state.assigned = a.state.assigned) ∨
    (a'.leasePending = false ∧ a'.leaseDeadline = a.leaseDeadline ∧
      a'.state.assigned = a.state.assigned ∧ G.Rearms a a'.leaseTimer) ∨
    (a'.leasePending = a.leasePending ∧
      (a'.state.Leased → a'.leaseDeadline.isSome ∧ a'.leaseTimer.isSome)) := by
  cases h with
  | lease frames hsafe g => exact .inr (.inl ⟨g, rfl, rfl, rfl⟩)
  | dropLease _ ht | leaseFailed _ ht => exact .inr (.inr (.inl ⟨rfl, rfl, rfl, ht⟩))
  | assign config deadline timer through ht =>
    refine .inr (.inr (.inr ⟨?_, fun hl => ht (leased_assign.mp hl)⟩))
    cases through <;> rfl
  | finishDelete msgID through =>
    rw [Running.offeredDeletion_eq]
    exact .inl ⟨rfl, rfl, rfl, rfl⟩
  | dropOldChild through | dropActiveChild through =>
    cases through <;> exact .inl ⟨rfl, rfl, rfl, rfl⟩
  | replaceIKE | replaceIKEUnsealed | peerIKE =>
    exact .inl ⟨by simp [Running.ikeInstalled, State.installIKE], rfl, rfl, rfl⟩
  | oldRemember | oldGiveUp =>
    exact .inl ⟨by simp [Running.mapState, Running.logged], rfl, rfl, rfl⟩
  | _ => exact .inl ⟨rfl, rfl, rfl, rfl⟩

theorem dated_act {G : Guard} {a a' : Running} (h : Act G a a') (hd : a.Dated) : a'.Dated := by
  intro hl
  rcases lease_act h with h | ⟨-, -, hdl, hsame⟩ | ⟨-, hdl, hsame, -⟩ | ⟨-, hnew⟩
  · rw [h.leaseDeadline]
    exact hd (by rwa [State.Leased, ← h.assigned])
  · rw [hdl]
    exact hd (by rwa [State.Leased, ← hsame])
  · rw [hdl]
    exact hd (by rwa [State.Leased, ← hsame])
  · exact (hnew hl).1

theorem renewing_act {renews : Prop} {a a' : Running} (h : Act (Guard.leasing renews) a a')
    (ha : a.Renewing) : a'.Renewing := by
  intro hl
  rcases lease_act h with h | ⟨-, hp, -⟩ | ⟨-, -, hsame, hrearm⟩ | ⟨-, hnew⟩
  · rw [h.leaseTimer, h.leasePending]
    exact ha (by rwa [State.Leased, ← h.assigned])
  · exact .inr hp
  · rcases hrearm with harmed | ⟨-, hno | hexp⟩
    · exact .inl harmed
    · exact absurd (by rwa [State.Leased, ← hsame]) hno
    · exact hexp.elim
  · exact .inl (hnew hl).2

theorem leasePending_act {a a' : Running} (h : Act (Guard.leasing False) a a')
    (hp : a'.leasePending = true) : a.leasePending = true := by
  rcases lease_act h with h | ⟨hno, -⟩ | ⟨hdrop, -⟩ | ⟨hsame, -⟩
  · rwa [← h.leasePending]
  · exact hno.elim
  · rw [hdrop] at hp
    cases hp
  · rwa [← hsame]

/-! ### The retransmission timer -/

def StaysArmed (l l' : Loop) : Prop := l.rtoC.isSome → l'.rtoC.isSome

instance : Std.Refl StaysArmed := ⟨fun _ h => h⟩

instance : IsTrans Loop StaysArmed := ⟨fun _ _ _ h h' hl => h' (h hl)⟩

section Rounds

variable {cfg : Config} {now : Time} {l l' : Loop}

theorem staysArmed_onActor {α : Type} (x : Eff Running α) : (onActor x).Within StaysArmed :=
  fun _ h => h

theorem staysArmed_tryRekey (start : Eff Running Unit) :
    (Loop.tryRekey cfg now start).Within StaysArmed := by
  refine (staysArmed_onActor start).attempt.bind fun r => ?_
  cases r with
  | error e =>
    exact Eff.Within.ite (Eff.within_pure _) ((staysArmed_onActor _).bind fun _ => Eff.within_pure _)
  | ok u => exact (Eff.within_modify fun _ _ => rfl).bind fun _ => Eff.within_pure _

theorem staysArmed_onOldRTO : (Loop.onOldRTO cfg now).Within StaysArmed := by
  refine (Eff.within_modify fun _ h => h).bind fun _ => Eff.within_get.bind fun l => ?_
  split
  · exact Eff.within_pure _
  refine Eff.Within.ite (Eff.within_pure _) (Eff.Within.ite ?_ ?_)
  · exact (staysArmed_onActor _).bind fun _ => (Eff.within_modify fun _ h => h).bind fun _ =>
      Eff.within_pure _
  · split
    · exact Eff.within_pure _
    refine (staysArmed_onActor _).attempt.bind fun r => ?_
    cases r with
    | error e =>
      exact Eff.Within.ite (Eff.within_pure _) ((Eff.within_modify fun _ h => h).bind fun _ =>
        Eff.within_pure _)
    | ok u => exact (Eff.within_modify fun _ h => h).bind fun _ => Eff.within_pure _

variable [Crypto]

theorem staysArmed_onTick : (Loop.onTick cfg now).Within StaysArmed := by
  refine (Eff.within_modify fun _ h => h).bind fun _ => Eff.within_get.bind fun l => ?_
  refine Eff.Within.ite (Eff.within_pure _) ((staysArmed_onActor _).attempt.bind fun r => ?_)
  cases r with
  | error e => exact Eff.within_pure _
  | ok u => exact (Eff.within_modify fun _ _ => rfl).bind fun _ => Eff.within_pure _

theorem staysArmed_onRetry : (Loop.onRetry cfg now).Within StaysArmed := by
  refine (Eff.within_modify fun _ h => h).bind fun _ => Eff.within_get.bind fun l => ?_
  refine Eff.Within.ite ((staysArmed_onActor _).attempt.bind fun r => ?_) (Eff.within_pure _)
  cases r with
  | error e => exact (staysArmed_onActor _).bind fun _ => Eff.within_pure _
  | ok u => exact (Eff.within_modify fun _ _ => rfl).bind fun _ => Eff.within_pure _

theorem staysArmed_onLease : (Loop.onLease cfg now).Within StaysArmed := by
  refine (Eff.within_modify fun _ h => h).bind fun _ => Eff.within_get.bind fun l => ?_
  refine Eff.Within.ite ((staysArmed_onActor _).attempt.bind fun r => ?_) (Eff.within_pure _)
  cases r with
  | error e =>
    refine Eff.Within.ite (Eff.within_pure _) ((staysArmed_onActor _).attempt.bind fun r => ?_)
    cases r <;> exact Eff.within_pure _
  | ok u => exact (Eff.within_modify fun _ _ => rfl).bind fun _ => Eff.within_pure _

theorem staysArmed_step {ev : Event} (hrto : ev ≠ .rto) (hpkt : ∀ pkt, ev ≠ .packet pkt) :
    (Loop.step cfg now ev).Within StaysArmed := by
  have hstart : ∀ {f : Loop → Loop} {c : Loop → Prop} [DecidablePred c] (start : Eff Running Unit),
      (∀ l, StaysArmed l (f l)) → (Eff.modify f >>= fun _ => Eff.get >>= fun l =>
        if c l then Loop.tryRekey cfg now start else pure none).Within StaysArmed :=
    fun start hf => (Eff.within_modify hf).bind fun _ => Eff.within_get.bind fun l =>
      Eff.Within.ite (staysArmed_tryRekey start) (Eff.within_pure _)
  cases ev with
  | ctxDone | inClosed => exact Eff.within_pure _
  | rto => exact absurd rfl hrto
  | oldRto => exact staysArmed_onOldRTO
  | tick => exact staysArmed_onTick
  | ikeSoft | childSoft => exact hstart _ fun _ h => h
  | nearWrap =>
    exact Eff.within_get.bind fun l => Eff.Within.ite (staysArmed_tryRekey _) (Eff.within_pure _)
  | retry => exact staysArmed_onRetry
  | lease => exact staysArmed_onLease
  | packet pkt => exact absurd rfl (hpkt pkt)

omit [Crypto] in
theorem staysArmed_afterPacket (h : l.actor.state.hasExpectedResponse = true) :
    StaysArmed l (Loop.afterPacket cfg now l) := by
  intro harmed
  unfold Loop.afterPacket
  dsimp only
  simp only [h, Bool.true_eq_false, false_and, if_false, true_and]
  split_ifs <;> first | exact harmed | rfl

omit [Crypto] in
theorem wp_onRTO_armed (hp : l.actor.leasePending = true →
      l.actor.state.hasExpectedResponse = true ∧ l.actor.state.rekey = none) :
    (Loop.onRTO cfg now).wp (fun r l' => r = .ok none → l'.actor.leasePending = true →
      l'.rtoC.isSome) l := by
  unfold Loop.onRTO
  rw [Eff.wp_bind, Eff.wp_modify, Eff.next_ok, Eff.wp_bind, Eff.wp_get, Eff.next_ok]
  refine Eff.wp_ite (fun hidle _ hpending => ?_) fun _ => Eff.wp_ite (fun _ =>
    Eff.wp_ite (fun hrekey => ?_) fun _ => Eff.wp_ite (fun _ => ?_) fun _ h => by cases h) fun _ => ?_
  · rw [(hp hpending).1] at hidle
    cases hidle
  · obtain ⟨t, w, -, hrun⟩ := run_abandonRekey_true cfg now l.actor
    refine Eff.wp_of_run_eq (Eff.run_bind_of_ok (run_onActor hrun))
      (Eff.wp_of_run_eq (Eff.run_bind_of_ok (Eff.run_modify _ _)) fun _ hpending => ?_)
    rw [(hp hpending).2] at hrekey
    cases hrekey
  · rw [Eff.wp_bind, Eff.wp_attempt]
    refine wp_onActor (Eff.wp_mono (wp_leaseRetryOrExpire now l.actor) fun r a' h => ?_)
    obtain ⟨timer, -, rfl⟩ := h
    cases r with
    | ok u => exact fun _ hpending => by cases hpending
    | error e => exact Eff.next_caught_error (fun h => by cases h) fun h => by cases h
  · split
    · exact fun h => by cases h
    rw [Eff.wp_bind, Eff.wp_attempt]
    refine wp_onActor (Eff.wp_mono (wp_sendFrames_error _ _ _ _ l.actor) fun r a' _ => ?_)
    cases r with
    | ok u => exact fun _ _ => rfl
    | error e => exact Eff.next_caught_error (fun h => by cases h) fun h => by cases h

omit [Crypto] in
theorem run_onRTO_expired (hexp : l.actor.state.hasExpectedResponse = true)
    (hrekey : l.actor.state.rekey = none) (hp : l.actor.leasePending = true)
    (hretries : l.retries ≥ cfg.timeouts.maxRetries) (hpast : l.actor.Expired now) :
    ∃ e, ((Loop.onRTO cfg now).run l).1 = .ok (some (.error e)) := by
  have hwp : (Loop.onRTO cfg now).wp (fun r _ => ∃ e, r = .ok (some (.error e))) l := by
    unfold Loop.onRTO
    rw [Eff.wp_bind, Eff.wp_modify, Eff.next_ok, Eff.wp_bind, Eff.wp_get, Eff.next_ok]
    rw [if_neg (by simp [hexp]), if_pos hretries, if_neg (by simp [hrekey]), if_pos hp]
    rw [Eff.wp_bind, Eff.wp_attempt]
    refine wp_onActor (Eff.wp_mono (wp_leaseRetryOrExpire now l.actor) ?_)
    rintro r a' ⟨timer, hfails, -⟩
    rcases hfails with ⟨hnot, -⟩ | ⟨-, -, t, rfl⟩
    · exact absurd hpast hnot
    · exact ⟨.errorf t, rfl⟩
  exact hwp

omit [Crypto] in
theorem keepsPending_sendFrames (sa : ℕ) (purpose : Purpose) (msgID : UInt32) (frames : List Frame)
    (a : Running) : (sendFrames sa purpose msgID frames).wp
      (fun _ a' => a.leasePending = true → a'.leasePending = true) a := by
  refine Eff.wp_forEach (I := fun _ a' => a.leasePending = true → a'.leasePending = true)
    (fun f a₁ h => ?_) frames a id
  rw [Eff.wp_bind, wp_drawCancel, Eff.next_ok]
  exact Eff.wp_ite (fun _ => h) fun _ => h

theorem wp_sendLeaseRenewal_pending {a : Running} (hl : a.state.Leased) :
    (sendLeaseRenewal cfg).wp (fun r a' => r = .ok () → a'.leasePending = true) a := by
  unfold sendLeaseRenewal
  rw [Eff.wp_bind, Eff.wp_get, Eff.next_ok]
  cases hassigned : a.state.assigned with
  | none => exact absurd (by rw [hassigned]; rfl) hl
  | some assigned =>
    dsimp only
    unfold issueRequest
    rw [Eff.wp_bind, Eff.wp_get, Eff.next_ok, Eff.wp_bind, wp_beginRequest, Eff.next_ok, Eff.wp_bind,
      Eff.wp_lift]
    cases cepSinglePayload <$> appendConfigRenewRequest
        ⟨assigned.internalIPv4, assigned.internalIPv6, assigned.internalIPv6Prefix⟩ with
    | error e => exact fun h => by cases h
    | ok plain =>
      rw [Eff.next_ok, Eff.wp_bind]
      refine Eff.wp_mono (P := fun _ _ => True) trivial fun r a₁ _ => ?_
      cases r with
      | error e => exact fun h => by cases h
      | ok frames =>
        rw [Eff.next_ok, Eff.wp_bind, Eff.wp_modify, Eff.next_ok, Eff.wp_bind]
        refine Eff.wp_run (run_record _ _) ?_
        rw [Eff.next_ok]
        exact Eff.wp_mono (keepsPending_sendFrames _ _ _ _ _) fun r a' h _ => h rfl

theorem wp_onLease_renewing (hsafe : l.actor.state.Leased → l.actor.state.safeToRekey = true)
    (harmed : l.actor.leasePending = true → l.rtoC.isSome) :
    (Loop.onLease cfg now).wp (fun r l' => r = .ok none → l'.actor.Renewing ∧
      (l'.actor.leasePending = true → l'.rtoC.isSome)) l := by
  unfold Loop.onLease
  rw [Eff.wp_bind, Eff.wp_modify, Eff.next_ok, Eff.wp_bind, Eff.wp_get, Eff.next_ok]
  refine Eff.wp_ite (fun hrenew => ?_) fun hrenew _ => ⟨fun hl => absurd ?_ hrenew, harmed⟩
  swap
  · exact Bool.and_eq_true_iff.mpr ⟨hsafe hl, decide_eq_true (UInt32.pos_iff_ne_zero.mpr hl)⟩
  obtain ⟨hsafe, hpos⟩ := Bool.and_eq_true_iff.mp hrenew
  have hl : l.actor.state.Leased := UInt32.pos_iff_ne_zero.mp (of_decide_eq_true hpos)
  set a := Event.lease.disarm l.actor with ha
  rw [Eff.wp_bind, Eff.wp_attempt]
  rcases hrun : (sendLeaseRenewal cfg).run a with ⟨r, a'⟩
  have hpending := Eff.wp_of_run (wp_sendLeaseRenewal_pending (a := a) hl) hrun
  have hsent := Eff.wp_of_run (wp_sendLeaseRenewal (G := Guard.any) cfg hsafe trivial) hrun
  refine Eff.wp_run (run_onActor (l := { l with actor := a }) hrun) ?_
  cases r with
  | ok u => exact fun _ => ⟨fun _ => .inr (hpending rfl), fun _ => rfl⟩
  | error e =>
    refine Eff.next_caught_error (fun h => by cases h) (Eff.wp_ite (fun _ h => by cases h)
      fun hcanceled => ?_)
    rcases hsent with ⟨hu, -⟩ | ⟨-, hr⟩
    swap
    · obtain rfl := Except.error.inj (hr.resolve_left (by simp))
      exact absurd rfl hcanceled
    obtain ⟨w, -, rfl⟩ := hu
    rw [Eff.wp_bind, Eff.wp_attempt]
    refine wp_onActor (Eff.wp_mono (wp_leaseRetryOrExpire now _) ?_)
    rintro r a'' ⟨timer, hfails, rfl⟩
    rcases hfails with ⟨-, rfl, htimer⟩ | ⟨-, -, t, rfl⟩
    · refine fun _ => ⟨fun _ => .inl ?_, fun h => by cases h⟩
      exact htimer.resolve_right fun h => h.2 hl
    · exact fun h => by cases h

theorem wp_onPacket_armed (pkt : Option Packet) : (Loop.onPacket cfg now pkt).wp (fun _ l' =>
    l'.actor.state.hasExpectedResponse = true → StaysArmed l l') l := by
  cases pkt with
  | none => exact fun _ => id
  | some pkt =>
    unfold Loop.onPacket
    rw [Eff.wp_bind, Eff.wp_attempt]
    refine wp_onActor (Eff.wp_mono (P := fun _ _ => True) trivial fun r a' _ => ?_)
    cases r with
    | error e => exact Eff.next_caught_error (fun _ => id) fun _ => id
    | ok shutdown =>
      intro hexp
      replace hexp : (Loop.afterPacket cfg now { l with actor := a' }).actor.state.hasExpectedResponse
          = true := hexp
      rw [Loop.actor_afterPacket] at hexp
      exact staysArmed_afterPacket (l := { l with actor := a' }) hexp

end Rounds

/-! ### Runs -/

section Runs

variable [Crypto] {cfg : Config} {t₀ : Time} {s : State} {w : World} {now : Time} {ev : Event}
  {l l' : Loop}

/-- A round in which no lease is lost. -/
structure Loop.KeepsLease (now : Time) (ev : Event) (l : Loop) : Prop where
  renewal : l.NoRekeyInRenewal now ev
  timer : ev = .lease → l.actor.state.Leased →
    l.actor.state.safeToRekey = true ∧ ¬l.actor.Expired now
  answer : ∀ pkt hdr inner, ev = .packet (some pkt) → l.actor.CurrentResponse pkt hdr →
    l.actor.Opens now pkt.payload inner → l.actor.leasePending = true → ¬l.actor.Expired now

theorem Guard.leasing_allows {renews : Prop} (h : l.KeepsLease now ev) (hr : ev = .lease → renews) :
    (Guard.leasing renews).Allows cfg now ev l where
  __ := Guard.any_allows cfg now ev l
  lets := ⟨.inl trivial, .inl trivial, .inl trivial⟩
  packet pkt hev :=
    { (Guard.any_allows cfg now ev l).packet pkt hev with
      peer := fun inner hp =>
        { ((Guard.routing_allows h.renewal : Guard.routing.Allows cfg now ev l).packet pkt
            hev).peer inner hp with }
      lease := fun hdr inner hresp hopen hp => .inr (h.answer pkt hdr inner hev hresp hopen hp) }
  retry _ _ _ _ _ _ := trivial
  lease := hr

/-- What a run keeps in which no lease is lost. -/
structure Loop.LeaseKept (l : Loop) : Prop where
  tidy : l.actor.Tidy
  routed : l.actor.Routed
  dated : l.actor.Dated
  renewing : l.actor.Renewing
  armed : l.actor.leasePending = true → l.rtoC.isSome

omit [Crypto] in
theorem Loop.LeaseKept.inFlight (h : l.LeaseKept) (hp : l.actor.leasePending = true) :
    l.actor.state.hasExpectedResponse = true ∧ l.actor.state.rekey = none := by
  have hk := h.routed.lease hp
  exact ⟨hk.expected, h.routed.rekey_eq_none hk (by simp)⟩

theorem armed_goes (hk : l.KeepsLease now ev) (hgo : Loop.Goes cfg now ev l l') (h : l.LeaseKept)
    (hrouted : l'.actor.Routed) (hp : l'.actor.leasePending = true) : l'.rtoC.isSome := by
  by_cases hlease : ev = .lease
  · subst hlease
    exact (Eff.wp_of_run (wp_onLease_renewing (fun hl => (hk.timer rfl hl).1) h.armed)
      hgo.run rfl).2 hp
  by_cases hrto : ev = .rto
  · subst hrto
    exact Eff.wp_of_run (wp_onRTO_armed h.inFlight) hgo.run rfl hp
  -- no other round requests a renewal: it was in flight before
  have hacts : Acts (Guard.leasing False) (ev.disarm l.actor) l'.actor :=
    hgo.acts h.tidy (Guard.leasing_allows hk fun h => absurd h hlease)
  have hbefore : ∀ {a : Running}, Acts (Guard.leasing False) a l'.actor → a.leasePending = true := by
    intro a ha
    induction ha using Relation.ReflTransGen.head_induction_on with
    | refl => exact hp
    | head hact _ ih => exact leasePending_act hact ih
  have hstart : l.rtoC.isSome := h.armed (by simpa using hbefore hacts)
  cases ev with
  | packet pkt =>
    exact Eff.wp_of_run (wp_onPacket_armed pkt) hgo.run (hrouted.lease hp).expected hstart
  | _ =>
    have hstays : (Loop.step cfg now _).Within StaysArmed := staysArmed_step hrto fun _ h => by cases h
    exact Eff.wp_of_run (hstays.wp l) hgo.run hstart

/-- **A round keeps the lease under renewal.** -/
theorem leaseKept_goes (hk : l.KeepsLease now ev) (hgo : Loop.Goes cfg now ev l l')
    (h : l.LeaseKept) : l'.LeaseKept := by
  have hacts : Acts (Guard.leasing True) (ev.disarm l.actor) l'.actor :=
    hgo.acts h.tidy (Guard.leasing_allows hk fun _ => trivial)
  have hkept : l'.actor.Routed ∧ l'.actor.Tidy ∧ l'.actor.Dated := by
    refine hacts.invariant (I := fun a => a.Routed ∧ a.Tidy ∧ a.Dated)
      (fun hact ha => ⟨routed_act (fun _ h => h) hact ha.2.1 ha.1, tidy_act hact ha.2.1,
        dated_act hact ha.2.2⟩) ⟨h.routed.disarm ev, ?_, ?_⟩
    · simpa [Running.Tidy] using h.tidy
    · intro hl
      have hd := h.dated (by simpa using hl)
      cases ev <;> exact hd
  refine ⟨hkept.2.1, hkept.1, hkept.2.2, ?_, armed_goes hk hgo h hkept.1⟩
  by_cases hlease : ev = .lease
  · subst hlease
    exact (Eff.wp_of_run (wp_onLease_renewing (fun hl => (hk.timer rfl hl).1) h.armed)
      hgo.run rfl).1
  · refine hacts.invariant renewing_act fun hl => ?_
    have hr := h.renewing (by simpa using hl)
    cases ev with
    | lease => exact absurd rfl hlease
    | _ => exact hr

omit [Crypto] in
theorem leaseKept_start (hs : s.HandedOff) : (Loop.start cfg t₀ s w).LeaseKept := by
  have harmed : s.Leased → (Loop.start cfg t₀ s w).actor.leaseDeadline.isSome ∧
      (Loop.start cfg t₀ s w).actor.leaseTimer.isSome := by
    intro hl
    cases hassigned : s.assigned with
    | none => exact absurd (by rw [hassigned]; rfl) hl
    | some c =>
      have hne : c.addressExpirySeconds ≠ 0 := by
        rw [State.Leased, hassigned] at hl
        exact hl
      have harm : ∀ a : Running, a.state.assigned = some c →
          ((armLeaseTimer t₀).run a).2.leaseDeadline.isSome ∧
            ((armLeaseTimer t₀).run a).2.leaseTimer.isSome := by
        intro a ha
        rw [armLeaseTimer, Eff.run_modify]
        simp only [ha, if_neg hne]
        exact ⟨rfl, rfl⟩
      exact harm _ hassigned
  refine ⟨tidy_start hs, routed_start hs, fun hl => ?_, fun hl => ?_, fun hp => ?_⟩
  · rw [Loop.state_actor_start] at hl
    exact (harmed hl).1
  · rw [Loop.state_actor_start] at hl
    exact .inl (harmed hl).2
  · rw [Loop.leasePending_actor_start] at hp
    cases hp

/-- **A leased address is under renewal**: its timer is armed, or a renewal is in flight with its
retransmission timer armed; and a renewal that stays unanswered until the deadline fails the
session. -/
theorem lease_under_renewal (hs : s.HandedOff)
    (h : Loop.Runs cfg Loop.KeepsLease (Loop.start cfg t₀ s w) l) {config : AssignedConfig}
    (hassigned : l.actor.state.assigned = some config) (hpos : config.addressExpirySeconds > 0) :
    (l.actor.leaseTimer.isSome ∨ l.actor.InFlight .lease ∧ l.rtoC.isSome) ∧
    ∃ deadline, l.actor.leaseDeadline = some deadline ∧ ∀ now, deadline ≤ now →
      l.actor.InFlight .lease → l.retries ≥ cfg.timeouts.maxRetries →
      ∃ e, ((Loop.step cfg now .rto).run l).1 = .ok (some (.error e)) := by
  have hk : l.LeaseKept := h.invariant (leaseKept_start hs) fun hk hgo h => leaseKept_goes hk hgo h
  have hl : l.actor.state.Leased := by
    rw [State.Leased, hassigned]
    exact UInt32.pos_iff_ne_zero.mp hpos
  obtain ⟨deadline, hdeadline⟩ := Option.isSome_iff_exists.mp (hk.dated hl)
  refine ⟨(hk.renewing hl).imp_right fun hp => ⟨hk.routed.lease hp, hk.armed hp⟩, deadline,
    hdeadline, fun now hpast hflight hretries => ?_⟩
  have hp := hk.routed.pending hflight
  refine run_onRTO_expired (hk.inFlight hp).1 (hk.inFlight hp).2 hp hretries ⟨hl, fun d hd => ?_⟩
  rw [hdeadline] at hd
  exact Option.some.inj hd ▸ hpast

end Runs

/-! ### A lease that is forgotten -/

section Sample

attribute [local instance] plainCrypto

/-- The sample session with an address for 100 seconds. -/
def leasedSession : State :=
  { sampleSession with assigned := some { sampleAssigned with addressExpirySeconds := 100 } }

def leasedStart : Loop := Loop.start sampleConfig 0 leasedSession sampleWorld

theorem handedOff_leasedSession : leasedSession.HandedOff :=
  ⟨rfl, rfl, rfl, rfl, rfl, rfl, rfl, rfl, rfl⟩

/-- The timer of the lease fires while a keepalive is in flight: no renewal is requested, and the
timer is not armed again. -/
theorem lease_forgotten : ∃ l : Loop, Loop.Runs sampleConfig (fun _ _ _ => True) leasedStart l ∧
    (∃ config ∈ l.actor.state.assigned, config.addressExpirySeconds > 0) ∧
    l.actor.leaseTimer = none ∧ ¬l.actor.InFlight .lease := by
  obtain ⟨l, hl, h⟩ := Loop.exists_of_follow sampleConfig leasedStart
    [(80 * second, .tick), (80 * second, .lease)]
    (P := fun l => (∃ config ∈ l.actor.state.assigned, config.addressExpirySeconds > 0) ∧
      l.actor.leaseTimer = none ∧ ¬l.actor.InFlight .lease) (by decide +kernel)
  exact ⟨l, Loop.runs_of_follow hl, h⟩

/-- The timer of the lease fires while nothing is in flight: the renewal is requested. -/
theorem sample_lease_under_renewal : ∃ l : Loop, l.actor.leaseTimer = none ∧
    l.actor.InFlight .lease ∧ l.rtoC.isSome := by
  obtain ⟨l, hl, hnone, config, hassigned, hpos⟩ := Loop.exists_of_follow sampleConfig leasedStart
    [(80 * second, .lease)] (P := fun l => l.actor.leaseTimer = none ∧
      ∃ config ∈ l.actor.state.assigned, config.addressExpirySeconds > 0) (by decide +kernel)
  obtain ⟨l₁, hgo, hnil⟩ := Loop.follow_cons hl
  cases hnil
  have hkeeps : leasedStart.KeepsLease (80 * second) .lease := by
    refine ⟨fun _ _ h => (by cases h), fun _ _ => ⟨by decide +kernel, ?_⟩,
      fun _ _ _ h => (by cases h)⟩
    rintro ⟨-, hpast⟩
    exact absurd (hpast (100 * second) (by decide +kernel)) (by decide)
  obtain ⟨hunder, -⟩ := lease_under_renewal handedOff_leasedSession
    (.single ⟨_, hkeeps, hgo⟩) hassigned hpos
  refine ⟨l, hnone, hunder.resolve_left ?_⟩
  rw [hnone]
  exact Bool.false_ne_true

end Sample

end Swan.Control
