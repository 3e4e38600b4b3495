import Swan.Control.Leases

/-! # Updates of the assigned configuration

The peer changes the assigned configuration with a CFG_SET, which is merged, or with the answer to a
renewal, which replaces it. `updateLaw_iff` says what an update does to the configuration, the lease
and the data plane: all is as it should be, except that a CFG_SET without an expiry starts the lease
over. `address_kept` is about whole runs: the address stays as long as every renewal brings one. -/

namespace Swan.Control

open Swan.Lib Swan.Wire Swan.Payload Swan.Xcrypto

/-! ### One update -/

/-- The payload carries a positive expiry; of several expiries the last one counts. -/
def PositiveExpiry (cp : ConfigPayload) : Prop :=
  Carries cp .expiry ∧ (assignedBy cp).addressExpirySeconds ≠ 0

/-- What an update with the payload `cp` is to do to the actor: the flag and the value that it
returns and the actor after it. -/
structure UpdateLaw (cfg : Config) (now : Time) (cp : ConfigPayload) (mode : ConfigApplyMode)
    (a : Running) (changed : Bool) (next : AssignedConfig) (a' : Running) : Prop where
  stored : a'.state = { a.state with assigned := some next }
  merged : mode = .merge → ∀ c, next.Agree
    (if Carries cp c then assignedBy cp else a.state.assigned.getD noAssigned) c
  replaced : mode = .replace → next = assignedBy cp
  moved : PositiveExpiry cp →
    a'.leaseDeadline = some (now + (assignedBy cp).addressExpirySeconds.toNat * second)
  kept : ¬PositiveExpiry cp → a'.leaseDeadline = a.leaseDeadline
  absent : ¬Carries cp .expiry → a'.leaseTimer = a.leaseTimer
  flagged : changed = true ↔ a.state.assigned ≠ some next
  queued : cfg.dataUpdates = true → a.world.full 0 = false → a'.world.log =
    a.world.log ++ if changed then [.update (.assigned next)] else []

/-- The lease of the stored configuration as it would be if it started now. -/
def Running.LeaseStartsNow (a : Running) (now : Time) : Prop :=
  (a.leaseDeadline, a.leaseTimer) = leaseStarted now (a.state.assigned.getD noAssigned) a

theorem expiry_pos {cp : ConfigPayload} (h : (assignedBy cp).addressExpirySeconds ≠ 0) :
    PositiveExpiry cp := by
  refine ⟨fun hnil => h ?_, h⟩
  exact agree_noAssigned (c := .expiry) (not_not.mpr hnil)

theorem leased_iff (s : State) :
    s.Leased ↔ (s.assigned.getD noAssigned).addressExpirySeconds ≠ 0 := by
  rw [State.Leased]
  cases s.assigned <;> rfl

theorem leaseStarted_congr {now : Time} {c c' : AssignedConfig} (a : Running)
    (h : c.addressExpirySeconds = c'.addressExpirySeconds) :
    leaseStarted now c a = leaseStarted now c' a := by
  rw [leaseStarted, leaseStarted, h]

section Update

variable (cfg : Config) (now : Time) {cp : ConfigPayload} {mode : ConfigApplyMode}
  {incoming : AssignedConfig} {mask present : CesAssignedMask}

theorem expiry_updatedAssigned (hdecode : cesDecodeAssignedCP cp = .ok (incoming, mask))
    (hpresent : mode = .merge → present = mask) (prev : Option AssignedConfig) :
    (updatedAssigned prev incoming present mode).addressExpirySeconds =
      if mode = .merge ∧ ¬Carries cp .expiry then (prev.getD noAssigned).addressExpirySeconds
      else (assignedBy cp).addressExpirySeconds := by
  obtain ⟨hin, -⟩ := cesDecodeAssignedCP_eq hdecode
  cases mode with
  | replace =>
    rw [if_neg fun h => by cases h.1]
    exact congrArg AssignedConfig.addressExpirySeconds hin
  | merge =>
    obtain rfl := hpresent rfl
    have hagree := agree_updatedAssigned hdecode prev .expiry
    by_cases hc : Carries cp .expiry
    · rw [if_pos hc] at hagree
      rw [if_neg fun h => h.2 hc]
      exact hagree
    · rw [if_neg hc] at hagree
      rw [if_pos ⟨rfl, hc⟩]
      exact hagree

/-- **The update law.** It fails for a CFG_SET without an expiry while there is a lease, unless
the lease would have started at this very instant anyway. -/
theorem updateLaw_iff (hdecode : cesDecodeAssignedCP cp = .ok (incoming, mask))
    (hpresent : mode = .merge → present = mask) (a : Running) : ∃ changed next a',
    (applyConfigUpdate cfg now incoming present mode).run a = (.ok (changed, next), a') ∧
    (UpdateLaw cfg now cp mode a changed next a' ↔
      (mode = .merge → ¬Carries cp .expiry → a.state.Leased → a.LeaseStartsNow now)) := by
  obtain ⟨hin, -⟩ := cesDecodeAssignedCP_eq hdecode
  obtain ⟨through, w, hw, hlost, hthrough, hrun⟩ :=
    run_applyConfigUpdate cfg now incoming present mode a rfl
  set next := updatedAssigned a.state.assigned incoming present mode with hnext
  have hexp : next.addressExpirySeconds = _ :=
    expiry_updatedAssigned hdecode hpresent a.state.assigned
  refine ⟨_, next, _, hrun, ?_⟩
  set a' := (Running.assigning now next { a with world := w }).offered (.assigned next) through
  have hlease : (a'.leaseDeadline, a'.leaseTimer) = leaseStarted now next a := by
    cases through <;> rfl
  have hdeadline : a'.leaseDeadline = (leaseStarted now next a).1 := congrArg Prod.fst hlease
  have htimer : a'.leaseTimer = (leaseStarted now next a).2 := congrArg Prod.snd hlease
  have hlog : cfg.dataUpdates = true → a.world.full 0 = false → a'.world.log = a.world.log ++
      if decide (a.state.assigned ≠ some next) then [.update (.assigned next)] else [] := by
    intro hdata hfull
    cases through with
    | true =>
      rw [if_pos (by simpa using hthrough rfl), ← hw.log]
      rfl
    | false =>
      have hsame : a.state.assigned = some next := (hlost rfl).resolve_right fun h => by
        rcases h with h | h
        · rw [hdata] at h
          cases h
        · rw [hfull] at h
          cases h
      rw [if_neg (by simpa using hsame), List.append_nil, ← hw.log]
      rfl
  constructor
  · -- the lease of the old configuration was started over, and the law says that it was not
    intro hlaw hmerge habsent hleased
    have hsame : next.addressExpirySeconds =
        (a.state.assigned.getD noAssigned).addressExpirySeconds := by
      rw [hexp, if_pos ⟨hmerge, habsent⟩]
    rw [Running.LeaseStartsNow, ← hlaw.kept fun h => habsent h.1, ← hlaw.absent habsent, hlease]
    exact leaseStarted_congr a hsame
  · intro hcond
    -- without a positive expiry the lease is left alone
    have hkept : ¬PositiveExpiry cp →
        (a'.leaseDeadline, a'.leaseTimer) = (a.leaseDeadline, a.leaseTimer) := by
      intro hno
      have hzero : (assignedBy cp).addressExpirySeconds = 0 := by
        by_contra h
        exact hno (expiry_pos h)
      rw [hlease]
      by_cases hstale : mode = .merge ∧ ¬Carries cp .expiry
      · rw [if_pos hstale] at hexp
        by_cases hleased : a.state.Leased
        · rw [leaseStarted_congr a hexp]
          exact (hcond hstale.1 hstale.2 hleased).symm
        · have h0 : next.addressExpirySeconds = 0 := by
            rw [hexp]
            exact not_not.mp fun h => hleased ((leased_iff a.state).mpr h)
          rw [leaseStarted, if_pos h0]
      · rw [if_neg hstale, hzero] at hexp
        rw [leaseStarted, if_pos hexp]
    refine ⟨by cases through <;> rfl, fun hmerge c => ?_, fun hreplace => ?_, fun hpos => ?_,
      fun hno => congrArg Prod.fst (hkept hno),
      fun habsent => congrArg Prod.snd (hkept fun h => habsent h.1), decide_eq_true_iff, hlog⟩
    · subst hmerge
      obtain rfl := hpresent rfl
      exact agree_updatedAssigned hdecode a.state.assigned c
    · subst hreplace
      exact hin
    · have hne : next.addressExpirySeconds = (assignedBy cp).addressExpirySeconds := by
        rw [hexp, if_neg fun h => h.2 hpos.1]
      rw [hdeadline, leaseStarted, if_neg (hne ▸ hpos.2), hne]

end Update

section Sample

attribute [local instance] plainCrypto

def nameServerOnly : ConfigPayload :=
  ⟨ConfigType.set, [⟨configAttrInternalIPv4DNS, [9, 9, 9, 9]⟩]⟩

/-- A CFG_SET with a name server and a new lifetime. -/
def nameServerAndExpiry : ConfigPayload :=
  ⟨ConfigType.set, [⟨configAttrInternalIPv4DNS, [9, 9, 9, 9]⟩,
    ⟨configAttrInternalAddressExpiry, [0, 0, 0, 50]⟩]⟩

/-- Both are stored, and the lease of 100 seconds becomes one of 50 seconds. -/
theorem sample_updateLaw : ∃ changed next a',
    (applyConfigUpdate sampleConfig (10 * second) (assignedBy nameServerAndExpiry)
      ⟨false, true, false, false, true⟩ .merge).run leasedStart.actor = (.ok (changed, next), a') ∧
    UpdateLaw sampleConfig (10 * second) nameServerAndExpiry .merge leasedStart.actor changed next
      a' := by
  have hdecode : cesDecodeAssignedCP nameServerAndExpiry =
      .ok (assignedBy nameServerAndExpiry, ⟨false, true, false, false, true⟩) := by decide
  have hmask : ConfigApplyMode.merge = .merge → (⟨false, true, false, false, true⟩ : CesAssignedMask) =
      ⟨false, true, false, false, true⟩ := fun _ => rfl
  obtain ⟨changed, next, a', hrun, hlaw⟩ :=
    updateLaw_iff sampleConfig (10 * second) hdecode hmask leasedStart.actor
  exact ⟨changed, next, a', hrun, hlaw.mpr fun _ habsent => absurd (by decide) habsent⟩

/-- The name server is stored, but the lease, which was to end after 100 seconds, starts over. -/
theorem lease_restarted_without_expiry :
    cesDecodeAssignedCP nameServerOnly =
      .ok (assignedBy nameServerOnly, ⟨false, true, false, false, false⟩) ∧
    ∃ changed next a', (applyConfigUpdate sampleConfig (10 * second) (assignedBy nameServerOnly)
        ⟨false, true, false, false, false⟩ .merge).run leasedStart.actor =
          (.ok (changed, next), a') ∧
      ¬Carries nameServerOnly .expiry ∧ leasedStart.actor.leaseDeadline = some (100 * second) ∧
      a'.leaseDeadline = some (110 * second) ∧
      ¬UpdateLaw sampleConfig (10 * second) nameServerOnly .merge leasedStart.actor changed next
        a' := by
  have hbefore : leasedStart.actor.leaseDeadline = some (100 * second) := by decide
  refine ⟨by decide, _, _, _, rfl, by decide, hbefore, by decide, fun hlaw => ?_⟩
  have hkept := hlaw.kept fun h => absurd h.1 (by decide)
  exact absurd hkept (by decide)

end Sample

/-! ### Runs -/

def Loop.RenewsAddress [Crypto] (now : Time) (ev : Event) (l : Loop) : Prop :=
  ∀ pkt hdr inner, ev = .packet (some pkt) → l.actor.CurrentResponse pkt hdr →
    l.actor.Opens now pkt.payload inner → l.actor.leasePending = true → l.actor.state.rekey = none →
    ∀ c, renewedConfig inner = some c → c.HasAddress

/-- The guard under which a configuration with an address is replaced by one with an address. -/
def Guard.addressed : Guard := { Guard.any with bare := False }

theorem assigned_act {G : Guard} {a a' : Running} (h : Act G a a') :
    a'.state.assigned = a.state.assigned ∨ ∃ c, a'.state.assigned = some c ∧
      (G.bare ∨ (a.state.HasAddress → c.HasAddress)) := by
  cases h with
  | assign config deadline timer through ht g hnew haddr =>
    exact .inr ⟨config, by cases through <;> rfl, haddr⟩
  | finishDelete msgID through =>
    rw [Running.offeredDeletion_eq]
    exact .inl rfl
  | dropOldChild through | dropActiveChild through => cases through <;> exact .inl rfl
  | replaceIKE | replaceIKEUnsealed | peerIKE =>
    exact .inl (by simp [Running.ikeInstalled, State.installIKE])
  | oldRemember | oldGiveUp => exact .inl (by simp [Running.mapState, Running.logged])
  | _ => exact .inl rfl

theorem hasAddress_act {a a' : Running} (h : Act Guard.addressed a a') (ha : a.state.HasAddress) :
    a'.state.HasAddress := by
  rcases assigned_act h with hsame | ⟨c, hc, hkeeps⟩
  · rwa [State.HasAddress, hsame]
  · exact ⟨c, hc, hkeeps.resolve_left id ha⟩

section Runs

variable [Crypto] {cfg : Config} {t₀ : Time} {s : State} {w : World} {l : Loop}

theorem Guard.addressed_allows {now : Time} {ev : Event} (h : l.RenewsAddress now ev) :
    Guard.addressed.Allows cfg now ev l where
  __ := Guard.any_allows cfg now ev l
  lets := ⟨.inl trivial, .inl trivial, .inl trivial⟩
  packet pkt hev :=
    { (Guard.any_allows cfg now ev l).packet pkt hev with
      peer := fun inner hp => { ((Guard.any_allows cfg now ev l).packet pkt hev).peer inner hp with }
      renewed := fun hdr inner hresp hopens hp hrekey =>
        .inr (h pkt hdr inner hev hresp hopens hp hrekey) }
  retry _ _ _ _ _ _ := trivial

/-- **The address stays**, in every run in which the renewals bring one. -/
theorem address_kept (hs : s.HandedOff) (haddr : s.HasAddress)
    (h : Loop.Runs cfg Loop.RenewsAddress (Loop.start cfg t₀ s w) l) :
    ∃ c, l.actor.state.assigned = some c ∧ c.HasAddress :=
  (h.actor_invariant (G := Guard.addressed) (I := fun a => a.state.HasAddress)
    (by rwa [Loop.state_actor_start]) (tidy_start hs) (fun ev h => by simpa using h)
    (fun hact _ => hasAddress_act hact) fun hc _ => Guard.addressed_allows hc).1

end Runs

section Sample

attribute [local instance] plainCrypto

/-- The answer of the peer to the renewal of the sample session. -/
def renewalAnswer (cp : ConfigPayload) : Packet :=
  leasedSession.peerPacket ExchangeType.informational 5 responseFlags
    (some (PayloadType.cp, ((appendConfigPayload cp).toOption).getD []))

/-- The renewal brings another address. -/
theorem sample_address_kept : ∃ l : Loop,
    l.actor.state.assigned.map AssignedConfig.internalIPv4 = some (some [10, 0, 0, 3]) ∧
    ∃ c, l.actor.state.assigned = some c ∧ c.HasAddress := by
  set answer := renewalAnswer
    ⟨ConfigType.reply, [⟨configAttrInternalIPv4Address, [10, 0, 0, 3]⟩]⟩ with hanswer
  obtain ⟨l₁, hl₁, hrenewed⟩ := Loop.exists_of_follow sampleConfig leasedStart
    [(80 * second, .lease)] (P := fun l => ((openProtectedRawState none (81 * second)
      answer.payload).run l.actor.state).1.toOption.all (fun inner => inner.all fun inner =>
        (renewedConfig inner).all fun c => decide c.HasAddress) = true) (by decide +kernel)
  obtain ⟨l₂, hl₂, hassigned⟩ := Loop.exists_of_follow sampleConfig leasedStart
    [(80 * second, .lease), (81 * second, .packet (some answer))]
    (P := fun l => l.actor.state.assigned.map AssignedConfig.internalIPv4 = some (some [10, 0, 0, 3]))
    (by decide +kernel)
  obtain ⟨l₁', hlease, hl₂⟩ := Loop.follow_cons hl₂
  obtain ⟨l₁'', hlease', hnil⟩ := Loop.follow_cons hl₁
  obtain ⟨l₂', hpacket, hnil'⟩ := Loop.follow_cons hl₂
  cases hnil
  cases hnil'
  obtain rfl : l₁ = l₁' := by
    have h := hlease.run.symm.trans hlease'.run
    exact (Prod.mk.inj h).2.symm
  have hfirst : leasedStart.RenewsAddress (80 * second) .lease := fun _ _ _ h => by cases h
  have hsecond : l₁.RenewsAddress (81 * second) (.packet (some answer)) := by
    rintro pkt hdr inner ⟨⟩ - hopens - - c hc
    rw [hopens] at hrenewed
    simpa [Except.toOption, hc] using hrenewed
  exact ⟨l₂, hassigned, address_kept handedOff_leasedSession ⟨_, rfl, by decide⟩
    (Relation.ReflTransGen.tail (.single ⟨_, hfirst, hlease⟩) ⟨_, hsecond, hpacket⟩)⟩

/-- The renewal brings no address: there is none any more. -/
theorem address_lost_in_renewal : ∃ l : Loop,
    Loop.Runs sampleConfig (fun _ _ _ => True) leasedStart l ∧
    l.actor.state.assigned = some noAssigned := by
  obtain ⟨l, hl, h⟩ := Loop.exists_of_follow sampleConfig leasedStart
    [(80 * second, .lease), (81 * second, .packet (some (renewalAnswer ⟨ConfigType.reply, []⟩)))]
    (P := fun l => l.actor.state.assigned = some noAssigned) (by decide +kernel)
  exact ⟨l, Loop.runs_of_follow hl, h⟩

end Sample

end Swan.Control
