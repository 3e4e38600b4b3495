import Swan.Control.Triggers

/-! # Retries of a rekey

A rekey that is given up is tried again when the retry timer fires. What is then started is said by
two fields of the actor that nothing writes, so that every retry is a rekey of the child by time
(`retried_iff`), whatever was given up before. -/

namespace Swan.Control

open Swan.Lib Swan.Wire Swan.Payload Swan.Xcrypto

/-- The retry timer stands for the rekey of the child by time. -/
structure Running.RetriesChild (a : Running) : Prop where
  kind : a.retryKind = .child
  trigger : a.retryTrigger = .time
  tidy : a.Tidy

theorem retriesChild_act {G : Guard} {a a' : Running} (h : Act G a a') (ha : a.RetriesChild) :
    a'.RetriesChild :=
  ⟨(retry_act h).1.trans ha.kind, (retry_act h).2.trans ha.trigger, tidy_act h ha.tidy⟩

section Runs

variable [Crypto] {cfg : Config}

theorem Loop.Runs.retriesChild {C : Time → Event → Loop → Prop} {t₀ : Time} {s : State} {w : World}
    {l : Loop} (hs : s.HandedOff) (h : Loop.Runs cfg C (Loop.start cfg t₀ s w) l) :
    l.actor.RetriesChild := by
  refine (h.actor_invariant (G := Guard.any) (I := Running.RetriesChild) ?_ (tidy_start hs)
    (fun ev h => ?_) (fun hact _ => retriesChild_act hact) fun _ _ => Guard.any_allows _ _ _ _).1
  · obtain ⟨ti, tc, deadline, lease, hstart⟩ := Loop.actor_start cfg t₀ s w
    exact ⟨by rw [hstart], by rw [hstart], tidy_start hs⟩
  · cases ev <;> exact ⟨h.kind, h.trigger, h.tidy⟩

/-! ### The rekey that is started -/

def Running.RekeyingBy (a : Running) (kind : RekeyKind) (trigger : RekeyTrigger) : Prop :=
  ∃ rc, a.state.rekey = some rc ∧ rc.kind = kind ∧ rc.trigger = trigger

instance (a : Running) (kind : RekeyKind) (trigger : RekeyTrigger) :
    Decidable (a.RekeyingBy kind trigger) :=
  decidable_of_iff ((a.state.rekey.map fun rc => (rc.kind, rc.trigger)) = some (kind, trigger))
    (by simp [Running.RekeyingBy, Option.map_eq_some_iff])

omit [Crypto] in
theorem Running.RekeyingBy.eq {a : Running} {kind kind' : RekeyKind} {trigger trigger' : RekeyTrigger}
    (h : a.RekeyingBy kind trigger) (h' : a.RekeyingBy kind' trigger') :
    kind = kind' ∧ trigger = trigger' := by
  obtain ⟨rc, hrc, rfl, rfl⟩ := h
  obtain ⟨rc', hrc', rfl, rfl⟩ := h'
  rw [Option.some.inj (hrc.symm.trans hrc')]
  exact ⟨rfl, rfl⟩

theorem issueRequest_ok {kind : RequestKind} {exchange : ExchangeType} {nextPayload : PayloadType}
    {plaintext : Except Err Bytes} {store : UInt32 → List Frame → Running → Running} {a a' : Running}
    (h : (issueRequest cfg kind exchange nextPayload plaintext store).run a = (.ok (), a')) :
    ∃ frames w w', a' = { store a.state.nextRequestMessageID frames
        { a.mapState State.beginRequest with world := w } with world := w' } ∧
      frames.map (.frame a.sa .request a.state.nextRequestMessageID) <:+ w'.log := by
  obtain ⟨msgID, a₁, hbegin, h⟩ := Eff.run_bind_ok (Eff.run_get_bind_ok h)
  obtain ⟨rfl, rfl⟩ := Prod.mk.inj hbegin |>.imp Except.ok.inj id
  obtain ⟨plain, -, h⟩ := Eff.run_lift_bind_ok h
  obtain ⟨frames, a₂, hseal, h⟩ := Eff.run_bind_ok h
  have hq : Quiet (a.mapState State.beginRequest) a₂ := by
    have hq := quiet_sealCurrent (some cfg) exchange a.state.nextRequestMessageID nextPayload plain
      requestFlags (a.mapState State.beginRequest)
    rwa [show (sealCurrent _ _ _ _ _ _).run _ = _ from hseal] at hq
  obtain ⟨⟨⟩, a₃, hstore, h⟩ := Eff.run_bind_ok h
  obtain ⟨⟨⟩, a₄, hrecord, h⟩ := Eff.run_bind_ok h
  obtain ⟨hsent, hlog⟩ := sendFrames_ok h
  refine ⟨frames, a₂.world, a'.world, ?_, ?_⟩
  · rw [← hq.world, (Prod.mk.inj hstore).2, hsent, ← (Prod.mk.inj hrecord).2]
    rfl
  · rw [hlog]
    exact List.suffix_append _ _

theorem startChildRekey_ok {now : Time} {trigger : RekeyTrigger} {a a' : Running}
    (h : (startChildRekey cfg now trigger).run a = (.ok (), a'))
    (hsafe : a.state.safeToRekey = true) (hactive : a.state.activeChild.isSome) :
    a'.RekeyingBy .child trigger := by
  obtain ⟨old, hold⟩ := Option.isSome_iff_exists.mp hactive
  replace h := Eff.run_get_bind_ok h
  rw [if_neg (by simp [hsafe]), hold] at h
  obtain ⟨spi, a₁, -, h⟩ := Eff.run_bind_ok h
  obtain ⟨⟨parts, ni, ke⟩, a₂, -, h⟩ := Eff.run_bind_ok h
  obtain ⟨frames, w, w', rfl, -⟩ := issueRequest_ok h
  exact ⟨_, rfl, rfl, rfl⟩

def Event.attempts (a : Running) : Event → Option (RekeyKind × RekeyTrigger)
  | .ikeSoft => some (.ike, .time)
  | .childSoft => some (.child, .time)
  | .nearWrap => some (.child, .nearWrap)
  | .retry => some (a.retryKind, a.retryTrigger)
  | _ => none

/-- A rekey, which was in flight or could not be started, is given up in a round, with a retry: the
timer is set to a backoff from now. -/
structure Loop.Abandons (cfg : Config) (now : Time) (ev : Event) (kind : RekeyKind)
    (trigger : RekeyTrigger) (l l' : Loop) : Prop where
  rekey : l.actor.RekeyingBy kind trigger ∨
    l.actor.state.safeToRekey = true ∧ ev.attempts l.actor = some (kind, trigger)
  ended : l'.actor.state.rekey = none
  retry : ∃ draw, l'.actor.retryTimer = some (now + retryBackoff cfg.rekey.retryInterval draw)

theorem onRetry_ok {now : Time} {l l' : Loop} (h : (Loop.onRetry cfg now).run l = (.ok none, l'))
    (ha : l.actor.RetriesChild) (hsafe : l.actor.state.safeToRekey = true)
    (hsent : l'.actor.retryTimer = none) :
    (startChildRekey cfg now .time).run { l.actor with retryTimer := none } = (.ok (), l'.actor) := by
  unfold Loop.onRetry at h
  rw [Eff.run_bind_of_ok (Eff.run_modify _ _)] at h
  replace h := Eff.run_get_bind_ok h
  rw [if_pos hsafe, ha.kind, ha.trigger] at h
  dsimp only at h
  rcases hstart : (startChildRekey cfg now .time).run { l.actor with retryTimer := none } with ⟨r, a'⟩
  obtain ⟨r', l₁, hattempt, h⟩ := Eff.run_bind_ok h
  rw [Eff.run_attempt, run_onActor hstart] at hattempt
  obtain ⟨hcaught, rfl⟩ := Prod.mk.inj hattempt
  cases r' with
  | ok u =>
    obtain ⟨⟨⟩, l₂, hrestart, h⟩ := Eff.run_bind_ok h
    obtain rfl := (Prod.mk.inj h).2
    obtain rfl := (Prod.mk.inj hrestart).2
    exact Prod.ext (caught_eq_ok_ok hcaught) rfl
  | error e =>
    -- a failed start arms the timer again
    have harmed := Eff.wp_of_run (wp_abandonRekey_armed cfg now _) h
    rw [hsent] at harmed
    cases harmed

/-- **The retry of a rekey.** The rekey of the kind `kind` and the trigger `trigger` was given up;
when the timer fires and a request is sent, it is one for the same rekey exactly if this was the
rekey of the child by time. -/
theorem retried_iff {t₀ now now' : Time} {s : State} {w : World} {ev : Event} {kind : RekeyKind}
    {trigger : RekeyTrigger} {l₁ l₂ l₃ l₄ : Loop} (hs : s.HandedOff)
    (hbefore : Loop.Runs cfg (fun _ _ _ => True) (Loop.start cfg t₀ s w) l₁)
    (hround : Loop.Goes cfg now ev l₁ l₂) (_habandon : Loop.Abandons cfg now ev kind trigger l₁ l₂)
    (hafter : Loop.Runs cfg (fun _ _ _ => True) l₂ l₃) (hfires : Loop.Goes cfg now' .retry l₃ l₄)
    (hsafe : l₃.actor.state.safeToRekey = true)
    (hchild : kind = .child → l₃.actor.state.activeChild.isSome)
    (hsent : l₄.actor.retryTimer = none) :
    l₄.actor.RekeyingBy kind trigger ↔ kind = .child ∧ trigger = .time := by
  have hrun : Loop.Runs cfg (fun _ _ _ => True) (Loop.start cfg t₀ s w) l₃ :=
    (hbefore.tail ⟨(now, ev), trivial, hround⟩).trans hafter
  have hstart := onRetry_ok hfires.run (hrun.retriesChild hs) hsafe hsent
  constructor
  · intro hre
    by_cases hactive : l₃.actor.state.activeChild.isSome
    · exact hre.eq (startChildRekey_ok hstart hsafe hactive)
    · -- without a child nothing is started
      have hnone : l₃.actor.state.activeChild = none := by simpa using hactive
      replace hstart := Eff.run_get_bind_ok hstart
      rw [if_neg (by simp [hsafe]), hnone] at hstart
      obtain ⟨rc, hrc, -⟩ := hre
      rw [← (Prod.mk.inj hstart).2] at hrc
      exact absurd (show l₃.actor.Rekeying rc.kind from ⟨rc, hrc, rfl⟩)
        (Running.not_rekeying_of_safe hsafe)
  · rintro ⟨hkind, htrigger⟩
    subst hkind
    subst htrigger
    exact startChildRekey_ok hstart hsafe (hchild rfl)

end Runs

section Sample

attribute [local instance] plainCrypto

/-- The sample configuration with the shorter lifetime for the IKE SA. -/
def ikeFirstConfig : Config :=
  { sampleConfig with rekey := ⟨1000 * second, 4000 * second, false, 0, 30 * second⟩ }

/-- The soft lifetime ends, and the request and its retransmission stay unanswered. -/
def unanswered (ev : Event) : List (Time × Event) :=
  [(900 * second, ev), (901 * second, .rto)]

/-- The rekey of the child by time is given up and retried. -/
theorem sample_retried : ∃ l₂ l₄ : Loop, l₂.actor.state.rekey = none ∧
    Loop.Goes sampleConfig (927 * second) .retry l₂ l₄ ∧ l₄.actor.RekeyingBy .child .time := by
  obtain ⟨l₁, hl₁, hfirst⟩ := Loop.exists_of_follow sampleConfig sampleStart (unanswered .childSoft)
    (P := fun l => l.actor.RekeyingBy .child .time) (by decide +kernel)
  obtain ⟨l₂, hl₂, hended, htimer, hsafe, hactive⟩ := Loop.exists_of_follow sampleConfig sampleStart
    (unanswered .childSoft ++ [(903 * second, .rto)]) (P := fun l => l.actor.state.rekey = none ∧
      l.actor.retryTimer = some (903 * second + retryBackoff (30 * second) 0) ∧
      l.actor.state.safeToRekey = true ∧ l.actor.state.activeChild.isSome) (by decide +kernel)
  obtain ⟨l₄, hl₄, hsent⟩ := Loop.exists_of_follow sampleConfig sampleStart
    ((unanswered .childSoft ++ [(903 * second, .rto)]) ++ [(927 * second, .retry)])
    (P := fun l => l.actor.retryTimer = none) (by decide +kernel)
  obtain ⟨l, hl, hround⟩ := follow_append.mp hl₂
  obtain rfl := Option.some.inj (hl₁.symm.trans hl)
  obtain ⟨l', hl', hfires⟩ := follow_append.mp hl₄
  obtain rfl := Option.some.inj (hl₂.symm.trans hl')
  refine ⟨l₂, l₄, hended, Loop.goes_of_follow hfires, ?_⟩
  exact (retried_iff handedOff_sampleSession (Loop.runs_of_follow hl₁) (Loop.goes_of_follow hround)
    ⟨.inl hfirst, hended, 0, htimer⟩ .refl (Loop.goes_of_follow hfires) hsafe (fun _ => hactive)
    hsent).mpr ⟨rfl, rfl⟩

/-- The rekey of the IKE SA is given up, and the retry rekeys the child. -/
theorem ike_retried_as_child : ∃ l₁ l₂ l₄ : Loop,
    Loop.Runs ikeFirstConfig (fun _ _ _ => True)
      (Loop.start ikeFirstConfig 0 sampleSession sampleWorld) l₁ ∧
    Loop.Goes ikeFirstConfig (903 * second) .rto l₁ l₂ ∧
    Loop.Abandons ikeFirstConfig (903 * second) .rto .ike .time l₁ l₂ ∧
    Loop.Goes ikeFirstConfig (927 * second) .retry l₂ l₄ ∧ l₂.actor.state.safeToRekey = true ∧
    l₄.actor.RekeyingBy .child .time ∧ ¬l₄.actor.RekeyingBy .ike .time := by
  obtain ⟨l₁, hl₁, hfirst⟩ := Loop.exists_of_follow ikeFirstConfig
    (Loop.start ikeFirstConfig 0 sampleSession sampleWorld) (unanswered .ikeSoft)
    (P := fun l => l.actor.RekeyingBy .ike .time) (by decide +kernel)
  obtain ⟨l₂, hl₂, hended, htimer, hsafe⟩ := Loop.exists_of_follow ikeFirstConfig
    (Loop.start ikeFirstConfig 0 sampleSession sampleWorld)
    (unanswered .ikeSoft ++ [(903 * second, .rto)]) (P := fun l => l.actor.state.rekey = none ∧
      l.actor.retryTimer = some (903 * second + retryBackoff (30 * second) 0) ∧
      l.actor.state.safeToRekey = true) (by decide +kernel)
  obtain ⟨l₄, hl₄, hchild, hike⟩ := Loop.exists_of_follow ikeFirstConfig
    (Loop.start ikeFirstConfig 0 sampleSession sampleWorld)
    ((unanswered .ikeSoft ++ [(903 * second, .rto)]) ++ [(927 * second, .retry)])
    (P := fun l => l.actor.RekeyingBy .child .time ∧ ¬l.actor.RekeyingBy .ike .time)
    (by decide +kernel)
  obtain ⟨l, hl, hround⟩ := follow_append.mp hl₂
  obtain rfl := Option.some.inj (hl₁.symm.trans hl)
  obtain ⟨l', hl', hfires⟩ := follow_append.mp hl₄
  obtain rfl := Option.some.inj (hl₂.symm.trans hl')
  exact ⟨l₁, l₂, l₄, Loop.runs_of_follow hl₁, Loop.goes_of_follow hround,
    ⟨.inl hfirst, hended, 0, htimer⟩, Loop.goes_of_follow hfires, hsafe, hchild, hike⟩

end Sample

end Swan.Control
