import Swan.Control.Acts
import Swan.Control.Configuration

/-! # The handlers as sequences of acts

For each handler of the running actor, what it does is a sequence of acts that the guard allows: the
requests of the actor (`wp_startChildRekey`, `wp_startIKERekey`, `wp_sendKeepalive`), the answers that
complete them (`acts_completeResponse`), and the failures of leases (`wp_leaseRetryOrExpire`). -/

namespace Swan.Control

open Swan.Lib Swan.Wire Swan.Payload Swan.Xcrypto

/-! ### Giving up -/

section GivingUp

variable {G : Guard} {a : Running}

theorem run_noteGivenUp (a : Running) : noteGivenUp.run a = (.ok (), a.noted) := by
  rw [noteGivenUp, Eff.run_bind_of_ok (Eff.run_get a), Eff.when, Running.noted]
  split_ifs <;> rfl

theorem calm_noted (a : Running) : Calm a a.noted := by
  unfold Running.noted
  split_ifs
  · exact calm_logged trivial
  · exact refl_of Calm a

theorem settled_noted (a : Running) : a.noted.Settled := by
  unfold Running.noted
  split_ifs with h
  · exact fun _ => .inr (by simp [Running.logged])
  · exact fun h' => absurd h' h

theorem Running.Settled.calm {a' : Running} (hs : a.Settled) (h : Calm a a') : a'.Settled := by
  intro hexp
  rw [h.state] at hexp ⊢
  rw [h.sa]
  exact (hs hexp).imp (h.log.subset ·) (h.log.subset ·)

theorem Running.Accepted.calm {a' : Running} (hs : a.Accepted) (h : Calm a a') : a'.Accepted := by
  obtain ⟨es, hes, hd⟩ := h.calm
  have hlog : a'.world.log = a.world.log ++ es := hd.log
  rw [Running.Accepted, h.state, h.sa, hlog, since_append fun e he => (hes e he).asks a.sa]
  exact List.mem_append_left es hs

theorem accepted_logged (a : Running) :
    (a.logged (.accepted a.sa a.state.expectedResponseMessageID)).Accepted := by
  have hlog : (a.logged (.accepted a.sa a.state.expectedResponseMessageID)).world.log =
    a.world.log ++ [.accepted a.sa a.state.expectedResponseMessageID] := rfl
  rw [Running.Accepted, hlog, since_append (by simp [Entry.asks])]
  exact List.mem_append_right _ (List.mem_singleton_self _)

theorem Running.Accepted.mem (h : a.Accepted) :
    .accepted a.sa a.state.expectedResponseMessageID ∈ a.world.log :=
  since_subset h

theorem Running.Fresh.calm {a' : Running} {msgID : UInt32} (hf : a.Fresh msgID) (h : Calm a a') :
    a'.Fresh msgID := by
  rwa [Running.Fresh, h.state]

theorem acts_abandoned (h : a.state.rekey.isSome) (g : G.abandon false a) :
    Acts G a (a.noted.mapState State.abandonRekey) := by
  have hc := calm_noted a
  refine hc.acts.tail (.abandon (settled_noted a) (by rwa [hc.state]) ?_)
  rw [hc.world]
  exact G.abandon_world g

variable (cfg : Config) (now : Time)

theorem run_abandonRekey_false (a : Running) :
    (abandonRekey cfg now false).run a = (.ok (), a.noted.mapState State.abandonRekey) := by
  rw [abandonRekey, Eff.run_bind_of_ok (run_noteGivenUp a)]
  rfl

theorem run_abandonRekey_true (a : Running) : ∃ t w, a.noted.world.Draws w ∧
    (abandonRekey cfg now true).run a =
      (.ok (), { a with state := a.state.abandonRekey, retryTimer := some t, world := w }) := by
  have hq := quiet_drawJitter (a.noted.mapState State.abandonRekey)
  refine ⟨now + retryBackoff cfg.rekey.retryInterval (a.noted.world.jitter 0), _, hq.draws, ?_⟩
  rw [abandonRekey, Eff.run_bind_of_ok (run_noteGivenUp a), (calm_noted a).world]
  rfl

theorem acts_abandonRekey_true (h : a.state.rekey.isSome ∨ a.state.safeToRekey = true)
    (g : G.abandon true a) : Acts G a ((abandonRekey cfg now true).run a).2 := by
  obtain ⟨t, w, hw, hrun⟩ := run_abandonRekey_true cfg now a
  have hc : Calm a { a with world := w } :=
    ⟨rfl, trans_of World.Calm (calm_noted a).calm hw.calm⟩
  have hs : Running.Settled { a with world := w } := by
    have h₁ : Calm a.noted { a with world := w } :=
      ⟨by conv_rhs => rw [(calm_noted a).world], hw.calm⟩
    exact (settled_noted a).calm h₁
  rw [hrun]
  exact (hc.acts (G := G)).tail (.abandonRetry (a := { a with world := w }) t hs h
    (G.abandon_world g))

end GivingUp

/-! ### Requests of the actor -/

/-- A message id was taken for a request that was not sealed. -/
def Unsealed (a a' : Running) : Prop :=
  ∃ w, a.world.Draws w ∧ a' = { a.mapState State.beginRequest with world := w }

section Requests

variable {G : Guard} {a : Running}

theorem wp_sendRequest {sa : ℕ} {msgID : UInt32} (frames : List Frame)
    (hexp : a.state.hasExpectedResponse = true) (hid : a.state.expectedResponseMessageID = msgID)
    (hsa : a.sa = sa) :
    (sendFrames sa .request msgID frames).wp (fun r a' => Acts G a a' ∧ a'.state = a.state ∧
      (r = .ok () ∨ r = .error .canceled)) a := by
  let I := fun (r : Except Err Unit) (a' : Running) => Acts G a a' ∧ a'.state = a.state ∧
    a'.sa = a.sa ∧ (r = .ok () ∨ r = .error .canceled)
  refine Eff.wp_mono (Eff.wp_forEach (I := I) (fun f a₁ h => ?_) frames a
    ⟨.refl, rfl, rfl, .inl rfl⟩) fun r a' h => ⟨h.1, h.2.1, h.2.2.2⟩
  obtain ⟨hacts, hstate, hsa₁, -⟩ := h
  rw [Eff.wp_bind]
  refine Eff.wp_mono (P := fun r a₂ => ∃ v, r = .ok v ∧ Quiet a₁ a₂)
    ⟨_, rfl, quiet_drawCancel a₁⟩ fun r a₂ h => ?_
  obtain ⟨canceled, rfl, hq⟩ := h
  have hacts₂ : Acts G a a₂ := hacts.trans hq.calm.acts
  have hstate₂ : a₂.state = a.state := hq.calm.state.trans hstate
  have hsa₂ : a₂.sa = a.sa := hq.calm.sa.trans hsa₁
  rw [Eff.next_ok]
  refine Eff.wp_ite (Q := I) (fun _ => ⟨hacts₂, hstate₂, hsa₂, .inr rfl⟩) fun _ => ?_
  have hsend := Act.sendRequest (G := G) f (a := a₂) (by rw [hstate₂, hexp])
  rw [hstate₂, hsa₂, hid, hsa] at hsend
  exact ⟨hacts₂.tail hsend, hstate₂, hsa₂, .inl rfl⟩

variable [Crypto] (cfg : Config)

theorem quiet_sealCurrent (sealCfg : Option Config) (exchange : ExchangeType) (msgID : UInt32)
    (nextPayload : PayloadType) (plaintext : Bytes) (flags : IkeEnvelope → Flags) :
    (sealCurrent sealCfg exchange msgID nextPayload plaintext flags).Within Quiet :=
  Eff.within_get.bind fun _ => quiet_onRng (drawn_buildProtectedEnvelopeAs _ _ _ _ _ _ _)

theorem wp_issueRequest (a₀ : Running) {kind : RequestKind} {exchange : ExchangeType} {nextPayload : PayloadType}
    {plaintext : Except Err Bytes} {store : UInt32 → List Frame → Running → Running}
    (hact : ∀ frames w, a.world.Draws w → Acts G a₀
      ((store a.state.nextRequestMessageID frames
        { a.mapState State.beginRequest with world := w }).logged
          (.asked a.sa a.state.nextRequestMessageID kind)))
    (hwait : ∀ frames w,
      let b := store a.state.nextRequestMessageID frames
        { a.mapState State.beginRequest with world := w }
      b.state.hasExpectedResponse = true ∧
        b.state.expectedResponseMessageID = a.state.nextRequestMessageID ∧ b.sa = a.sa) :
    (issueRequest cfg kind exchange nextPayload plaintext store).wp (fun r a' =>
      (Unsealed a a' ∧ (∃ e, r = .error e) ∧ ∀ p, plaintext = .ok p → ∃ e,
        ((buildProtectedStateAs (some cfg) a.state exchange a.state.nextRequestMessageID nextPayload
          p (requestFlags (stateIKEEnvelope a.state))).run a.world.rng).1 = .error e) ∨
      (Acts G a₀ a' ∧ (r = .ok () ∨ r = .error .canceled) ∧ ∃ frames w,
        a'.state = (store a.state.nextRequestMessageID frames
          { a.mapState State.beginRequest with world := w }).state)) a := by
  unfold issueRequest
  rw [Eff.wp_bind, Eff.wp_get, Eff.next_ok, Eff.wp_bind, wp_beginRequest, Eff.next_ok, Eff.wp_bind,
    Eff.wp_lift]
  cases plaintext with
  | error e =>
    exact .inl ⟨⟨a.world, refl_of World.Draws _, rfl⟩, ⟨e, rfl⟩, fun p h => by cases h⟩
  | ok p =>
    rw [Eff.next_ok, Eff.wp_bind]
    have hq := quiet_sealCurrent (some cfg) exchange a.state.nextRequestMessageID nextPayload p
      requestFlags (a.mapState State.beginRequest)
    have hrun : ((sealCurrent (some cfg) exchange a.state.nextRequestMessageID nextPayload p
        requestFlags).run (a.mapState State.beginRequest)).1 =
      ((buildProtectedStateAs (some cfg) a.state exchange a.state.nextRequestMessageID nextPayload
          p (requestFlags (stateIKEEnvelope a.state))).run a.world.rng).1 := rfl
    rcases hr : (sealCurrent (some cfg) exchange a.state.nextRequestMessageID nextPayload p
        requestFlags).run (a.mapState State.beginRequest) with ⟨e | frames, a₁⟩
    · rw [hr] at hq hrun
      rw [Eff.wp, hr]
      refine .inl ⟨⟨a₁.world, hq.draws, hq.world⟩, ⟨e, rfl⟩, fun p' h => ?_⟩
      obtain rfl : p = p' := Except.ok.inj h
      exact ⟨e, hrun.symm⟩
    · rw [hr] at hq
      obtain ⟨hworld, hdraws⟩ := hq
      dsimp only at hworld hdraws
      rw [Eff.wp, hr, Eff.next_ok, Eff.wp_bind, Eff.wp_modify, Eff.next_ok, Eff.wp_bind, record,
        Eff.wp_modify, Eff.next_ok, hworld]
      obtain ⟨hexp, hid, hsa⟩ := hwait frames a₁.world
      refine Eff.wp_mono (wp_sendRequest (G := G) frames hexp hid hsa) fun r a' h => ?_
      exact .inr ⟨(hact frames a₁.world hdraws).trans h.1, h.2.2, frames, a₁.world, h.2.1⟩

omit [Crypto] in
theorem acts_of_draws {a' : Running} {w : World} (hw : a.world.Draws w)
    (h : Act G { a with world := w } a') : Acts G a a' :=
  (Relation.ReflTransGen.single (.calm hw.calm)).tail h

omit [Crypto] in
theorem State.safeToRekey_iff {s : State} : s.safeToRekey = true ↔
    s.phase = .running ∧ s.hasExpectedResponse = false ∧ s.rekey = none ∧ s.oldIKE = [] := by
  simp [State.safeToRekey]

/-- How an attempt to start a request ends: nothing was written, a message id was taken, or the
request is in flight and `P` holds. -/
def Started (G : Guard) (a : Running) (P : Running → Prop) (r : Except Err Unit) (a' : Running) :
    Prop :=
  (Quiet a a' ∧ ∃ e, r = .error e) ∨ (Unsealed a a' ∧ ∃ e, r = .error e) ∨
    (Acts G a a' ∧ (r = .ok () ∨ r = .error .canceled) ∧ P a')

omit [Crypto] in
theorem Unsealed.of_quiet {a₁ a' : Running} (h : Quiet a a₁) (hu : Unsealed a₁ a') :
    Unsealed a a' := by
  obtain ⟨w, hw, rfl⟩ := hu
  exact ⟨w, trans_of World.Draws h.draws hw, by rw [h.world]; rfl⟩

def Running.Rekeying (a : Running) (kind : RekeyKind) : Prop :=
  ∃ rc, a.state.rekey = some rc ∧ rc.kind = kind

/-- A rekey of the kind was started, and the retained child is as it was. -/
def Running.RekeyStarted (a : Running) (kind : RekeyKind) (a' : Running) : Prop :=
  a'.Rekeying kind ∧ a'.state.oldChild = a.state.oldChild

theorem wp_startChildRekey (now : Time) (trigger : RekeyTrigger)
    (hsafe : a.state.safeToRekey = true) (g : G.begins) :
    (startChildRekey cfg now trigger).wp (Started G a fun a' => a.RekeyStarted .child a' ∨
      a.state.activeChild = none ∧ a' = a) a := by
  unfold startChildRekey
  rw [Eff.wp_bind, Eff.wp_get, Eff.next_ok]
  refine Eff.wp_ite (fun h => by simp [hsafe] at h) fun _ => ?_
  cases hactive : a.state.activeChild with
  | none => exact .inr (.inr ⟨.refl, .inl rfl, .inr ⟨rfl, rfl⟩⟩)
  | some old =>
    have herr : ∀ (e : Err) a', Quiet a a' → Started G a (fun a' => a.RekeyStarted .child a' ∨
        some old = none ∧ a' = a) (.error e) a' :=
      fun e a' h => .inl ⟨h, e, rfl⟩
    refine Eff.wp_within_bind (refl_of Quiet a) (quiet_onRng drawn_generateChildSPI) herr
      fun inboundSPI a₁ h₁ => ?_
    refine Eff.wp_within_bind h₁ (quiet_onRng (drawn_buildChildRekeyRequestPayloads _ _ _)) herr
      fun built a₂ h₂ => ?_
    obtain ⟨parts, ni, ke⟩ := built
    have hs₂ : a₂.state = a.state := h₂.calm.state
    refine Eff.wp_mono (wp_issueRequest (G := G) cfg a₂ (fun frames w hw => ?_) fun frames w => ?_)
      fun r a' h => ?_
    · exact acts_of_draws hw (.startRekey (a := { a₂ with world := w }) _ frames
        (by rw [hs₂]; exact hsafe) rfl (fun _ => by rw [hs₂, hactive]; exact ⟨rfl, rfl⟩) g)
    · exact ⟨rfl, rfl, rfl⟩
    · rcases h with ⟨hu, he, -⟩ | ⟨hacts, hr, frames, w, hstate⟩
      · exact .inr (.inl ⟨hu.of_quiet h₂, he⟩)
      · exact .inr (.inr ⟨h₂.calm.acts.trans hacts, hr, .inl ⟨⟨_, by rw [hstate]; rfl, rfl⟩,
          by rw [hstate, ← hs₂]; rfl⟩⟩)

theorem wp_startIKERekey (now : Time) (trigger : RekeyTrigger)
    (hsafe : a.state.safeToRekey = true) (g : G.begins) :
    (startIKERekey cfg now trigger).wp (Started G a (a.RekeyStarted .ike)) a := by
  unfold startIKERekey
  rw [Eff.wp_bind, Eff.wp_get, Eff.next_ok]
  refine Eff.wp_ite (fun h => by simp [hsafe] at h) fun _ => ?_
  have herr : ∀ (e : Err) a', Quiet a a' → Started G a (a.RekeyStarted .ike) (.error e) a' :=
    fun e a' h => .inl ⟨h, e, rfl⟩
  refine Eff.wp_within_bind (refl_of Quiet a) (quiet_onRng (drawn_buildIKERekeyRequestPayloads _))
    herr fun built a₁ h₁ => ?_
  obtain ⟨parts, ni, spiI, dh, ke⟩ := built
  have hs₁ : a₁.state = a.state := h₁.calm.state
  refine Eff.wp_mono (wp_issueRequest (G := G) cfg a₁ (fun frames w hw => ?_) fun frames w => ?_)
    fun r a' h => ?_
  · exact acts_of_draws hw (.startRekey (a := { a₁ with world := w }) _ frames
      (by rw [hs₁]; exact hsafe) rfl (fun h => by cases h) g)
  · exact ⟨rfl, rfl, rfl⟩
  · rcases h with ⟨hu, he, -⟩ | ⟨hacts, hr, frames, w, hstate⟩
    · exact .inr (.inl ⟨hu.of_quiet h₁, he⟩)
    · exact .inr (.inr ⟨h₁.calm.acts.trans hacts, hr, ⟨_, by rw [hstate]; rfl, rfl⟩,
        by rw [hstate, ← hs₁]; rfl⟩)

theorem wp_sendKeepalive (hexp : a.state.hasExpectedResponse = false) (g : G.begins) :
    (sendKeepalive cfg).wp (Started G a fun _ => True) a := by
  unfold sendKeepalive
  rw [Eff.wp_bind, Eff.wp_get, Eff.next_ok]
  refine Eff.wp_ite (fun h => by simp [hexp] at h) fun _ => ?_
  refine Eff.wp_mono (wp_issueRequest (G := G) cfg a
    (fun frames w hw => acts_of_draws hw (.keepalive (a := { a with world := w }) frames hexp g))
    fun frames w => ⟨rfl, rfl, rfl⟩) fun r a' h => ?_
  rcases h with ⟨hu, he, -⟩ | ⟨hacts, hr, -⟩
  · exact .inr (.inl ⟨hu, he⟩)
  · exact .inr (.inr ⟨hacts, hr, trivial⟩)

theorem wp_sendLeaseRenewal (hsafe : a.state.safeToRekey = true) (g : G.renews) :
    (sendLeaseRenewal cfg).wp (fun r a' => (Unsealed a a' ∧ ∃ e, r = .error e) ∨
      (Acts G a a' ∧ (r = .ok () ∨ r = .error .canceled))) a := by
  unfold sendLeaseRenewal
  rw [Eff.wp_bind, Eff.wp_get, Eff.next_ok]
  cases a.state.assigned with
  | none => exact .inr ⟨.refl, .inl rfl⟩
  | some assigned =>
    refine Eff.wp_mono (wp_issueRequest (G := G) cfg a
      (fun frames w hw => acts_of_draws hw (.lease (a := { a with world := w }) frames hsafe g))
      fun frames w => ⟨rfl, rfl, rfl⟩) fun r a' h => ?_
    exact h.imp (fun h => ⟨h.1, h.2.1⟩) fun h => ⟨h.1, h.2.1⟩

end Requests

/-! ### Responses -/

/-- The actor can seal short messages on the current IKE SA, also once it is retained. -/
structure Running.CanSeal [Crypto] (cfg : Config) (a : Running) : Prop where
  rng : a.world.rng.Healthy
  current : (stateIKEEnvelope a.state).CanSeal (some cfg)
  old : (oldIKEEnvelope a.state.toOldIKE).CanSeal (some cfg)

section Responses

variable {G : Guard} {a : Running} (cfg : Config) (now : Time)

theorem wp_installChild (child : ChildSA) (keys : ChildKeys) (selection : Selection) (a : Running) :
    (installChild cfg child keys selection).wp (fun r a' =>
      (r = .ok () → Quiet (a.logged (.update (.childInstalled child keys selection))) a') ∧
      (∀ e, r = .error e → Quiet a a' ∨ a.world.ack 0 ≠ .acked ∧
        Quiet (a.logged (.update (.childInstalled child keys selection))) a')) a := by
  unfold installChild
  refine Eff.wp_ite (fun _ => ⟨fun h => (by cases h), fun _ _ => .inl (refl_of Quiet a)⟩)
    fun _ => ?_
  have hc : Quiet a (drawCancel.run a).2 := quiet_drawCancel a
  have hq : Quiet (a.logged (.update (.childInstalled child keys selection)))
      (drawAck.run ((drawCancel.run a).2.logged (.update (.childInstalled child keys selection)))).2 :=
    ⟨rfl, refl_of Rng.Drawn _, .tail _, .tail _, refl_of Shifted _, rfl⟩
  rw [Eff.wp_bind, wp_drawCancel, Eff.next_ok]
  refine Eff.wp_ite (fun _ => ⟨fun h => (by cases h), fun _ _ => .inl hc⟩) fun _ => ?_
  rw [Eff.wp_bind, record, Eff.wp_modify, Eff.next_ok, Eff.wp_bind, wp_drawAck, Eff.next_ok]
  have hack : ((drawCancel.run a).2.logged
    (.update (.childInstalled child keys selection))).world.ack 0 = a.world.ack 0 := rfl
  rw [hack]
  cases h : a.world.ack 0 with
  | acked => exact ⟨fun _ => hq, fun e h => by cases h⟩
  | timedOut => exact ⟨fun h => (by cases h), fun _ _ => .inr ⟨by simp, hq⟩⟩
  | canceled => exact ⟨fun h => (by cases h), fun _ _ => .inr ⟨by simp, hq⟩⟩

variable {α : Type} {s : State} {b : Running} {child : ChildSA} {keys : ChildKeys}
  {selection : Selection} {rest : List OldIKEContext} {old : OldIKEContext}

theorem wp_orAbandon {x : Eff Running α} {P : Except Err α → Running → Prop} (hx : x.wp P a)
    (hrekey : ∀ e a₁, P (.error e) a₁ → Acts G a (((abandonRekey cfg now true).run
      a₁).2) ∧ Acts G a a₁) :
    (orAbandon cfg now x).wp (fun r a' => (∀ v, r = .ok v → P (.ok v) a') ∧
      ∀ e, r = .error e → Acts G a a') a := by
  unfold orAbandon
  rw [Eff.wp_bind, Eff.wp_attempt]
  refine Eff.wp_mono hx fun r a₁ hr => ?_
  rcases r with e | v
  · obtain ⟨habandon, hacts⟩ := hrekey e a₁ hr
    rcases hc : caught (.error e : Except Err α) with e' | r'
    · exact ⟨fun v h => (by cases h), fun _ _ => hacts⟩
    · have he : r' = .error e := by
        cases e <;> simp_all [caught]
      subst he
      rw [Eff.next_ok]
      obtain ⟨t, w, -, hrun⟩ := run_abandonRekey_true cfg now a₁
      rw [hrun] at habandon
      rw [Eff.wp, Eff.run_bind_of_ok hrun]
      exact ⟨fun v h => (by cases h), fun _ _ => habandon⟩
  · exact ⟨fun v' h => (by cases h; exact hr), fun e h => by cases h⟩

theorem wp_orAbandon_bind {β : Type} {x : Eff Running α} {f : α → Eff Running β} {a₀ : Running}
    {Q : Except Err β → Running → Prop} (h₀ : Quiet a₀ a) (hx : x.Within Quiet)
    (hrekey : a₀.state.rekey.isSome) (g : ∀ e, (x.run a).1 = .error e → G.abandon true a₀)
    (he : ∀ e a', Acts G a₀ a' → Q (.error e) a')
    (hf : ∀ v a', x.run a = (.ok v, a') → Quiet a₀ a' → (f v).wp Q a') :
    (orAbandon cfg now x >>= f).wp Q a := by
  have habandon : ∀ e a₁, (a₁ = (x.run a).2 ∧ (.error e : Except Err α) = (x.run a).1) →
      Acts G a (((abandonRekey cfg now true).run a₁).2) ∧ Acts G a a₁ := by
    rintro e a₁ ⟨rfl, hr⟩
    have hq := hx a
    refine ⟨hq.calm.acts.trans (acts_abandonRekey_true cfg now ?_ ?_), hq.calm.acts⟩
    · rw [hq.calm.state, h₀.calm.state]; exact .inl hrekey
    · rw [hq.world, h₀.world]; exact G.abandon_world (G.abandon_world (g e hr.symm))
  rw [Eff.wp_bind]
  refine Eff.wp_mono (wp_orAbandon cfg now (P := fun r a' => a' = (x.run a).2 ∧ r = (x.run a).1)
    ⟨rfl, rfl⟩ habandon) fun r a' h => ?_
  rcases r with e | v
  · exact he e a' (h₀.calm.acts.trans (h.2 e rfl))
  · obtain ⟨rfl, hr⟩ := h.1 v rfl
    exact hf v _ (by rw [hr]) (trans_of Quiet h₀ (hx a))

variable [Crypto]

theorem Running.CanSeal.ne_error {cfg : Config} (h : a.CanSeal cfg) {rng : Rng} {p : Bytes}
    {exchange : ExchangeType} {msgID : UInt32} {nextPayload : PayloadType} {flags : Flags}
    (henv : stateIKEEnvelope s = stateIKEEnvelope a.state) (hrng : a.world.rng.Drawn rng)
    (hp : p.length ≤ 64) (e : Err) :
    ((buildProtectedStateAs (some cfg) s exchange msgID nextPayload p flags).run rng).1
      ≠ .error e := by
  obtain ⟨frames, rng', hrun⟩ := h.current rng (h.rng.drawn hrng) exchange msgID nextPayload p flags
    hp
  rw [buildProtectedStateAs, henv, hrun]
  simp

omit [Crypto] in
theorem deleteChild_plaintext (spi : UInt32) : ∃ p : Bytes,
    cepSinglePayload <$> appendDelete ⟨deleteProtocolESP, [spi]⟩ = .ok p ∧ p.length ≤ 64 := by
  refine ⟨_, rfl, ?_⟩
  simp [cepSinglePayload, payloadHeaderLen]

omit [Crypto] in
theorem run_resetChildSoft (f : State → State)
    (hb : Quiet (a.logged (.update (.childInstalled child keys selection))) b) :
    ∃ t b', (resetChildSoft cfg now).run (b.mapState f) = (.ok (), b') ∧
      Quiet (a.childInstalled child keys selection t f) b' := by
  rw [hb.world]
  refine ⟨_, _, rfl, rfl, ?_⟩
  exact trans_of World.Draws hb.draws (quiet_drawJitter b).draws

omit [Crypto] in
theorem Quiet.of_childInstalled {t : Time} {f : State → State}
    (h : Quiet (a.childInstalled child keys selection t f) b) : ∃ w, a.world.Draws w ∧
      b = Running.childInstalled child keys selection t f { a with world := w } := by
  obtain ⟨w, hw, hbw⟩ := World.Draws.of_extend [_] h.draws
  refine ⟨w, hw, ?_⟩
  rw [h.world, hbw]
  rfl

theorem wp_sendDeleteOldChild (a₀ : Running) {old : ChildSA} (hold : a.state.oldChild = some old)
    (hact : ∀ frames b, Quiet a b → Acts G a₀ (b.issue (.deleteChild old.inboundSPI)
      (State.startDeleteOldChild a.state.nextRequestMessageID frames)))
    (hunsealed : G.sealFails → ∀ b, Quiet a b → Acts G a₀ (b.mapState State.beginRequest))
    (hseal : G.sealFails ∨ a.CanSeal cfg) :
    (sendDeleteOldChild cfg).wp (fun r a' => Acts G a₀ a' ∧
      (r = .ok () → a'.state.phase = .rekeyChildDeletingOld)) a := by
  unfold sendDeleteOldChild
  rw [Eff.wp_bind, Eff.wp_get, Eff.next_ok, hold]
  refine Eff.wp_mono (wp_issueRequest (G := G) cfg a₀
    (fun frames w hw => hact frames { a with world := w } ⟨rfl, hw⟩)
    fun frames w => ⟨rfl, rfl, rfl⟩) fun r a' h => ?_
  rcases h with ⟨⟨w, hw, rfl⟩, ⟨e, rfl⟩, hfails⟩ | ⟨hacts, -, frames, w, hstate⟩
  · have hg : G.sealFails := hseal.resolve_right fun hcan => by
      obtain ⟨p, hplain, hp⟩ := deleteChild_plaintext old.inboundSPI
      obtain ⟨e, he⟩ := hfails p hplain
      exact hcan.ne_error rfl (refl_of Rng.Drawn _) hp e he
    exact ⟨hunsealed hg { a with world := w } ⟨rfl, hw⟩, fun h => by cases h⟩
  · exact ⟨hacts, fun _ => by rw [hstate]; rfl⟩

theorem wp_replaceChild {rc : RekeyContext} {old : ChildSA} (hacc : a.Accepted)
    (hrekey : a.state.rekey = some rc) (hkind : rc.kind = .child)
    (hactive : a.state.activeChild = some old) (hinst : G.installs .child a)
    (hseal : G.sealFails ∨ a.CanSeal cfg)
    (hb : Quiet (a.logged (.update (.childInstalled child keys selection))) b) :
    (do
      modifyState (State.installChildRekey child selection)
      resetChildSoft cfg now
      sendDeleteOldChild cfg : Eff Running Unit).wp (fun r a' => Acts G a a' ∧
        (r = .ok () → a'.state.phase = .rekeyChildDeletingOld)) b := by
  obtain ⟨t, b', hrun, hq⟩ := run_resetChildSoft cfg now (State.installChildRekey child selection) hb
  rw [Eff.wp, Eff.run_bind_of_ok (run_modifyState _ _), Eff.run_bind_of_ok hrun]
  have hstate : b'.state = a.state.installChildRekey child selection := hq.calm.state
  refine wp_sendDeleteOldChild cfg a (by rw [hstate]; exact hactive) (fun frames c hc => ?_)
    (fun g c hc => ?_) (hseal.imp_right fun h => ?_)
  · obtain ⟨w, hw, rfl⟩ := (trans_of Quiet hq hc).of_childInstalled
    rw [hstate]
    exact acts_of_draws hw (.replaceChild (a := { a with world := w }) child keys selection t frames
      (hacc.calm ⟨rfl, hw.calm⟩) hrekey hkind hactive (G.installs_world hinst))
  · obtain ⟨w, hw, rfl⟩ := (trans_of Quiet hq hc).of_childInstalled
    exact acts_of_draws hw (.replaceChildUnsealed (a := { a with world := w }) child keys selection t
      (hacc.calm ⟨rfl, hw.calm⟩) hrekey hkind hactive (G.installs_world hinst) g)
  · exact ⟨h.rng.drawn hq.draws.rng, by rw [hstate]; exact h.current, by rw [hstate]; exact h.old⟩

theorem wp_finishChildRekeyResponse (inner : List Payload) (hacc : a.Accepted)
    (g : G.abandon true a) (hinst : G.installs .child a)
    (hack : G.ackFails ∨ ∀ k, a.world.ack k = .acked) (hseal : G.sealFails ∨ a.CanSeal cfg) :
    (finishChildRekeyResponse cfg now inner).wp (fun r a' => Acts G a a' ∧
      (r = .ok () → a'.state.phase = .rekeyChildDeletingOld)) a := by
  have herr : ∀ (e : Err) a', Acts G a a' → Acts G a a' ∧ ((.error e : Except Err Unit) = .ok () →
      a'.state.phase = .rekeyChildDeletingOld) := fun e a' h => ⟨h, fun h => by cases h⟩
  unfold finishChildRekeyResponse
  rw [Eff.wp_bind, Eff.wp_get, Eff.next_ok]
  rcases hrekey : a.state.rekey with _ | rc
  · exact herr _ a .refl
  have hsome : a.state.rekey.isSome := by rw [hrekey]; rfl
  have hfail : ∀ (e : Err) a₁, Quiet a a₁ → (orAbandon cfg now (Eff.fail e : Eff Running Unit)).wp
      (fun r a' => Acts G a a' ∧ (r = .ok () → a'.state.phase = .rekeyChildDeletingOld)) a₁ :=
    fun e a₁ h₁ => by
      refine Eff.wp_mono (wp_orAbandon (G := G) (P := fun r a' => a' = a₁ ∧ r = .error e) cfg now
        ⟨rfl, rfl⟩ ?_) fun r a' h => ?_
      · rintro e' a' ⟨rfl, -⟩
        refine ⟨acts_abandonRekey_true cfg now (by rw [h₁.calm.state]; exact .inl hsome) ?_, .refl⟩
        rw [h₁.world]
        exact G.abandon_world g
      · rcases r with e' | v
        · exact herr e' a' (h₁.calm.acts.trans (h.2 e' rfl))
        · cases (h.1 v rfl).2
  dsimp only
  split
  swap
  · exact herr _ a .refl
  next oldChild hkind hold =>
  refine wp_orAbandon_bind cfg now (refl_of Quiet a) (Eff.within_lift _) hsome (fun _ _ => g)
    herr fun resp a₁ _ h₁ => ?_
  refine Eff.wp_ite (fun _ => hfail _ a₁ h₁) fun _ => ?_
  refine wp_orAbandon_bind cfg now h₁ (Eff.within_lift _) hsome (fun _ _ => g) herr
    fun keys a₂ _ h₂ => ?_
  cases rc.newChild with
  | none => exact herr _ a₂ h₂.calm.acts
  | some newChild =>
    refine Eff.wp_ite (fun _ => hfail _ a₂ h₂) fun hactive => ?_
    replace hactive : a.state.activeChild = some oldChild := not_not.mp hactive
    have hc := h₂.calm
    rw [← hc.state] at hrekey hactive hsome
    replace g : G.abandon true a₂ := by rw [h₂.world]; exact G.abandon_world g
    replace hinst : G.installs .child a₂ := by rw [h₂.world]; exact G.installs_world hinst
    replace hack : G.ackFails ∨ ∀ k, a₂.world.ack k = .acked :=
      hack.imp_right fun h => Shifted.forall (P := fun o => o = .acked) h₂.draws.ack h
    rw [Eff.wp_bind]
    refine Eff.wp_mono (wp_orAbandon (G := G) cfg now (wp_installChild cfg _ keys _ a₂) ?_)
      fun r a₃ h => ?_
    · intro e a₃ h₃
      rcases h₃.2 e rfl with h₃ | ⟨hnack, h₃⟩
      · refine ⟨h₃.calm.acts.trans (acts_abandonRekey_true cfg now ?_ ?_), h₃.calm.acts⟩
        · rw [h₃.calm.state]; exact .inl hsome
        · rw [h₃.world]; exact G.abandon_world g
      · have hfails : G.ackFails := hack.resolve_right fun h => hnack (h 0)
        have hlog := Relation.ReflTransGen.single (Act.ackFailed (a := a₂)
          ⟨newChild.inboundSPI, resp.peerSPI, resp.tsi, resp.tsr, true⟩ keys resp.selection hfails)
        refine ⟨(hlog.trans h₃.calm.acts).trans (acts_abandonRekey_true cfg now ?_ ?_),
          hlog.trans h₃.calm.acts⟩
        · rw [h₃.calm.state]; exact .inl hsome
        · rw [h₃.world]; exact G.abandon_world (G.abandon_world g)
    · rcases r with e | v
      · exact herr e a₃ (hc.acts.trans (h.2 e rfl))
      · have hseal₂ : G.sealFails ∨ a₂.CanSeal cfg := hseal.imp_right fun h =>
          ⟨h.rng.drawn h₂.draws.rng, by rw [hc.state]; exact h.current,
            by rw [hc.state]; exact h.old⟩
        rw [Eff.next_ok]
        refine Eff.wp_mono (wp_replaceChild cfg now (hacc.calm hc) hrekey hkind hactive hinst
          hseal₂ ((h.1 v rfl).1 rfl)) fun r a' h => ⟨hc.acts.trans h.1, h.2⟩

omit [Crypto] in
theorem wp_oldSend (old : OldIKEContext) {sa : ℕ} {msgID : UInt32} (frames : List Frame)
    (hold : a.state.oldIKE = old :: rest) (hexp : old.hasExpectedResponse = true)
    (hsa : a.oldSA = sa) (hid : old.expectedResponseMessageID = msgID) :
    (sendFrames sa .request msgID frames).wp (fun _ a' => Acts G a a' ∧ a'.state = a.state) a := by
  let I := fun (_ : Except Err Unit) (a' : Running) => Acts G a a' ∧ a'.state = a.state ∧
    a'.sa = a.sa
  refine Eff.wp_mono (Eff.wp_forEach (I := I) (fun f a₁ h => ?_) frames a ⟨.refl, rfl, rfl⟩)
    fun r a' h => ⟨h.1, h.2.1⟩
  obtain ⟨hacts, hstate, hsa₁⟩ := h
  have hc := (quiet_drawCancel a₁).calm
  have hacts₂ : Acts G a (drawCancel.run a₁).2 := hacts.trans hc.acts
  have hstate₂ : (drawCancel.run a₁).2.state = a.state := hc.state.trans hstate
  have hsa₂ : (drawCancel.run a₁).2.sa = a.sa := hc.sa.trans hsa₁
  rw [Eff.wp_bind, wp_drawCancel, Eff.next_ok]
  refine Eff.wp_ite (Q := I) (fun _ => ⟨hacts₂, hstate₂, hsa₂⟩) fun _ => ?_
  have hsend := Act.oldSend (G := G) f (a := (drawCancel.run a₁).2) (by rw [hstate₂, hold]) hexp
  rw [hid, Running.oldSA, hstate₂, hsa₂, show a.sa - a.state.oldIKE.length = sa from hsa] at hsend
  exact ⟨hacts₂.tail hsend, hstate₂, hsa₂⟩

omit [Crypto] in
theorem State.oldIKE_mapOldIKE {f : OldIKEContext → OldIKEContext} (hold : s.oldIKE = old :: rest) :
    (s.mapOldIKE f).oldIKE = f old :: rest := by
  simp [State.mapOldIKE, hold]

omit [Crypto] in
theorem State.mapOldIKE_mapOldIKE {f g h : OldIKEContext → OldIKEContext}
    (hold : s.oldIKE = old :: rest) (hfg : g (f old) = h old) :
    (s.mapOldIKE f).mapOldIKE g = s.mapOldIKE h := by
  simp [State.mapOldIKE, hold, hfg]

theorem wp_sendOldIKEDelete (a₀ : Running) (hold : a.state.oldIKE = old :: rest)
    (hact : ∀ frames b, Quiet a b → Acts G a₀ (b.mapState (State.mapOldIKE fun o =>
      o.begin.deleting o.nextRequestMessageID frames)))
    (hunsealed : G.sealFails → ∀ b, Quiet a b → Acts G a₀ (b.mapState
      (State.mapOldIKE OldIKEContext.begin)))
    (hseal : G.sealFails ∨ a.world.rng.Healthy ∧ (oldIKEEnvelope old).CanSeal (some cfg)) :
    (sendOldIKEDelete cfg).wp (fun _ a' => Acts G a₀ a' ∧
      ∃ f, a'.state = a.state.mapOldIKE f) a := by
  unfold sendOldIKEDelete
  rw [Eff.wp_bind, Eff.wp_get, Eff.next_ok, hold]
  dsimp only
  rw [Eff.wp_bind, modifyState, Eff.wp_modify, Eff.next_ok, Eff.wp_bind, Eff.wp_lift]
  have hbody : appendDelete ⟨deleteProtocolIKE, []⟩ = .ok [deleteProtocolIKE, 0, 0, 0] := by decide
  rw [hbody, Eff.next_ok, Eff.wp_bind]
  set x : Eff Rng (List Frame) := buildProtectedEnvelopeAs (some cfg) (oldIKEEnvelope old)
    ExchangeType.informational old.nextRequestMessageID PayloadType.delete
    (cepSinglePayload [deleteProtocolIKE, 0, 0, 0]) (requestFlags (oldIKEEnvelope old)) with hx
  have hq := quiet_onRng (drawn_buildProtectedEnvelopeAs (some cfg) (oldIKEEnvelope old)
    ExchangeType.informational old.nextRequestMessageID PayloadType.delete
    (cepSinglePayload [deleteProtocolIKE, 0, 0, 0]) (requestFlags (oldIKEEnvelope old)))
    (a.mapState (State.mapOldIKE OldIKEContext.begin))
  rw [← hx] at hq
  rcases hr : (onRng x).run (a.mapState (State.mapOldIKE OldIKEContext.begin)) with ⟨e | frames, b⟩
  · rw [hr] at hq
    have hg : G.sealFails := hseal.resolve_right fun ⟨hrng, hcan⟩ => by
      obtain ⟨frames, rng', hrun⟩ := hcan a.world.rng hrng ExchangeType.informational
        old.nextRequestMessageID PayloadType.delete (cepSinglePayload [deleteProtocolIKE, 0, 0, 0])
        (requestFlags (oldIKEEnvelope old)) (by decide)
      have hfst : (x.run a.world.rng).1 = .error e := congrArg Prod.fst hr
      rw [hx, hrun] at hfst
      cases hfst
    have hb : b = Running.mapState (State.mapOldIKE OldIKEContext.begin)
        { a with world := b.world } := hq.world
    refine Eff.wp_run hr ⟨?_, OldIKEContext.begin, hq.calm.state⟩
    rw [hb]
    exact hunsealed hg { a with world := b.world } ⟨rfl, hq.draws⟩
  · rw [hr] at hq
    have hb : b = Running.mapState (State.mapOldIKE OldIKEContext.begin)
        { a with world := b.world } := hq.world
    have hc : b.mapState (State.mapOldIKE (OldIKEContext.deleting old.nextRequestMessageID frames)) =
        Running.mapState (State.mapOldIKE fun o => o.begin.deleting o.nextRequestMessageID frames)
          { a with world := b.world } := by
      rw [hb, Running.mapState, Running.mapState, Running.mapState,
        State.mapOldIKE_mapOldIKE (h := fun o => o.begin.deleting o.nextRequestMessageID frames) hold
          rfl]
    have hacts := hact frames { a with world := b.world } ⟨rfl, hq.draws⟩
    rw [← hc] at hacts
    have hold' := State.oldIKE_mapOldIKE
      (f := fun o => o.begin.deleting o.nextRequestMessageID frames) hold
    refine Eff.wp_run hr ?_
    rw [Eff.next_ok, Eff.wp_bind, modifyState, Eff.wp_modify, Eff.next_ok]
    refine Eff.wp_mono (wp_oldSend (G := G) (old.begin.deleting old.nextRequestMessageID frames)
      frames (by rw [← hold']; exact congrArg (·.state.oldIKE) hc) rfl ?_ rfl)
      fun r a' h => ⟨hacts.trans h.1, _, h.2.trans (congrArg Running.state hc)⟩
    have hlen : (b.mapState (State.mapOldIKE (OldIKEContext.deleting old.nextRequestMessageID
        frames))).state.oldIKE = old.begin.deleting old.nextRequestMessageID frames :: rest := by
      rw [← hold']; exact congrArg (·.state.oldIKE) hc
    have hsa : b.sa = a.sa := hq.calm.sa
    change b.sa - _ = _
    rw [hlen, hsa, Running.oldSA, hold]
    rfl

/-- Whether an answer to the IKE rekey in flight can be used. -/
def ValidIKEAnswer (s : State) (inner : List Payload) : Prop :=
  ∃ rc selection responderSPI nr ker keys, s.rekey = some rc ∧
    parseIKERekeyResponse cfg inner = .ok (selection, responderSPI, nr, ker) ∧
    deriveIKERekeyKeys s rc nr ker rc.newInitiatorSPI responderSPI selection = .ok keys

omit [Crypto] in
theorem run_installIKE_bind {k : Unit → Eff Running α} (spiI spiR : UInt64)
    (isOriginalInitiator : Bool) (ni nr : Bytes) (keys : IKEKeys) (selection : Selection)
    (hb : Quiet a b) : ∃ t b', Quiet (a.ikeInstalled t
        (State.installIKE spiI spiR isOriginalInitiator ni nr keys selection)) b' ∧
      (installIKE spiI spiR isOriginalInitiator ni nr keys selection >>= fun _ =>
        resetIkeSoft cfg now >>= k).run b = (k ()).run b' := by
  rw [hb.world]
  refine ⟨now + rekeyDeadline cfg.rekey.ikeTime cfg.rekey.randTime (b.world.jitter 0), _, ?_, rfl⟩
  exact ⟨rfl, trans_of World.Draws hb.draws (quiet_drawJitter b).draws⟩

omit [Crypto] in
theorem Quiet.of_ikeInstalled {t : Time} {f : State → State} (h : Quiet (a.ikeInstalled t f) b) :
    b = Running.ikeInstalled t f { a with world := b.world } := h.world

theorem wp_finishIKERekeyResponse (inner : List Payload) (hacc : a.Accepted)
    (htidy : a.state.rekey.isSome → a.state.oldIKE = [])
    (hv : G.abandon true a ∨ ValidIKEAnswer cfg a.state inner) (hinst : G.installs .ike a)
    (hseal : G.sealFails ∨ a.CanSeal cfg) :
    (finishIKERekeyResponse cfg now inner).wp (fun r a' => Acts G a a' ∧
      (r = .ok () → a'.state.dropRequest = a'.state)) a := by
  have herr : ∀ (e : Err) a', Acts G a a' → Acts G a a' ∧ ((.error e : Except Err Unit) = .ok () →
      a'.state.dropRequest = a'.state) := fun e a' h => ⟨h, fun h => by cases h⟩
  unfold finishIKERekeyResponse
  rw [Eff.wp_bind, Eff.wp_get, Eff.next_ok]
  rcases hrekey : a.state.rekey with _ | rc
  · exact herr _ a .refl
  have hsome : a.state.rekey.isSome := by rw [hrekey]; rfl
  have hold : a.state.oldIKE = [] := htidy hsome
  refine Eff.wp_ite (fun _ => herr _ a .refl) fun hkind => ?_
  replace hkind : rc.kind = .ike := not_not.mp hkind
  refine wp_orAbandon_bind cfg now (refl_of Quiet a) (Eff.within_lift _) hsome (fun e he => ?_) herr
    fun resp a₁ hparse h₁ => ?_
  · refine hv.resolve_right fun ⟨_, _, _, _, _, _, _, hp, _⟩ => ?_
    rw [Eff.run_lift, hp] at he
    cases he
  obtain ⟨selection, responderSPI, nr, ker⟩ := resp
  refine wp_orAbandon_bind cfg now h₁ (Eff.within_lift _) hsome (fun e he => ?_) herr
    fun keys a₂ _ h₂ => ?_
  · refine hv.resolve_right fun ⟨rc', _, _, _, _, _, hrc, hp, hk⟩ => ?_
    obtain rfl : rc = rc' := Option.some.inj (hrekey.symm.trans hrc)
    have hresp := Except.ok.inj ((congrArg Prod.fst hparse).symm.trans hp)
    rw [Prod.mk.injEq, Prod.mk.injEq, Prod.mk.injEq] at hresp
    obtain ⟨rfl, rfl, rfl, rfl⟩ := hresp
    rw [Eff.run_lift, hk] at he
    cases he
  obtain ⟨t, b, hq, hrun⟩ := run_installIKE_bind (k := fun _ => sendOldIKEDelete cfg) cfg now
    rc.newInitiatorSPI responderSPI true rc.ni nr keys selection h₂
  refine Eff.wp_of_run_eq hrun ?_
  have hstate : b.state = _ := hq.calm.state
  have hold' : b.state.oldIKE = [a.state.toOldIKE] := by
    rw [hstate, Running.ikeInstalled, State.installIKE, hold]; rfl
  refine Eff.wp_mono (wp_sendOldIKEDelete (G := G) cfg a hold' (fun frames c hc => ?_)
    (fun g c hc => ?_) (hseal.imp_right fun h => ⟨h.rng.drawn hq.draws.rng, h.old⟩))
    fun r a' h => ⟨h.1, fun _ => ?_⟩
  · have hc' := (trans_of Quiet hq hc).of_ikeInstalled
    have hw := (trans_of Quiet hq hc).draws
    rw [hc']
    exact acts_of_draws hw (.replaceIKE (a := { a with world := c.world }) _ _ _ _ keys selection t
      frames (hacc.calm ⟨rfl, hw.calm⟩) hrekey hkind hold (G.installs_world hinst))
  · have hc' := (trans_of Quiet hq hc).of_ikeInstalled
    have hw := (trans_of Quiet hq hc).draws
    rw [hc']
    exact acts_of_draws hw (.replaceIKEUnsealed (a := { a with world := c.world }) _ _ _ _ keys
      selection t (hacc.calm ⟨rfl, hw.calm⟩) hrekey hkind hold g)
  · obtain ⟨-, f, hf⟩ := h
    rw [hf, State.mapOldIKE, hold', hstate]
    rfl

omit [Crypto] in
theorem run_offerUpdate (u : DataplaneUpdate) (a : Running) : ∃ through w, a.world.Draws w ∧
    (through = false → cfg.dataUpdates = false ∨ a.world.full 0 = true) ∧
    (offerUpdate cfg u).run a = (.ok (), Running.offered u through { a with world := w }) := by
  unfold offerUpdate
  split_ifs with hd
  swap
  · exact ⟨false, a.world, refl_of World.Draws _, fun _ => .inl (by simpa using hd), rfl⟩
  refine ⟨!a.world.full 0, (drawFull.run a).2.world, (quiet_drawFull a).draws, fun h => ?_, ?_⟩
  · exact .inr (by simpa using h)
  · rw [Eff.run_bind_of_ok (show drawFull.run a = (.ok (a.world.full 0), _) from rfl)]
    cases a.world.full 0 <;> simp [Running.offered] <;> rfl

def Running.Expired (a : Running) (now : Time) : Prop :=
  a.state.Leased ∧ ∀ deadline, a.leaseDeadline = some deadline → deadline ≤ now

/-- How a failed renewal ends, in `r` and with the timer of the lease set to `timer`: it arms the
timer again, or ends in an error if the lease has run out. -/
def Running.RenewalFails (a : Running) (now : Time) (timer : Option Time) (r : Except Err Unit) :
    Prop :=
  (¬a.Expired now ∧ r = .ok () ∧ (timer.isSome ∨ timer = a.leaseTimer ∧ ¬a.state.Leased)) ∨
    (a.Expired now ∧ timer = a.leaseTimer ∧ ∃ t, r = .error (.errorf t))

omit [Crypto] in
theorem wp_leaseRetryOrExpire (a : Running) : (leaseRetryOrExpire now).wp (fun r a' =>
    ∃ timer, a.RenewalFails now timer r ∧ a' = { a.noted with
      leasePending := false, state := a.state.dropRequest, leaseTimer := timer }) a := by
  have hnoted : ({ a.noted with leasePending := false, state := a.noted.state.dropRequest } : Running)
      = { a.noted with
        leasePending := false, state := a.state.dropRequest, leaseTimer := a.leaseTimer } := by
    rw [(calm_noted a).world]
  unfold leaseRetryOrExpire Eff.wp
  rw [Eff.run_bind_of_ok (run_noteGivenUp a), Eff.run_bind_of_ok (Eff.run_modify _ _), hnoted,
    Eff.run_bind_of_ok (Eff.run_get _)]
  have hdeadline : a.noted.leaseDeadline = a.leaseDeadline := by rw [(calm_noted a).world]
  split_ifs with hleased
  · exact ⟨_, .inl ⟨fun h => h.1 hleased, rfl, .inr ⟨rfl, not_not.mpr hleased⟩⟩, rfl⟩
  · split
    next hnone =>
      rw [hdeadline] at hnone
      refine ⟨_, .inr ⟨⟨hleased, fun d hd => ?_⟩, rfl, _, rfl⟩, rfl⟩
      rw [hnone] at hd
      cases hd
    next deadline hsome =>
      rw [hdeadline] at hsome
      split_ifs with hpast
      · refine ⟨_, .inr ⟨⟨hleased, fun d hd => ?_⟩, rfl, _, rfl⟩, rfl⟩
        rw [hsome] at hd
        exact Option.some.inj hd ▸ hpast
      · exact ⟨_, .inl ⟨fun h => hpast (h.2 deadline hsome), rfl, .inl rfl⟩, rfl⟩

omit [Crypto] in
theorem Guard.rearms {timer : Option Time} {r : Except Err Unit}
    (hexp : G.expires ∨ r = .ok () ∨ ¬a.Expired now) (h : a.RenewalFails now timer r) :
    G.Rearms a timer := by
  rcases h with ⟨-, -, harmed | ⟨hsame, hno⟩⟩ | ⟨hpast, hsame, t, ht⟩
  · exact .inl harmed
  · exact .inr ⟨hsame, .inl hno⟩
  · refine .inr ⟨hsame, .inr (hexp.resolve_right ?_)⟩
    rintro (hok | hnot)
    · rw [ht] at hok; cases hok
    · exact hnot hpast

/-- What is known of the world besides the guard: where the guard forbids a failure, the world does
not cause it. -/
structure Guard.Lets (G : Guard) (cfg : Config) (a : Running) : Prop where
  sealing : G.sealFails ∨ a.CanSeal cfg
  ack : G.ackFails ∨ ∀ k, a.world.ack k = .acked
  lost : G.lost ∨ cfg.dataUpdates = true ∧ ∀ k, a.world.full k = false

omit [Crypto] in
theorem lost_of_not_through {through : Bool} {w : World} {cfg : Config} (hw : a.world.Draws w)
    (hlost : G.lost ∨ cfg.dataUpdates = true ∧ ∀ k, a.world.full k = false)
    (h : through = false → cfg.dataUpdates = false ∨ w.full 0 = true) :
    through = false → G.lost := by
  intro ht
  refine hlost.resolve_right fun ⟨hd, hf⟩ => ?_
  rcases h ht with h | h
  · rw [hd] at h; cases h
  · rw [Shifted.forall (P := fun b => b = false) hw.full hf 0] at h; cases h

/-- The deadline and the timer of the lease after a configuration was stored. -/
def leaseStarted (now : Time) (c : AssignedConfig) (a : Running) : Option Time × Option Time :=
  if c.addressExpirySeconds = 0 then (a.leaseDeadline, a.leaseTimer)
  else (some (now + c.addressExpirySeconds.toNat * second),
    some (now + leaseRenewDelay c.addressExpirySeconds))

def Running.assigning (now : Time) (config : AssignedConfig) (a : Running) : Running :=
  { a with
    state := { a.state with assigned := some config }
    leaseDeadline := (leaseStarted now config a).1
    leaseTimer := (leaseStarted now config a).2 }

section

omit [Crypto]

theorem leaseStarted_isSome {c : AssignedConfig} (h : c.addressExpirySeconds ≠ 0) :
    (leaseStarted now c a).1.isSome ∧ (leaseStarted now c a).2.isSome := by
  rw [leaseStarted, if_neg h]
  exact ⟨rfl, rfl⟩

theorem run_applyConfigUpdate (incoming : AssignedConfig) (present : CesAssignedMask)
    (mode : ConfigApplyMode) (a : Running) {config : AssignedConfig}
    (hconfig : updatedAssigned a.state.assigned incoming present mode = config) :
    ∃ through w, a.world.Draws w ∧
    (through = false → a.state.assigned = some config ∨
      (cfg.dataUpdates = false ∨ a.world.full 0 = true)) ∧
    (through = true → a.state.assigned ≠ some config) ∧
    (applyConfigUpdate cfg now incoming present mode).run a =
      (.ok (decide (a.state.assigned ≠ some config), config),
        (Running.assigning now config { a with world := w }).offered (.assigned config) through) := by
  have hlease : (Eff.when (config.addressExpirySeconds > 0) (armLeaseTimer now)).run
      (a.mapState fun s => { s with assigned := some config }) =
        (.ok (), a.assigning now config) := by
    unfold Eff.when armLeaseTimer Running.assigning leaseStarted
    by_cases h0 : config.addressExpirySeconds = 0
    · rw [if_neg (by rw [h0]; decide), if_pos h0]
      rfl
    · rw [if_pos (UInt32.pos_iff_ne_zero.mpr h0), if_neg h0, Eff.run_modify]
      simp only [Running.mapState, if_neg h0]
  rw [applyConfigUpdate, Eff.run_bind_of_ok (Eff.run_get a), hconfig,
    Eff.run_bind_of_ok (run_modifyState _ _), Eff.run_bind_of_ok hlease]
  by_cases hchanged : a.state.assigned = some config
  · refine ⟨false, a.world, refl_of World.Draws _, fun _ => .inl hchanged, fun h => (by cases h), ?_⟩
    rw [Eff.when, if_neg (not_not.mpr hchanged)]
    rfl
  · obtain ⟨through, w, hw, hthrough, hrun⟩ := run_offerUpdate cfg (.assigned config)
      (a.assigning now config)
    refine ⟨through, w, hw, fun h => .inr (hthrough h), fun _ => hchanged, ?_⟩
    rw [Eff.when, if_pos hchanged, Eff.run_bind_of_ok hrun]
    cases through <;> rfl

theorem act_assigning {config : AssignedConfig} {through : Bool}
    (hg : through = false → G.lost ∨ a.state.assigned = some config)
    (hnew : through = true → a.state.assigned ≠ some config)
    (haddr : G.bare ∨ (a.state.HasAddress → config.HasAddress)) :
    Act G a ((a.assigning now config).offered (.assigned config) through) := by
  have h := Act.assign (G := G) (a := a) config _ _ through
    (fun h0 => leaseStarted_isSome (a := a) now h0) hg hnew haddr
  cases through <;> exact h

theorem acts_applyConfigUpdate (incoming : AssignedConfig) (present : CesAssignedMask)
    (mode : ConfigApplyMode)
    (hlost : G.lost ∨ cfg.dataUpdates = true ∧ ∀ k, a.world.full k = false)
    (haddr : G.bare ∨ (a.state.HasAddress →
      (updatedAssigned a.state.assigned incoming present mode).HasAddress)) :
    (applyConfigUpdate cfg now incoming present mode).wp (fun r a' => (∃ v, r = .ok v) ∧
      Acts G a a' ∧ ∃ config, a'.state = { a.state with assigned := some config }) a := by
  obtain ⟨through, w, hw, hthrough, hnew, hrun⟩ :=
    run_applyConfigUpdate cfg now incoming present mode a rfl
  refine Eff.wp_run hrun ⟨⟨_, rfl⟩, ?_, _, by cases through <;> rfl⟩
  refine acts_of_draws hw (act_assigning (a := { a with world := w }) now (fun h => ?_) hnew haddr)
  exact (hthrough h).symm.imp_left fun h' =>
    lost_of_not_through (refl_of World.Draws _) hlost (fun _ => h') h

theorem acts_dropLease {timer : Option Time} (ht : G.Rearms a timer)
    (hrekey : a.state.rekey = none) (hp : a.leasePending = true) : Acts G a { a.noted with
      leasePending := false, state := a.state.dropRequest, leaseTimer := timer } := by
  have hc := calm_noted a
  have h : Act G a.noted { a.noted with
      leasePending := false, state := a.noted.state.dropRequest, leaseTimer := timer } :=
    .dropLease timer (by rw [hc.world]; exact ht) (by rw [hc.state, hrekey])
      (by rw [hc.leasePending, hp]) (settled_noted a)
  rw [hc.state] at h
  exact hc.acts.tail h

theorem acts_finishLease (inner : List Payload) (hrekey : a.state.rekey = none)
    (hp : a.leasePending = true) (hs : a.Settled) (hexp : G.expires ∨ ¬a.Expired now)
    (hlost : G.lost ∨ cfg.dataUpdates = true ∧ ∀ k, a.world.full k = false)
    (haddr : G.bare ∨ ∀ c, renewedConfig inner = some c → c.HasAddress) :
    Acts G a ((do
      finishLeaseResponse cfg now inner
      modifyState State.dropRequest : Eff Running Unit).run a).2 := by
  have hdrop : ∀ {r : Except Err Unit} {a'}, (∃ timer, a.RenewalFails now timer r ∧
      a' = { Running.noted { a with leasePending := false } with
        leasePending := false, state := a.state.dropRequest, leaseTimer := timer }) →
      Acts G a (Running.mapState State.dropRequest a') ∧ Acts G a a' := by
    rintro r a' ⟨timer, ht, rfl⟩
    have h := acts_dropLease (G.rearms now (hexp.imp_right .inr) ht) hrekey hp
    have hsame : ({ Running.noted { a with leasePending := false } with
        leasePending := false, state := a.state.dropRequest, leaseTimer := timer } : Running) =
        { a.noted with
          leasePending := false, state := a.state.dropRequest, leaseTimer := timer } := by
      unfold Running.noted
      split_ifs <;> rfl
    rw [hsame]
    exact ⟨h, h⟩
  change Eff.wp (finishLeaseResponse cfg now inner >>= fun _ => modifyState State.dropRequest)
    (fun _ a' => Acts G a a') a
  unfold finishLeaseResponse
  rw [Eff.wp_bind, Eff.wp_bind, Eff.wp_modify, Eff.next_ok]
  split
  · refine Eff.wp_mono (wp_leaseRetryOrExpire now _) fun r a' h => ?_
    cases r with
    | error e => exact (hdrop h).2
    | ok _ => exact (hdrop h).1
  next p hcp =>
  split
  · rw [Eff.wp_bind, Eff.wp_attempt]
    refine Eff.wp_mono (wp_leaseRetryOrExpire now _) fun r a' h => ?_
    cases caught r with
    | error e => exact (hdrop h).2
    | ok _ => exact (hdrop h).2
  next assigned hdecode =>
  -- the request is dropped after the new configuration is stored: the order does not matter
  obtain ⟨through, w, hw, hthrough, hnew, hrun⟩ := run_applyConfigUpdate cfg now assigned
    ⟨false, false, false, false, false⟩ .replace { a with leasePending := false } rfl
  refine Eff.wp_of_run_eq (Eff.run_bind_of_ok hrun) ?_
  replace hw : a.world.Draws w := hw
  have hassign : Acts G a
      ((Running.assigning now assigned { a with world := w }).offered (.assigned assigned) through) := by
    refine acts_of_draws hw (act_assigning (a := { a with world := w }) now (fun h => ?_) hnew ?_)
    · exact (hthrough h).symm.imp_left fun h' =>
        lost_of_not_through (refl_of World.Draws _) hlost (fun _ => h') h
    · have hrenewed : renewedConfig inner = some assigned := by
        rw [renewedConfig, hcp, Option.bind_some, hdecode]
        rfl
      exact haddr.imp_right fun h _ => h assigned hrenewed
  have hsettled : Running.Settled { a with world := w } := hs.calm ⟨rfl, hw.calm⟩
  have harmed : ∀ t, G.Rearms ((Running.assigning now assigned { a with world := w }).offered
      (.assigned assigned) t) (leaseStarted now assigned a).2 := by
    intro t
    by_cases hzero : assigned.addressExpirySeconds = 0
    · refine .inr ⟨by cases t <;> rfl, .inl ?_⟩
      cases t <;> simpa [State.Leased, Running.assigning, Running.offered, Running.logged] using hzero
    · exact .inl (leaseStarted_isSome now hzero).2
  cases through with
  | false =>
    exact hassign.tail (.dropLease _ (harmed false) hrekey hp fun h => hsettled h)
  | true =>
    refine hassign.tail (.dropLease _ (harmed true) hrekey hp fun h => ?_)
    exact (hsettled h).imp (List.mem_append_left _) (List.mem_append_left _)

theorem acts_finishDeleteOldChild (msgID : UInt32) (hacc : a.Accepted)
    (hrekey : a.state.rekey = none) (hp : a.leasePending = false)
    (hphase : a.state.phase = .rekeyChildDeletingOld)
    (hlost : G.lost ∨ cfg.dataUpdates = true ∧ ∀ k, a.world.full k = false) :
    Acts G a ((finishDeleteOldChild cfg).run (a.mapState (State.answered msgID))).2 := by
  rw [finishDeleteOldChild, Eff.run_bind_of_ok (Eff.run_get _)]
  cases hold : a.state.oldChild with
  | none =>
    have h := Act.finishDelete (G := G) msgID true hacc hrekey hp hphase fun h => by cases h
    rw [hold] at h
    rw [show (a.mapState (State.answered msgID)).state.oldChild = none from hold]
    exact .single h
  | some old =>
    obtain ⟨through, w, hw, hthrough, hrun⟩ := run_offerUpdate cfg (.childDeleted old)
      (a.mapState (State.answered msgID))
    rw [show (a.mapState (State.answered msgID)).state.oldChild = some old from hold,
      oldChildDeleted, dataplaneChildDeleted, Eff.run_bind_of_ok hrun]
    have h := Act.finishDelete (G := G) (a := { a with world := w }) msgID through
      (hacc.calm ⟨rfl, World.Draws.calm hw⟩) hrekey hp hphase
      (lost_of_not_through (refl_of World.Draws _) hlost hthrough)
    dsimp only at h
    rw [hold] at h
    cases through <;> exact acts_of_draws hw h

end

/-- **The response to the request in flight was accepted.** -/
theorem acts_completeResponse (msgID : UInt32) (inner : List Payload) (hacc : a.Accepted)
    (htidy : a.state.rekey.isSome → a.state.oldIKE = []) (hlets : G.Lets cfg a)
    (hexp : a.leasePending = true → G.expires ∨ ¬a.Expired now)
    (haddr : a.leasePending = true → a.state.rekey = none →
      G.bare ∨ ∀ c, renewedConfig inner = some c → c.HasAddress)
    (hanswer : ∀ rc, a.state.rekey = some rc → G.abandon true a ∨
      rc.kind = .ike ∧ ValidIKEAnswer cfg a.state inner)
    (hinst : ∀ rc, a.state.rekey = some rc → G.installs rc.kind a) :
    Acts G a ((completeResponse cfg now msgID inner).run a).2 := by
  rw [completeResponse, Eff.run_bind_of_ok (Eff.run_get a)]
  rcases hrekey : a.state.rekey with _ | rc
  · dsimp only
    split_ifs with hp
    · exact acts_finishLease cfg now inner hrekey hp (fun _ => .inl hacc.mem) (hexp hp) hlets.lost
        (haddr hp hrekey)
    · rw [Eff.run_bind_of_ok (run_modifyState _ _)]
      rw [Bool.not_eq_true] at hp
      unfold Eff.when
      split_ifs with hphase
      · exact acts_finishDeleteOldChild cfg msgID hacc hrekey hp hphase hlets.lost
      · exact .single (.answered msgID hacc hrekey hp hphase)
  · dsimp only
    split_ifs with hkind
    · have g : G.abandon true a := (hanswer rc hrekey).resolve_right fun h => by
        rw [hkind] at h; cases h.1
      change Eff.wp _ (fun _ a' => Acts G a a') a
      rw [Eff.wp_bind]
      refine Eff.wp_mono (wp_finishChildRekeyResponse cfg now inner hacc g (hkind ▸ hinst rc hrekey)
        hlets.ack hlets.sealing)
        fun r a' h => ?_
      cases r with
      | error e => exact h.1
      | ok _ =>
        rw [Eff.next_ok, Eff.wp_bind, Eff.wp_get, Eff.next_ok]
        unfold Eff.when
        rw [if_neg (not_not.mpr (h.2 rfl))]
        exact h.1
    · change Eff.wp _ (fun _ a' => Acts G a a') a
      rw [Eff.wp_bind]
      replace hkind : rc.kind = .ike := by cases h : rc.kind <;> simp_all
      refine Eff.wp_mono (wp_finishIKERekeyResponse cfg now inner hacc htidy
        ((hanswer rc hrekey).imp_right And.right) (hkind ▸ hinst rc hrekey) hlets.sealing)
        fun r a' h => ?_
      cases r with
      | error e => exact h.1
      | ok _ =>
        rw [Eff.next_ok, modifyState, Eff.wp_modify]
        have hdrop : a'.mapState State.dropRequest = a' := by rw [Running.mapState, h.2 rfl]
        rw [hdrop]
        exact h.1

end Responses

end Swan.Control
