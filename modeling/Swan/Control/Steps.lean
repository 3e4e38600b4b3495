import Swan.Lib.Run
import Swan.Control.Packets
import Swan.Xcrypto.Instance

/-! # Rounds of the loop as sequences of acts

`Loop.wp_step` shows that a round of the loop is a sequence of acts of the actor, after the timer
that fired is disarmed. `Guard.Allows` says what a guard has to let happen for that. `Loop.Goes` is
a round after which the loop goes on, and `Loop.Runs` a sequence of such rounds; an invariant of a
run follows from `Loop.Runs.invariant`. -/

namespace Swan.Control

open Swan.Lib Swan.Wire Swan.Payload Swan.Xcrypto

variable [Crypto]

/-! ### One round -/

/-- The actor after the timer of an event has fired. -/
def Event.disarm (a : Running) : Event → Running
  | .ikeSoft => { a with ikeSoft := none }
  | .childSoft => { a with childSoft := none }
  | .retry => { a with retryTimer := none }
  | .lease => { a with leaseTimer := none }
  | _ => a

def Event.rekey (cfg : Config) (now : Time) (a : Running) : Event → Option (Eff Running Unit)
  | .ikeSoft => some (startIKERekey cfg now .time)
  | .childSoft => some (startChildRekey cfg now .time)
  | .nearWrap => if a.state.activeChild.isSome then some (startChildRekey cfg now .nearWrap) else none
  | .retry => some (match a.retryKind with
      | .ike => startIKERekey cfg now a.retryTrigger
      | .child => startChildRekey cfg now a.retryTrigger)
  | _ => none

/-- The events that start a keepalive or a rekey. -/
def Event.begins : Event → Bool
  | .tick | .ikeSoft | .childSoft | .nearWrap | .retry => true
  | _ => false

/-- What a guard has to let happen in a round of the loop. -/
structure Guard.Allows (G : Guard) (cfg : Config) (now : Time) (ev : Event) (l : Loop) : Prop where
  lets : G.Lets cfg l.actor
  packet : ∀ pkt, ev = .packet (some pkt) → G.Packet cfg now pkt l.actor
  rto : ev = .rto → l.retries ≥ cfg.timeouts.maxRetries → l.actor.state.hasExpectedResponse = true →
    l.actor.state.rekey.isSome → G.abandon true l.actor
  oldRto : ev = .oldRto → l.oldRetries ≥ cfg.timeouts.maxRetries → G.oldGiveUp l.actor
  -- a rekey that cannot start is given up
  start : ∀ start, ev.rekey cfg now l.actor = some start → l.actor.state.safeToRekey = true →
    G.abandon true (ev.disarm l.actor) ∨ ∃ a', start.run (ev.disarm l.actor) = (.ok (), a')
  -- a retry is given up also when the context ends while its request is sent
  retry : ev = .retry → l.actor.state.safeToRekey = true → ∀ a', Acts G (ev.disarm l.actor) a' →
    a'.Rekeying l.actor.retryKind → a'.state.oldChild = l.actor.state.oldChild → G.abandon true a'
  begins : ev.begins = true → G.begins
  lease : ev = .lease → G.renews

-- The guards that forbid a single thing take the rest from here.
theorem Guard.any_allows (cfg : Config) (now : Time) (ev : Event) (l : Loop) :
    Guard.any.Allows cfg now ev l where
  lets := ⟨.inl trivial, .inl trivial, .inl trivial⟩
  packet _ _ := ⟨fun _ _ _ _ _ _ => .inl trivial, fun _ _ _ _ _ _ => trivial,
    fun _ _ => ⟨fun _ _ => trivial, fun _ _ => ⟨trivial, trivial⟩, fun _ _ _ => trivial,
      fun _ _ => ⟨trivial, trivial⟩⟩, fun _ _ _ _ _ => .inl trivial, fun _ _ _ _ _ _ => .inl trivial⟩
  rto _ _ _ _ := trivial
  oldRto _ _ := trivial
  start _ _ _ := .inl trivial
  retry _ _ _ _ _ _ := trivial
  begins _ := trivial
  lease _ := trivial

/-- How a round of the loop ends: a round after which the loop goes on is a sequence of acts, and so
is one that fails, except for the message id of a request that could not be sealed. -/
structure Stepped (G : Guard) (a : Running) (r : Except Err Exit) (a' : Running) : Prop where
  acts : r = .ok none → Acts G a a'
  fails : G.expires → r ≠ .ok none → r ≠ .ok (some (.ok ())) →
    ∃ a₁, Acts G a a₁ ∧ (a' = a₁ ∨ Unsealed a₁ a')
  shutdown : r = .ok (some (.ok ())) → ∃ a₁, Acts G a a₁ ∧ a' = a₁.mapState State.shutdown

section Step

variable {G : Guard} {a : Running} {l : Loop} (cfg : Config) (now : Time) {r : Except Err Exit}
  {a' : Running} {P : Running → Prop}

section

omit [Crypto]

theorem Stepped.of_acts (h : Acts G a a') (hr : r ≠ .ok (some (.ok ()))) : Stepped G a r a' :=
  ⟨fun _ => h, fun _ _ _ => ⟨a', h, .inl rfl⟩, fun h' => absurd h' hr⟩

theorem Stepped.of_expires (h : G.expires → Acts G a a') (hr : r ≠ .ok none)
    (hr' : r ≠ .ok (some (.ok ()))) : Stepped G a r a' :=
  ⟨fun h' => absurd h' hr, fun g _ _ => ⟨a', h g, .inl rfl⟩, fun h' => absurd h' hr'⟩

theorem Stepped.trans {a₁ : Running} (h : Stepped G a₁ r a') (h₁ : Acts G a a₁) :
    Stepped G a r a' :=
  ⟨fun hr => h₁.trans (h.acts hr),
    fun g hr hr' => (h.fails g hr hr').imp fun _ ⟨h, h'⟩ => ⟨h₁.trans h, h'⟩,
    fun hr => (h.shutdown hr).imp fun _ ⟨h, h'⟩ => ⟨h₁.trans h, h'⟩⟩

theorem Stepped.of_unsealed (hu : Unsealed a a') (hr : r ≠ .ok none)
    (hr' : r ≠ .ok (some (.ok ()))) : Stepped G a r a' :=
  ⟨fun h => absurd h hr, fun _ _ _ => ⟨a, .refl, .inr hu⟩, fun h => absurd h hr'⟩

theorem acts_abandonRekey_unsealed {a₁ : Running} (hu : Unsealed a a₁)
    (hsafe : a.state.safeToRekey = true) (g : G.abandon true a) :
    Acts G a ((abandonRekey cfg now true).run a₁).2 := by
  obtain ⟨w, hw, rfl⟩ := hu
  obtain ⟨t, w', hw', hrun⟩ := run_abandonRekey_true cfg now
    { a.mapState State.beginRequest with world := w }
  obtain ⟨w₁, hw₁, rfl⟩ := World.Draws.of_extend (w := w)
    [.gaveUp a.sa a.state.nextRequestMessageID] hw'
  rw [hrun]
  exact acts_of_draws (trans_of World.Draws hw hw₁)
    (.startFailed (a := { a with world := w₁ }) t hsafe (G.abandon_world g))

theorem run_onActor {α : Type} {x : Eff Running α} {r : Except Err α}
    (h : x.run l.actor = (r, a')) : (onActor x).run l = (r, { l with actor := a' }) := by
  rw [onActor, Eff.run_zoom, h]

theorem wp_onActor {α : Type} {x : Eff Running α} {Q : Except Err α → Loop → Prop}
    (h : x.wp (fun r a' => Q r { l with actor := a' }) l.actor) : (onActor x).wp Q l := h

theorem Started.stepped {r : Except Err Unit} {r' : Except Err Exit} (h : Started G a P r a')
    (hr : r' ≠ .ok none) (hr' : r' ≠ .ok (some (.ok ()))) : Stepped G a r' a' := by
  rcases h with ⟨hq, -⟩ | ⟨hu, -⟩ | ⟨hacts, -, -⟩
  · exact .of_acts hq.calm.acts hr'
  · exact .of_unsealed hu hr hr'
  · exact .of_acts hacts hr'

theorem Started.abandon {e : Err} (h : Started G a P (.error e) a')
    (hsafe : a.state.safeToRekey = true) (g : G.abandon true a)
    (hsent : e = .canceled → Acts G a a' → P a' →
      Acts G a ((abandonRekey cfg now true).run a').2) :
    Acts G a ((abandonRekey cfg now true).run a').2 := by
  rcases h with ⟨hq, -⟩ | ⟨hu, -⟩ | ⟨hacts, hr, hp⟩
  · refine hq.calm.acts.trans (acts_abandonRekey_true cfg now ?_ ?_)
    · rw [hq.calm.state]; exact .inr hsafe
    · rw [hq.world]; exact G.abandon_world g
  · exact acts_abandonRekey_unsealed cfg now hu hsafe g
  · exact hsent (hr.elim (fun h => by cases h) Except.error.inj) hacts hp

theorem Started.acts (h : Started G a P (.ok ()) a') :
    Acts G a a' ∧ P a' := by
  rcases h with ⟨-, e, he⟩ | ⟨-, e, he⟩ | ⟨hacts, -, hp⟩
  · cases he
  · cases he
  · exact ⟨hacts, hp⟩

theorem wp_abandon (h : Acts G a ((abandonRekey cfg now true).run l.actor).2) {f : Loop → Loop}
    (hf : ∀ l, (f l).actor = l.actor) :
    (onActor (abandonRekey cfg now true) >>= fun _ => Eff.modify f >>= fun _ =>
      pure (none : Exit)).wp (fun r l' => Stepped G a r l'.actor) l := by
  obtain ⟨t, w, -, hrun⟩ := run_abandonRekey_true cfg now l.actor
  rw [hrun] at h
  refine Eff.wp_of_run_eq (Eff.run_bind_of_ok (run_onActor hrun))
    (Eff.wp_of_run_eq (Eff.run_bind_of_ok (Eff.run_modify _ _)) (.of_acts ?_ (by simp)))
  rwa [Eff.run_pure, hf]

end

namespace Loop

omit [Crypto] in
theorem wp_tryRekey {start : Eff Running Unit} {P : Running → Prop}
    (hstart : start.wp (Started G l.actor P) l.actor) (hsafe : l.actor.state.safeToRekey = true)
    (g : G.abandon true l.actor ∨ ∃ a', start.run l.actor = (.ok (), a')) :
    (tryRekey cfg now start).wp (fun r l' => Stepped G l.actor r l'.actor) l := by
  rcases hrun : start.run l.actor with ⟨r, a'⟩
  have hs := Eff.wp_of_run hstart hrun
  unfold tryRekey
  rw [Eff.wp_bind, Eff.wp_attempt]
  refine Eff.wp_run (run_onActor hrun) ?_
  cases r with
  | ok u => exact .of_acts hs.acts.1 (by simp [Eff.run_bind])
  | error e =>
    refine Eff.next_caught_error (hs.stepped (by simp) (by simp)) ?_
    refine Eff.wp_ite (fun _ => hs.stepped (by simp) (by simp)) fun hcanceled => ?_
    rw [hrun] at g
    have g : G.abandon true l.actor := g.resolve_right fun ⟨_, h⟩ => by cases h
    refine wp_abandon cfg now (l := { l with actor := a' }) (f := id) ?_ fun _ => rfl
    refine hs.abandon cfg now hsafe g fun he _ _ => ?_
    rw [he] at hcanceled
    exact absurd rfl hcanceled

/-- The acts of a round, from the actor at its start. -/
abbrev Steps (G : Guard) (a : Running) : Except Err Exit → Loop → Prop :=
  fun r l' => Stepped G a r l'.actor

omit [Crypto] in
theorem wp_onRTO (g : l.retries ≥ cfg.timeouts.maxRetries →
      l.actor.state.hasExpectedResponse = true → l.actor.state.rekey.isSome →
      G.abandon true l.actor) : (onRTO cfg now).wp (Steps G l.actor) l := by
  unfold onRTO
  rw [Eff.wp_bind, Eff.wp_modify, Eff.next_ok, Eff.wp_bind, Eff.wp_get, Eff.next_ok]
  refine Eff.wp_ite (fun _ => .of_acts .refl (by simp)) fun hexp => ?_
  rw [Bool.not_eq_false] at hexp
  refine Eff.wp_ite (fun hretries => Eff.wp_ite (fun hrekey => ?_) fun hrekey =>
    Eff.wp_ite (fun hp => ?_) fun _ => .of_acts .refl (by simp)) fun _ => ?_
  · exact wp_abandon cfg now (acts_abandonRekey_true cfg now (.inl hrekey) (g hretries hexp hrekey))
      fun _ => rfl
  · rw [Eff.wp_bind, Eff.wp_attempt]
    refine wp_onActor (Eff.wp_mono (wp_leaseRetryOrExpire now l.actor) fun r a' h => ?_)
    obtain ⟨timer, ht, rfl⟩ := h
    have hacts : G.expires ∨ r = .ok () → Acts G l.actor _ := fun g =>
      acts_dropLease (G.rearms now (g.imp_right .inl) ht) (by simpa using hrekey) hp
    cases r with
    | ok u => exact .of_acts (hacts (.inr rfl)) (by simp [Eff.run_bind])
    | error e =>
      have hfail := fun g => hacts (.inl g)
      exact Eff.next_caught_error (.of_expires hfail (by simp) (by simp))
        (.of_expires hfail (by simp) (by simp))
  · split
    · exact .of_acts .refl (by simp)
    next cp _ =>
    rw [Eff.wp_bind, Eff.wp_attempt]
    refine wp_onActor (Eff.wp_mono (Eff.Within.wp (calm_sendFrames (by decide) _ _) _)
      fun r a' h => ?_)
    cases r with
    | ok u => exact .of_acts h.acts (by simp [Eff.run_bind])
    | error e => exact Eff.next_caught_error (.of_acts h.acts (by simp)) (.of_acts h.acts (by simp))

omit [Crypto] in
theorem wp_onOldRTO (g : l.oldRetries ≥ cfg.timeouts.maxRetries → G.oldGiveUp l.actor) :
    (onOldRTO cfg now).wp (Steps G l.actor) l := by
  unfold onOldRTO
  rw [Eff.wp_bind, Eff.wp_modify, Eff.next_ok, Eff.wp_bind, Eff.wp_get, Eff.next_ok]
  split
  · exact .of_acts .refl (by simp)
  next old rest hold =>
  refine Eff.wp_ite (fun _ => .of_acts .refl (by simp)) fun _ =>
    Eff.wp_ite (fun hretries => ?_) fun _ => ?_
  · exact .of_acts (.single (.oldGiveUp hold (g hretries))) (by simp [Eff.run_bind, onActor])
  · split
    · exact .of_acts .refl (by simp)
    next cp _ =>
    rw [Eff.wp_bind, Eff.wp_attempt]
    refine wp_onActor (Eff.wp_mono (Eff.Within.wp (calm_sendFrames (by decide) _ _) _)
      fun r a' h => ?_)
    cases r with
    | ok u => exact .of_acts h.acts (by simp [Eff.run_bind])
    | error e =>
      refine Eff.next_caught_error (.of_acts h.acts (by simp)) (Eff.wp_ite
        (fun _ => .of_acts h.acts (by simp)) fun _ => .of_acts h.acts (by simp [Eff.run_bind]))

theorem wp_onTick (gb : G.begins) : (onTick cfg now).wp (Steps G l.actor) l := by
  unfold onTick
  rw [Eff.wp_bind, Eff.wp_modify, Eff.next_ok, Eff.wp_bind, Eff.wp_get, Eff.next_ok]
  set a := l.actor.mapState fun s =>
    { s with inboundFragments := s.inboundFragments.filter fun f => ¬f.expiresAt < now } with ha
  have hfrag : Acts G l.actor a :=
    .single (.fragments (l.actor.state.inboundFragments.filter fun f => ¬f.expiresAt < now))
  refine Eff.wp_ite (fun _ => .of_acts hfrag (by simp)) fun hexp => ?_
  rw [Bool.not_eq_true] at hexp
  rw [Eff.wp_bind, Eff.wp_attempt]
  refine wp_onActor (Eff.wp_mono (wp_sendKeepalive (G := G) cfg hexp gb) fun r a' hs => ?_)
  cases r with
  | ok u => exact .of_acts (hfrag.trans hs.acts.1) (by simp [Eff.run_bind])
  | error e =>
    refine Eff.next_caught_error ?_ ?_
    · exact (hs.stepped (by simp) (by simp)).trans hfrag
    · exact (hs.stepped (by simp) (by simp)).trans hfrag

theorem wp_onIkeSoft (gb : G.begins) (g : l.actor.state.safeToRekey = true →
      G.abandon true (Event.ikeSoft.disarm l.actor) ∨ ∃ a',
        (startIKERekey cfg now .time).run (Event.ikeSoft.disarm l.actor) = (.ok (), a')) :
    (onIkeSoft cfg now).wp (Steps G (Event.ikeSoft.disarm l.actor)) l := by
  unfold onIkeSoft
  rw [Eff.wp_bind, Eff.wp_modify, Eff.next_ok, Eff.wp_bind, Eff.wp_get, Eff.next_ok]
  exact Eff.wp_ite (fun hsafe => wp_tryRekey cfg now (wp_startIKERekey cfg now _ hsafe gb) hsafe
    (g hsafe)) fun _ => .of_acts .refl (by simp)

theorem wp_onChildSoft (gb : G.begins) (g : l.actor.state.safeToRekey = true →
      G.abandon true (Event.childSoft.disarm l.actor) ∨ ∃ a',
        (startChildRekey cfg now .time).run (Event.childSoft.disarm l.actor) = (.ok (), a')) :
    (onChildSoft cfg now).wp (Steps G (Event.childSoft.disarm l.actor)) l := by
  unfold onChildSoft
  rw [Eff.wp_bind, Eff.wp_modify, Eff.next_ok, Eff.wp_bind, Eff.wp_get, Eff.next_ok]
  exact Eff.wp_ite (fun hsafe => wp_tryRekey cfg now (wp_startChildRekey cfg now _ hsafe gb) hsafe
    (g hsafe)) fun _ => .of_acts .refl (by simp)

theorem wp_onNearWrap (gb : G.begins) (g : l.actor.state.activeChild.isSome → l.actor.state.safeToRekey = true →
      G.abandon true l.actor ∨ ∃ a',
        (startChildRekey cfg now .nearWrap).run l.actor = (.ok (), a')) :
    (onNearWrap cfg now).wp (Steps G l.actor) l := by
  unfold onNearWrap
  rw [Eff.wp_bind, Eff.wp_get, Eff.next_ok]
  exact Eff.wp_ite (fun h => wp_tryRekey cfg now (wp_startChildRekey cfg now _ h.1 gb) h.1 (g h.2 h.1))
    fun _ => .of_acts .refl (by simp)

theorem wp_onRetry (gb : G.begins) (g : ∀ start, Event.retry.rekey cfg now l.actor = some start →
      l.actor.state.safeToRekey = true → G.abandon true (Event.retry.disarm l.actor) ∨
        ∃ a', start.run (Event.retry.disarm l.actor) = (.ok (), a'))
    (gsent : l.actor.state.safeToRekey = true → ∀ a', Acts G (Event.retry.disarm l.actor) a' →
      a'.Rekeying l.actor.retryKind → a'.state.oldChild = l.actor.state.oldChild →
      G.abandon true a') :
    (onRetry cfg now).wp (Steps G (Event.retry.disarm l.actor)) l := by
  unfold onRetry
  rw [Eff.wp_bind, Eff.wp_modify, Eff.next_ok, Eff.wp_bind, Eff.wp_get, Eff.next_ok]
  refine Eff.wp_ite (fun hsafe => ?_) fun _ => .of_acts .refl (by simp)
  set a := Event.retry.disarm l.actor with ha
  replace hsafe : a.state.safeToRekey = true := hsafe
  set start : Eff Running Unit := match l.actor.retryKind with
    | .ike => startIKERekey cfg now l.actor.retryTrigger
    | .child => startChildRekey cfg now l.actor.retryTrigger with hstart
  have hst : start.wp (Started G a fun a' => a.RekeyStarted l.actor.retryKind a' ∨ a' = a) a := by
    rw [hstart]
    cases l.actor.retryKind with
    | ike =>
      exact Eff.wp_mono (wp_startIKERekey (G := G) cfg now _ hsafe gb) fun r a' h =>
        h.imp_right (Or.imp_right fun h => ⟨h.1, h.2.1, .inl h.2.2⟩)
    | child =>
      exact Eff.wp_mono (wp_startChildRekey (G := G) cfg now _ hsafe gb) fun r a' h =>
        h.imp_right (Or.imp_right fun h => ⟨h.1, h.2.1, h.2.2.imp_right And.right⟩)
  rcases hrun : start.run a with ⟨r, a'⟩
  have hs := Eff.wp_of_run hst hrun
  rw [Eff.wp_bind, Eff.wp_attempt]
  refine Eff.wp_run (run_onActor (l := { l with actor := a }) hrun) ?_
  cases r with
  | ok u => exact .of_acts hs.acts.1 (by simp [Eff.run_bind])
  | error e =>
    refine Eff.next_caught_error (hs.stepped (by simp) (by simp)) ?_
    have g : G.abandon true a := (g start rfl hsafe).resolve_right fun ⟨_, h⟩ => by
      rw [hrun] at h; cases h
    refine wp_abandon cfg now (l := { l with actor := a' }) (f := id) ?_ fun _ => rfl
    refine hs.abandon cfg now hsafe g fun he hacts hp => ?_
    rcases hp with ⟨⟨rc, hrc, hkind⟩, hold⟩ | rfl
    · exact hacts.trans (acts_abandonRekey_true cfg now (.inl (by rw [hrc]; rfl))
        (gsent hsafe a' hacts ⟨rc, hrc, hkind⟩ hold))
    · exact acts_abandonRekey_true cfg now (.inr hsafe) g

omit [Crypto] in
theorem acts_leaseRetryOrExpire_unsealed {a' a'' : Running} {r : Except Err Unit}
    (hu : Unsealed a a') (hsafe : a.state.safeToRekey = true)
    (hrun : (leaseRetryOrExpire now).run a' = (r, a'')) (hexp : G.expires ∨ r = .ok ()) :
    Acts G a a'' := by
  obtain ⟨w, hw, rfl⟩ := hu
  obtain ⟨timer, ht, rfl⟩ := Eff.wp_of_run (wp_leaseRetryOrExpire now
    { a.mapState State.beginRequest with world := w }) hrun
  have harmed := G.rearms now (hexp.imp_right .inl) ht
  exact acts_of_draws hw (.leaseFailed (a := { a with world := w }) timer harmed hsafe)

theorem wp_onLease (g : G.renews) : (onLease cfg now).wp (Steps G (Event.lease.disarm l.actor)) l := by
  unfold onLease
  rw [Eff.wp_bind, Eff.wp_modify, Eff.next_ok, Eff.wp_bind, Eff.wp_get, Eff.next_ok]
  refine Eff.wp_ite (fun hsafe => ?_) fun _ => .of_acts .refl (by simp)
  set a := Event.lease.disarm l.actor with ha
  replace hsafe : a.state.safeToRekey = true := (Bool.and_eq_true_iff.mp hsafe).1
  rw [Eff.wp_bind, Eff.wp_attempt]
  refine wp_onActor (Eff.wp_mono (wp_sendLeaseRenewal cfg hsafe g) fun r a' hs => ?_)
  cases r with
  | ok u =>
    rcases hs with ⟨-, e, he⟩ | ⟨hacts, -⟩
    · cases he
    · exact .of_acts hacts (by simp [Eff.run_bind])
  | error e =>
    have hfail : ∀ r', r' ≠ .ok none → r' ≠ .ok (some (.ok ())) → Stepped G a r' a' :=
      fun r' hr hr' => hs.elim (fun h => .of_unsealed h.1 hr hr') fun h => .of_acts h.1 hr'
    refine Eff.next_caught_error (hfail _ (by simp) (by simp)) ?_
    refine Eff.wp_ite (fun _ => hfail _ (by simp) (by simp)) fun hcanceled => ?_
    rcases hs with ⟨hu, -⟩ | ⟨-, hr⟩
    swap
    · obtain rfl := Except.error.inj (hr.resolve_left (by simp))
      exact absurd rfl hcanceled
    rcases hrun : (leaseRetryOrExpire now).run a' with ⟨r, a''⟩
    have hacts := acts_leaseRetryOrExpire_unsealed (G := G) now hu hsafe hrun
    rw [Eff.wp_bind, Eff.wp_attempt]
    refine Eff.wp_run (run_onActor (l := { l with actor := a' }) hrun) ?_
    cases r with
    | ok u => exact .of_acts (hacts (.inr rfl)) (by simp)
    | error e =>
      have hfail := fun g => hacts (.inl g)
      exact Eff.next_caught_error (.of_expires hfail (by simp) (by simp))
        (.of_expires hfail (by simp) (by simp))

omit [Crypto] in
@[simp] theorem actor_afterPacket (l : Loop) : (afterPacket cfg now l).actor = l.actor := by
  unfold afterPacket
  dsimp only
  split_ifs <;> rfl

theorem onPacket_error {pkt : Packet} {e : Err} {a' : Running} {l' : Loop}
    (hproc : (processPacket cfg now pkt).run l.actor = (.error e, a'))
    (hrun : (onPacket cfg now (some pkt)).run l = (.ok none, l')) : l' = { l with actor := a' } := by
  have hl : (onPacket cfg now (some pkt)).wp (fun r l' => r = .ok none → l' = { l with actor := a' })
      l := by
    unfold onPacket
    rw [Eff.wp_bind, Eff.wp_attempt]
    exact Eff.wp_run (run_onActor hproc) (Eff.next_caught_error (fun h => by cases h) fun _ => rfl)
  exact Eff.wp_of_run hl hrun rfl

theorem onPacket_ok {pkt : Packet} {shutdown : Bool} {a' : Running} {l' : Loop}
    (hproc : (processPacket cfg now pkt).run l.actor = (.ok shutdown, a'))
    (hrun : (onPacket cfg now (some pkt)).run l = (.ok none, l')) :
    shutdown = false ∧ l' = afterPacket cfg now { l with actor := a' } := by
  rw [onPacket, Eff.run_bind_of_ok (Eff.run_attempt_of_ok (run_onActor hproc)),
    Eff.run_bind_of_ok (Eff.run_modify _ _)] at hrun
  obtain ⟨hexit, rfl⟩ := Prod.mk.inj hrun
  cases shutdown with
  | false => exact ⟨rfl, rfl⟩
  | true => cases hexit

theorem wp_onPacket (pkt : Option Packet)
    (htidy : l.actor.state.rekey.isSome → l.actor.state.oldIKE = []) (hlets : G.Lets cfg l.actor)
    (hpkt : ∀ p, pkt = some p → G.Packet cfg now p l.actor) :
    (onPacket cfg now pkt).wp (Steps G l.actor) l := by
  cases pkt with
  | none => exact .of_acts .refl (by simp [onPacket])
  | some pkt =>
    unfold onPacket
    rw [Eff.wp_bind, Eff.wp_attempt]
    refine wp_onActor (Eff.wp_mono (wp_processPacket cfg now pkt htidy hlets (hpkt pkt rfl))
      fun r a' h => ?_)
    rcases h with ⟨hr, hacts⟩ | ⟨rfl, a₁, hacts, rfl⟩
    · rcases r with e | _ | _
      · exact Eff.next_caught_error (.of_acts hacts (by simp)) (.of_acts hacts (by simp))
      · exact .of_acts (by simpa [Eff.run_bind] using hacts) (by simp [Eff.run_bind])
      · exact absurd rfl hr
    · refine ⟨fun h => ?_, fun _ _ h => absurd rfl h, fun _ => ⟨a₁, hacts, by simp [Eff.run_bind]⟩⟩
      exact absurd h (by simp [Eff.run_bind])

/-- **A round of the loop is a sequence of acts.** -/
theorem wp_step {ev : Event} (htidy : l.actor.state.rekey.isSome → l.actor.state.oldIKE = [])
    (h : G.Allows cfg now ev l) : (step cfg now ev).wp (Steps G (ev.disarm l.actor)) l := by
  cases ev with
  | ctxDone => exact .of_acts .refl (by simp [step])
  | inClosed => exact .of_acts .refl (by simp [step])
  | rto => exact wp_onRTO cfg now (h.rto rfl)
  | oldRto => exact wp_onOldRTO cfg now (h.oldRto rfl)
  | tick => exact wp_onTick cfg now (h.begins rfl)
  | ikeSoft => exact wp_onIkeSoft cfg now (h.begins rfl) (h.start _ rfl)
  | childSoft => exact wp_onChildSoft cfg now (h.begins rfl) (h.start _ rfl)
  | nearWrap => exact wp_onNearWrap cfg now (h.begins rfl) fun hactive => h.start _ (if_pos hactive)
  | retry => exact wp_onRetry cfg now (h.begins rfl) h.start (h.retry rfl)
  | lease => exact wp_onLease cfg now (h.lease rfl)
  | packet pkt => exact wp_onPacket cfg now pkt htidy h.lets fun p hp => h.packet p (by rw [hp])

end Loop

end Step

/-! ### Runs -/

omit [Crypto] in
@[simp] theorem Event.state_disarm (ev : Event) (a : Running) : (ev.disarm a).state = a.state := by
  cases ev <;> rfl

omit [Crypto] in
@[simp] theorem Event.world_disarm (ev : Event) (a : Running) : (ev.disarm a).world = a.world := by
  cases ev <;> rfl

omit [Crypto] in
@[simp] theorem Event.sa_disarm (ev : Event) (a : Running) : (ev.disarm a).sa = a.sa := by
  cases ev <;> rfl

omit [Crypto] in
@[simp] theorem Event.leasePending_disarm (ev : Event) (a : Running) :
    (ev.disarm a).leasePending = a.leasePending := by
  cases ev <;> rfl

structure State.HandedOff (s : State) : Prop where
  phase : s.phase = .running
  hasExpectedResponse : s.hasExpectedResponse = false
  rekey : s.rekey = none
  oldIKE : s.oldIKE = []
  oldChild : s.oldChild = none
  inboundHistory : s.inboundHistory = []
  activeChild : s.activeChild.isSome
  selectedESP : s.selectedESP.isSome
  assigned : s.assigned.isSome

namespace Loop

variable {cfg : Config}

structure Goes (cfg : Config) (now : Time) (ev : Event) (l l' : Loop) : Prop where
  enabled : ev.Enabled now l
  run : (step cfg now ev).run l = (.ok none, l')

/-- **A round after which the loop goes on is a sequence of acts.** -/
theorem Goes.acts {G : Guard} {now : Time} {ev : Event} {l l' : Loop} (h : Goes cfg now ev l l')
    (htidy : l.actor.state.rekey.isSome → l.actor.state.oldIKE = []) (hG : G.Allows cfg now ev l) :
    Acts G (ev.disarm l.actor) l'.actor :=
  (Eff.wp_of_run (wp_step cfg now htidy hG) h.run).acts rfl

/-- A sequence of rounds, each of which meets the condition `C`. -/
def Runs (cfg : Config) (C : Time → Event → Loop → Prop) : Loop → Loop → Prop :=
  Lib.Runs (fun e : Time × Event => Goes cfg e.1 e.2) fun e => C e.1 e.2

section Invariant

variable {G : Guard} {I : Running → Prop} {l l' : Loop}

omit [Crypto] in
theorem invariant_acts {ev : Event} {a a' : Running} (h : Acts G (ev.disarm a) a')
    (ha : I a ∧ a.Tidy) (hdisarm : ∀ {a} (ev : Event), I a → I (ev.disarm a))
    (hact : ∀ {a a'}, Act G a a' → a.Tidy → I a → I a') : I a' ∧ a'.Tidy := by
  refine h.invariant (I := fun a => I a ∧ a.Tidy)
    (fun h ha => ⟨hact h ha.2 ha.1, tidy_act h ha.2⟩) ⟨hdisarm ev ha.1, ?_⟩
  rw [Running.Tidy, Event.state_disarm]
  exact ha.2

theorem Runs.actor_invariant {C : Time → Event → Loop → Prop} (h : Runs cfg C l l')
    (hl : I l.actor) (htidy : l.actor.Tidy)
    (hdisarm : ∀ {a} (ev : Event), I a → I (ev.disarm a))
    (hact : ∀ {a a'}, Act G a a' → a.Tidy → I a → I a')
    (hC : ∀ {now ev l}, C now ev l → I l.actor → G.Allows cfg now ev l) :
    I l'.actor ∧ l'.actor.Tidy :=
  Lib.Runs.invariant (I := fun l => I l.actor ∧ l.actor.Tidy) h ⟨hl, htidy⟩ fun hc hgo hI =>
    invariant_acts (hgo.acts hI.2 (hC hc hI.1)) hI hdisarm hact

theorem log_step {P : List Entry → Prop} {now : Time} {ev : Event} (hG : G.Allows cfg now ev l)
    (hexp : G.expires) (hl : I l.actor ∧ l.actor.Tidy)
    (hdisarm : ∀ {a} (ev : Event), I a → I (ev.disarm a))
    (hact : ∀ {a a'}, Act G a a' → a.Tidy → I a → I a') (hP : ∀ {a}, I a → P a.world.log) :
    P ((step cfg now ev).run l).2.actor.world.log := by
  rcases hrun : (step cfg now ev).run l with ⟨r, l'⟩
  have hstep := Eff.wp_of_run (wp_step cfg now hl.2 hG) hrun
  have hacts : ∀ a', Acts G (ev.disarm l.actor) a' → P a'.world.log := fun _ h =>
    hP (invariant_acts h hl hdisarm hact).1
  by_cases hr : r = .ok (some (.ok ()))
  · obtain ⟨a₁, h, ha'⟩ := hstep.shutdown hr
    dsimp only
    rw [ha']
    exact hacts a₁ h
  by_cases hgo : r = .ok none
  · exact hacts _ (hstep.acts hgo)
  obtain ⟨a₁, h, ha' | ⟨w, hw, ha'⟩⟩ := hstep.fails hexp hgo hr
  · dsimp only
    rw [ha']
    exact hacts a₁ h
  · dsimp only
    rw [ha']
    change P w.log
    rw [hw.log]
    exact hacts a₁ h

end Invariant

/-- The loop after a round, if the event can happen and the loop goes on. -/
def next (cfg : Config) (e : Time × Event) (l : Loop) : Option Loop :=
  if e.2.Enabled e.1 l then
    match (step cfg e.1 e.2).run l with
    | (.ok none, l') => some l'
    | _ => none
  else none

variable {e : Time × Event} {l l' : Loop}

theorem goes_of_next (h : next cfg e l = some l') :
    Goes cfg e.1 e.2 l l' := by
  unfold next at h
  split_ifs at h with hen
  split at h
  · next hrun =>
    cases h
    exact ⟨hen, hrun⟩
  · cases h

/-- The loop after a list of events, if they can happen and the loop goes on after each. -/
abbrev follow (cfg : Config) : List (Time × Event) → Loop → Option Loop := Lib.follow (next cfg)

theorem runs_of_follow {evs : List (Time × Event)} (h : follow cfg evs l = some l') :
    Runs cfg (fun _ _ _ => True) l l' :=
  Lib.runs_of_follow h fun _ _ => fun h => ⟨trivial, goes_of_next h⟩

theorem follow_cons {evs : List (Time × Event)} (h : follow cfg (e :: evs) l = some l') :
    ∃ l₁, Goes cfg e.1 e.2 l l₁ ∧ follow cfg evs l₁ = some l' := by
  obtain ⟨l₁, hnext, h⟩ := Lib.follow_cons.mp h
  exact ⟨l₁, goes_of_next hnext, h⟩

theorem goes_of_follow (h : follow cfg [e] l = some l') :
    Goes cfg e.1 e.2 l l' := by
  obtain ⟨l₁, hgo, hnil⟩ := follow_cons h
  cases hnil
  exact hgo

theorem exists_of_follow (cfg : Config) (l : Loop) (evs : List (Time × Event)) {P : Loop → Prop}
    [DecidablePred P] (h : (follow cfg evs l).any (fun l' => decide (P l')) = true) :
    ∃ l', follow cfg evs l = some l' ∧ P l' := by
  simpa using (Option.any_eq_true _ _).mp h

/-- The last frame that went to the transport, as a packet. -/
def lastPacket (l : Loop) : Packet :=
  match (logFrames l.actor.world.log).getLast? with
  | some f => ⟨f.kind, f.payload⟩
  | none => ⟨.ike, []⟩

/-- What can happen at the two ends of a session. -/
inductive Move where
  | here (now : Time) (ev : Event)
  | there (now : Time) (ev : Event)
  /-- The last packet of the other end arrives. -/
  | receive (now : Time)
  /-- The last packet of this end arrives at the other one. -/
  | deliver (now : Time)

/-- A round of this end, if it meets the condition. -/
abbrev nextIf (cfg : Config) (C : Time → Event → Loop → Bool) : Time × Event → Loop → Option Loop :=
  onlyIf (fun e l => C e.1 e.2 l) (next cfg)

/-- The two ends of a session after a list of moves, if they can happen, both loops go on, and the
rounds of this end meet the condition `C`. -/
def exchange (cfg : Config) (C : Time → Event → Loop → Bool) :
    List Move → Loop → Loop → Option (Loop × Loop)
  | [], l, p => some (l, p)
  | .here now ev :: ms, l, p => (nextIf cfg C (now, ev) l).bind fun l => exchange cfg C ms l p
  | .there now ev :: ms, l, p => (next cfg (now, ev) p).bind fun p => exchange cfg C ms l p
  | .receive now :: ms, l, p =>
    (nextIf cfg C (now, .packet (some p.lastPacket)) l).bind fun l => exchange cfg C ms l p
  | .deliver now :: ms, l, p =>
    (next cfg (now, .packet (some l.lastPacket)) p).bind fun p => exchange cfg C ms l p

theorem runs_of_exchange {C : Time → Event → Loop → Bool} : ∀ {ms : List Move} {l p l' p' : Loop},
    exchange cfg C ms l p = some (l', p') → Runs cfg (fun now ev l => C now ev l = true) l l'
  | [], l, p, l', p', h => by cases h; exact .refl
  | .here now ev :: ms, l, p, l', p', h | .receive now :: ms, l, p, l', p', h => by
    obtain ⟨l₁, h₁, h⟩ := Option.bind_eq_some_iff.mp h
    obtain ⟨hC, h₁⟩ := onlyIf_eq_some.mp h₁
    exact .head ⟨_, hC, goes_of_next h₁⟩ (runs_of_exchange h)
  | .there now ev :: ms, l, p, l', p', h | .deliver now :: ms, l, p, l', p', h => by
    obtain ⟨p₁, -, h⟩ := Option.bind_eq_some_iff.mp h
    exact runs_of_exchange h

theorem exists_of_exchange (cfg : Config) (C : Time → Event → Loop → Bool) (l p : Loop)
    (ms : List Move) {P : Loop → Prop} [DecidablePred P]
    (h : (exchange cfg C ms l p).any (fun x => decide (P x.1)) = true) :
    ∃ l', Runs cfg (fun now ev l => C now ev l = true) l l' ∧ P l' := by
  obtain ⟨x, hx, hP⟩ := (Option.any_eq_true _ _).mp h
  exact ⟨x.1, runs_of_exchange hx, by simpa using hP⟩

section Start

variable (cfg : Config) (now : Time) (s : State) (w : World)

omit [Crypto]

theorem actor_start : ∃ ti tc deadline lease, (start cfg now s w).actor =
    { state := s, ikeSoft := some ti, childSoft := some tc, leaseTimer := lease, retryTimer := none
      leaseDeadline := deadline, leasePending := false, retryKind := .child, retryTrigger := .time
      sa := 0, world := { w with jitter := fun k => w.jitter (k + 2) } } := by
  have h : (start cfg now s w).actor = ((armLeaseTimer now).run
      { state := s
        ikeSoft := some (now + rekeyDeadline cfg.rekey.ikeTime cfg.rekey.randTime (w.jitter 0))
        childSoft := some (now + rekeyDeadline cfg.rekey.childTime cfg.rekey.randTime (w.jitter 1))
        leaseTimer := none, retryTimer := none, leaseDeadline := none, leasePending := false
        retryKind := .child, retryTrigger := .time, sa := 0
        world := { w with jitter := fun k => w.jitter (k + 2) } }).2 := rfl
  rw [h, armLeaseTimer, Eff.run_modify]
  dsimp only
  split
  · exact ⟨_, _, _, _, rfl⟩
  · split_ifs
    · exact ⟨_, _, _, _, rfl⟩
    · exact ⟨_, _, _, _, rfl⟩

@[simp] theorem state_actor_start : (start cfg now s w).actor.state = s := by
  obtain ⟨ti, tc, deadline, lease, h⟩ := actor_start cfg now s w
  rw [h]

@[simp] theorem sa_actor_start : (start cfg now s w).actor.sa = 0 := by
  obtain ⟨ti, tc, deadline, lease, h⟩ := actor_start cfg now s w
  rw [h]

@[simp] theorem log_actor_start : (start cfg now s w).actor.world.log = w.log := by
  obtain ⟨ti, tc, deadline, lease, h⟩ := actor_start cfg now s w
  rw [h]

@[simp] theorem leasePending_actor_start : (start cfg now s w).actor.leasePending = false := by
  obtain ⟨ti, tc, deadline, lease, h⟩ := actor_start cfg now s w
  rw [h]

end Start

end Loop

section Smooth

variable {cfg : Config} {now t₀ : Time} {ev : Event} {s : State} {w : World} {l l' : Loop}

omit [Crypto] in
theorem tidy_start (hs : s.HandedOff) : (Loop.start cfg now s w).actor.Tidy := by
  rw [Running.Tidy, Loop.state_actor_start]
  exact fun _ => hs.oldIKE

theorem Loop.Goes.smooth (hgo : Loop.Goes cfg now ev l l')
    (h : l.actor.world.Smooth ∧ l.actor.Tidy) : l'.actor.world.Smooth ∧ l'.actor.Tidy :=
  (hgo.acts h.2 (Guard.any_allows cfg now ev l)).invariant
    (I := fun a => a.world.Smooth ∧ a.Tidy)
    (fun hact h => ⟨smooth_act hact h.1, tidy_act hact h.2⟩)
    ⟨by simpa using h.1, by simpa [Running.Tidy] using h.2⟩

omit [Crypto] in
theorem smooth_start (hs : s.HandedOff) (hw : w.Smooth) :
    (Loop.start cfg t₀ s w).actor.world.Smooth ∧ (Loop.start cfg t₀ s w).actor.Tidy := by
  refine ⟨?_, tidy_start hs⟩
  obtain ⟨ti, tc, deadline, lease, h⟩ := Loop.actor_start cfg t₀ s w
  rw [h]
  exact ⟨hw.rng, hw.cancel, hw.ack, hw.full⟩

end Smooth

/-! ### A session

A configuration, a state at the handover and a world in which nothing fails, for runs on concrete
inputs. -/

section Session

omit [Crypto]

/-- AES-128-CBC with HMAC-SHA2-256 and Curve25519. -/
def cbcProposal : Xcrypto.Proposal where
  encryption := [⟨transformEncryptionAESCBC, 16⟩]
  integrity := [transformIntegrityHMACSHA2256128]
  prf := [transformPRFHMACSHA256]
  dh := [transformDHCurve25519]

/-- Rekeys after 4000 and 1000 seconds, two transmissions of every request. -/
def sampleConfig : Config where
  ike := [cbcProposal]
  esp := [cbcProposal]
  strongswanCompatible := false
  rekey := ⟨4000 * second, 1000 * second, false, 0, 30 * second⟩
  timeouts := ⟨second, 4 * second, 1, 20 * second, 0⟩
  fragmentPlaintextLimit := 0
  dataUpdates := true

def sampleChild : ChildSA := ⟨7, 8, [1], [2], true⟩

def sampleAssigned : AssignedConfig := ⟨some [10, 0, 0, 2], none, 0, [], [], 0⟩

def sampleSession : State :=
  { newState with
    phase := .running
    nextRequestMessageID := 5
    initiatorSPI := 1
    responderSPI := 2
    selectedIKE := some cbcSelection
    ikeKeys := some cbcKeys
    selectedESP := some cbcSelection
    activeChild := some sampleChild
    assigned := some sampleAssigned }

def sampleWorld : World :=
  ⟨zeroRng, fun _ => 0, fun _ => false, fun _ => .acked, fun _ => false, []⟩

theorem handedOff_sampleSession : sampleSession.HandedOff :=
  ⟨rfl, rfl, rfl, rfl, rfl, rfl, rfl, rfl, rfl⟩

def sampleStart : Loop := Loop.start sampleConfig 0 sampleSession sampleWorld

/-- The other end of the session when its loop starts, with the id of its next request. -/
def samplePeerAt (msgID : UInt32) : Loop :=
  Loop.start sampleConfig 0 { sampleSession with
    isOriginalInitiator := !sampleSession.isOriginalInitiator
    nextRequestMessageID := msgID
    activeChild := some ⟨8, 7, [2], [1], false⟩ } { sampleWorld with rng := countingRng }

def samplePeer : Loop := samplePeerAt 1

theorem smooth_sampleWorld : sampleWorld.Smooth :=
  ⟨fun _ => rfl, fun _ => rfl, fun _ => rfl, fun _ => rfl⟩

end Session

/-- The packet that the peer of a state sends: a message with one payload, or without. -/
def State.peerPacket (s : State) (exchange : ExchangeType) (msgID : UInt32)
    (flags : IkeEnvelope → Flags) (payload : Option (PayloadType × Bytes)) : Packet :=
  let env := { stateIKEEnvelope s with isOriginalInitiator := !s.isOriginalInitiator }
  let (next, plaintext) := match payload with
    | some (type, body) => (type, cepSinglePayload body)
    | none => (PayloadType.none, [])
  match ((buildProtectedEnvelopeAs none env exchange msgID next plaintext (flags env)).run
      zeroRng).1 with
  | .ok [f] => ⟨f.kind, f.payload⟩
  | _ => ⟨.ike, []⟩

end Swan.Control
