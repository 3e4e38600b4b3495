import Swan.Control.Triggers
import Swan.Session.Updates

/-! # Control plane and data plane agree on the children

The actor appends updates to a queue and `watchControlUpdates` applies them at its own pace
(`Feed`). `planes_agree`: once the queue is empty, the inbound codecs are those of the active and of
the replaced child, in runs in which no child is replaced while another replaced child is retained,
and none is forgotten with a rekey. Otherwise a codec stays for good (`forgotten_codec`). -/

namespace Swan.Session

open Swan.Lib Swan.Wire Swan.Xcrypto Swan.Control Swan.Esp

/-! ### The data plane after a sequence of updates -/

/-- The children of a session have different SPIs, and no inbound SPI is 0. -/
structure SPIsDistinct (child₀ : ChildSA) (us : List DataplaneUpdate) : Prop where
  inbound : ((child₀ :: installedChildren us).map ChildSA.inboundSPI).Nodup
  outbound : ((child₀ :: installedChildren us).map ChildSA.outboundSPI).Nodup
  ne_zero : ∀ c ∈ child₀ :: installedChildren us, c.inboundSPI ≠ 0

theorem SPIsDistinct.of_append {child₀ : ChildSA} {us us' : List DataplaneUpdate}
    (h : SPIsDistinct child₀ (us ++ us')) : SPIsDistinct child₀ us := by
  have hsub : (child₀ :: installedChildren us).Sublist (child₀ :: installedChildren (us ++ us')) := by
    rw [installedChildren_append]
    exact (List.sublist_append_left _ _).cons_cons child₀
  exact ⟨h.inbound.sublist (hsub.map _), h.outbound.sublist (hsub.map _),
    fun c hc => h.ne_zero c (hsub.subset hc)⟩

/-- The data plane `d₀` after the updates `us` serves the active and the replaced child. -/
structure Agrees (flow : FlowConfig) (child₀ : ChildSA) (d₀ : Dataplane) (active old : Option ChildSA)
    (assigned : Option AssignedConfig) (us : List DataplaneUpdate) : Prop where
  current : ∀ c, active = some c → (replay (watchControlUpdates flow) d₀ us).tunnel.childSA = c
  outbound : ∀ c, active = some c →
    (replay (watchControlUpdates flow) d₀ us).pipeline.outbound.cfg.spi = c.outboundSPI
  inbound : ∀ c, active = some c → ∀ spi,
    spi ∈ (replay (watchControlUpdates flow) d₀ us).pipeline.inbound.spis ↔
      spi = c.inboundSPI ∨ ∃ o, old = some o ∧ spi = o.inboundSPI
  /-- The active child is the last one, the replaced one an earlier one. -/
  order : ∀ c, active = some c → ∃ past, child₀ :: installedChildren us = past ++ [c] ∧
    ∀ o, old = some o → o ∈ past
  assigned : assigned = some (replay (watchControlUpdates flow) d₀ us).tunnel.assigned

namespace Agrees

variable {flow : FlowConfig} {child₀ : ChildSA} {d₀ : Dataplane} {active old : Option ChildSA}
  {assigned : Option AssignedConfig} {us : List DataplaneUpdate}

theorem start (flow : FlowConfig) (child₀ : ChildSA) (sel : Selection) (keys : ChildKeys) (config : AssignedConfig) :
    Agrees flow child₀ (Dataplane.start flow child₀ sel keys config) (some child₀) none (some config) [] where
  current c hc := Option.some.inj hc
  outbound c hc := congrArg ChildSA.outboundSPI (Option.some.inj hc)
  inbound c hc spi := by
    obtain rfl := Option.some.inj hc
    change spi ∈ (InboundTable.empty.insert (newInbound (childInboundConfig child₀ sel keys))).spis ↔ _
    rw [InboundTable.mem_spis_insert]
    simp [InboundTable.spis, InboundTable.empty, newInbound, childInboundConfig]
  order c hc := ⟨[], by rw [Option.some.inj hc]; rfl, fun _ h => by cases h⟩
  assigned := rfl

theorem ne_of_order {past : List ChildSA} {c o : ChildSA} (hd : SPIsDistinct child₀ us)
    (hpast : child₀ :: installedChildren us = past ++ [c]) (ho : o ∈ past) :
    o.inboundSPI ≠ c.inboundSPI ∧ o.outboundSPI ≠ c.outboundSPI := by
  have hin := hd.inbound
  have hout := hd.outbound
  rw [hpast, List.map_append, List.nodup_append] at hin hout
  exact ⟨hin.2.2 _ (List.mem_map_of_mem ho) _ (by simp),
    hout.2.2 _ (List.mem_map_of_mem ho) _ (by simp)⟩

theorem install {o : ChildSA} (h : Agrees flow child₀ d₀ (some o) none assigned us)
    (child : ChildSA) (keys : ChildKeys) (sel : Selection) :
    Agrees flow child₀ d₀ (some child) (some o) assigned (us ++ [.childInstalled child keys sel]) where
  current c hc := by
    rw [replay_concat]
    exact Option.some.inj hc
  outbound c hc := by
    rw [replay_concat, ← Option.some.inj hc]
    rfl
  inbound c hc spi := by
    obtain rfl := Option.some.inj hc
    rw [replay_concat]
    refine InboundTable.mem_spis_insert.trans ?_
    rw [h.inbound o rfl]
    simp [newInbound, childInboundConfig, or_comm]
  order c hc := by
    obtain ⟨past, hpast, -⟩ := h.order o rfl
    refine ⟨past ++ [o], ?_, fun o' ho' => ?_⟩
    · rw [installedChildren_append, ← List.cons_append, hpast, ← Option.some.inj hc]
      rfl
    · rw [← Option.some.inj ho']
      simp
  assigned := by
    rw [replay_concat]
    exact h.assigned

theorem drop {o : ChildSA} (h : Agrees flow child₀ d₀ active (some o) assigned us)
    (hd : SPIsDistinct child₀ us) :
    Agrees flow child₀ d₀ active none assigned (us ++ [.childDeleted o]) := by
  have hinst : installedChildren (us ++ [.childDeleted o]) = installedChildren us := by
    simp [installedChildren]
  have hdrop : ∀ c, active = some c →
      replay (watchControlUpdates flow) d₀ (us ++ [.childDeleted o]) =
        { replay (watchControlUpdates flow) d₀ us with
          pipeline := (replay (watchControlUpdates flow) d₀ us).pipeline.dropInboundSPI o.inboundSPI } := by
    intro c hc
    obtain ⟨past, hpast, hold⟩ := h.order c hc
    rw [replay_concat]
    refine if_neg ?_
    rw [h.current c hc]
    exact (ne_of_order hd hpast (hold o rfl)).2.symm
  refine ⟨fun c hc => ?_, fun c hc => ?_, fun c hc spi => ?_, fun c hc => ?_, ?_⟩
  · rw [hdrop c hc]
    exact h.current c hc
  · rw [hdrop c hc, Pipeline.outbound_dropInboundSPI]
    exact h.outbound c hc
  · obtain ⟨past, hpast, hold⟩ := h.order c hc
    have hne : o.inboundSPI ≠ 0 := hd.ne_zero o (by
      rw [hpast]
      exact List.mem_append_left _ (hold o rfl))
    have hactive := (ne_of_order hd hpast (hold o rfl)).1
    rw [hdrop c hc, Pipeline.mem_spis_dropInboundSPI hne, h.inbound c hc]
    constructor
    · rintro ⟨h | ⟨o', ho', h⟩, hspi⟩
      · exact .inl h
      · obtain rfl := Option.some.inj ho'
        exact absurd h hspi
    · rintro (rfl | ⟨o', ho', -⟩)
      · exact ⟨.inl rfl, hactive.symm⟩
      · cases ho'
  · obtain ⟨past, hpast, -⟩ := h.order c hc
    exact ⟨past, by rw [hinst]; exact hpast, fun _ h => by cases h⟩
  · rw [h.assigned, replay_concat, watchControlUpdates]
    split <;> rfl

theorem noActive {c : ChildSA} (h : Agrees flow child₀ d₀ active old assigned us) :
    Agrees flow child₀ d₀ none old assigned (us ++ [.childDeleted c]) where
  current _ hc := by cases hc
  outbound _ hc := by cases hc
  inbound _ hc := by cases hc
  order _ hc := by cases hc
  assigned := by
    rw [h.assigned, replay_concat, watchControlUpdates]
    split <;> rfl

theorem assign (h : Agrees flow child₀ d₀ active old assigned us) (config : AssignedConfig) :
    Agrees flow child₀ d₀ active old (some config) (us ++ [.assigned config]) := by
  have hinst : installedChildren (us ++ [.assigned config]) = installedChildren us := by
    simp [installedChildren]
  refine ⟨fun c hc => ?_, fun c hc => ?_, fun c hc => ?_, fun c hc => ?_, ?_⟩
  · rw [replay_concat]; exact h.current c hc
  · rw [replay_concat]; exact h.outbound c hc
  · rw [replay_concat]; exact h.inbound c hc
  · rw [hinst]; exact h.order c hc
  · rw [replay_concat]; rfl

end Agrees

/-! ### Acts -/

/-- The actor and the data plane after all its updates agree, while the SPIs are different. -/
def Consistent (flow : FlowConfig) (child₀ : ChildSA) (d₀ : Dataplane) (a : Running) : Prop :=
  SPIsDistinct child₀ (logUpdates a.world.log) →
    Agrees flow child₀ d₀ a.state.activeChild a.state.oldChild a.state.assigned
      (logUpdates a.world.log)

/-- The guard under which updates get through and no replaced child is forgotten. -/
def Guard.consistent : Guard :=
  { Guard.any with
    ackFails := False
    lost := False
    installs := fun _ a => a.state.oldChild = none
    installs_idle := id
    abandon := fun _ a => a.state.oldChild = none
    abandon_idle := id
    peerChild := fun a => a.state.oldChild = none
    peerChild_idle := id }

theorem logUpdates_append (log es : List Entry) :
    logUpdates (log ++ es) = logUpdates log ++ logUpdates es := List.filterMap_append

theorem logUpdates_eq_nil {es : List Entry} (h : ∀ e ∈ es, e.Plain) : logUpdates es = [] := by
  refine List.filterMap_eq_nil_iff.mpr fun e he => ?_
  cases e with
  | update u => exact absurd (h _ he) id
  | _ => rfl

variable {flow : FlowConfig} {child₀ : ChildSA} {d₀ : Dataplane} {a a' : Running}

theorem Consistent.congr (h : Consistent flow child₀ d₀ a)
    (hlog : logUpdates a'.world.log = logUpdates a.world.log)
    (hactive : a'.state.activeChild = a.state.activeChild)
    (hold : a'.state.oldChild = a.state.oldChild)
    (hassigned : a'.state.assigned = a.state.assigned) : Consistent flow child₀ d₀ a' := by
  unfold Consistent
  rw [hlog, hactive, hold, hassigned]
  exact h

theorem logUpdates_concat_of_not_update {log : List Entry} {e : Entry} (h : ∀ u, e ≠ .update u) :
    logUpdates (log ++ [e]) = logUpdates log := by
  rw [logUpdates_append]
  cases e with
  | update u => exact absurd rfl (h u)
  | _ => exact List.append_nil _

theorem logUpdates_concat_update (log : List Entry) (u : DataplaneUpdate) :
    logUpdates (log ++ [.update u]) = logUpdates log ++ [u] := logUpdates_append log [.update u]

theorem Consistent.agrees {u : DataplaneUpdate} (h : Consistent flow child₀ d₀ a)
    (hd : SPIsDistinct child₀ (logUpdates a.world.log ++ [u])) :
    Agrees flow child₀ d₀ a.state.activeChild a.state.oldChild a.state.assigned
      (logUpdates a.world.log) := h hd.of_append

theorem Consistent.install {old child : ChildSA} (keys : ChildKeys) (sel : Selection)
    (h : Consistent flow child₀ d₀ a) (hactive : a.state.activeChild = some old)
    (hold : a.state.oldChild = none)
    (hlog : logUpdates a'.world.log = logUpdates a.world.log ++ [.childInstalled child keys sel])
    (hactive' : a'.state.activeChild = some child) (hold' : a'.state.oldChild = some old)
    (hassigned : a'.state.assigned = a.state.assigned) : Consistent flow child₀ d₀ a' := by
  intro hd
  rw [hlog] at hd ⊢
  rw [hactive', hold', hassigned]
  have hag := h.agrees hd
  rw [hactive, hold] at hag
  exact hag.install child keys sel

theorem Consistent.drop {old : ChildSA} (h : Consistent flow child₀ d₀ a)
    (hold : a.state.oldChild = some old)
    (hlog : logUpdates a'.world.log = logUpdates a.world.log ++ [.childDeleted old])
    (hactive' : a'.state.activeChild = a.state.activeChild) (hold' : a'.state.oldChild = none)
    (hassigned : a'.state.assigned = a.state.assigned) : Consistent flow child₀ d₀ a' := by
  intro hd
  rw [hlog] at hd ⊢
  rw [hactive', hold', hassigned]
  have hag := h.agrees hd
  rw [hold] at hag
  exact hag.drop hd.of_append

theorem consistent_act (h : Act Guard.consistent a a') (hc : Consistent flow child₀ d₀ a) :
    Consistent flow child₀ d₀ a' := by
  cases h with
  | calm h =>
    obtain ⟨es, hes, hd⟩ := h
    refine hc.congr ?_ rfl rfl rfl
    rw [show _ = a.world.log ++ es from hd.log, logUpdates_append, logUpdates_eq_nil hes,
      List.append_nil]
  | fragments | answered | remember | dropLease | finishOld => exact hc
  | sendRequest | keepalive | startRekey | lease | leaseFailed | oldSend =>
    exact hc.congr (logUpdates_concat_of_not_update (by simp)) rfl rfl rfl
  | startFailed t hsafe g =>
    exact hc.congr (logUpdates_concat_of_not_update (by simp)) rfl (Eq.symm g) rfl
  | abandon _ _ g | abandonRetry _ _ _ g => exact hc.congr rfl rfl (Eq.symm g) rfl
  | @replaceChild rc old child keys selection t frames h hrekey hkind hactive g =>
    refine hc.install keys selection hactive g ?_ rfl hactive rfl
    exact (logUpdates_concat_of_not_update (by simp)).trans (logUpdates_concat_update _ _)
  | @replaceChildUnsealed rc old child keys selection t h hrekey hkind hactive gi g =>
    exact hc.install keys selection hactive gi (logUpdates_concat_update _ _)
      rfl hactive rfl
  | ackFailed child keys selection g => exact absurd g id
  | finishDelete msgID through h hrekey hp hphase g =>
    obtain rfl : through = true := eq_true_of_ne_false g
    cases hold : a.state.oldChild with
    | none => exact hc.congr rfl rfl hold.symm rfl
    | some old => exact hc.drop hold (logUpdates_concat_update _ _) rfl rfl rfl
  | replaceIKE | replaceIKEUnsealed | peerIKE | oldRemember =>
    exact hc.congr rfl (activeChild_mapOldIKE _ _) (oldChild_mapOldIKE _ _) (assigned_mapOldIKE _ _)
  | @peerChild old child keys selection t hold g =>
    exact hc.install keys selection hold g (logUpdates_concat_update _ _) rfl rfl
      rfl
  | @dropOldChild old through hold g =>
    obtain rfl : through = true := eq_true_of_ne_false g
    refine hc.drop hold ?_ rfl rfl rfl
    exact (logUpdates_concat_update _ _).trans
      (congrArg (· ++ _) (logUpdates_concat_of_not_update (by simp)))
  | @dropActiveChild active through hactive g =>
    obtain rfl : through = true := eq_true_of_ne_false g
    intro hd
    have hlog : logUpdates (a.world.log ++ [.peerDeleted active.outboundSPI false] ++
        [.update (.childDeleted active)]) = logUpdates a.world.log ++ [.childDeleted active] :=
      (logUpdates_concat_update _ _).trans
        (congrArg (· ++ _) (logUpdates_concat_of_not_update (by simp)))
    change SPIsDistinct child₀ (logUpdates (a.world.log ++ [.peerDeleted active.outboundSPI false] ++
        [.update (.childDeleted active)])) at hd
    change Agrees flow child₀ d₀ none a.state.oldChild a.state.assigned (logUpdates (a.world.log ++
      [.peerDeleted active.outboundSPI false] ++ [.update (.childDeleted active)]))
    rw [hlog] at hd ⊢
    exact (hc.agrees hd).noActive
  | assign config deadline timer through ht g hnew =>
    cases through with
    | false =>
      exact hc.congr rfl rfl rfl ((g rfl).resolve_left id).symm
    | true =>
      intro hd
      change SPIsDistinct child₀ (logUpdates (a.world.log ++ [.update (.assigned config)])) at hd
      change Agrees flow child₀ d₀ a.state.activeChild a.state.oldChild (some config)
        (logUpdates (a.world.log ++ [.update (.assigned config)]))
      rw [logUpdates_concat_update] at hd ⊢
      exact (hc.agrees hd).assign config
  | oldGiveUp =>
    exact hc.congr (logUpdates_concat_of_not_update (by simp)) (activeChild_mapOldIKE _ _)
      (oldChild_mapOldIKE _ _) (assigned_mapOldIKE _ _)

/-! ### Runs -/

section Runs

variable [Crypto] {cfg : Config} {now t₀ : Time} {ev : Event} {l l' : Loop} {s : State} {w : World}

/-- The updates get through and the installs are acknowledged; and while a replaced child is
retained, no rekey of ours starts or is in flight and no child rekey request of the peer arrives. -/
structure Loop.InStep (cfg : Config) (now : Time) (ev : Event) (l : Loop) : Prop where
  wired : cfg.dataUpdates = true
  acked : ∀ k, l.actor.world.ack k = .acked
  room : ∀ k, l.actor.world.full k = false
  idle : l.actor.state.oldChild.isSome → l.actor.state.rekey = none
  start : l.actor.state.oldChild.isSome → ev.rekey cfg now l.actor ≠ none →
    l.actor.state.safeToRekey = false
  peer : ∀ pkt inner, ev = .packet (some pkt) → l.actor.PeerRekeys now pkt inner → HasTS inner →
    l.actor.state.oldChild = none

theorem Guard.consistent_allows (h : Loop.InStep cfg now ev l) :
    Guard.consistent.Allows cfg now ev l := by
  have hidle : ∀ rc, l.actor.state.rekey = some rc → l.actor.state.oldChild = none := by
    intro rc hrc
    by_contra hne
    have hnone := h.idle (Option.isSome_iff_ne_none.mpr hne)
    rw [hnone] at hrc
    cases hrc
  have hstart : ∀ start, ev.rekey cfg now l.actor = some start →
      l.actor.state.safeToRekey = true → l.actor.state.oldChild = none := by
    intro start hev hsafe
    by_contra hne
    have hfalse := h.start (Option.isSome_iff_ne_none.mpr hne) (by rw [hev]; simp)
    rw [hsafe] at hfalse
    cases hfalse
  refine ⟨⟨.inl trivial, .inr h.acked, .inr ⟨h.wired, h.room⟩⟩, fun pkt hev => ⟨?_, ?_, ?_,
      fun _ _ _ _ _ => .inl trivial, fun _ _ _ _ _ _ => .inl trivial⟩,
    fun _ _ _ hrekey => ?_, fun _ _ => trivial, fun start hev hsafe => ?_, ?_, fun _ => trivial,
    fun _ => trivial⟩
  · exact fun _ _ _ _ rc hrc => .inl (hidle rc hrc)
  · exact fun _ _ _ _ rc hrc => hidle rc hrc
  · refine fun inner hpeer => ⟨fun hts _ => h.peer pkt inner hev hpeer hts, ?_, fun _ _ _ => trivial, ?_⟩
    · rintro _ ⟨rc, p, hrc, -⟩
      exact ⟨hidle rc hrc, rfl⟩
    · rintro _ ⟨rc, ni, hrc, -⟩
      exact ⟨hidle rc hrc, trivial⟩
  · obtain ⟨rc, hrc⟩ := Option.isSome_iff_exists.mp hrekey
    exact hidle rc hrc
  · refine .inl ?_
    change (ev.disarm l.actor).state.oldChild = none
    rw [Event.state_disarm]
    exact hstart start hev hsafe
  · intro hev hsafe a' _ _ hold
    subst hev
    exact hold.trans (hstart _ rfl hsafe)

/-- What the two planes keep in step. -/
structure Running.InAgreement (flow : FlowConfig) (child₀ : ChildSA) (d₀ : Dataplane)
    (a : Running) : Prop where
  tidy : a.Tidy
  consistent : Consistent flow child₀ d₀ a

omit [Crypto] in
theorem Running.InAgreement.disarm {a : Running} (h : Running.InAgreement flow child₀ d₀ a)
    (ev : Event) : Running.InAgreement flow child₀ d₀ (ev.disarm a) where
  tidy := by simpa [Running.Tidy] using h.tidy
  consistent := h.consistent.congr (by rw [Event.world_disarm]) (by rw [Event.state_disarm])
    (by rw [Event.state_disarm]) (by rw [Event.state_disarm])

/-- The control plane and the data plane of a session. -/
abbrev System := Feed Loop Dataplane

/-- The updates that the control plane has sent so far. -/
def sentUpdates (l : Loop) : List DataplaneUpdate := logUpdates l.actor.world.log

/-- A round of the control plane that meets the condition. -/
def Loop.Proceeds (cfg : Config) (C : Time → Event → Loop → Prop) (l l' : Loop) : Prop :=
  ∃ e : Time × Event, C e.1 e.2 l ∧ Loop.Goes cfg e.1 e.2 l l'

/-- Any interleaving of the rounds of the control plane with `watchControlUpdates`. -/
abbrev System.Runs (cfg : Config) (flow : FlowConfig) (C : Time → Event → Loop → Prop) :
    System → System → Prop :=
  Feed.Runs sentUpdates (watchControlUpdates flow) (Loop.Proceeds cfg C)

def System.dataUpdates (f : System) : List DataplaneUpdate := f.queue sentUpdates

/-- A session when both planes start. -/
def System.start (cfg : Config) (flow : FlowConfig) (t₀ : Time) (s : State) (w : World)
    (child₀ : ChildSA) (sel : Selection) (keys : ChildKeys) (config : AssignedConfig) : System :=
  ⟨Loop.start cfg t₀ s w, 0, Dataplane.start flow child₀ sel keys config⟩

theorem tidy_goes (hgo : Loop.Goes cfg now ev l l') (h : l.actor.Tidy) : l'.actor.Tidy :=
  (hgo.acts h (Guard.any_allows cfg now ev l)).invariant (I := Running.Tidy) tidy_act
    (by simpa [Running.Tidy] using h)

theorem sentUpdates_goes (hgo : Loop.Goes cfg now ev l l') (h : l.actor.Tidy) :
    sentUpdates l <+: sentUpdates l' := by
  have hlog : l.actor.world.log <+: l'.actor.world.log := by
    refine (hgo.acts h (Guard.any_allows cfg now ev l)).invariant
      (I := fun a => l.actor.world.log <+: a.world.log) (fun hact hlog => hlog.trans (log_act hact)) ?_
    rw [Event.world_disarm]
  exact hlog.filterMap _

theorem System.replayed {C : Time → Event → Loop → Prop} {sel : Selection} {keys : ChildKeys}
    {config : AssignedConfig} {f : System} (hs : s.HandedOff) (hw : w.log = [])
    (h : System.Runs cfg flow C (System.start cfg flow t₀ s w child₀ sel keys config) f) :
    f.Replayed sentUpdates (watchControlUpdates flow)
      (Dataplane.start flow child₀ sel keys config) := by
  refine Feed.sink_eq_replay (I := fun l => l.actor.Tidy) ?_ ?_ (tidy_start hs) ?_ h
  · rintro l l' ⟨e, -, hgo⟩ ht
    exact tidy_goes hgo ht
  · rintro l l' ⟨e, -, hgo⟩ ht
    exact sentUpdates_goes hgo ht
  · rw [sentUpdates, Loop.log_actor_start, hw]
    rfl

/-- **The two planes agree** once the updates are applied, in every run in which the updates get
through and no rekey of ours and no child rekey of the peer happens while a replaced child is
retained; the children of the session have different SPIs. -/
theorem planes_agree {config : AssignedConfig} (sel : Selection) (keys : ChildKeys)
    (hs : s.HandedOff) (hw : w.log = []) (hchild : s.activeChild = some child₀)
    (hassigned : s.assigned = some config) {f : System}
    (h : System.Runs cfg flow (Loop.InStep cfg)
      (System.start cfg flow t₀ s w child₀ sel keys config) f)
    (hdistinct : SPIsDistinct child₀ (sentUpdates f.source)) (hqueue : f.dataUpdates = [])
    {active : ChildSA} (hactive : f.source.actor.state.activeChild = some active) :
    (∀ spi, spi ∈ f.sink.pipeline.inbound.spis ↔ spi = active.inboundSPI ∨
      ∃ old, f.source.actor.state.oldChild = some old ∧ spi = old.inboundSPI) ∧
    f.sink.pipeline.outbound.cfg.spi = active.outboundSPI ∧
    f.source.actor.state.assigned = some f.sink.tunnel.assigned := by
  have hstart : Running.InAgreement flow child₀ (Dataplane.start flow child₀ sel keys config)
      (Loop.start cfg t₀ s w).actor := by
    refine ⟨tidy_start hs, fun _ => ?_⟩
    rw [Loop.log_actor_start, Loop.state_actor_start, hw, hchild, hs.oldChild, hassigned]
    exact Agrees.start flow child₀ sel keys config
  have hagree : Running.InAgreement flow child₀ (Dataplane.start flow child₀ sel keys config)
      f.source.actor := by
    refine Feed.source_invariant (I := fun l => Running.InAgreement flow child₀
      (Dataplane.start flow child₀ sel keys config) l.actor) ?_ hstart h
    rintro l l' ⟨e, hC, hgo⟩ hl
    exact (hgo.acts hl.tidy (Guard.consistent_allows hC)).invariant
      (fun hact ha => ⟨tidy_act hact ha.tidy, consistent_act hact ha.consistent⟩) (hl.disarm e.2)
  have hsink := Feed.sink_of_queue_nil (System.replayed hs hw h) hqueue
  have hag := hagree.consistent hdistinct
  rw [hsink]
  exact ⟨hag.inbound active hactive, hag.outbound active hactive, hag.assigned⟩

variable (flow) in
theorem System.exists_drained {C : Time → Event → Loop → Prop} (h : Loop.Runs cfg C l l')
    (d : Dataplane) : ∃ f : System, System.Runs cfg flow C ⟨l, 0, d⟩ f ∧ f.source = l' ∧
      f.dataUpdates = [] := by
  obtain ⟨f, hf, hsrc, hq⟩ := Feed.exists_drained sentUpdates (watchControlUpdates flow)
    (Loop.Proceeds cfg C) ⟨l', 0, d⟩
  exact ⟨f, (Feed.runs_of_source h 0 d).trans hf, hsrc, hq⟩

end Runs

/-! ### A rekey given up -/

section Sample

attribute [local instance] plainCrypto

/-- The sample session with both planes. -/
def sampleSystem : System :=
  System.start sampleConfig sampleFlow 0 sampleSession sampleWorld sampleChild cbcSelection
    cbcChildKeys sampleAssigned

/-- One child was installed, it is the active one, and the control plane retains `old`. -/
def ReplacedOnce (old : Option ChildSA) (l : Loop) : Prop :=
  l.actor.state.oldChild = old ∧
    match sentUpdates l with
    | [.childInstalled c _ _] => l.actor.state.activeChild = some c ∧ c.inboundSPI = 1 ∧
        c.outboundSPI = 16843009
    | _ => False

instance (old : Option ChildSA) : DecidablePred (ReplacedOnce old) := fun l => by
  unfold ReplacedOnce
  split <;> infer_instance

theorem ReplacedOnce.exists_child {old : Option ChildSA} {l : Loop} (h : ReplacedOnce old l) :
    ∃ c keys sel, sentUpdates l = [.childInstalled c keys sel] ∧
      l.actor.state.activeChild = some c ∧ c.inboundSPI = 1 ∧ c.outboundSPI = 16843009 := by
  obtain ⟨-, h⟩ := h
  split at h
  next c keys sel heq => exact ⟨c, keys, sel, heq, h⟩
  next => exact absurd h id

theorem ReplacedOnce.spisDistinct {old : Option ChildSA} {l : Loop} (h : ReplacedOnce old l) :
    SPIsDistinct sampleChild (sentUpdates l) := by
  obtain ⟨c, keys, sel, heq, -, hin, hout⟩ := h.exists_child
  rw [heq]
  refine ⟨?_, ?_, ?_⟩
  · simp [installedChildren, hin, sampleChild]
  · simp [installedChildren, hout, sampleChild]
  · simp [installedChildren, hin, sampleChild]

theorem smooth_runs {l : Loop} (h : Loop.Runs sampleConfig (fun _ _ _ => True) sampleStart l) :
    Loop.Runs sampleConfig (fun _ _ l => l.actor.world.Smooth) sampleStart l :=
  (h.and_invariant (I := fun l => l.actor.world.Smooth ∧ l.actor.Tidy)
    (smooth_start handedOff_sampleSession smooth_sampleWorld) fun _ hgo h => hgo.smooth h).1.mono
      fun _ _ h => h.2.1

/-- The peer rekeys the child. An own rekey of the new child then gets no answer and is given up,
and with it the control plane forgets the replaced child. -/
def forgottenChild : List Loop.Move :=
  [.there (1000 * second) .nearWrap, .receive (1000 * second), .here (1000 * second) .nearWrap,
    .here (1001 * second) .rto, .here (1005 * second) .rto]

/-- In that run, in which every install is acknowledged and every update gets through, the inbound
codec of the forgotten child stays installed. -/
theorem forgotten_codec : ∃ (f : System) (active : ChildSA),
    System.Runs sampleConfig sampleFlow (fun _ _ l => l.actor.world.Smooth) sampleSystem f ∧
    SPIsDistinct sampleChild (sentUpdates f.source) ∧ f.dataUpdates = [] ∧
    f.source.actor.state.activeChild = some active ∧
    f.source.actor.state.oldChild = none ∧
    7 ∈ f.sink.pipeline.inbound.spis ∧ active.inboundSPI ≠ 7 := by
  obtain ⟨l, hl, hone⟩ := Loop.exists_of_exchange sampleConfig (fun _ _ _ => true) sampleStart
    samplePeer forgottenChild (P := ReplacedOnce none) (by decide +kernel)
  obtain ⟨f, hf, hsrc, hq⟩ := System.exists_drained sampleFlow
    (smooth_runs (hl.mono fun _ _ _ => trivial)) sampleSystem.sink
  obtain ⟨c, keys, sel, heq, hactive, hin, -⟩ := hone.exists_child
  have hsink := Feed.sink_of_queue_nil (System.replayed handedOff_sampleSession rfl hf) hq
  rw [hsrc, heq] at hsink
  refine ⟨f, c, hf, hsrc ▸ hone.spisDistinct, hq, hsrc ▸ hactive, hsrc ▸ hone.1, ?_, ?_⟩
  · rw [hsink]
    exact (((Agrees.start sampleFlow sampleChild cbcSelection cbcChildKeys
      sampleAssigned).install c keys sel).inbound c rfl 7).mpr (.inr ⟨_, rfl, rfl⟩)
  · rw [hin]
    decide

/-- A rekey of the peer: both codecs are installed, and the outbound one is that of the new child. -/
theorem sample_planes_agree : ∃ f : System,
    f.source.actor.state.oldChild = some sampleChild ∧
    (∀ spi, spi ∈ f.sink.pipeline.inbound.spis ↔ spi = 1 ∨ spi = 7) ∧
    f.sink.pipeline.outbound.cfg.spi = 16843009 := by
  obtain ⟨l, hl, hone⟩ := Loop.exists_of_exchange sampleConfig
    (fun _ _ l => decide (l.actor.state.oldChild = none)) sampleStart samplePeer
    (forgottenChild.take 2) (P := ReplacedOnce (some sampleChild)) (by decide +kernel)
  have hstep : Loop.Runs sampleConfig (Loop.InStep sampleConfig) sampleStart l := by
    refine ((hl.and_invariant (I := fun l => l.actor.world.Smooth ∧ l.actor.Tidy)
      (smooth_start handedOff_sampleSession smooth_sampleWorld) fun _ hgo h => hgo.smooth h).1).mono ?_
    rintro _ l ⟨hnone, hsmooth, -⟩
    have hold : l.actor.state.oldChild = none := of_decide_eq_true hnone
    have hretained : ¬l.actor.state.oldChild.isSome := by rw [hold]; decide
    exact ⟨rfl, hsmooth.ack, hsmooth.full, fun h => absurd h hretained,
      fun h => absurd h hretained, fun _ _ _ _ _ => hold⟩
  obtain ⟨f, hf, hsrc, hq⟩ := System.exists_drained sampleFlow hstep sampleSystem.sink
  obtain ⟨c, keys, sel, heq, hactive, hin, hout⟩ := hone.exists_child
  obtain ⟨hspis, houtbound, -⟩ := planes_agree cbcSelection cbcChildKeys handedOff_sampleSession rfl
    rfl rfl hf (hsrc ▸ hone.spisDistinct) hq (hsrc ▸ hactive)
  rw [hsrc, hone.1, hin] at hspis
  refine ⟨f, hsrc ▸ hone.1, fun spi => (hspis spi).trans ?_, houtbound.trans hout⟩
  simp [sampleChild]

end Sample

end Swan.Session
