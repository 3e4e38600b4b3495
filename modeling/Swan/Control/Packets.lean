import Swan.Control.PeerRekeys

/-! # Packets as sequences of acts

The requests of the peer and the packets of both IKE SAs, as sequences of acts; `wp_processPacket` puts
them together. `CurrentRequest` and `CurrentResponse` say what the headers of such packets have passed,
so that an argument can speak of the packets that reach a handler. -/

namespace Swan.Control

open Swan.Lib Swan.Wire Swan.Payload Swan.Xcrypto

section PeerRequests

variable [Crypto] {G : Guard} {a : Running} {msgID : UInt32} (cfg : Config) (now : Time)

omit [Crypto] in
theorem acts_calm_bind {α β : Type} {x : Eff Running α} {f : α → Eff Running β} {a₀ : Running}
    (h₀ : Calm a₀ a) (hx : x.Within Calm)
    (hf : ∀ v a', Calm a₀ a' → Acts G a₀ ((f v).run a').2) : Acts G a₀ ((x >>= f).run a).2 :=
  Eff.wp_within_bind (Q := fun _ a' => Acts G a₀ a') h₀ hx (fun _ _ h => h.acts) hf

theorem acts_respond (sealCfg : Option Config) (exchange : ExchangeType)
    (nextPayload : PayloadType) (plaintext : Bytes) (hfresh : a.Fresh msgID) :
    Acts G a ((respond sealCfg exchange msgID nextPayload plaintext).run a).2 := by
  refine acts_calm_bind (refl_of Calm a) (calm_of_quiet (quiet_sealCurrent _ _ _ _ _ _))
    fun frames a₁ h₁ => ?_
  refine acts_calm_bind h₁ Eff.within_get fun r a₂ h₂ => ?_
  refine acts_calm_bind h₂ (calm_sendFrames (by decide) _ _) fun _ a₃ h₃ => ?_
  exact h₃.acts.tail (.remember _ _ (hfresh.calm h₃))

theorem acts_respondNotify (n : Notify) (hfresh : a.Fresh msgID) :
    Acts G a ((respondNotify cfg msgID n).run a).2 := by
  refine acts_calm_bind (refl_of Calm a) (Eff.within_lift _) fun body a₁ h₁ => ?_
  have hr := h₁.acts.trans (acts_respond (G := G) (some cfg) ExchangeType.createChild
    PayloadType.notify (cepSinglePayload body) (hfresh.calm h₁))
  rw [Eff.run_bind]
  split
  next hrun => rw [hrun] at hr; exact hr.trans (calm_logged (e := .refused msgID n.type) trivial).acts
  next hrun => rw [hrun] at hr; exact hr

theorem acts_acceptPeerChildRekey {old : ChildSA} (targetSPI : UInt32) (sa : SA) (p : PeerRekey)
    (hold : a.state.activeChild = some old) (hfresh : a.Fresh msgID) (g : G.peerChild a)
    (hack : G.ackFails ∨ ∀ k, a.world.ack k = .acked) :
    Acts G a ((acceptPeerChildRekey cfg now msgID old targetSPI sa p).run a).2 := by
  refine Eff.wp_mono (Q := fun _ a' => Acts G a a')
    (wp_acceptPeerChildRekey cfg now old targetSPI sa p) fun r a' h => ?_
  rcases h with h | ⟨b, hb, hrun⟩ | ⟨b, child, keys, selection, hb, hnack, h⟩ |
    ⟨b, b₂, child, keys, selection, t, frames, sa', hb, hq, hrun⟩
  · exact h.acts
  · have hr := acts_respondNotify (G := G) cfg (espNotify targetSPI NotifyType.noProposalChosen)
      (hfresh.calm hb.calm)
    rw [hrun] at hr
    exact hb.calm.acts.trans hr
  · have hfails : G.ackFails := hack.resolve_right fun h =>
      hnack (Shifted.forall (P := fun o => o = .acked) hb.draws.ack h 0)
    exact (hb.calm.acts.tail (.ackFailed _ _ _ hfails)).trans h.calm.acts
  · obtain ⟨w, hw, hb₂⟩ := hq.of_childInstalled
    have hcb : Running.childInstalled child keys selection t
        (State.installPeerChild old child selection) { b with world := w } = Running.childInstalled
        child keys selection t (State.installPeerChild old child selection) { a with world := w } := by
      rw [hb.world]
    rw [hcb] at hb₂
    have hinstalled : Acts G a b₂ := by
      rw [hb₂]
      exact acts_of_draws (trans_of World.Draws hb.draws hw) (.peerChild (a := { a with world := w })
        old child keys selection t hold (G.peerChild_world g))
    have hhist : b₂.state.inboundHistory = a.state.inboundHistory := by rw [hb₂]; rfl
    have hanswer : Acts G b₂ ((sendFrames sa' .response msgID frames >>= fun _ =>
        rememberResponse msgID frames).run b₂).2 :=
      acts_calm_bind (refl_of Calm b₂) (calm_sendFrames (by decide) msgID frames) fun _ a' h =>
        h.acts.tail (.remember _ _ (Running.Fresh.calm (by rwa [Running.Fresh, hhist]) h))
    rw [hrun] at hanswer
    exact hinstalled.trans hanswer

/-- Whether a CREATE_CHILD_SA request is about a child. -/
def HasTS (inner : List Payload) : Prop :=
  ∃ p ∈ inner, p.type = PayloadType.tsi ∨ p.type = PayloadType.tsr

/-- What the guard allows of the handling of a CREATE_CHILD_SA request. -/
structure Guard.Peer (G : Guard) (a : Running) (inner : List Payload) : Prop where
  child : HasTS inner → (∀ rc, a.state.rekey = some rc → rc.kind ≠ .child) → G.peerChild a
  childLost : HasTS inner → LosesChild a.state inner →
    G.abandon false a ∧ G.peerChild (a.mapState State.abandonRekey)
  ike : ¬HasTS inner → a.state.rekey = none → a.state.oldIKE = [] → G.peerIKE a
  ikeLost : ¬HasTS inner → LosesIKE a.state inner →
    G.abandon false a ∧ G.peerIKE (a.mapState State.abandonRekey)

variable {inner : List Payload}

theorem acts_resolvePeerChildRekey {old : ChildSA} (targetSPI : UInt32) (sa : SA) {p : PeerRekey}
    (hts : HasTS inner)
    (hp : collectPeerRekey "peer child rekey" childPeerTS inner ⟨none, [], [], [], []⟩ = .ok p)
    (hold : a.state.activeChild = some old) (hfresh : a.Fresh msgID) (hpeer : G.Peer a inner)
    (hack : G.ackFails ∨ ∀ k, a.world.ack k = .acked) :
    Acts G a ((resolvePeerChildRekey cfg now msgID old targetSPI sa p).run a).2 := by
  rw [resolvePeerChildRekey, Eff.run_bind_of_ok (Eff.run_get a)]
  split
  next hnone =>
    refine acts_acceptPeerChildRekey cfg now targetSPI sa p hold hfresh
      (hpeer.child hts fun rc hrc hkind => ?_) hack
    rw [hrc, Option.filter_some, hkind] at hnone
    cases hnone
  next rc hrc =>
  obtain ⟨hrc, hkind⟩ := Option.filter_eq_some_iff.mp hrc
  split
  next hlose =>
    obtain ⟨ga, gp⟩ := hpeer.childLost hts ⟨rc, p, hrc, by simpa using hkind, hp, hlose⟩
    have hc := calm_noted a
    rw [Eff.run_bind_of_ok (run_abandonRekey_false cfg now a)]
    refine (acts_abandoned (by rw [hrc]; rfl) ga).trans
      (acts_acceptPeerChildRekey cfg now _ _ _ ?_ ?_ ?_ ?_)
    · rw [← hold, ← hc.state]; rfl
    · exact (hfresh.calm hc : a.noted.Fresh msgID)
    · rw [hc.world]; exact G.peerChild_world gp
    · refine hack.imp_right fun h k => ?_
      unfold Running.noted
      split_ifs <;> exact h k
  · exact acts_respondNotify cfg _ hfresh

theorem acts_processPeerChildRekey (hts : HasTS inner) (hfresh : a.Fresh msgID)
    (hpeer : G.Peer a inner) (hack : G.ackFails ∨ ∀ k, a.world.ack k = .acked) :
    Acts G a ((processPeerChildRekey cfg now msgID inner).run a).2 := by
  rcases checksChild cfg now msgID inner a with ⟨e, -, hrun⟩ | ⟨n, -, hrun⟩ | h
  · rw [hrun]
  · rw [hrun]
    exact acts_respondNotify cfg _ hfresh
  · rw [h.run]
    exact acts_resolvePeerChildRekey cfg now _ _ hts h.read h.active hfresh hpeer hack

theorem acts_acceptPeerIKERekey (inner : List Payload) (hfresh : a.Fresh msgID)
    (hrekey : a.state.rekey = none) (hold : a.state.oldIKE = []) (g : G.peerIKE a) :
    Acts G a ((acceptPeerIKERekey cfg now msgID inner).run a).2 := by
  refine Eff.wp_mono (Q := fun _ a' => Acts G a a') (wp_acceptPeerIKERekey cfg now inner)
    fun r a' h => ?_
  rcases h with h | ⟨b, hb, hrun⟩ | ⟨b, b₁, b₂, spiI, spiR, ni, nr, keys, selection, t,
    frames, sa, hb, hsent, hq, -, rfl⟩
  · exact h.acts
  · have hr := acts_respondNotify (G := G) cfg (plainNotify NotifyType.noProposalChosen)
      (hfresh.calm hb.calm)
    rw [hrun] at hr
    exact hb.calm.acts.trans hr
  · have hb₁ : Calm a b₁ := trans_of Calm hb.calm (calm_of_sendFrames hsent)
    have hdrawn : Calm b₁ { b₁ with world := b₂.world } := ⟨rfl, hq.draws.calm⟩
    have hcalm := trans_of Calm hb₁ hdrawn
    rw [hq.of_ikeInstalled]
    refine hcalm.acts.tail (.peerIKE (a := { b₁ with world := b₂.world }) spiI spiR ni nr keys
      selection t msgID frames ?_ ?_ (hfresh.calm hcalm) ?_)
    · rw [hb₁.state, hrekey]
    · rw [hb₁.state, hold]
    · rw [hb₁.world]
      exact G.peerIKE_world (G.peerIKE_world g)

theorem acts_processPeerIKERekey (hts : ¬HasTS inner) (hfresh : a.Fresh msgID)
    (hpeer : G.Peer a inner) :
    Acts G a ((processPeerIKERekey cfg now msgID inner).run a).2 := by
  rcases resolvesIKE cfg now msgID inner a with ⟨-, hrun⟩ | ⟨hlose, hrun⟩ |
    ⟨hrekey, hold, hrun⟩ <;> rw [hrun]
  · exact acts_respondNotify cfg _ hfresh
  · obtain ⟨ga, gp⟩ := hpeer.ikeLost hts hlose
    obtain ⟨rc, ni, hrekey, -⟩ := hlose
    have hc := calm_noted a
    refine (acts_abandoned (by rw [hrekey]; rfl) ga).trans
      (acts_acceptPeerIKERekey cfg now _ (hfresh.calm hc : a.noted.Fresh msgID) rfl rfl ?_)
    rw [hc.world]
    exact G.peerIKE_world gp
  · exact acts_acceptPeerIKERekey cfg now inner hfresh hrekey hold (hpeer.ike hts hrekey hold)

/-- **A CREATE_CHILD_SA request of the peer.** -/
theorem acts_processCreateChild (hfresh : a.Fresh msgID) (hpeer : G.Peer a inner)
    (hack : G.ackFails ∨ ∀ k, a.world.ack k = .acked) :
    Acts G a ((processCreateChild cfg now msgID inner).run a).2 := by
  unfold processCreateChild
  split_ifs with hts
  · exact acts_processPeerChildRekey cfg now hts hfresh hpeer hack
  · exact acts_processPeerIKERekey cfg now hts hfresh hpeer

end PeerRequests

/-! ### INFORMATIONAL requests -/

section Informational

variable {G : Guard} {a : Running} {msgID : UInt32} (cfg : Config) (now : Time)

/-- The acts of an INFORMATIONAL request before it is answered: they leave the stored responses
alone. -/
def Applied (G : Guard) (a a' : Running) : Prop :=
  Acts G a a' ∧ a'.state.inboundHistory = a.state.inboundHistory

theorem wp_deleteChild (spi : UInt32)
    (hlost : G.lost ∨ cfg.dataUpdates = true ∧ ∀ k, a.world.full k = false) :
    (deleteChild cfg spi).wp (fun r a' => r = .ok () ∧ Applied G a a') a := by
  unfold deleteChild
  rw [Eff.wp_bind, Eff.wp_get, Eff.next_ok, Eff.wp_bind, record, Eff.wp_modify, Eff.next_ok]
  -- the draw could have come before the note
  have hdraws : ∀ {replaced w}, (a.logged (.peerDeleted spi replaced)).world.Draws w →
      ∃ w₁, a.world.Draws w₁ ∧ { a.logged (.peerDeleted spi replaced) with world := w } =
        Running.logged (.peerDeleted spi replaced) { a with world := w₁ } := by
    intro replaced w hw
    obtain ⟨w₁, hw₁, rfl⟩ := World.Draws.of_extend (w := a.world) [.peerDeleted spi replaced] hw
    exact ⟨w₁, hw₁, rfl⟩
  split
  · next old hfilter =>
    obtain ⟨hold, hspi⟩ := Option.filter_eq_some_iff.mp hfilter
    obtain rfl : spi = old.outboundSPI := by simpa using hspi
    rw [hold, Option.any_some, hspi]
    obtain ⟨through, w, hw, hthrough, hrun⟩ := run_offerUpdate cfg (.childDeleted old)
      (a.logged (.peerDeleted old.outboundSPI true))
    obtain ⟨w₁, hw₁, heq⟩ := hdraws hw
    refine Eff.wp_of_run_eq (Eff.run_bind_of_ok hrun) ⟨rfl, ?_, ?_⟩
    · rw [heq]
      exact acts_of_draws hw₁ (.dropOldChild (a := { a with world := w₁ }) through hold
        (lost_of_not_through (refl_of World.Draws _) hlost hthrough))
    · cases through <;> rfl
  · next hnone =>
    have hany : (a.state.oldChild.any fun old => decide (spi = old.outboundSPI)) = false := by
      cases hold : a.state.oldChild with
      | none => rfl
      | some old => rw [hold] at hnone; simpa [Option.filter] using hnone
    rw [hany]
    split
    · exact ⟨rfl, (calm_logged (e := .peerDeleted spi false) trivial).acts, rfl⟩
    next active hfilter =>
    obtain ⟨hactive, hspi⟩ := Option.filter_eq_some_iff.mp hfilter
    obtain rfl : spi = active.outboundSPI := by simpa using hspi
    obtain ⟨through, w, hw, hthrough, hrun⟩ := run_offerUpdate cfg (.childDeleted active)
      (a.logged (.peerDeleted active.outboundSPI false))
    obtain ⟨w₁, hw₁, heq⟩ := hdraws hw
    refine Eff.wp_of_run_eq (Eff.run_bind_of_ok hrun) ⟨rfl, ?_, ?_⟩
    · rw [heq]
      exact acts_of_draws hw₁ (.dropActiveChild (a := { a with world := w₁ }) through hactive
        (lost_of_not_through (refl_of World.Draws _) hlost hthrough))
    · cases through <;> rfl

theorem hasAddress_merge {cp : ConfigPayload} {out : AssignedConfig} {mask : CesAssignedMask}
    {s : State} (h : cesDecodeAssignedCP cp = .ok (out, mask)) (hs : s.HasAddress) :
    (updatedAssigned s.assigned out mask .merge).HasAddress := by
  obtain ⟨prev, hprev, haddr⟩ := hs
  have hv4 := agree_updatedAssigned h s.assigned .v4Addr
  have hv6 := agree_updatedAssigned h s.assigned .v6Addr
  rw [hprev, Option.getD_some] at hv4 hv6
  rw [hprev]
  rcases haddr with haddr | haddr
  · left
    split_ifs at hv4 with hc
    · rw [hv4]
      exact isSome_internalIPv4 hc
    · rw [hv4]
      exact haddr
  · right
    split_ifs at hv6 with hc
    · rw [hv6.1]
      exact isSome_internalIPv6 hc
    · rw [hv6.1]
      exact haddr

theorem wp_handleInformationalForPayloads (plds : List Payload)
    (hlost : G.lost ∨ cfg.dataUpdates = true ∧ ∀ k, a.world.full k = false) :
    (handleInformationalForPayloads cfg now plds).wp (fun _ a' => Applied G a a') a := by
  have hrefl : Applied G a a := ⟨.refl, rfl⟩
  have hlift : ∀ {α β : Type} {r : Except Err α} {f : α → Eff Running β},
      (∀ v, (f v).wp (fun _ a' => Applied G a a') a) →
      (Eff.lift r >>= f).wp (fun _ a' => Applied G a a') a := by
    intro α β r f h
    cases r with
    | error e => exact hrefl
    | ok v => exact h v
  unfold handleInformationalForPayloads
  split
  · exact hrefl
  refine Eff.wp_ite (fun _ => hlift fun cp => Eff.wp_ite (fun _ => hrefl) fun _ => ?_) fun _ => ?_
  · rw [Eff.wp_bind, Eff.wp_lift]
    rcases hdecode : cesDecodeAssignedCP cp with e | ⟨assigned, present⟩
    · exact hrefl
    rw [Eff.next_ok]
    dsimp only
    rw [Eff.wp_bind]
    refine Eff.wp_mono (acts_applyConfigUpdate (G := G) cfg now _ _ _ hlost
      (.inr (hasAddress_merge hdecode))) fun r a' h => ?_
    obtain ⟨⟨v, rfl⟩, hacts, config, hstate⟩ := h
    have hhist : a'.state.inboundHistory = a.state.inboundHistory := by rw [hstate]
    exact ⟨hacts, hhist⟩
  refine hlift fun d => ?_
  split
  · exact hrefl
  refine Eff.wp_ite (fun _ => Eff.wp_ite (fun _ => hrefl) fun _ => hrefl) fun _ =>
    Eff.wp_ite (fun _ => ?_) fun _ => hrefl
  split
  · rw [Eff.wp_bind]
    refine Eff.wp_mono (wp_deleteChild (G := G) cfg _ hlost) fun r a' h => ?_
    obtain ⟨rfl, happlied⟩ := h
    exact happlied
  · exact hrefl

variable [Crypto]

/-- The acts of a packet, and the end of the session if the peer has deleted the IKE SA. -/
def Handled (G : Guard) (a : Running) (r : Except Err Bool) (a' : Running) : Prop :=
  (r ≠ .ok true ∧ Acts G a a') ∨
    (r = .ok true ∧ ∃ a₁, Acts G a a₁ ∧ a' = a₁.mapState State.shutdown)

omit [Crypto] in
theorem Handled.trans {a₁ a' : Running} {r : Except Err Bool} (h₁ : Acts G a a₁)
    (h : Handled G a₁ r a') : Handled G a r a' := by
  rcases h with ⟨hr, h⟩ | ⟨hr, a₂, h, ha'⟩
  · exact .inl ⟨hr, h₁.trans h⟩
  · exact .inr ⟨hr, a₂, h₁.trans h, ha'⟩

theorem acts_answerInformational (cfgAck : Bool) (hfresh : a.Fresh msgID) :
    Acts G a ((answerInformational msgID cfgAck).run a).2 := by
  unfold answerInformational
  split_ifs
  · refine acts_calm_bind (refl_of Calm a) (Eff.within_lift _) fun body a₁ h₁ => ?_
    exact h₁.acts.trans (acts_respond _ _ _ _ (hfresh.calm h₁))
  · exact acts_respond _ _ _ _ hfresh

theorem wp_processInformational (inner : List Payload) (hfresh : a.Fresh msgID)
    (hlost : G.lost ∨ cfg.dataUpdates = true ∧ ∀ k, a.world.full k = false) :
    (processInformational cfg now msgID inner).wp (Handled G a) a := by
  unfold processInformational
  rw [Eff.wp_bind]
  refine Eff.wp_mono (wp_handleInformationalForPayloads (G := G) cfg now inner hlost)
    fun r a₁ h₁ => ?_
  obtain ⟨h₁, hhist⟩ := h₁
  rcases r with e | ⟨shutdown, cfgAck⟩
  · exact .inl ⟨by simp, h₁⟩
  have hfresh₁ : a₁.Fresh msgID := by rwa [Running.Fresh, hhist]
  rw [Eff.next_ok]
  dsimp only
  rw [Eff.wp_bind]
  have h₂ := h₁.trans (acts_answerInformational cfgAck hfresh₁)
  rcases hrun : (answerInformational msgID cfgAck).run a₁ with ⟨r, a₂⟩
  rw [hrun] at h₂
  refine Eff.wp_run hrun ?_
  cases r with
  | error e => exact .inl ⟨by simp, h₂⟩
  | ok u =>
    cases shutdown with
    | true => exact .inr ⟨rfl, a₂, h₂, rfl⟩
    | false => exact .inl ⟨by simp [Eff.when, Eff.run_bind], h₂⟩

end Informational

/-! ### The retained IKE SA -/

section OldIKE

variable [Crypto] {G : Guard} {a : Running} {old : OldIKEContext} {rest : List OldIKEContext}
  (cfg : Config)

theorem acts_processOldIKEResponse (hdr : Header) (raw : Bytes) (hold : a.state.oldIKE = old :: rest) :
    Acts G a ((processOldIKEResponse old hdr raw).run a).2 := by
  unfold processOldIKEResponse
  split
  · exact .refl
  split_ifs
  · exact .refl
  refine acts_calm_bind (refl_of Calm a) (Eff.within_lift _) fun plds a₁ h₁ => ?_
  refine acts_calm_bind h₁ Eff.within_get fun r a₂ h₂ => ?_
  refine acts_calm_bind h₂ (calm_record trivial) fun _ a₃ h₃ => ?_
  refine h₃.acts.tail (.finishOld ?_)
  rw [h₃.state, hold]
  exact List.cons_ne_nil _ _

theorem acts_processOldIKERequest (hdr : Header) (raw : Bytes) (hold : a.state.oldIKE = old :: rest) :
    Acts G a ((processOldIKERequest cfg old hdr raw).run a).2 := by
  refine acts_calm_bind (refl_of Calm a) (Eff.within_lift _) fun plds a₁ h₁ => ?_
  split
  · exact h₁.acts
  refine acts_calm_bind h₁ Eff.within_get fun r a₂ h₂ => ?_
  split
  · exact h₂.acts.trans (calm_sendFrames (by decide) _ _ a₂).acts
  next hnew =>
  split
  swap
  · exact h₂.acts
  refine acts_calm_bind h₂ (Eff.within_lift _) fun ikeDelete a₃ h₃ => ?_
  refine acts_calm_bind h₃ (calm_of_quiet (quiet_onRng (drawn_buildProtectedEnvelopeAs _ _ _ _ _ _ _)))
    fun frames a₄ h₄ => ?_
  refine acts_calm_bind h₄ (calm_sendFrames (by decide) _ _) fun _ a₅ h₅ => ?_
  have hold₅ : a₅.state.oldIKE = old :: rest := by rw [h₅.state, hold]
  have hremember : Acts G a (a₅.mapState (State.mapOldIKE
      (OldIKEContext.remember hdr.messageID frames))) :=
    h₅.acts.tail (.oldRemember hdr.messageID frames hold₅ fun e he hid =>
      absurd (List.find?_eq_none.mp hnew e he) (by simpa using hid))
  rw [Eff.run_bind_of_ok (run_modifyState _ _)]
  unfold Eff.when
  split_ifs
  · refine hremember.tail (.finishOld ?_)
    change (a₅.state.mapOldIKE _).oldIKE ≠ []
    rw [State.oldIKE_mapOldIKE hold₅]
    exact List.cons_ne_nil _ _
  · exact hremember

/-- **A packet of the retained IKE SA.** -/
theorem acts_processOldIKEPacket (hdr : Header) (raw : Bytes) (hold : a.state.oldIKE = old :: rest) :
    Acts G a ((processOldIKEPacket cfg old hdr raw).run a).2 := by
  unfold processOldIKEPacket
  split_ifs
  · exact acts_processOldIKEResponse hdr raw hold
  · exact acts_processOldIKERequest cfg hdr raw hold

end OldIKE

/-! ### Packets -/

section Packets

variable [Crypto] {G : Guard} {a : Running} (cfg : Config) (now : Time)

/-- The packet opens as a complete message on the current IKE SA. -/
def Running.Opens (a : Running) (now : Time) (raw : Bytes) (inner : List Payload) : Prop :=
  ((openProtectedRawState none now raw).run a.state).1 = .ok (some inner)

instance (a : Running) (raw : Bytes) (inner : List Payload) : Decidable (a.Opens now raw inner) :=
  inferInstanceAs (Decidable (_ = _))

/-- A packet with the header of a message on the current IKE SA. -/
structure Running.CurrentPacket (a : Running) (pkt : Packet) (hdr : Header) : Prop where
  kind : pkt.kind = .ike
  parsed : ∃ msg, parseMessage pkt.payload = .ok msg ∧ msg.header = hdr ∧ msg.encrypted.isSome
  current : a.state.oldIKEFor hdr = none

variable {hdr : Header} {pkt : Packet}

omit [Crypto] in
theorem parsed_iff {raw : Bytes} :
    (∃ msg, parseMessage raw = .ok msg ∧ msg.header = hdr ∧ msg.encrypted.isSome) ↔
      ((parseMessage raw).toOption.any fun msg =>
        decide (msg.header = hdr) && msg.encrypted.isSome) = true := by
  cases parseMessage raw <;> simp [Except.toOption]

omit [Crypto] in
theorem Running.currentPacket_iff : a.CurrentPacket pkt hdr ↔
    pkt.kind = .ike ∧ ((parseMessage pkt.payload).toOption.any fun msg =>
      decide (msg.header = hdr) && msg.encrypted.isSome) = true ∧
      a.state.oldIKEFor hdr = none := by
  rw [← parsed_iff]
  exact ⟨fun h => ⟨h.kind, h.parsed, h.current⟩, fun ⟨h₁, h₂, h₃⟩ => ⟨h₁, h₂, h₃⟩⟩

instance (a : Running) (pkt : Packet) (hdr : Header) : Decidable (a.CurrentPacket pkt hdr) :=
  decidable_of_iff' _ Running.currentPacket_iff

/-- A packet with the header of a request on the current IKE SA. -/
structure Running.CurrentRequest (a : Running) (pkt : Packet) (hdr : Header) : Prop
    extends a.CurrentPacket pkt hdr where
  request : hdr.flags &&& flagResponse = 0

/-- A packet with the header of the response to the request in flight. -/
structure Running.CurrentResponse (a : Running) (pkt : Packet) (hdr : Header) : Prop
    extends a.CurrentPacket pkt hdr where
  response : hdr.flags &&& flagResponse ≠ 0
  valid : validateResponseEnvelopeForRole hdr a.state.isOriginalInitiator = .ok ()
  initiatorSPI : hdr.initiatorSPI = a.state.initiatorSPI
  responderSPI : a.state.responderSPI = 0 ∨ hdr.responderSPI = a.state.responderSPI
  expected : a.state.hasExpectedResponse = true
  messageID : hdr.messageID = a.state.expectedResponseMessageID

instance (a : Running) (pkt : Packet) (hdr : Header) : Decidable (a.CurrentResponse pkt hdr) :=
  decidable_of_iff (a.CurrentPacket pkt hdr ∧ hdr.flags &&& flagResponse ≠ 0 ∧
      validateResponseEnvelopeForRole hdr a.state.isOriginalInitiator = .ok () ∧
      hdr.initiatorSPI = a.state.initiatorSPI ∧
      (a.state.responderSPI = 0 ∨ hdr.responderSPI = a.state.responderSPI) ∧
      a.state.hasExpectedResponse = true ∧ hdr.messageID = a.state.expectedResponseMessageID)
    ⟨fun ⟨h₁, h₂, h₃, h₄, h₅, h₆, h₇⟩ => ⟨h₁, h₂, h₃, h₄, h₅, h₆, h₇⟩,
      fun h => ⟨h.toCurrentPacket, h.response, h.valid, h.initiatorSPI, h.responderSPI, h.expected,
        h.messageID⟩⟩

/-- A new CREATE_CHILD_SA request of the peer. -/
def Running.PeerRekeys (a : Running) (now : Time) (pkt : Packet) (inner : List Payload) : Prop :=
  ∃ hdr, a.CurrentRequest pkt hdr ∧ a.Fresh hdr.messageID ∧
    hdr.exchangeType = ExchangeType.createChild ∧ a.Opens now pkt.payload inner

/-- What the guard allows of the handling of a packet. -/
structure Guard.Packet (G : Guard) (cfg : Config) (now : Time) (pkt : Packet) (a : Running) :
    Prop where
  answer : ∀ hdr inner, a.CurrentResponse pkt hdr → a.Opens now pkt.payload inner →
    ∀ rc, a.state.rekey = some rc →
    G.abandon true a ∨ rc.kind = .ike ∧ ValidIKEAnswer cfg a.state inner
  install : ∀ hdr inner, a.CurrentResponse pkt hdr → a.Opens now pkt.payload inner →
    ∀ rc, a.state.rekey = some rc → G.installs rc.kind a
  peer : ∀ inner, a.PeerRekeys now pkt inner → G.Peer a inner
  lease : ∀ hdr inner, a.CurrentResponse pkt hdr → a.Opens now pkt.payload inner →
    a.leasePending = true → G.expires ∨ ¬a.Expired now
  renewed : ∀ hdr inner, a.CurrentResponse pkt hdr → a.Opens now pkt.payload inner →
    a.leasePending = true → a.state.rekey = none →
    G.bare ∨ ∀ c, renewedConfig inner = some c → c.HasAddress

theorem run_onState_open (raw : Bytes) (a : Running) :
    ∃ r f, (openProtectedRawState none now raw).run a.state = (r, a.state.withFragments f) ∧
      (onState (openProtectedRawState none now raw)).run a =
        (r, a.mapState (State.withFragments f)) := by
  have h := within_openProtectedRawState none now raw a.state
  refine ⟨_, ((openProtectedRawState none now raw).run a.state).2.inboundFragments,
    Prod.ext rfl h, Prod.ext rfl ?_⟩
  exact congrArg (fun s => { a with state := s }) h

omit [Crypto] in
theorem Running.CurrentPacket.currentResponse (h : a.CurrentPacket pkt hdr)
    (hresponse : hdr.flags &&& flagResponse ≠ 0)
    (hvalid : validateResponseEnvelopeForRole hdr a.state.isOriginalInitiator = .ok ())
    (hspiI : ¬hdr.initiatorSPI ≠ a.state.initiatorSPI)
    (hspiR : ¬(a.state.responderSPI ≠ 0 ∧ hdr.responderSPI ≠ a.state.responderSPI))
    (hexp : ¬(a.state.hasExpectedResponse = false ∨
      hdr.messageID ≠ a.state.expectedResponseMessageID)) : a.CurrentResponse pkt hdr where
  toCurrentPacket := h
  response := hresponse
  valid := hvalid
  initiatorSPI := not_not.mp hspiI
  responderSPI := by
    rcases not_and_or.mp hspiR with h | h
    · exact .inl (not_not.mp h)
    · exact .inr (not_not.mp h)
  expected := Bool.eq_true_of_not_eq_false fun h => hexp (.inl h)
  messageID := not_not.mp fun h => hexp (.inr h)

theorem acts_processResponse (hcur : a.CurrentPacket pkt hdr)
    (hresponse : hdr.flags &&& flagResponse ≠ 0)
    (htidy : a.state.rekey.isSome → a.state.oldIKE = []) (hlets : G.Lets cfg a)
    (hpkt : G.Packet cfg now pkt a) :
    Acts G a ((processResponse cfg now hdr pkt.payload).run a).2 := by
  rw [processResponse, Eff.run_bind_of_ok (Eff.run_get a)]
  split
  · exact .refl
  next hvalid =>
  split_ifs with h₁ h₂ h₃
  · exact .refl
  · exact .refl
  · exact .refl
  have hresp := hcur.currentResponse hresponse hvalid h₁ h₂ h₃
  obtain ⟨r, f, hopen, hrun⟩ := run_onState_open now pkt.payload a
  have hfrag : Acts G a (a.mapState (State.withFragments f)) := .single (.fragments f)
  cases r with
  | error e => rw [Eff.run_bind_of_error hrun]; exact hfrag
  | ok opened =>
    rw [Eff.run_bind_of_ok hrun]
    cases opened with
    | none => exact hfrag
    | some inner =>
      have hopens : a.Opens now pkt.payload inner := congrArg Prod.fst hopen
      dsimp only
      rw [Eff.run_bind_of_ok (run_record _ _)]
      have hacc := hfrag.trans (calm_logged (a := a.mapState (State.withFragments f))
        (e := .accepted a.sa hdr.messageID) trivial).acts
      refine hacc.trans (acts_completeResponse cfg now _ _ ?_ htidy ?_ (fun hp => ?_)
        (fun hp => ?_) (fun rc hrc => ?_) fun rc hrc => ?_)
      · rw [hresp.messageID]
        exact accepted_logged (a.mapState (State.withFragments f))
      · exact ⟨hlets.sealing.imp_right fun h => ⟨h.rng, h.current, h.old⟩, hlets.ack, hlets.lost⟩
      · exact hpkt.lease hdr inner hresp hopens hp
      · exact hpkt.renewed hdr inner hresp hopens hp
      · exact (hpkt.answer hdr inner hresp hopens rc hrc).imp_left fun g => G.abandon_idle g
      · exact G.installs_idle (hpkt.install hdr inner hresp hopens rc hrc)

omit [Crypto] in
theorem Handled.of_acts {x : Eff Running Unit} (h : Acts G a (x.run a).2) :
    (x >>= fun _ => pure false).wp (Handled G a) a := by
  rw [Eff.wp_bind]
  rcases hrun : x.run a with ⟨r, a₁⟩
  rw [hrun] at h
  refine Eff.wp_run hrun ?_
  cases r with
  | error e => exact .inl ⟨by simp, h⟩
  | ok u => exact .inl ⟨by simp [Eff.run_pure], h⟩

theorem wp_processRequest {inner : List Payload} (hdr : Header) (hlets : G.Lets cfg a)
    (hpeer : a.Fresh hdr.messageID → hdr.exchangeType = ExchangeType.createChild →
      G.Peer a inner) :
    (processRequest cfg now hdr inner).wp (Handled G a) a := by
  unfold processRequest
  rw [Eff.wp_bind, Eff.wp_get, Eff.next_ok]
  split
  · exact .of_acts (calm_sendFrames (by decide) _ _ a).acts
  split
  · exact .inl ⟨by simp, .refl⟩
  next hstale =>
  have hfresh : a.Fresh hdr.messageID := by
    intro last hlast
    by_contra hle
    rw [Option.mem_def.mp hlast, Option.filter_some, if_pos (by simpa using hle)] at hstale
    cases hstale
  refine Eff.wp_ite (fun _ => wp_processInformational cfg now inner hfresh hlets.lost) fun _ =>
    Eff.wp_ite (fun hcreate => ?_) fun _ => .inl ⟨by simp, .refl⟩
  exact .of_acts (acts_processCreateChild cfg now hfresh (hpeer hfresh hcreate) hlets.ack)

/-- **A packet is a sequence of acts**, or the end of the session. -/
theorem wp_processPacket (pkt : Packet) (htidy : a.state.rekey.isSome → a.state.oldIKE = [])
    (hlets : G.Lets cfg a) (hpkt : G.Packet cfg now pkt a) :
    (processPacket cfg now pkt).wp (Handled G a) a := by
  have hfalse : ∀ r : Except Err Bool, r ≠ .ok true → Handled G a r a := fun r hr => .inl ⟨hr, .refl⟩
  refine Eff.wp_ite (fun _ => hfalse _ (by simp)) fun hkind => ?_
  rw [Eff.wp_bind, Eff.wp_lift]
  rcases hmsg : parseMessage pkt.payload with e | msg
  · exact hfalse _ (by simp)
  rw [Eff.next_ok]
  split
  · exact hfalse _ (by simp)
  next enc henc =>
  rw [Eff.wp_bind, Eff.wp_get, Eff.next_ok]
  split
  next old hfor =>
    obtain ⟨hhead, -⟩ := Option.filter_eq_some_iff.mp hfor
    obtain ⟨rest, hold⟩ := List.head?_eq_some_iff.mp hhead
    exact .of_acts (acts_processOldIKEPacket cfg _ _ hold)
  next hfor =>
  have hcur : a.CurrentPacket pkt msg.header :=
    ⟨not_not.mp hkind, ⟨msg, hmsg, rfl, by rw [henc]; rfl⟩, hfor⟩
  refine Eff.wp_ite (fun hresponse => .of_acts (acts_processResponse cfg now hcur hresponse htidy hlets
    hpkt)) fun hrequest => ?_
  obtain ⟨r, f, hopen, hrun⟩ := run_onState_open now pkt.payload a
  have hfrag : Acts G a (a.mapState (State.withFragments f)) := .single (.fragments f)
  rw [Eff.wp_bind]
  refine Eff.wp_run hrun ?_
  rcases r with e | _ | inner
  · exact .inl ⟨by simp, hfrag⟩
  · exact .inl ⟨by simp [errMoreFragments], hfrag⟩
  rw [Eff.next_ok]
  refine Eff.wp_mono (wp_processRequest (G := G) cfg now _ ?_ fun hfresh hcreate => ?_)
    fun r a' h => h.trans hfrag
  · exact ⟨hlets.sealing.imp_right fun h => ⟨h.rng, h.current, h.old⟩, hlets.ack, hlets.lost⟩
  · have hpeer := hpkt.peer inner
      ⟨msg.header, ⟨hcur, not_not.mp hrequest⟩, hfresh, hcreate, congrArg Prod.fst hopen⟩
    exact ⟨fun hts h => G.peerChild_idle (hpeer.child hts h),
      fun hts h => ⟨G.abandon_idle (hpeer.childLost hts h).1, (hpeer.childLost hts h).2⟩,
      fun hts h₁ h₂ => G.peerIKE_idle (hpeer.ike hts h₁ h₂),
      fun hts h => ⟨G.abandon_idle (hpeer.ikeLost hts h).1, (hpeer.ikeLost hts h).2⟩⟩

end Packets

end Swan.Control
