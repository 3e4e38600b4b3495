import Swan.Control.Routing

/-! # When a child is dropped

The DELETE of a replaced child names the child when it is sent, but its answer drops the child that
is retained when the answer arrives. The two are the same (`Running.Named`) as long as no child
rekey of the peer is accepted in between; then the data plane is told to drop a child only after the
peer has deleted it or has answered the DELETE that names it (`child_dropped_after_delete`).
`dropped_before_delete` is a run in which the peer rekeys the child in between. -/

namespace Swan.Control

open Swan.Lib Swan.Wire Swan.Payload Swan.Xcrypto

/-- A child is dropped after the peer has deleted it, or has answered the DELETE that names it. -/
def DropsAfterDelete (past : List Entry) : Entry → Prop
  | .update (.childDeleted c) => (∃ replaced, .peerDeleted c.outboundSPI replaced ∈ past) ∨
      ∃ sa msgID before after, past = before ++ .asked sa msgID (.deleteChild c.inboundSPI) :: after ∧
        .accepted sa msgID ∈ after
  | _ => True

def Entry.Keeps : Entry → Prop
  | .update (.childDeleted _) => False
  | _ => True

theorem Entry.Keeps.dropsAfterDelete {e : Entry} (h : e.Keeps) (past : List Entry) :
    DropsAfterDelete past e := by
  unfold DropsAfterDelete
  split
  · exact absurd h id
  · exact trivial

theorem Entry.Plain.keeps {e : Entry} (h : e.Plain) : e.Keeps := by
  cases e with
  | update => exact absurd h id
  | _ => exact trivial

namespace Running

/-- The DELETE in flight names the child that is retained. -/
def Named (a : Running) : Prop :=
  a.state.phase = .rekeyChildDeletingOld → ∀ spi, a.InFlight (.deleteChild spi) →
    ∀ old, a.state.oldChild = some old → old.inboundSPI = spi

variable {a a' : Running} {es : List Entry}

theorem named_of_phase_ne (h : a.state.phase ≠ .rekeyChildDeletingOld) : a.Named :=
  fun h' => absurd h' h

theorem Named.frame (h : a.Named) (hlog : a'.world.log = a.world.log ++ es)
    (hes : ∀ e ∈ es, e.asks a.sa = false) (hsa : a'.sa = a.sa)
    (hs : SameRequest a.state a'.state) (hphase : a'.state.phase = a.state.phase)
    (hold : a'.state.oldChild = a.state.oldChild) : a'.Named := by
  intro hp spi hk old ho
  refine h (hphase.symm.trans hp) spi ?_ old (hold.symm.trans ho)
  exact (InFlight.congr hlog hes hsa hs.hasExpectedResponse hs.expectedResponseMessageID).mp hk

theorem Named.frame_of_log_eq (h : a.Named) (hlog : a'.world.log = a.world.log) (hsa : a'.sa = a.sa)
    (hs : SameRequest a.state a'.state) (hphase : a'.state.phase = a.state.phase)
    (hold : a'.state.oldChild = a.state.oldChild) : a'.Named :=
  h.frame (hlog.trans (List.append_nil _).symm) (by simp) hsa hs hphase hold

end Running

section Act

variable {G : Guard} {a a' : Running}

open Running in
theorem named_act (hG : ∀ a, G.peerChild a → a.state.phase ≠ .rekeyChildDeletingOld)
    (h : Act G a a') (hr : a.Routed) (hn : a.Named) : a'.Named := by
  have same : SameRequest a.state a.state := ⟨rfl, rfl, rfl, rfl, rfl⟩
  have hsafe' : a.state.safeToRekey = true → a.state.phase ≠ .rekeyChildDeletingOld := by
    intro hsafe hphase
    simp [State.safeToRekey, hphase] at hsafe
  cases h with
  | calm h =>
    obtain ⟨es, hes, hd⟩ := h
    exact hn.frame hd.log (fun e he => (hes e he).asks _) rfl same rfl rfl
  | fragments | remember => exact hn.frame_of_log_eq rfl rfl ⟨rfl, rfl, rfl, rfl, rfl⟩ rfl rfl
  | sendRequest | ackFailed | oldSend => exact hn.frame rfl (by simp [Entry.asks]) rfl same rfl rfl
  | keepalive frames h => exact named_of_phase_ne (hr.of_not_expected h).2.2
  | answered msgID h hrekey hp hphase => exact named_of_phase_ne hphase
  | startRekey rc frames hsafe hid hchild =>
    refine named_of_phase_ne fun h => ?_
    replace h : (State.startRekey rc frames a.state.beginRequest).phase = _ := h
    unfold State.startRekey at h
    cases hkind : rc.kind <;> rw [hkind] at h <;> cases h
  | startFailed | abandon | abandonRetry | finishOld => exact named_of_phase_ne (by intro h; cases h)
  | @replaceChild rc old child keys selection t frames h hrekey hkind hactive g =>
    obtain ⟨hk, -⟩ := inFlight_issue
      (a.childInstalled child keys selection t (State.installChildRekey child selection))
      (.deleteChild old.inboundSPI)
      (State.startDeleteOldChild a.state.nextRequestMessageID frames) rfl rfl
    intro _ spi hspi old' hold'
    replace hold' : a.state.activeChild = some old' := hold'
    rw [hactive, Option.some.injEq] at hold'
    rw [← hold']
    exact RequestKind.deleteChild.inj (hk.unique hspi)
  | replaceChildUnsealed child keys selection t h hrekey hkind hactive gi g =>
    exact named_of_phase_ne (hr.phase_ne (hr.rekey _ hrekey).1 (by simp))
  | finishDelete msgID through h hrekey hp hphase g =>
    rw [Running.offeredDeletion_eq]
    exact named_of_phase_ne (by intro h; cases h)
  | replaceIKE | replaceIKEUnsealed | peerIKE =>
    refine named_of_phase_ne fun h => ?_
    replace h : ((State.installIKE _ _ _ _ _ _ _ a.state).mapOldIKE _).phase = _ := h
    rw [phase_mapOldIKE] at h
    cases h
  | peerChild old child keys selection t hold g => exact named_of_phase_ne (hG a g)
  | dropOldChild through hold g =>
    obtain ⟨es, -, heq⟩ := Running.exists_offered (.childDeleted _) through
      (a.logged (.peerDeleted _ true))
    rw [heq]
    refine named_of_phase_ne fun h => ?_
    replace h : a.state.dropOldChild.phase = _ := h
    unfold State.dropOldChild at h
    split_ifs at h with hphase
    exact hphase h
  | @dropActiveChild active through hactive g =>
    obtain ⟨es, hes, heq⟩ := Running.exists_offered (.childDeleted active) through
      (a.logged (.peerDeleted active.outboundSPI false))
    rw [heq]
    refine hn.frame (List.append_assoc a.world.log [.peerDeleted active.outboundSPI false] es)
      (fun e he => ?_) rfl ⟨rfl, rfl, rfl, rfl, rfl⟩ rfl rfl
    rcases List.mem_cons.mp he with rfl | he
    · rfl
    · rw [(hes e he).1]; rfl
  | lease frames hsafe => exact named_of_phase_ne (hsafe' hsafe)
  | dropLease timer ht hrekey hp hs =>
    exact named_of_phase_ne (hr.phase_ne (hr.lease hp) (by simp))
  | leaseFailed timer ht hsafe => exact named_of_phase_ne (hsafe' hsafe)
  | assign config deadline timer through ht g hnew =>
    obtain ⟨es, hes, heq⟩ := Running.exists_offered (.assigned config) through a
    rw [heq]
    exact hn.frame rfl (fun e he => (hes e he).1 ▸ rfl) rfl ⟨rfl, rfl, rfl, rfl, rfl⟩ rfl rfl
  | oldRemember =>
    exact hn.frame_of_log_eq rfl rfl (sameRequest_mapOldIKE _ _) (phase_mapOldIKE _ _)
      (oldChild_mapOldIKE _ _)
  | oldGiveUp =>
    exact hn.frame rfl (by simp [Entry.asks]) rfl (sameRequest_mapOldIKE _ _) (phase_mapOldIKE _ _)
      (oldChild_mapOldIKE _ _)

theorem dropsAfterDelete_act (h : Act G a a') (hr : a.Routed) (hn : a.Named)
    (hj : Justified DropsAfterDelete a.world.log) : Justified DropsAfterDelete a'.world.log := by
  have keep : ∀ {es : List Entry}, (∀ e ∈ es, e.Keeps) →
      Justified DropsAfterDelete (a.world.log ++ es) := fun hes =>
    hj.append_of_forall fun e he past => (hes e he).dropsAfterDelete past
  have drop : ∀ {c : ChildSA} {es : List Entry} {replaced : Bool},
      (∀ e ∈ es, e = .update (.childDeleted c)) → Justified DropsAfterDelete
        (a.world.log ++ [.peerDeleted c.outboundSPI replaced] ++ es) := by
    intro c es replaced hes
    refine Justified.append_of_mem (keep (by simp [Entry.Keeps])) fun e he past hpast => ?_
    rw [hes e he]
    exact .inl ⟨replaced, hpast.subset (by simp)⟩
  cases h with
  | calm h =>
    obtain ⟨es, hes, hd⟩ := h
    rw [show _ = a.world.log ++ es from hd.log]
    exact keep fun e he => (hes e he).keeps
  | fragments | answered | abandon | abandonRetry | replaceIKE | replaceIKEUnsealed | remember |
    peerIKE | dropLease | oldRemember | finishOld => exact hj
  | sendRequest | keepalive | startRekey | startFailed | replaceChildUnsealed | ackFailed |
    peerChild | lease | leaseFailed | oldSend | oldGiveUp => exact keep (by simp [Entry.Keeps])
  | @replaceChild rc old child keys selection t frames h hrekey hkind hactive g =>
    have hj' : Justified DropsAfterDelete (a.world.log ++
        [.update (.childInstalled child keys selection),
          .asked a.sa a.state.nextRequestMessageID (.deleteChild old.inboundSPI)]) :=
      keep (by simp [Entry.Keeps])
    rwa [List.append_cons] at hj'
  | finishDelete msgID through h hrekey hp hphase g =>
    obtain ⟨es, hes, heq⟩ := Running.exists_offeredDeletion a.state.oldChild through a
    rw [heq]
    refine hj.append_of_mem fun e he past hpast => ?_
    obtain ⟨c, hc, rfl⟩ := hes e he
    obtain ⟨⟨spi, hk⟩, -⟩ := hr.deleting hphase
    obtain rfl : c.inboundSPI = spi := hn hphase spi hk c hc
    obtain ⟨before, hbefore⟩ := eq_append_of_latest hk.asked
    obtain ⟨rest, rfl⟩ := hpast
    refine .inr ⟨_, _, before, since (Entry.asks a.sa) a.world.log ++ rest, ?_,
      List.mem_append_left _ h⟩
    rw [← List.cons_append, ← List.append_assoc, ← hbefore]
  | dropOldChild through | dropActiveChild through =>
    obtain ⟨es, hes, heq⟩ := Running.exists_offered (.childDeleted _) through
      (a.logged (.peerDeleted _ _))
    rw [heq]
    exact drop fun e he => (hes e he).1
  | assign config deadline timer through ht g hnew =>
    obtain ⟨es, hes, heq⟩ := Running.exists_offered (.assigned config) through a
    rw [heq]
    exact keep fun e he => by rw [(hes e he).1]; exact trivial

end Act

/-! ### Runs -/

section Runs

variable [Crypto] {cfg : Config} {t₀ : Time} {s : State} {w : World} {l : Loop}

/-- No child rekey request of the peer arrives while the DELETE of a replaced child is in flight, and
no IKE rekey request while a renewal of the lease is. -/
structure Loop.Undisturbed (now : Time) (ev : Event) (l : Loop) : Prop where
  renewal : l.NoRekeyInRenewal now ev
  delete : ∀ pkt inner, ev = .packet (some pkt) → l.actor.PeerRekeys now pkt inner → HasTS inner →
    l.actor.state.phase ≠ .rekeyChildDeletingOld

def Guard.undisturbed : Guard :=
  { Guard.routing with
    peerChild := fun a => a.state.phase ≠ .rekeyChildDeletingOld
    peerChild_idle := id }

theorem Guard.undisturbed_allows {now : Time} {ev : Event} (h : l.Undisturbed now ev) :
    Guard.undisturbed.Allows cfg now ev l where
  __ := Guard.any_allows cfg now ev l
  lets := ⟨.inl trivial, .inl trivial, .inl trivial⟩
  packet pkt hev :=
    { (Guard.any_allows cfg now ev l).packet pkt hev with
      peer := fun inner hpeer =>
        { ((Guard.routing_allows h.renewal : Guard.routing.Allows cfg now ev l).packet pkt
            hev).peer inner hpeer with
          child := fun hts _ => h.delete pkt inner hev hpeer hts
          childLost := fun _ _ => ⟨trivial, fun h => by cases h⟩ } }
  retry _ _ _ _ _ _ := trivial

/-- What an undisturbed run keeps. -/
structure Running.Orderly (a : Running) : Prop where
  tidy : a.Tidy
  routed : a.Routed
  named : a.Named
  dropsAfterDelete : Justified DropsAfterDelete a.world.log

omit [Crypto] in
theorem orderly_act {a a' : Running} (h : Act Guard.undisturbed a a') (ho : a.Orderly) :
    a'.Orderly where
  tidy := tidy_act h ho.tidy
  routed := routed_act (fun _ h => h) h ho.tidy ho.routed
  named := named_act (fun _ h => h) h ho.routed ho.named
  dropsAfterDelete := dropsAfterDelete_act h ho.routed ho.named ho.dropsAfterDelete

omit [Crypto] in
theorem Running.Orderly.disarm {a : Running} (h : a.Orderly) (ev : Event) :
    (ev.disarm a).Orderly where
  tidy := by simpa [Running.Tidy] using h.tidy
  routed := h.routed.disarm ev
  named := by cases ev <;> exact h.named.frame_of_log_eq rfl rfl ⟨rfl, rfl, rfl, rfl, rfl⟩ rfl rfl
  dropsAfterDelete := by cases ev <;> exact h.dropsAfterDelete

omit [Crypto] in
theorem orderly_start (hs : s.HandedOff) (hw : w.log = []) :
    (Loop.start cfg t₀ s w).actor.Orderly where
  tidy := tidy_start hs
  routed := routed_start hs
  named := Running.named_of_phase_ne (by simp [hs.phase])
  dropsAfterDelete := by simpa [hw] using justified_nil

theorem orderly_of_runs (hs : s.HandedOff) (hw : w.log = [])
    (h : Loop.Runs cfg (fun now ev l => l.Undisturbed now ev) (Loop.start cfg t₀ s w) l) :
    l.actor.Orderly :=
  (h.actor_invariant (G := Guard.undisturbed) (orderly_start hs hw) (tidy_start hs)
    (fun ev h => h.disarm ev) (fun hact _ => orderly_act hact)
    fun hc _ => Guard.undisturbed_allows hc).1

/-- **A child is dropped only after its own DELETE**, in every run in which no child rekey of the
peer meets the DELETE of a replaced child and no IKE rekey of the peer a renewal of the lease. -/
theorem child_dropped_after_delete (hs : s.HandedOff) (hw : w.log = [])
    (h : Loop.Runs cfg (fun now ev l => l.Undisturbed now ev) (Loop.start cfg t₀ s w) l) :
    Justified DropsAfterDelete l.actor.world.log ∧ ∀ now ev, l.Undisturbed now ev →
      Justified DropsAfterDelete ((Loop.step cfg now ev).run l).2.actor.world.log := by
  have ho := orderly_of_runs hs hw h
  refine ⟨ho.dropsAfterDelete, fun now ev hC => ?_⟩
  exact Loop.log_step (Guard.undisturbed_allows hC) trivial ⟨ho, ho.tidy⟩
    (fun ev h => h.disarm ev) (fun hact _ => orderly_act hact) Running.Orderly.dropsAfterDelete

end Runs

/-! ### Two rekeys of a child -/

section Sample

attribute [local instance] plainCrypto

def Entry.deletes (c : ChildSA) : Entry → Bool
  | .peerDeleted spi _ => decide (spi = c.outboundSPI)
  | .asked _ _ (.deleteChild spi) => decide (spi = c.inboundSPI)
  | _ => false

theorem exists_deletes {past : List Entry} {c : ChildSA}
    (h : DropsAfterDelete past (.update (.childDeleted c))) : ∃ e ∈ past, e.deletes c = true := by
  rcases h with ⟨replaced, h⟩ | ⟨sa, msgID, before, after, rfl, -⟩
  · exact ⟨_, h, decide_eq_true rfl⟩
  · exact ⟨_, List.mem_append_right _ List.mem_cons_self, decide_eq_true rfl⟩

/-- A child rekey of this end is answered and the DELETE of the old child goes out with id 6. Before
it is answered the peer rekeys the new child. -/
def crossedRekeys : List Loop.Move :=
  [.here (1000 * second) .childSoft, .deliver (1000 * second), .receive (1000 * second),
    .there (1000 * second) .nearWrap, .receive (1000 * second),
    .here (1000 * second) (.packet (some (sampleAnswer 6)))]

/-- In that run the answer drops the new child, which nobody has deleted. -/
theorem dropped_before_delete : ∃ l, Loop.Runs sampleConfig (fun _ _ _ => True) sampleStart l ∧
    ¬Justified DropsAfterDelete l.actor.world.log := by
  obtain ⟨l, hl, hdrop, hkept⟩ := Loop.exists_of_exchange sampleConfig (fun _ _ _ => true)
    sampleStart samplePeer crossedRekeys (P := fun l =>
      l.actor.world.log[9]? = some (.update (.childDeleted ⟨1, 16843009, [1], [2], true⟩)) ∧
      ∀ e ∈ l.actor.world.log.take 9, e.deletes ⟨1, 16843009, [1], [2], true⟩ = false)
    (by decide +kernel)
  refine ⟨l, hl.mono fun _ _ _ => trivial, fun hj => ?_⟩
  obtain ⟨e, he, hdel⟩ := exists_deletes (hj.take hdrop)
  rw [hkept e he] at hdel
  cases hdel

def Packet.isResponse (pkt : Packet) : Bool :=
  (parseMessage pkt.payload).toOption.all fun msg => decide (msg.header.flags &&& flagResponse ≠ 0)

theorem not_currentRequest_of_isResponse {a : Running} {pkt : Packet} {hdr : Header}
    (h : pkt.isResponse = true) : ¬a.CurrentRequest pkt hdr := by
  intro hreq
  obtain ⟨msg, hmsg, rfl, -⟩ := hreq.parsed
  rw [Packet.isResponse, hmsg] at h
  exact absurd hreq.request (by simpa [Except.toOption] using h)

/-- Without a lease, responses while the DELETE is in flight disturb nothing. -/
def sampleUndisturbed (_ : Time) (ev : Event) (l : Loop) : Bool :=
  !l.actor.leasePending && (decide (l.actor.state.phase ≠ .rekeyChildDeletingOld) ||
    match ev with
    | .packet (some pkt) => pkt.isResponse
    | _ => true)

theorem undisturbed_of_sample {now : Time} {ev : Event} {l : Loop}
    (h : sampleUndisturbed now ev l = true) : l.Undisturbed now ev := by
  simp only [sampleUndisturbed, Bool.and_eq_true, Bool.not_eq_true', Bool.or_eq_true,
    decide_eq_true_eq] at h
  refine ⟨fun _ _ _ _ _ => h.1, fun pkt inner hev hpeer _ => h.2.resolve_right fun hresp => ?_⟩
  subst hev
  obtain ⟨hdr, hreq, -⟩ := hpeer
  exact not_currentRequest_of_isResponse hresp hreq

/-- An own child rekey that ends with the answer to the DELETE of the old child. -/
theorem sampleChild_dropped_after_delete : ∃ l : Loop,
    l.actor.world.log.getLast? = some (.update (.childDeleted sampleChild)) ∧
      Justified DropsAfterDelete l.actor.world.log := by
  obtain ⟨l, hl, hlast⟩ := Loop.exists_of_exchange sampleConfig sampleUndisturbed sampleStart
    samplePeer [.here (1000 * second) .childSoft, .deliver (1000 * second), .receive (1000 * second),
      .here (1000 * second) (.packet (some (sampleAnswer 6)))]
    (P := fun l => l.actor.world.log.getLast? = some (.update (.childDeleted sampleChild)))
    (by decide +kernel)
  exact ⟨l, hlast, (child_dropped_after_delete handedOff_sampleSession rfl
    (hl.mono fun _ _ h => undisturbed_of_sample h)).1⟩

end Sample

end Swan.Control
