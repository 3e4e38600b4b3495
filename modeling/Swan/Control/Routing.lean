import Swan.Control.History

/-! # The handler that a response reaches

The kind of the request in flight is not stored with it: `completeResponse` infers it from `rekey`,
`leasePending` and `phase`. `Running.Routed` says that the three fields agree with the last request
that was issued on the current IKE SA (`routed_act`), so that a response is handled as the answer to
that request (`response_completes_request`). The DELETE of a replaced child has nothing left to do
once the peer has deleted the child itself; its answer then ends the exchange only. A renewal of the
lease that is in flight when the peer rekeys the IKE SA stays marked as pending, so runs in which
that happens are left out. -/

namespace Swan.Control

open Swan.Lib Swan.Wire Swan.Payload Swan.Xcrypto

/-! ### The request in flight -/

/-- The note that the peer has deleted a replaced child. -/
def Entry.drops : Entry → Bool
  | .peerDeleted _ replaced => replaced
  | _ => false

theorem Entry.Plain.drops {e : Entry} (h : e.Plain) : e.drops = false := by
  cases e with
  | peerDeleted spi replaced =>
    cases replaced with
    | true => exact absurd h id
    | false => rfl
  | _ => rfl

namespace Running

/-- The request in flight is the last one that was issued on the current IKE SA, and of this
kind. -/
structure InFlight (a : Running) (kind : RequestKind) : Prop where
  expected : a.state.hasExpectedResponse = true
  asked : latest (Entry.asks a.sa) a.world.log =
    some (.asked a.sa a.state.expectedResponseMessageID kind)

instance (a : Running) (kind : RequestKind) : Decidable (a.InFlight kind) :=
  decidable_of_iff (a.state.hasExpectedResponse = true ∧ latest (Entry.asks a.sa) a.world.log =
      some (.asked a.sa a.state.expectedResponseMessageID kind))
    ⟨fun ⟨h₁, h₂⟩ => ⟨h₁, h₂⟩, fun h => ⟨h.expected, h.asked⟩⟩

/-- The peer has deleted the replaced child since the last request on the current IKE SA. -/
def Dropped (a : Running) : Prop :=
  ∃ e ∈ since (Entry.asks a.sa) a.world.log, e.drops = true

instance (a : Running) : Decidable a.Dropped :=
  inferInstanceAs (Decidable (∃ e ∈ since (Entry.asks a.sa) a.world.log, e.drops = true))

/-- What the actor infers the kind of the request in flight from agrees with the log. -/
structure Routed (a : Running) : Prop where
  lease : a.leasePending = true → a.InFlight .lease
  pending : a.InFlight .lease → a.leasePending = true
  rekey : ∀ rc, a.state.rekey = some rc → a.InFlight (.rekey rc.kind) ∧
    a.state.nextRequestMessageID = a.state.expectedResponseMessageID + 1
  rekeying : ∀ kind, a.InFlight (.rekey kind) → ∃ rc, a.state.rekey = some rc ∧ rc.kind = kind
  deleting : a.state.phase = .rekeyChildDeletingOld →
    (∃ spi, a.InFlight (.deleteChild spi)) ∧ a.state.oldIKE = [] ∧ ¬a.Dropped
  dropped : ∀ spi, a.InFlight (.deleteChild spi) → a.state.phase ≠ .rekeyChildDeletingOld →
    a.Dropped
  sent : a.state.hasExpectedResponse = true → a.state.outboundRequest.isSome →
    ∃ kind, a.InFlight kind

variable {a a' : Running} {es : List Entry}

theorem InFlight.unique {kind kind' : RequestKind} (h : a.InFlight kind) (h' : a.InFlight kind') :
    kind = kind' := by
  have heq := Option.some.inj (h.asked.symm.trans h'.asked)
  rw [Entry.asked.injEq] at heq
  exact heq.2.2

theorem InFlight.congr {kind : RequestKind} (hlog : a'.world.log = a.world.log ++ es)
    (hes : ∀ e ∈ es, e.asks a.sa = false) (hsa : a'.sa = a.sa)
    (hexp : a'.state.hasExpectedResponse = a.state.hasExpectedResponse)
    (hid : a'.state.expectedResponseMessageID = a.state.expectedResponseMessageID) :
    a'.InFlight kind ↔ a.InFlight kind := by
  have hlatest := latest_append a.world.log hes
  constructor
  · rintro ⟨h₁, h₂⟩
    rw [hlog, hsa, hid, hlatest] at h₂
    exact ⟨hexp.symm.trans h₁, h₂⟩
  · rintro ⟨h₁, h₂⟩
    refine ⟨hexp.trans h₁, ?_⟩
    rw [hlog, hsa, hid, hlatest]
    exact h₂

theorem dropped_append (hlog : a'.world.log = a.world.log ++ es)
    (hes : ∀ e ∈ es, e.asks a.sa = false) (hsa : a'.sa = a.sa) :
    a'.Dropped ↔ a.Dropped ∨ ∃ e ∈ es, e.drops = true := by
  unfold Dropped
  rw [hlog, hsa, since_append hes]
  simp only [List.mem_append, or_and_right, exists_or]

theorem Routed.leasePending_eq_false (h : a.Routed) {kind : RequestKind} (hk : a.InFlight kind)
    (hne : kind ≠ .lease) : a.leasePending = false := by
  rw [← Bool.not_eq_true]
  exact fun hp => hne (hk.unique (h.lease hp))

theorem Routed.rekey_eq_none (h : a.Routed) {kind : RequestKind} (hk : a.InFlight kind)
    (hne : ∀ k, kind ≠ .rekey k) : a.state.rekey = none := by
  cases hrekey : a.state.rekey with
  | none => rfl
  | some rc => exact absurd (hk.unique (h.rekey rc hrekey).1) (hne _)

theorem Routed.phase_ne (h : a.Routed) {kind : RequestKind} (hk : a.InFlight kind)
    (hne : ∀ spi, kind ≠ .deleteChild spi) : a.state.phase ≠ .rekeyChildDeletingOld := by
  intro hphase
  obtain ⟨⟨spi, hspi⟩, -⟩ := h.deleting hphase
  exact hne spi (hk.unique hspi)

theorem Routed.of_not_expected (h : a.Routed) (hexp : a.state.hasExpectedResponse = false) :
    a.leasePending = false ∧ a.state.rekey = none ∧ a.state.phase ≠ .rekeyChildDeletingOld := by
  have hno : ∀ kind, ¬a.InFlight kind := fun kind hk => by
    have := hk.expected
    rw [hexp] at this
    cases this
  refine ⟨?_, ?_, fun hphase => ?_⟩
  · rw [← Bool.not_eq_true]
    exact fun hp => hno _ (h.lease hp)
  · cases hrekey : a.state.rekey with
    | none => rfl
    | some rc => exact absurd (h.rekey rc hrekey).1 (hno _)
  · obtain ⟨⟨spi, hspi⟩, -⟩ := h.deleting hphase
    exact hno _ hspi

theorem routed_of_idle (hexp : a.state.hasExpectedResponse = false) (hp : a.leasePending = false)
    (hrekey : a.state.rekey = none) (hphase : a.state.phase ≠ .rekeyChildDeletingOld) :
    a.Routed := by
  have hno : ∀ kind, ¬a.InFlight kind := fun kind hk => by
    have := hk.expected
    rw [hexp] at this
    cases this
  exact ⟨fun h => (by rw [hp] at h; cases h), fun h => absurd h (hno _),
    fun rc h => (by rw [hrekey] at h; cases h), fun _ h => absurd h (hno _),
    fun h => absurd h hphase, fun _ h => absurd h (hno _),
    fun h => (by rw [hexp] at h; cases h)⟩

/-- The two states have the same request in flight and the same rekey. -/
structure SameRequest (s s' : State) : Prop where
  hasExpectedResponse : s'.hasExpectedResponse = s.hasExpectedResponse
  expectedResponseMessageID : s'.expectedResponseMessageID = s.expectedResponseMessageID
  nextRequestMessageID : s'.nextRequestMessageID = s.nextRequestMessageID
  outboundRequest : s'.outboundRequest = s.outboundRequest
  rekey : s'.rekey = s.rekey

theorem Routed.next (h : a.Routed) (hlog : a'.world.log = a.world.log ++ es)
    (hes : ∀ e ∈ es, e.asks a.sa = false) (hsa : a'.sa = a.sa)
    (hlease : a'.leasePending = a.leasePending) (hs : SameRequest a.state a'.state)
    (hdel : a'.state.phase = .rekeyChildDeletingOld → a.state.phase = .rekeyChildDeletingOld ∧
      (a.state.oldIKE = [] → a'.state.oldIKE = []) ∧ ∀ e ∈ es, e.drops = false)
    (hdrop : a'.state.phase ≠ .rekeyChildDeletingOld →
      a.state.phase ≠ .rekeyChildDeletingOld ∨ ∃ e ∈ es, e.drops = true) : a'.Routed := by
  have hfl : ∀ kind, a'.InFlight kind ↔ a.InFlight kind := fun kind =>
    InFlight.congr hlog hes hsa hs.hasExpectedResponse hs.expectedResponseMessageID
  have hdropped := dropped_append hlog hes hsa
  refine ⟨fun hp => ?_, fun hk => ?_, fun rc hrc => ?_, fun kind hk => ?_, fun hphase => ?_,
    fun spi hk hphase => ?_, fun hexp hout => ?_⟩
  · exact (hfl _).mpr (h.lease (hlease.symm.trans hp))
  · exact hlease.trans (h.pending ((hfl _).mp hk))
  · obtain ⟨hk, hnext⟩ := h.rekey rc (hs.rekey.symm.trans hrc)
    refine ⟨(hfl _).mpr hk, ?_⟩
    rw [hs.nextRequestMessageID, hs.expectedResponseMessageID, hnext]
  · obtain ⟨rc, hrc, hkind⟩ := h.rekeying kind ((hfl _).mp hk)
    exact ⟨rc, hs.rekey.trans hrc, hkind⟩
  · obtain ⟨hphase', hold, hes'⟩ := hdel hphase
    obtain ⟨⟨spi, hk⟩, hnil, hno⟩ := h.deleting hphase'
    refine ⟨⟨spi, (hfl _).mpr hk⟩, hold hnil, fun hd => ?_⟩
    rcases hdropped.mp hd with hd | ⟨e, he, hd⟩
    · exact hno hd
    · rw [hes' e he] at hd
      cases hd
  · rcases hdrop hphase with hphase' | hd
    · exact hdropped.mpr (.inl (h.dropped spi ((hfl _).mp hk) hphase'))
    · exact hdropped.mpr (.inr hd)
  · rw [hs.hasExpectedResponse] at hexp
    rw [hs.outboundRequest] at hout
    obtain ⟨kind, hk⟩ := h.sent hexp hout
    exact ⟨kind, (hfl _).mpr hk⟩

theorem Routed.frame (h : a.Routed) (hlog : a'.world.log = a.world.log ++ es)
    (hes : ∀ e ∈ es, e.asks a.sa = false ∧ e.drops = false) (hsa : a'.sa = a.sa)
    (hlease : a'.leasePending = a.leasePending) (hs : SameRequest a.state a'.state)
    (hphase : a'.state.phase = a.state.phase)
    (hold : a.state.oldIKE = [] → a'.state.oldIKE = []) : a'.Routed :=
  h.next hlog (fun e he => (hes e he).1) hsa hlease hs
    (fun hp => ⟨hphase.symm.trans hp, hold, fun e he => (hes e he).2⟩)
    fun hp => .inl (hphase ▸ hp)

theorem Routed.frame_of_log_eq (h : a.Routed) (hlog : a'.world.log = a.world.log)
    (hsa : a'.sa = a.sa) (hlease : a'.leasePending = a.leasePending)
    (hs : SameRequest a.state a'.state) (hphase : a'.state.phase = a.state.phase)
    (hold : a.state.oldIKE = [] → a'.state.oldIKE = []) : a'.Routed :=
  h.frame (hlog.trans (List.append_nil _).symm) (by simp) hsa hlease hs hphase hold

theorem inFlight_issue (a : Running) (kind : RequestKind) (f : State → State)
    (hexp : (f a.state.beginRequest).hasExpectedResponse = true)
    (hid : (f a.state.beginRequest).expectedResponseMessageID = a.state.nextRequestMessageID) :
    (a.issue kind f).InFlight kind ∧ ¬(a.issue kind f).Dropped := by
  have hasks : Entry.asks a.sa (.asked a.sa a.state.nextRequestMessageID kind) = true :=
    decide_eq_true rfl
  refine ⟨⟨hexp, ?_⟩, ?_⟩
  · refine (latest_concat a.world.log hasks).trans ?_
    exact congrArg (fun id => some (Entry.asked a.sa id kind)) hid.symm
  · rintro ⟨e, he, -⟩
    replace he : e ∈ since (Entry.asks a.sa) (a.issue kind f).world.log := he
    have hnil : since (Entry.asks a.sa) (a.issue kind f).world.log = [] := since_concat hasks
    rw [hnil] at he
    cases he

theorem routed_of_inFlight {kind : RequestKind} (hk : a.InFlight kind) (hno : ¬a.Dropped)
    (hlease : a.leasePending = true ↔ kind = .lease)
    (hrekey : ∀ rc, a.state.rekey = some rc → kind = .rekey rc.kind ∧
      a.state.nextRequestMessageID = a.state.expectedResponseMessageID + 1)
    (hkind : ∀ k, kind = .rekey k → ∃ rc, a.state.rekey = some rc ∧ rc.kind = k)
    (hdel : a.state.phase = .rekeyChildDeletingOld →
      (∃ spi, kind = .deleteChild spi) ∧ a.state.oldIKE = [])
    (hphase : ∀ spi, kind = .deleteChild spi → a.state.phase = .rekeyChildDeletingOld) :
    a.Routed where
  lease hp := hlease.mp hp ▸ hk
  pending h := hlease.mpr (hk.unique h)
  rekey rc hrc := ⟨(hrekey rc hrc).1 ▸ hk, (hrekey rc hrc).2⟩
  rekeying k h := hkind k (hk.unique h)
  deleting hp := by
    obtain ⟨⟨spi, rfl⟩, hold⟩ := hdel hp
    exact ⟨⟨spi, hk⟩, hold, hno⟩
  dropped spi h hp := absurd (hphase spi (hk.unique h)) hp
  sent _ _ := ⟨kind, hk⟩

theorem routed_ikeInstalled {t : Time} {spiI spiR : UInt64} {isOriginalInitiator : Bool}
    {ni nr : Bytes} {keys : IKEKeys} {selection : Selection} {f : OldIKEContext → OldIKEContext}
    (hp : a.leasePending = false) (hold : a.state.oldIKE = []) :
    (a.ikeInstalled t fun s =>
      (s.installIKE spiI spiR isOriginalInitiator ni nr keys selection).mapOldIKE f).Routed := by
  refine routed_of_idle ?_ hp ?_ ?_ <;>
    simp [Running.ikeInstalled, State.mapOldIKE, State.installIKE, hold]

end Running

/-! ### Every act keeps the agreement -/

/-- No IKE rekey of the peer meets a renewal of the lease. -/
def Guard.routing : Guard :=
  { Guard.any with
    peerIKE := fun a => a.leasePending = false
    peerIKE_idle := id }

theorem sameRequest_mapOldIKE (f : OldIKEContext → OldIKEContext) (s : State) :
    Running.SameRequest s (s.mapOldIKE f) := by
  unfold State.mapOldIKE
  split <;> exact ⟨rfl, rfl, rfl, rfl, rfl⟩

theorem phase_mapOldIKE (f : OldIKEContext → OldIKEContext) (s : State) :
    (s.mapOldIKE f).phase = s.phase := by
  unfold State.mapOldIKE
  split <;> rfl

theorem oldChild_mapOldIKE (f : OldIKEContext → OldIKEContext) (s : State) :
    (s.mapOldIKE f).oldChild = s.oldChild := by
  unfold State.mapOldIKE
  split <;> rfl

@[simp] theorem assigned_mapOldIKE (f : OldIKEContext → OldIKEContext) (s : State) :
    (s.mapOldIKE f).assigned = s.assigned := by
  unfold State.mapOldIKE
  split <;> rfl

theorem oldIKE_mapOldIKE_eq_nil (f : OldIKEContext → OldIKEContext) {s : State}
    (h : s.oldIKE = []) : (s.mapOldIKE f).oldIKE = [] := by
  rw [State.mapOldIKE, h]
  exact h

open Running in
theorem routed_act {G : Guard} (hG : ∀ a, G.peerIKE a → a.leasePending = false) {a a' : Running}
    (h : Act G a a') (htidy : a.Tidy) (hr : a.Routed) : a'.Routed := by
  have same : SameRequest a.state a.state := ⟨rfl, rfl, rfl, rfl, rfl⟩
  have notPending : a.leasePending = false → a.leasePending ≠ true := fun h h' =>
    absurd (h.symm.trans h') (by simp)
  have hupdate : ∀ u, Entry.asks a.sa (.update u) = false ∧ Entry.drops (.update u) = false :=
    fun _ => ⟨rfl, rfl⟩
  cases h with
  | calm h =>
    obtain ⟨es, hes, hd⟩ := h
    exact hr.frame hd.log (fun e he => ⟨(hes e he).asks _, (hes e he).drops⟩) rfl rfl same rfl id
  | fragments | remember => exact hr.frame_of_log_eq rfl rfl rfl ⟨rfl, rfl, rfl, rfl, rfl⟩ rfl id
  | sendRequest | ackFailed | oldSend =>
    exact hr.frame rfl (by simp [Entry.asks, Entry.drops]) rfl rfl same rfl id
  | keepalive frames h =>
    obtain ⟨hp, hrekey, hphase⟩ := hr.of_not_expected h
    obtain ⟨hk, hno⟩ := inFlight_issue a .keepalive
      (State.setOutbound a.state.nextRequestMessageID frames) rfl rfl
    exact routed_of_inFlight hk hno (iff_of_false (notPending hp) (by simp))
      (fun rc hrc => absurd (hrekey.symm.trans hrc) (by simp)) (by simp)
      (fun h => absurd h hphase) (by simp)
  | answered msgID h hrekey hp hphase => exact routed_of_idle rfl hp hrekey hphase
  | startRekey rc frames hsafe hid hchild =>
    obtain ⟨-, hexp, -, -⟩ := State.safeToRekey_iff.mp hsafe
    obtain ⟨hp, -, -⟩ := hr.of_not_expected hexp
    obtain ⟨hk, hno⟩ := inFlight_issue a (.rekey rc.kind) (State.startRekey rc frames) rfl rfl
    refine routed_of_inFlight hk hno (iff_of_false (notPending hp) (by simp))
      (fun rc' hrc => ?_) (fun k hkind => ⟨rc, rfl, RequestKind.rekey.inj hkind⟩) (fun h => ?_)
      (by simp)
    · obtain rfl := Option.some.inj hrc
      exact ⟨rfl, rfl⟩
    · replace h : (State.startRekey rc frames a.state.beginRequest).phase = _ := h
      unfold State.startRekey at h
      cases hkind : rc.kind <;> rw [hkind] at h <;> cases h
  | startFailed t hsafe g =>
    exact routed_of_idle rfl (hr.of_not_expected (State.safeToRekey_iff.mp hsafe).2.1).1 rfl (by simp [State.abandonRekey])
  | abandon hs hrekey g =>
    obtain ⟨rc, hrc⟩ := Option.isSome_iff_exists.mp hrekey
    exact routed_of_idle rfl (hr.leasePending_eq_false (hr.rekey rc hrc).1 (by simp)) rfl
      (by simp [State.abandonRekey, Running.mapState])
  | abandonRetry t hs h g =>
    refine routed_of_idle rfl ?_ rfl (by simp [State.abandonRekey])
    rcases h with hrekey | hsafe
    · obtain ⟨rc, hrc⟩ := Option.isSome_iff_exists.mp hrekey
      exact hr.leasePending_eq_false (hr.rekey rc hrc).1 (by simp)
    · exact (hr.of_not_expected (State.safeToRekey_iff.mp hsafe).2.1).1
  | @replaceChild rc old child keys selection t frames h hrekey hkind hactive g =>
    have hp := hr.leasePending_eq_false (hr.rekey _ hrekey).1 (by simp)
    obtain ⟨hk, hno⟩ := inFlight_issue
      (a.childInstalled child keys selection t (State.installChildRekey child selection))
      (.deleteChild old.inboundSPI)
      (State.startDeleteOldChild a.state.nextRequestMessageID frames) rfl rfl
    refine routed_of_inFlight hk hno (iff_of_false (notPending hp) (by simp))
      (fun rc' hrc => by cases hrc) (by simp) (fun _ => ⟨⟨_, rfl⟩, ?_⟩) fun _ _ => rfl
    exact htidy (by rw [hrekey]; rfl)
  | replaceChildUnsealed child keys selection t h hrekey hkind hactive gi g =>
    -- the id that was taken is not that of the last request
    obtain ⟨hk, hnext⟩ := hr.rekey _ hrekey
    have hp := hr.leasePending_eq_false hk (by simp)
    have hno : ∀ kind, ¬Running.InFlight ((a.childInstalled child keys selection t
        (State.installChildRekey child selection)).mapState State.beginRequest) kind := by
      rintro kind ⟨-, hasked⟩
      have hlatest : latest (Entry.asks a.sa)
          (a.world.log ++ [.update (.childInstalled child keys selection)]) =
            some (.asked a.sa a.state.nextRequestMessageID kind) := hasked
      rw [latest_append _ (by simp [Entry.asks]), hk.asked, Option.some.injEq, Entry.asked.injEq,
        hnext] at hlatest
      exact absurd hlatest.2.1 (by simp)
    refine ⟨fun h => ?_, fun h => absurd h (hno _), fun rc h => ?_, fun _ h => absurd h (hno _),
      fun h => ?_, fun _ h => absurd h (hno _), fun _ h => ?_⟩
    · exact absurd (hp.symm.trans h) (by simp)
    · cases h
    · exact absurd h (hr.phase_ne hk (by simp))
    · cases h
  | finishDelete msgID through h hrekey hp hphase g =>
    obtain ⟨es, hes, heq⟩ := Running.exists_offeredDeletion a.state.oldChild through a
    rw [heq]
    exact routed_of_idle rfl hp hrekey (by simp [State.finishDeleteOldChild, Running.mapState])
  | replaceIKE _ _ _ _ _ _ _ _ _ hrekey _ hold | replaceIKEUnsealed _ _ _ _ _ _ _ _ hrekey _ hold =>
    exact routed_ikeInstalled (hr.leasePending_eq_false (hr.rekey _ hrekey).1 (by simp)) hold
  | peerChild old child keys selection t hold g =>
    exact hr.frame rfl (by simp [Entry.asks, Entry.drops]) rfl rfl ⟨rfl, rfl, rfl, rfl, rfl⟩ rfl id
  | peerIKE spiI spiR ni nr keys selection t msgID frames hrekey hold h g =>
    exact routed_ikeInstalled (hG _ g) hold
  | @dropOldChild old through hold g =>
    obtain ⟨es, hes, heq⟩ := Running.exists_offered (.childDeleted old) through
      (a.logged (.peerDeleted old.outboundSPI true))
    rw [heq]
    refine hr.next (List.append_assoc a.world.log [.peerDeleted old.outboundSPI true] es)
      (fun e he => ?_) rfl rfl ⟨rfl, rfl, rfl, rfl, rfl⟩ (fun hphase => ?_)
      fun _ => .inr ⟨_, List.mem_cons_self, rfl⟩
    · rcases List.mem_cons.mp he with rfl | he
      · rfl
      · rw [(hes e he).1]; rfl
    · replace hphase : a.state.dropOldChild.phase = _ := hphase
      unfold State.dropOldChild at hphase
      split_ifs at hphase with h
      exact absurd hphase h
  | @dropActiveChild active through hactive g =>
    obtain ⟨es, hes, heq⟩ := Running.exists_offered (.childDeleted active) through
      (a.logged (.peerDeleted active.outboundSPI false))
    rw [heq]
    refine hr.frame (List.append_assoc a.world.log [.peerDeleted active.outboundSPI false] es)
      (fun e he => ?_) rfl rfl ⟨rfl, rfl, rfl, rfl, rfl⟩ rfl id
    rcases List.mem_cons.mp he with rfl | he
    · exact ⟨rfl, rfl⟩
    · rw [(hes e he).1]
      exact hupdate _
  | lease frames hsafe =>
    obtain ⟨hphase, hexp, hrekey, -⟩ := State.safeToRekey_iff.mp hsafe
    obtain ⟨hk, hno⟩ := inFlight_issue { a with leasePending := true } .lease
      (State.setOutbound a.state.nextRequestMessageID frames) rfl rfl
    refine routed_of_inFlight hk hno (iff_of_true rfl rfl)
      (fun rc hrc => absurd (hrekey.symm.trans hrc) (by simp)) (by simp)
      (fun h => absurd (hphase.symm.trans h) (by simp)) (by simp)
  | dropLease timer ht hrekey hp hs =>
    exact routed_of_idle rfl rfl hrekey (hr.phase_ne (hr.lease hp) (by simp))
  | leaseFailed timer ht hsafe =>
    obtain ⟨hphase, -, hrekey, -⟩ := State.safeToRekey_iff.mp hsafe
    exact routed_of_idle rfl rfl hrekey fun h => absurd (hphase.symm.trans h) (by simp)
  | assign config deadline timer through ht g hnew =>
    obtain ⟨es, hes, heq⟩ := Running.exists_offered (.assigned config) through a
    rw [heq]
    exact hr.frame rfl (fun e he => (hes e he).1 ▸ hupdate _) rfl rfl ⟨rfl, rfl, rfl, rfl, rfl⟩ rfl id
  | oldRemember msgID frames hold hnew =>
    exact hr.frame_of_log_eq rfl rfl rfl (sameRequest_mapOldIKE _ _) (phase_mapOldIKE _ _)
      (oldIKE_mapOldIKE_eq_nil _)
  | oldGiveUp hold g =>
    exact hr.frame rfl (by simp [Entry.asks, Entry.drops]) rfl rfl (sameRequest_mapOldIKE _ _)
      (phase_mapOldIKE _ _) (oldIKE_mapOldIKE_eq_nil _)
  | finishOld hold =>
    refine hr.next (List.append_nil _).symm (by simp) rfl rfl ⟨rfl, rfl, rfl, rfl, rfl⟩
      (fun h => by cases h) fun _ => .inl fun hphase => ?_
    exact hold (hr.deleting hphase).2.1

/-! ### Handlers -/

section Handlers

variable [Crypto] (cfg : Config) (now : Time)

def completion (msgID : UInt32) (inner : List Payload) : RequestKind → Eff Running Unit
  | .keepalive => modifyState (State.answered msgID)
  | .lease => do
    finishLeaseResponse cfg now inner
    modifyState State.dropRequest
  | .rekey .child => do
    finishChildRekeyResponse cfg now inner
    let r ← Eff.get
    Eff.when (r.state.phase ≠ .rekeyChildDeletingOld) (modifyState State.dropRequest)
  | .rekey .ike => do
    finishIKERekeyResponse cfg now inner
    modifyState State.dropRequest
  | .deleteChild _ => do
    modifyState (State.answered msgID)
    finishDeleteOldChild cfg

/-- The kind as which a request is completed: the DELETE of a child that the peer has deleted by then
has nothing to delete. -/
def Running.handledAs (a : Running) : RequestKind → RequestKind
  | .deleteChild spi => if a.Dropped then .keepalive else .deleteChild spi
  | kind => kind

def errUnanswered (msgID : UInt32) (retries : ℕ) : Err :=
  .errorf (s!"control: keepalive request " ++ s!"{msgID} unanswered after {retries} retries")

variable {a : Running} {pkt : Packet} {hdr : Header} {inner : List Payload} {kind : RequestKind}

omit [Crypto] in
theorem oldChild_finishDeleteOldChild (a : Running) :
    ((finishDeleteOldChild cfg).run a).2.state.oldChild = none := by
  rw [finishDeleteOldChild, Eff.run_bind_of_ok (Eff.run_get _)]
  cases a.state.oldChild with
  | none => rfl
  | some old =>
    obtain ⟨through, w, -, -, hrun⟩ := run_offerUpdate cfg (.childDeleted old) a
    rw [oldChildDeleted, dataplaneChildDeleted, Eff.run_bind_of_ok hrun]
    rfl

theorem run_completeResponse (msgID : UInt32) (inner : List Payload) (hr : a.Routed)
    (hk : a.InFlight kind) : (completeResponse cfg now msgID inner).run a =
      (completion cfg now msgID inner (a.handledAs kind)).run a := by
  have hne : ∀ {k}, kind = k → k ≠ .lease → a.leasePending = false := fun h hne =>
    hr.leasePending_eq_false hk (h ▸ hne)
  rw [completeResponse, Eff.run_bind_of_ok (Eff.run_get a)]
  cases kind with
  | keepalive =>
    have hphase := hr.phase_ne hk (by simp)
    rw [hr.rekey_eq_none hk (by simp), hne rfl (by simp)]
    simp [Running.handledAs, completion, Eff.when, hphase, Eff.run_bind]
  | lease =>
    rw [hr.rekey_eq_none hk (by simp)]
    dsimp only
    rw [if_pos (hr.pending hk)]
    rfl
  | rekey k =>
    obtain ⟨rc, hrc, rfl⟩ := hr.rekeying k hk
    rw [hrc]
    dsimp only [Running.handledAs]
    split_ifs with hkind
    · rw [hkind]; rfl
    · obtain hkind : rc.kind = .ike := by cases h : rc.kind <;> simp_all
      rw [hkind]; rfl
  | deleteChild spi =>
    rw [hr.rekey_eq_none hk (by simp), hne rfl (by simp)]
    dsimp only [Running.handledAs]
    rw [if_neg (by simp)]
    by_cases hd : a.Dropped
    · have hphase : a.state.phase ≠ .rekeyChildDeletingOld := fun h => (hr.deleting h).2.2 hd
      simp [hd, completion, Eff.when, hphase, Eff.run_bind]
    · have hphase : a.state.phase = .rekeyChildDeletingOld :=
        not_not.mp fun h => hd (hr.dropped spi hk h)
      simp [hd, completion, Eff.when, hphase]

theorem Running.CurrentResponse.run (h : a.CurrentResponse pkt hdr)
    (hopen : a.Opens now pkt.payload inner) :
    ∃ f, (openProtectedRawState none now pkt.payload).run a.state =
        (.ok (some inner), a.state.withFragments f) ∧
      (processPacket cfg now pkt).run a =
        (completeResponse cfg now hdr.messageID inner >>= fun _ => pure false).run
          ((a.mapState (State.withFragments f)).logged (.accepted a.sa hdr.messageID)) := by
  obtain ⟨msg, hmsg, rfl, henc⟩ := h.parsed
  obtain ⟨enc, henc⟩ := Option.isSome_iff_exists.mp henc
  obtain ⟨r, f, hrun, hstate⟩ := run_onState_open now pkt.payload a
  obtain rfl : r = .ok (some inner) := (congrArg Prod.fst hrun).symm.trans hopen
  refine ⟨f, hrun, ?_⟩
  have hspiR : ¬(a.state.responderSPI ≠ 0 ∧ msg.header.responderSPI ≠ a.state.responderSPI) := by
    rintro ⟨h₁, h₂⟩
    exact h.responderSPI.elim h₁ h₂
  have hexp : ¬(a.state.hasExpectedResponse = false ∨
      msg.header.messageID ≠ a.state.expectedResponseMessageID) := by
    rintro (h' | h')
    · exact absurd (h.expected.symm.trans h') (by simp)
    · exact h' h.messageID
  have hresponse : (processResponse cfg now msg.header pkt.payload).run a =
      (completeResponse cfg now msg.header.messageID inner).run
        ((a.mapState (State.withFragments f)).logged (.accepted a.sa msg.header.messageID)) := by
    rw [processResponse, Eff.run_bind_of_ok (Eff.run_get a), h.valid]
    dsimp only
    rw [if_neg (not_not.mpr h.initiatorSPI), if_neg hspiR, if_neg hexp,
      Eff.run_bind_of_ok hstate]
    exact Eff.run_bind_of_ok (run_record _ _)
  rw [processPacket, if_neg (by simp [h.kind]), hmsg]
  refine (Eff.run_bind_of_ok (Eff.run_lift _ _)).trans ?_
  rw [henc]
  refine (Eff.run_bind_of_ok (Eff.run_get a)).trans ?_
  rw [h.current]
  refine (congrArg (Eff.run · a) (if_pos h.response)).trans ?_
  rw [Eff.run_bind, hresponse, Eff.run_bind]

theorem run_onRTO_unanswered {l : Loop} (hr : l.actor.Routed) (hk : l.actor.InFlight kind)
    (hkind : kind = .keepalive ∨ ∃ spi, kind = .deleteChild spi)
    (hretries : l.retries ≥ cfg.timeouts.maxRetries) :
    (Loop.step cfg now .rto).run l = (.ok (some (.error
      (errUnanswered l.actor.state.expectedResponseMessageID l.retries))),
        { l with rtoC := none }) := by
  have hp : l.actor.leasePending = false :=
    hr.leasePending_eq_false hk (by rcases hkind with rfl | ⟨spi, rfl⟩ <;> simp)
  have hrekey : l.actor.state.rekey = none :=
    hr.rekey_eq_none hk (by rcases hkind with rfl | ⟨spi, rfl⟩ <;> simp)
  change (Loop.onRTO cfg now).run l = _
  rw [Loop.onRTO, Eff.run_bind_of_ok (Eff.run_modify _ _), Eff.run_bind_of_ok (Eff.run_get _)]
  dsimp only
  rw [if_neg (by simp [hk.expected]), if_pos hretries, if_neg (by simp [hrekey]),
    if_neg (by simp [hp])]
  rfl

end Handlers

/-! ### Runs -/

section Runs

variable [Crypto] {cfg : Config} {t₀ : Time} {s : State} {w : World} {l : Loop}

/-- No IKE rekey request of the peer arrives while a renewal of the lease is in flight. -/
def Loop.NoRekeyInRenewal (now : Time) (ev : Event) (l : Loop) : Prop :=
  ∀ pkt inner, ev = .packet (some pkt) → l.actor.PeerRekeys now pkt inner → ¬HasTS inner →
    l.actor.leasePending = false

theorem Guard.routing_allows {now : Time} {ev : Event} (h : l.NoRekeyInRenewal now ev) :
    Guard.routing.Allows cfg now ev l where
  __ := Guard.any_allows cfg now ev l
  lets := ⟨.inl trivial, .inl trivial, .inl trivial⟩
  packet pkt hev :=
    { (Guard.any_allows cfg now ev l).packet pkt hev with
      peer := fun inner hpeer => ⟨fun _ _ => trivial, fun _ _ => ⟨trivial, trivial⟩,
        fun hts _ _ => h pkt inner hev hpeer hts, fun hts _ => ⟨trivial, h pkt inner hev hpeer hts⟩⟩ }
  retry _ _ _ _ _ _ := trivial

omit [Crypto] in
theorem Running.Routed.disarm {a : Running} (h : a.Routed) (ev : Event) :
    (ev.disarm a).Routed := by
  cases ev <;>
    exact h.frame_of_log_eq rfl rfl rfl ⟨rfl, rfl, rfl, rfl, rfl⟩ rfl id

omit [Crypto] in
theorem routed_start (hs : s.HandedOff) : (Loop.start cfg t₀ s w).actor.Routed := by
  refine Running.routed_of_idle ?_ ?_ ?_ ?_
  · simp [hs.hasExpectedResponse]
  · simp
  · simp [hs.rekey]
  · simp [hs.phase]

theorem routed_of_runs (hs : s.HandedOff)
    (h : Loop.Runs cfg (fun now ev l => l.NoRekeyInRenewal now ev) (Loop.start cfg t₀ s w) l) :
    l.actor.Routed ∧ l.actor.Tidy :=
  h.actor_invariant (G := Guard.routing) (routed_start hs) (tidy_start hs) (fun ev h => h.disarm ev)
    (fun hact => routed_act (fun _ h => h) hact) fun hc _ => Guard.routing_allows hc

/-- **A response is completed as an answer to the request that is in flight**, and a keepalive or a
DELETE that stays unanswered ends the session, in every run in which the peer does not rekey the IKE
SA while a renewal of the lease is in flight. -/
theorem response_completes_request (hs : s.HandedOff)
    (h : Loop.Runs cfg (fun now ev l => l.NoRekeyInRenewal now ev) (Loop.start cfg t₀ s w) l) :
    (∀ now pkt hdr inner, l.actor.CurrentResponse pkt hdr → l.actor.Opens now pkt.payload inner →
      l.actor.state.outboundRequest.isSome →
      ∃ kind f, l.actor.InFlight kind ∧
        (openProtectedRawState none now pkt.payload).run l.actor.state =
          (.ok (some inner), l.actor.state.withFragments f) ∧
        (processPacket cfg now pkt).run l.actor =
          (completion cfg now hdr.messageID inner (l.actor.handledAs kind) >>= fun _ =>
            pure false).run ((l.actor.mapState (State.withFragments f)).logged
              (.accepted l.actor.sa hdr.messageID))) ∧
    ∀ now kind, l.actor.InFlight kind → (kind = .keepalive ∨ ∃ spi, kind = .deleteChild spi) →
      l.retries ≥ cfg.timeouts.maxRetries →
      (Loop.step cfg now .rto).run l = (.ok (some (.error
        (errUnanswered l.actor.state.expectedResponseMessageID l.retries))),
          { l with rtoC := none }) := by
  obtain ⟨hr, -⟩ := routed_of_runs hs h
  refine ⟨fun now pkt hdr inner hresp hopen hout => ?_, fun now kind hk hkind hretries =>
    run_onRTO_unanswered cfg now hr hk hkind hretries⟩
  obtain ⟨kind, hk⟩ := hr.sent hresp.expected hout
  obtain ⟨f, hrun, hpkt⟩ := hresp.run cfg now hopen
  refine ⟨kind, f, hk, hrun, hpkt.trans ?_⟩
  -- the accepted response is noted before it is completed
  set a := (l.actor.mapState (State.withFragments f)).logged (.accepted l.actor.sa hdr.messageID)
  have hlog : a.world.log = l.actor.world.log ++ [.accepted l.actor.sa hdr.messageID] := rfl
  have hra : a.Routed := hr.frame hlog (by simp [Entry.asks, Entry.drops]) rfl rfl
    ⟨rfl, rfl, rfl, rfl, rfl⟩ rfl id
  have hka : a.InFlight kind :=
    (Running.InFlight.congr hlog (by simp [Entry.asks]) rfl rfl rfl).mpr hk
  have hd : a.Dropped ↔ l.actor.Dropped := by
    rw [Running.dropped_append hlog (by simp [Entry.asks]) rfl]
    simp [Entry.drops]
  have hhandled : a.handledAs kind = l.actor.handledAs kind := by
    cases kind <;> simp [Running.handledAs, hd]
  rw [Eff.run_bind, run_completeResponse cfg now hdr.messageID inner hra hka, hhandled, Eff.run_bind]

end Runs

/-! ### A DELETE that has nothing left to delete -/

section Sample

attribute [local instance] plainCrypto

/-- The peer deletes the child with the inbound SPI 8, under the message id 0. -/
def sampleChildDelete : Packet :=
  sampleSession.peerPacket ExchangeType.informational 0 requestFlags
    (some (PayloadType.delete, (appendDelete ⟨deleteProtocolESP, [8]⟩).toOption.getD []))

/-- The peer answers the request `msgID` with an empty INFORMATIONAL response. -/
def sampleAnswer (msgID : UInt32) : Packet :=
  sampleSession.peerPacket ExchangeType.informational msgID responseFlags none

/-- A child rekey is answered and the DELETE of the old child goes out with id 6. Then the peer
deletes that child itself and rekeys the new one. -/
def crossedDeletes : List Loop.Move :=
  [.here (1000 * second) .childSoft, .deliver (1000 * second), .receive (1000 * second),
    .here (1000 * second) (.packet (some sampleChildDelete)), .there (1000 * second) .nearWrap,
    .receive (1000 * second)]

/-- The packet is the response to the request of a kind that is in flight. -/
def Answers (pkt : Packet) (now : Time) (kind : RequestKind) (a : Running) : Prop :=
  ∃ msg ∈ (parseMessage pkt.payload).toOption, a.InFlight kind ∧
    a.CurrentResponse pkt msg.header ∧ a.Opens now pkt.payload [] ∧
    a.state.outboundRequest.isSome

instance (pkt : Packet) (now : Time) (kind : RequestKind) (a : Running) :
    Decidable (Answers pkt now kind a) :=
  inferInstanceAs (Decidable (∃ msg ∈ (parseMessage pkt.payload).toOption, _))

/-- In that run the answer to the DELETE is not completed as one: the replaced child stays, which by
now is another one. -/
theorem deleteAnswer_not_finishDelete : ∃ l : Loop,
    Loop.Runs sampleConfig (fun _ _ _ => True) sampleStart l ∧
    Answers (sampleAnswer 6) (1000 * second) (.deleteChild 7) l.actor ∧
    ∀ f, ((processPacket sampleConfig (1000 * second) (sampleAnswer 6)).run
        l.actor).2.state.oldChild ≠
      ((completion sampleConfig (1000 * second) 6 [] (.deleteChild 7)).run
        ((l.actor.mapState (State.withFragments f)).logged
          (.accepted l.actor.sa 6))).2.state.oldChild := by
  obtain ⟨l, hl, hans, hold⟩ := Loop.exists_of_exchange sampleConfig
    (fun _ _ _ => true) sampleStart samplePeer crossedDeletes (P := fun l => Answers (sampleAnswer 6) (1000 * second) (.deleteChild 7) l.actor ∧
      ((processPacket sampleConfig (1000 * second) (sampleAnswer 6)).run
        l.actor).2.state.oldChild.isSome) (by decide +kernel)
  refine ⟨l, hl.mono fun _ _ _ => trivial, hans, fun f h => ?_⟩
  have hfinish : ((completion sampleConfig (1000 * second) 6 [] (.deleteChild 7)).run
      ((l.actor.mapState (State.withFragments f)).logged
        (.accepted l.actor.sa 6))).2.state.oldChild = none :=
    oldChild_finishDeleteOldChild _ _
  rw [h, hfinish] at hold
  cases hold

/-- The answer to a keepalive ends the exchange and nothing else. -/
theorem response_completes_sampleKeepalive : ∃ l : Loop,
    Answers (sampleAnswer 5) (11 * second) .keepalive l.actor ∧ ∃ f,
      (processPacket sampleConfig (11 * second) (sampleAnswer 5)).run l.actor =
        (.ok false, ((l.actor.mapState (State.withFragments f)).logged
          (.accepted l.actor.sa 5)).mapState (State.answered 5)) := by
  obtain ⟨l, hl, hans⟩ := Loop.exists_of_follow sampleConfig sampleStart [(10 * second, .tick)]
    (P := fun l => Answers (sampleAnswer 5) (11 * second) .keepalive l.actor) (by decide +kernel)
  obtain ⟨l₁, hgo, hnil⟩ := Loop.follow_cons hl
  obtain rfl : l₁ = l := Option.some.inj hnil
  have hruns : Loop.Runs sampleConfig (fun now ev l => l.NoRekeyInRenewal now ev) sampleStart l₁ :=
    .single ⟨_, fun _ _ h => (by cases h), hgo⟩
  obtain ⟨msg, hmsg, hk, hresp, hopen, hout⟩ := hans
  obtain ⟨kind, f, hkind, -, hrun⟩ := (response_completes_request handedOff_sampleSession hruns).1
    (11 * second) (sampleAnswer 5) msg.header [] hresp hopen hout
  obtain rfl := hkind.unique hk
  have hid : msg.header.messageID = 5 := by
    have hdec : (parseMessage (sampleAnswer 5).payload).toOption.all
        (fun msg => decide (msg.header.messageID = 5)) = true := by decide +kernel
    rw [hmsg] at hdec
    simpa using hdec
  rw [hid] at hrun
  exact ⟨l₁, ⟨msg, hmsg, hk, hresp, hopen, hout⟩, f, hrun⟩

end Sample

end Swan.Control
