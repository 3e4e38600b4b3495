import Swan.Control.Routing

/-! # The retained IKE SA

After an IKE rekey the previous IKE SA is retained until it is deleted. `OldIKEChange` lists what an
act does to it. The responses that were cached for it answer repeated requests as before, except for
the message id 0, which is refused on the retained SA (`old_request_replayed_iff`). After an own rekey
its DELETE is in flight with its retransmission timer armed (`old_ike_delete_pending`), as long as
the DELETE does not run out of retries: then the SA stays without a DELETE and no rekey can start
(`oldIKE_without_delete`). -/

namespace Swan.Control

open Swan.Lib Swan.Wire Swan.Payload Swan.Xcrypto

/-! ### What an act does to the retained SA -/

/-- How the retained IKE SA and the role on the current one change. -/
inductive OldIKEChange (G : Guard) (a a' : Running) : Prop
  | same (hold : a'.state.oldIKE = a.state.oldIKE)
      (hrole : a'.state.isOriginalInitiator = a.state.isOriginalInitiator)
  | gone (hold : a'.state.oldIKE = [])
  | own (msgID : UInt32) (frames : List Frame)
      (hold : a'.state.oldIKE = [a.state.toOldIKE.begin.deleting msgID frames])
      (g : G.installs .ike a)
  | unsealed (hold : a'.state.oldIKE = [a.state.toOldIKE.begin]) (g : G.sealFails)
  | peer (msgID : UInt32) (frames : List Frame) (h : a.Fresh msgID)
      (hold : a'.state.oldIKE = [a.state.toOldIKE.remember msgID frames])
      (hrole : a'.state.isOriginalInitiator = false) (g : G.peerIKE a)
  | remember {old : OldIKEContext} {rest : List OldIKEContext} (msgID : UInt32)
      (frames : List Frame) (hold : a.state.oldIKE = old :: rest)
      (hnew : ∀ e ∈ old.inboundHistory, e.messageID ≠ msgID)
      (hold' : a'.state.oldIKE = old.remember msgID frames :: rest)
      (hrole : a'.state.isOriginalInitiator = a.state.isOriginalInitiator)
  | giveUp {old : OldIKEContext} {rest : List OldIKEContext} (hold : a.state.oldIKE = old :: rest)
      (hold' : a'.state.oldIKE = old.giveUp :: rest)
      (hrole : a'.state.isOriginalInitiator = a.state.isOriginalInitiator) (g : G.oldGiveUp a)

theorem isOriginalInitiator_mapOldIKE (f : OldIKEContext → OldIKEContext) (s : State) :
    (s.mapOldIKE f).isOriginalInitiator = s.isOriginalInitiator := by
  unfold State.mapOldIKE
  split <;> rfl

theorem oldIKE_act {G : Guard} {a a' : Running} (h : Act G a a') : OldIKEChange G a a' := by
  have hinstalled : ∀ {spiI spiR : UInt64} {role : Bool} {ni nr : Bytes} {keys : IKEKeys}
      {selection : Selection} {f : OldIKEContext → OldIKEContext}, a.state.oldIKE = [] →
      ((a.state.installIKE spiI spiR role ni nr keys selection).mapOldIKE f).oldIKE =
        [f a.state.toOldIKE] := by
    intro spiI spiR role ni nr keys selection f hold
    simp [State.mapOldIKE, State.installIKE, hold]
  cases h with
  | startFailed | abandon | abandonRetry | finishOld => exact .gone rfl
  | replaceIKE spiI spiR ni nr keys selection t frames h hrekey hkind hold g =>
    exact .own _ frames (hinstalled hold) g
  | replaceIKEUnsealed spiI spiR ni nr keys selection t h hrekey hkind hold g =>
    exact .unsealed (hinstalled hold) g
  | peerIKE spiI spiR ni nr keys selection t msgID frames hrekey hold h g =>
    exact .peer msgID frames h (hinstalled hold) (isOriginalInitiator_mapOldIKE _ _) g
  | finishDelete _ through =>
    rw [Running.offeredDeletion_eq]
    exact .same rfl rfl
  | dropOldChild through | dropActiveChild through | assign _ _ _ through =>
    cases through <;> exact .same rfl rfl
  | oldRemember msgID frames hold hnew =>
    exact .remember msgID frames hold hnew (State.oldIKE_mapOldIKE hold)
      (isOriginalInitiator_mapOldIKE _ _)
  | oldGiveUp hold g =>
    exact .giveUp hold (State.oldIKE_mapOldIKE hold) (isOriginalInitiator_mapOldIKE _ _) g
  | _ => exact .same rfl rfl

/-! ### Cached responses -/

/-- The cached responses, of the retained IKE SA also, have different ids. -/
structure Running.Cached (a : Running) : Prop where
  ordered : Ordered a.state.inboundHistory
  distinct : ∀ old ∈ a.state.oldIKE, (old.inboundHistory.map CachedResponse.messageID).Nodup

theorem Ordered.nodup {history : List CachedResponse} (h : Ordered history) :
    (history.map CachedResponse.messageID).Nodup :=
  h.increasing.imp fun hlt => UInt32.ne_of_lt hlt

theorem Ordered.ne_of_fresh {a : Running} {msgID : UInt32} (h : Ordered a.state.inboundHistory)
    (hfresh : a.Fresh msgID) : ∀ e ∈ a.state.inboundHistory, e.messageID ≠ msgID := by
  intro e he
  obtain ⟨last, hlast, hle⟩ := h.covers he
  exact UInt32.ne_of_lt (UInt32.lt_of_le_of_lt hle (hfresh last hlast))

theorem nodup_remember {old : OldIKEContext} {msgID : UInt32} (frames : List Frame)
    (h : (old.inboundHistory.map CachedResponse.messageID).Nodup)
    (hnew : ∀ e ∈ old.inboundHistory, e.messageID ≠ msgID) :
    ((old.remember msgID frames).inboundHistory.map CachedResponse.messageID).Nodup := by
  rw [OldIKEContext.remember, List.map_append, List.nodup_append]
  refine ⟨h, by simp, fun x hx y hy => ?_⟩
  obtain ⟨e, he, rfl⟩ := List.mem_map.mp hx
  obtain rfl : y = msgID := by simpa using hy
  exact hnew e he

theorem cached_act {G : Guard} {a a' : Running} (h : Act G a a') (hc : a.Cached) : a'.Cached := by
  refine ⟨ordered_act h hc.ordered, ?_⟩
  have hone : ∀ {old old' : OldIKEContext}, a'.state.oldIKE = [old'] → old ∈ a'.state.oldIKE →
      old = old' := by
    intro old old' heq hmem
    rw [heq] at hmem
    exact List.mem_singleton.mp hmem
  intro old hmem
  rcases oldIKE_act h with hold | hold | ⟨msgID, frames, hold, -⟩ | ⟨hold, -⟩ |
    ⟨msgID, frames, hfresh, hold, -, -⟩ | ⟨msgID, frames, hold, hnew, hold', -⟩ | ⟨hold, hold', -, -⟩
  · rw [hold] at hmem
    exact hc.distinct old hmem
  · rw [hold] at hmem
    cases hmem
  · rw [hone hold hmem]
    exact hc.ordered.nodup
  · rw [hone hold hmem]
    exact hc.ordered.nodup
  · rw [hone hold hmem]
    exact nodup_remember frames hc.ordered.nodup (hc.ordered.ne_of_fresh hfresh)
  · rw [hold'] at hmem
    rcases List.mem_cons.mp hmem with rfl | hmem
    · exact nodup_remember frames (hc.distinct _ (by rw [hold]; exact List.mem_cons_self)) hnew
    · exact hc.distinct old (by rw [hold]; exact List.mem_cons_of_mem _ hmem)
  · rw [hold'] at hmem
    rcases List.mem_cons.mp hmem with rfl | hmem
    · exact (hc.distinct _ (by rw [hold]; exact List.mem_cons_self) :)
    · exact hc.distinct old (by rw [hold]; exact List.mem_cons_of_mem _ hmem)

section Replay

variable [Crypto] {cfg : Config} {t₀ : Time} {s : State} {w : World} {l : Loop}

theorem cached_of_runs (hs : s.HandedOff)
    (h : Loop.Runs cfg (fun _ _ _ => True) (Loop.start cfg t₀ s w) l) : l.actor.Cached := by
  refine (h.actor_invariant (G := Guard.any) (I := Running.Cached) ⟨?_, ?_⟩ (tidy_start hs)
    (fun ev h => ?_) (fun hact _ => cached_act hact) fun _ _ => Guard.any_allows _ _ _ _).1
  · simpa [hs.inboundHistory] using ordered_nil
  · simp [hs.oldIKE]
  · exact ⟨by simpa using h.ordered, by simpa using h.distinct⟩

/-- An authenticated request on the retained IKE SA that is not fragmented, with the id of a cached
response. -/
structure Running.OldRetransmission (a : Running) (old : OldIKEContext) (e : CachedResponse)
    (pkt : Packet) (hdr : Header) : Prop where
  kind : pkt.kind = .ike
  parsed : ∃ msg, parseMessage pkt.payload = .ok msg ∧ msg.header = hdr ∧ msg.encrypted.isSome
  dispatched : a.state.oldIKEFor hdr = some old
  request : hdr.flags &&& flagResponse = 0
  messageID : hdr.messageID = e.messageID
  authentic : ∃ plds, openProtectedMessageEnvelope (oldIKEEnvelope old) pkt.payload = .ok plds

theorem Running.oldRetransmission_iff {a : Running} {old : OldIKEContext} {e : CachedResponse}
    {pkt : Packet} {hdr : Header} : a.OldRetransmission old e pkt hdr ↔
      pkt.kind = .ike ∧ ((parseMessage pkt.payload).toOption.any fun msg =>
        decide (msg.header = hdr) && msg.encrypted.isSome) = true ∧
      a.state.oldIKEFor hdr = some old ∧ hdr.flags &&& flagResponse = 0 ∧
      hdr.messageID = e.messageID ∧
      (openProtectedMessageEnvelope (oldIKEEnvelope old) pkt.payload).toOption.isSome = true := by
  have hopen : (∃ plds, openProtectedMessageEnvelope (oldIKEEnvelope old) pkt.payload = .ok plds) ↔
      (openProtectedMessageEnvelope (oldIKEEnvelope old) pkt.payload).toOption.isSome = true := by
    cases openProtectedMessageEnvelope (oldIKEEnvelope old) pkt.payload <;> simp [Except.toOption]
  rw [← parsed_iff, ← hopen]
  constructor
  · intro h
    exact ⟨h.kind, h.parsed, h.dispatched, h.request, h.messageID, h.authentic⟩
  · rintro ⟨hkind, hparsed, hdispatched, hrequest, hid, hauth⟩
    exact ⟨hkind, hparsed, hdispatched, hrequest, hid, hauth⟩

instance (a : Running) (old : OldIKEContext) (e : CachedResponse) (pkt : Packet) (hdr : Header) :
    Decidable (a.OldRetransmission old e pkt hdr) :=
  decidable_of_iff' _ Running.oldRetransmission_iff

omit [Crypto] in
theorem find?_of_nodup {history : List CachedResponse}
    (h : (history.map CachedResponse.messageID).Nodup) {e : CachedResponse} (he : e ∈ history) :
    (history.find? fun entry => entry.messageID = e.messageID) = some e := by
  obtain ⟨e', he'⟩ : ∃ e', (history.find? fun entry => entry.messageID = e.messageID) = some e' :=
    Option.isSome_iff_exists.mp (List.find?_isSome.mpr ⟨e, he, by simp⟩)
  have hid : e'.messageID = e.messageID := by simpa using List.find?_some he'
  rw [he', List.inj_on_of_nodup_map h (List.mem_of_find?_eq_some he') he hid]

section Repeated

variable {a : Running} {old : OldIKEContext} {e : CachedResponse} {pkt : Packet} {hdr : Header}

theorem Running.OldRetransmission.run_processPacket (h : a.OldRetransmission old e pkt hdr)
    (now : Time) : (processPacket cfg now pkt).run a =
      (processOldIKERequest cfg old hdr pkt.payload >>= fun _ => pure false).run a := by
  obtain ⟨msg, hmsg, rfl, henc⟩ := h.parsed
  obtain ⟨enc, henc⟩ := Option.isSome_iff_exists.mp henc
  rw [processPacket, if_neg (by simp [h.kind]), hmsg]
  refine (Eff.run_bind_of_ok (Eff.run_lift _ _)).trans ?_
  rw [henc]
  refine (Eff.run_bind_of_ok (Eff.run_get a)).trans ?_
  rw [h.dispatched]
  exact congrArg (fun x => (x >>= fun _ => pure false : Eff Running Bool).run a)
    (if_neg (not_not.mpr h.request))

def errMissingMessageID : Err := .errorf "control: old IKE SA request missing message-id"

theorem Running.OldRetransmission.run_of_zero (h : a.OldRetransmission old e pkt hdr) (now : Time)
    (h0 : e.messageID = 0) :
    (processPacket cfg now pkt).run a = (.error errMissingMessageID, a) := by
  obtain ⟨plds, hopen⟩ := h.authentic
  rw [h.run_processPacket now]
  refine Eff.run_bind_of_error ?_
  rw [processOldIKERequest, hopen]
  refine (Eff.run_bind_of_ok (Eff.run_lift _ _)).trans ?_
  rw [if_pos (h.messageID.trans h0)]
  rfl

theorem Running.OldRetransmission.run_of_ne_zero (cfg : Config)
    (h : a.OldRetransmission old e pkt hdr) (hc : a.Cached) (he : e ∈ old.inboundHistory) (now : Time) (h0 : e.messageID ≠ 0) :
    (processPacket cfg now pkt).run a =
      (sendFrames a.oldSA .replay e.messageID e.responsePackets >>= fun _ => pure false).run a := by
  have hmem : old ∈ a.state.oldIKE :=
    List.mem_of_mem_head? (Option.filter_eq_some_iff.mp h.dispatched).1
  obtain ⟨plds, hopen⟩ := h.authentic
  have hrun : (processOldIKERequest cfg old hdr pkt.payload).run a =
      (sendFrames a.oldSA .replay e.messageID e.responsePackets).run a := by
    rw [processOldIKERequest, hopen]
    refine (Eff.run_bind_of_ok (Eff.run_lift _ _)).trans ?_
    rw [h.messageID, if_neg h0, Eff.run_bind_of_ok (Eff.run_get _),
      find?_of_nodup (hc.distinct old hmem) he]
  rw [h.run_processPacket now, Eff.run_bind, hrun, ← Eff.run_bind]

omit [Crypto] in
theorem run_sendFrames_ne (sa : ℕ) (purpose : Purpose) (msgID : UInt32) (frames : List Frame)
    {a₁ : Running} {e : Err} (he : e ≠ .canceled) :
    (sendFrames sa purpose msgID frames >>= fun _ => pure false).run a ≠ (.error e, a₁) := by
  intro heq
  have hres := wp_sendFrames_error sa purpose msgID frames a
  unfold Eff.wp at hres
  rw [Eff.run_bind] at heq
  generalize (sendFrames sa purpose msgID frames).run a = x at heq hres
  obtain ⟨r, a'⟩ := x
  obtain rfl | rfl := hres
  · cases heq
  · cases heq
    exact he rfl

end Repeated

/-- **A repeated request on the retained IKE SA is answered with the cached frames, and nothing else
changes, unless its message id is 0.** -/
theorem old_request_replayed_iff (hs : s.HandedOff)
    (h : Loop.Runs cfg (fun _ _ _ => True) (Loop.start cfg t₀ s w) l) {old : OldIKEContext}
    {e : CachedResponse} (he : e ∈ old.inboundHistory) {pkt : Packet} {hdr : Header}
    (hr : l.actor.OldRetransmission old e pkt hdr) (now : Time) :
    ((processPacket cfg now pkt).run l.actor =
        (sendFrames l.actor.oldSA .replay e.messageID e.responsePackets >>= fun _ =>
          pure false).run l.actor ∧
      ((processPacket cfg now pkt).run l.actor).2.state = l.actor.state) ↔ e.messageID ≠ 0 := by
  constructor
  · rintro ⟨heq, -⟩ h0
    rw [hr.run_of_zero now h0] at heq
    exact run_sendFrames_ne _ _ _ _ (by decide) heq.symm
  · intro h0
    have hrun := hr.run_of_ne_zero cfg (cached_of_runs hs h) he now h0
    refine ⟨hrun, ?_⟩
    have hreplay : (sendFrames l.actor.oldSA .replay e.messageID e.responsePackets).Within Calm :=
      calm_sendFrames (by decide) _ _
    rw [hrun]
    exact ((hreplay.bind fun _ => Eff.within_pure false) l.actor).state

end Replay

/-! ### The DELETE of the retained SA -/

namespace Running

/-- The previous IKE SA was replaced by an own rekey, so that the actor has to delete it. -/
def OwnsDelete (a : Running) : Prop :=
  a.state.isOriginalInitiator = true ∧ a.state.oldIKE ≠ []

/-- The DELETE that the actor has to send is in flight. -/
def Deleting (a : Running) : Prop :=
  a.state.isOriginalInitiator = true → ∀ old ∈ a.state.oldIKE,
    old.hasExpectedResponse = true ∧ old.outboundRequest.isSome

end Running

variable {a a' : Running}

theorem Running.Deleting.exists_checkpoint (h : a.Deleting) (hown : a.OwnsDelete) :
    ∃ old rest cp, a.state.oldIKE = old :: rest ∧ old.hasExpectedResponse = true ∧
      old.outboundRequest = some cp := by
  obtain ⟨old, rest, hold⟩ := List.exists_cons_of_ne_nil hown.2
  obtain ⟨hexp, hout⟩ := h hown.1 old (by rw [hold]; exact List.mem_cons_self)
  obtain ⟨cp, hcp⟩ := Option.isSome_iff_exists.mp hout
  exact ⟨old, rest, cp, hold, hexp, hcp⟩

/-- The guard under which the DELETE of the retained IKE SA is sealed and not given up. -/
def Guard.retaining (installs peerIKE : Prop) : Guard :=
  { Guard.any with
    sealFails := False
    installs := fun kind _ => kind = .ike → installs
    installs_idle := id
    peerIKE := fun _ => peerIKE
    peerIKE_idle := id
    oldGiveUp := fun _ => False }

theorem deleting_act (h : Act (Guard.retaining True True) a a') (hd : a.Deleting) :
    a'.Deleting := by
  intro hown old hmem
  rcases oldIKE_act h with ⟨hold, hrole⟩ | hold | ⟨msgID, frames, hold, -⟩ | ⟨-, g⟩ |
    ⟨-, -, -, -, hrole, -⟩ | ⟨msgID, frames, hold, -, hold', hrole⟩ | ⟨-, -, -, g⟩
  · rw [hold] at hmem
    exact hd (hrole.symm.trans hown) old hmem
  · rw [hold] at hmem
    cases hmem
  · rw [hold, List.mem_singleton] at hmem
    rw [hmem]
    exact ⟨rfl, rfl⟩
  · exact g.elim
  · rw [hrole] at hown
    cases hown
  · have hd := hd (hrole.symm.trans hown)
    rw [hold] at hd
    rw [hold'] at hmem
    rcases List.mem_cons.mp hmem with rfl | hmem
    · exact (hd _ List.mem_cons_self :)
    · exact hd old (List.mem_cons_of_mem _ hmem)
  · exact g.elim

theorem ownsDelete_act {peerIKE : Prop} (h : Act (Guard.retaining False peerIKE) a a')
    (ha : ¬a.OwnsDelete) : ¬a'.OwnsDelete := by
  rintro ⟨hown, hne⟩
  rcases oldIKE_act h with ⟨hold, hrole⟩ | hold | ⟨-, -, -, g⟩ | ⟨-, g⟩ | ⟨-, -, -, -, hrole, -⟩ |
    ⟨msgID, frames, hold, -, -, hrole⟩ | ⟨-, -, -, g⟩
  · exact ha ⟨hrole.symm.trans hown, hold ▸ hne⟩
  · exact hne hold
  · exact (g rfl).elim
  · exact g.elim
  · rw [hrole] at hown
    cases hown
  · exact ha ⟨hrole.symm.trans hown, by rw [hold]; exact List.cons_ne_nil _ _⟩
  · exact g.elim

theorem oldIKE_eq_nil_act (h : Act (Guard.retaining False False) a a') (ha : a.state.oldIKE = []) :
    a'.state.oldIKE = [] := by
  have hne : ∀ {old rest}, a.state.oldIKE ≠ old :: rest := fun hold => by
    rw [ha] at hold
    cases hold
  rcases oldIKE_act h with ⟨hold, -⟩ | hold | ⟨-, -, -, g⟩ | ⟨-, g⟩ | ⟨-, -, -, -, -, g⟩ |
    ⟨-, -, hold, -, -, -⟩ | ⟨hold, -, -, -⟩
  · exact hold.trans ha
  · exact hold
  · exact (g rfl).elim
  · exact g.elim
  · exact g.elim
  · exact absurd hold hne
  · exact absurd hold hne

section Persist

variable [Crypto] {cfg : Config} {now t₀ : Time} {ev : Event} {s : State} {w : World} {l l' : Loop}

/-- A round in which the DELETE of the retained IKE SA can be sealed and sent, and has retries
left. -/
structure Loop.DeletePersists (cfg : Config) (_now : Time) (ev : Event) (l : Loop) : Prop where
  canSeal : l.actor.CanSeal cfg
  cancel : ∀ k, l.actor.world.cancel k = false
  retries : ev = .oldRto → l.oldRetries < cfg.timeouts.maxRetries

theorem Guard.retaining_allows {installs : Prop} (h : l.DeletePersists cfg now ev)
    (hinst : ∀ pkt hdr inner, ev = .packet (some pkt) → l.actor.CurrentResponse pkt hdr →
      l.actor.Opens now pkt.payload inner →
      ∀ rc, l.actor.state.rekey = some rc → rc.kind = .ike → installs) :
    (Guard.retaining installs True).Allows cfg now ev l where
  __ := Guard.any_allows cfg now ev l
  lets := ⟨.inr h.canSeal, .inl trivial, .inl trivial⟩
  packet pkt hev :=
    { (Guard.any_allows cfg now ev l).packet pkt hev with
      install := fun hdr inner hresp hopen rc hrekey => hinst pkt hdr inner hev hresp hopen rc hrekey
      peer := fun inner hp => { ((Guard.any_allows cfg now ev l).packet pkt hev).peer inner hp with } }
  oldRto hev hge := absurd (h.retries hev) (Nat.not_lt.mpr hge)
  retry _ _ _ _ _ _ := trivial

variable {old : OldIKEContext} {rest : List OldIKEContext} {f : Loop → Loop}

omit [Crypto] in
theorem run_onRng {α : Type} {x : Eff Rng α} {v : α} {rng : Rng}
    (h : x.run a.world.rng = (.ok v, rng)) :
    (onRng x).run a = (.ok v, { a with world := { a.world with rng := rng } }) := by
  rw [onRng, Eff.run_zoom, h]

omit [Crypto] in
/-- The DELETE of the retained IKE SA is stored with its packets, which are the last entries of the
log. -/
structure Running.DeleteSent (a : Running) (msgID : UInt32) (frames : List Frame) : Prop where
  stored : ∃ old rest, a.state.oldIKE = old :: rest ∧ old.hasExpectedResponse = true ∧
    old.expectedResponseMessageID = msgID ∧ old.outboundRequest = some ⟨msgID, frames⟩
  sent : frames.map (.frame a.oldSA .request msgID) <:+ a.world.log

theorem run_sendOldIKEDelete (hold : a.state.oldIKE = old :: rest) (hrng : a.world.rng.Healthy)
    (hseal : (oldIKEEnvelope old).CanSeal (some cfg)) (hc : ∀ k, a.world.cancel k = false) :
    ∃ a' msgID frames, (sendOldIKEDelete cfg).run a = (.ok (), a') ∧ a'.DeleteSent msgID frames := by
  obtain ⟨body, hbody, hlen⟩ : ∃ body, appendDelete ⟨deleteProtocolIKE, []⟩ = .ok body ∧
      (cepSinglePayload body).length ≤ 64 := ⟨_, rfl, by decide⟩
  obtain ⟨frames, rng', hrun⟩ := hseal a.world.rng hrng ExchangeType.informational
    old.nextRequestMessageID PayloadType.delete (cepSinglePayload body)
    (requestFlags (oldIKEEnvelope old)) hlen
  rw [sendOldIKEDelete, Eff.run_bind_of_ok (Eff.run_get a), hold]
  dsimp only
  rw [modifyState, Eff.run_bind_of_ok (Eff.run_modify _ _), hbody,
    Eff.run_bind_of_ok (Eff.run_lift _ _)]
  have hbuild := run_onRng (a := a.mapState (State.mapOldIKE OldIKEContext.begin)) hrun
  rw [Eff.run_bind_of_ok hbuild, modifyState, Eff.run_bind_of_ok (Eff.run_modify _ _)]
  refine ⟨_, old.nextRequestMessageID, frames, run_sendFrames _ _ _ frames hc,
    ⟨old.begin.deleting old.nextRequestMessageID frames, rest, ?_, rfl, rfl, rfl⟩, ?_⟩
  · simp [Running.mapState, State.mapOldIKE, hold]
  · simp [Running.mapState, Running.oldSA, State.mapOldIKE, hold]

theorem wp_finishIKERekeyResponse_sent (now : Time) (inner : List Payload)
    (hold : a.state.oldIKE = []) (hseal : a.CanSeal cfg) (hc : ∀ k, a.world.cancel k = false) :
    (finishIKERekeyResponse cfg now inner).wp (fun r a' =>
      (r = .ok () ∧ ∃ msgID frames, a'.DeleteSent msgID frames) ∨ a'.state.oldIKE = []) a := by
  have herr : ∀ (e : Err) a', Acts (Guard.retaining False False) a a' →
      ((.error e : Except Err Unit) = .ok () ∧ ∃ msgID frames, a'.DeleteSent msgID frames) ∨
        a'.state.oldIKE = [] := fun _ _ h => .inr (h.invariant oldIKE_eq_nil_act hold)
  unfold finishIKERekeyResponse
  rw [Eff.wp_bind, Eff.wp_get, Eff.next_ok]
  rcases hrekey : a.state.rekey with _ | rc
  · exact herr _ a .refl
  have hsome : a.state.rekey.isSome := by rw [hrekey]; rfl
  refine Eff.wp_ite (fun _ => herr _ a .refl) fun _ => ?_
  refine wp_orAbandon_bind cfg now (refl_of Quiet a) (Eff.within_lift _) hsome (fun _ _ => trivial)
    herr fun resp a₁ _ h₁ => ?_
  obtain ⟨selection, responderSPI, nr, ker⟩ := resp
  refine wp_orAbandon_bind cfg now h₁ (Eff.within_lift _) hsome (fun _ _ => trivial) herr
    fun keys a₂ _ h₂ => ?_
  obtain ⟨t, b, hq, hrun⟩ := run_installIKE_bind (k := fun _ => sendOldIKEDelete cfg) cfg now
    rc.newInitiatorSPI responderSPI true rc.ni nr keys selection h₂
  refine Eff.wp_of_run_eq hrun ?_
  have hold' : b.state.oldIKE = [a.state.toOldIKE] := by
    rw [hq.calm.state, Running.ikeInstalled, State.installIKE, hold]; rfl
  obtain ⟨a', msgID, frames, ha', hsent⟩ := run_sendOldIKEDelete hold'
    (hseal.rng.drawn hq.draws.rng) hseal.old
    (Shifted.forall (P := fun b => b = false) hq.draws.cancel hc)
  exact Eff.wp_run ha' (.inl ⟨rfl, msgID, frames, hsent⟩)

theorem not_ownsDelete_of_error {pkt : Packet} {e : Err} {a' : Running}
    (h : l.DeletePersists cfg now (.packet (some pkt))) (htidy : l.actor.Tidy)
    (hrun : (processPacket cfg now pkt).run l.actor = (.error e, a'))
    (ha : ¬l.actor.OwnsDelete) : ¬a'.OwnsDelete := by
  by_cases hans : ∃ hdr inner, l.actor.CurrentResponse pkt hdr ∧
      l.actor.Opens now pkt.payload inner ∧ ∃ rc, l.actor.state.rekey = some rc ∧ rc.kind = .ike
  · obtain ⟨hdr, inner, hresp, hopen, rc, hrekey, hkind⟩ := hans
    have hnil : l.actor.state.oldIKE = [] := htidy (by rw [hrekey]; rfl)
    obtain ⟨f, -, hrun'⟩ := hresp.run cfg now hopen
    set b := (l.actor.mapState (State.withFragments f)).logged (.accepted l.actor.sa hdr.messageID)
      with hb
    have hcomplete : (completeResponse cfg now hdr.messageID inner).run b =
        (finishIKERekeyResponse cfg now inner >>= fun _ => modifyState State.dropRequest).run b := by
      rw [completeResponse, Eff.run_bind_of_ok (Eff.run_get b),
        show b.state.rekey = some rc from hrekey]
      exact congrArg (Eff.run · b) (if_neg (by rw [hkind]; decide))
    have hfinish := wp_finishIKERekeyResponse_sent now inner (show b.state.oldIKE = [] from hnil)
      ⟨h.canSeal.rng, h.canSeal.current, h.canSeal.old⟩ h.cancel
    rcases hf : (finishIKERekeyResponse cfg now inner).run b with ⟨e₁ | u, b'⟩
    · obtain hnil' : b'.state.oldIKE = [] := (Eff.wp_of_run hfinish hf).resolve_left (by simp)
      rw [hrun, Eff.run_bind, hcomplete, Eff.run_bind_of_error hf] at hrun'
      obtain ⟨-, rfl⟩ := Prod.mk.inj hrun'
      exact fun hown => hown.2 hnil'
    · rw [hrun, Eff.run_bind, hcomplete, Eff.run_bind_of_ok hf] at hrun'
      cases hrun'
  · have hG : (Guard.retaining False True).Allows cfg now (.packet (some pkt)) l :=
      Guard.retaining_allows h fun pkt' hdr inner hev hresp hopen rc hrekey hkind => by
        cases hev
        exact hans ⟨hdr, inner, hresp, hopen, rc, hrekey, hkind⟩
    rcases Eff.wp_of_run (wp_processPacket cfg now pkt htidy hG.lets (hG.packet pkt rfl)) hrun with
      ⟨-, hacts⟩ | ⟨hr, -⟩
    · exact hacts.invariant ownsDelete_act ha
    · cases hr

/-- The variables of a retransmission timer. -/
structure Timer where
  rto : Duration
  retries : ℕ
  deadline : Option Time

def Loop.oldTimer (l : Loop) : Timer := ⟨l.oldRto, l.oldRetries, l.oldRtoC⟩

def Loop.SameOldTimer (l l' : Loop) : Prop := l'.oldTimer = l.oldTimer

instance : Std.Refl Loop.SameOldTimer := ⟨fun _ => rfl⟩

instance : IsTrans Loop Loop.SameOldTimer := ⟨fun _ _ _ h₁ h₂ => Eq.trans h₂ h₁⟩

section

omit [Crypto]

theorem sameOldTimer_onActor {α : Type} (x : Eff Running α) :
    (onActor x).Within Loop.SameOldTimer :=
  Eff.Within.zoom (S := fun _ _ => True) (fun _ => trivial) fun _ _ _ => rfl

theorem sameOldTimer_modify (hf : ∀ l, (f l).oldTimer = l.oldTimer) :
    (Eff.modify f).Within Loop.SameOldTimer := hf

theorem sameOldTimer_done (hf : ∀ l, (f l).oldTimer = l.oldTimer) :
    (Eff.modify f >>= fun _ => pure none : Eff Loop Exit).Within Loop.SameOldTimer :=
  (sameOldTimer_modify hf).bind fun _ => Eff.within_pure none

theorem sameOldTimer_begin {x : Loop → Eff Loop Exit} (hx : ∀ l, (x l).Within Loop.SameOldTimer)
    (hf : ∀ l, (f l).oldTimer = l.oldTimer) :
    (Eff.modify f >>= fun _ => Eff.get >>= x).Within Loop.SameOldTimer :=
  (sameOldTimer_modify hf).bind fun _ => Eff.within_get.bind hx

theorem sameOldTimer_tryRekey (start : Eff Running Unit) :
    (Loop.tryRekey cfg now start).Within Loop.SameOldTimer := by
  refine (sameOldTimer_onActor start).attempt.bind fun r => ?_
  cases r with
  | ok u => exact sameOldTimer_done fun _ => rfl
  | error e =>
    exact .ite (Eff.within_pure _) ((sameOldTimer_onActor _).bind fun _ => Eff.within_pure none)

end

theorem sameOldTimer_step (cfg : Config) (now : Time) (hpkt : ∀ pkt, ev ≠ .packet pkt) (hold : ev ≠ .oldRto) :
    (Loop.step cfg now ev).Within Loop.SameOldTimer := by
  cases ev with
  | ctxDone | inClosed => exact Eff.within_pure _
  | packet pkt => exact absurd rfl (hpkt pkt)
  | oldRto => exact absurd rfl hold
  | rto =>
    refine sameOldTimer_begin (fun l => ?_) fun _ => rfl
    refine .ite (Eff.within_pure _) (.ite (.ite ?_ (.ite ?_ (Eff.within_pure _))) ?_)
    · exact (sameOldTimer_onActor _).bind fun _ => sameOldTimer_done fun _ => rfl
    · refine (sameOldTimer_onActor _).attempt.bind fun r => ?_
      cases r with
      | ok u => exact sameOldTimer_done fun _ => rfl
      | error e => exact Eff.within_pure _
    · split
      · exact Eff.within_pure _
      · refine (sameOldTimer_onActor _).attempt.bind fun r => ?_
        cases r with
        | ok u => exact sameOldTimer_done fun _ => rfl
        | error e => exact Eff.within_pure _
  | tick =>
    refine sameOldTimer_begin (fun l => ?_) fun _ => rfl
    refine .ite (Eff.within_pure _) ((sameOldTimer_onActor _).attempt.bind fun r => ?_)
    cases r with
    | ok u => exact sameOldTimer_done fun _ => rfl
    | error e => exact Eff.within_pure _
  | ikeSoft | childSoft =>
    refine sameOldTimer_begin (fun l => ?_) fun _ => rfl
    exact .ite (sameOldTimer_tryRekey _) (Eff.within_pure _)
  | nearWrap =>
    exact Eff.within_get.bind fun l => .ite (sameOldTimer_tryRekey _) (Eff.within_pure _)
  | retry =>
    refine sameOldTimer_begin (fun l => ?_) fun _ => rfl
    refine .ite ((sameOldTimer_onActor _).attempt.bind fun r => ?_) (Eff.within_pure _)
    cases r with
    | ok u => exact sameOldTimer_done fun _ => rfl
    | error e => exact (sameOldTimer_onActor _).bind fun _ => Eff.within_pure none
  | lease =>
    refine sameOldTimer_begin (fun l => ?_) fun _ => rfl
    refine .ite ((sameOldTimer_onActor _).attempt.bind fun r => ?_) (Eff.within_pure _)
    cases r with
    | ok u => exact sameOldTimer_done fun _ => rfl
    | error e =>
      refine .ite (Eff.within_pure _) ((sameOldTimer_onActor _).attempt.bind fun r => ?_)
      cases r <;> exact Eff.within_pure _

omit [Crypto] in
theorem run_onOldRTO (now : Time) {cp : Checkpoint} (hold : l.actor.state.oldIKE = old :: rest)
    (hexp : old.hasExpectedResponse = true) (hcp : old.outboundRequest = some cp)
    (hlt : l.oldRetries < cfg.timeouts.maxRetries) (hc : ∀ k, l.actor.world.cancel k = false) :
    (Loop.onOldRTO cfg now).run l = (.ok none, { l with
      actor := { l.actor with world := { l.actor.world with
        cancel := fun k => l.actor.world.cancel (k + cp.packets.length)
        log := l.actor.world.log ++
          cp.packets.map (.frame l.actor.oldSA .retransmission cp.messageID) } }
      oldRetries := l.oldRetries + 1
      oldRto := Loop.backoff cfg l.oldRto
      oldRtoC := some (now + Loop.backoff cfg l.oldRto) }) := by
  rw [Loop.onOldRTO, Eff.run_bind_of_ok (Eff.run_modify _ _), Eff.run_bind_of_ok (Eff.run_get _)]
  dsimp only
  rw [hold]
  dsimp only
  rw [hexp, if_neg (by simp), if_neg (Nat.not_le.mpr hlt), hcp]
  dsimp only
  have hsend := run_onActor (l := { l with oldRtoC := none })
    (run_sendFrames l.actor.oldSA .retransmission cp.messageID cp.packets hc)
  rw [Eff.run_bind_of_ok (Eff.run_attempt_of_ok hsend)]
  rfl

/-- The timer of the DELETE that the actor has to send is armed. -/
structure Loop.Pending (l : Loop) : Prop where
  tidy : l.actor.Tidy
  deleting : l.actor.Deleting
  armed : l.actor.OwnsDelete → l.oldRtoC.isSome

omit [Crypto] in
theorem oldRtoC_afterPacket (hold : l.actor.state.oldIKE = old :: rest)
    (hexp : old.hasExpectedResponse = true) :
    (Loop.afterPacket cfg now l).oldRtoC.isSome := by
  unfold Loop.afterPacket
  dsimp only
  rw [if_pos (by simp [hold, hexp])]
  rfl

theorem armed_onPacket {pkt : Option Packet} (hp : l.DeletePersists cfg now (.packet pkt))
    (h : l.Pending) (hrun : (Loop.onPacket cfg now pkt).run l = (.ok none, l'))
    (hdel : l'.actor.Deleting) (hown : l'.actor.OwnsDelete) : l'.oldRtoC.isSome := by
  cases pkt with
  | none =>
    obtain ⟨-, rfl⟩ := Prod.mk.inj hrun
    exact h.armed hown
  | some pkt =>
    rcases hproc : (processPacket cfg now pkt).run l.actor with ⟨e | shutdown, a'⟩
    · obtain rfl := Loop.onPacket_error cfg now hproc hrun
      exact h.armed (not_not.mp fun hno => not_ownsDelete_of_error hp h.tidy hproc hno hown)
    · obtain ⟨-, rfl⟩ := Loop.onPacket_ok cfg now hproc hrun
      rw [Loop.actor_afterPacket] at hdel hown
      obtain ⟨old, rest, hold⟩ := List.exists_cons_of_ne_nil hown.2
      exact oldRtoC_afterPacket hold (hdel hown.1 old (by rw [hold]; exact List.mem_cons_self)).1

theorem pending_step (hp : l.DeletePersists cfg now ev) (hgo : Loop.Goes cfg now ev l l')
    (h : l.Pending) : l'.Pending := by
  have hacts : Acts (Guard.retaining True True) (ev.disarm l.actor) l'.actor :=
    hgo.acts h.tidy (Guard.retaining_allows hp fun _ _ _ _ _ _ _ _ _ => trivial)
  have htidy : l'.actor.Tidy := hacts.invariant tidy_act (by simpa [Running.Tidy] using h.tidy)
  have hdel : l'.actor.Deleting :=
    hacts.invariant deleting_act (by simpa [Running.Deleting] using h.deleting)
  refine ⟨htidy, hdel, fun hown => ?_⟩
  by_cases hpkt : ∃ pkt, ev = .packet pkt
  · obtain ⟨pkt, rfl⟩ := hpkt
    exact armed_onPacket hp h hgo.run hdel hown
  have hacts' : Acts (Guard.retaining False True) (ev.disarm l.actor) l'.actor :=
    hgo.acts h.tidy (Guard.retaining_allows hp fun pkt _ _ hp => absurd ⟨_, hp⟩ hpkt)
  have hown₀ : l.actor.OwnsDelete := not_not.mp fun hno =>
    hacts'.invariant ownsDelete_act (by simpa [Running.OwnsDelete] using hno) hown
  by_cases hev : ev = .oldRto
  · subst hev
    obtain ⟨old, rest, cp, hold, hexp, hcp⟩ := h.deleting.exists_checkpoint hown₀
    have hrun := run_onOldRTO now hold hexp hcp (hp.retries rfl) hp.cancel
    rw [(Prod.mk.inj (hgo.run.symm.trans hrun)).2]
    rfl
  · have hs := sameOldTimer_step cfg now (fun pkt h => hpkt ⟨pkt, h⟩) hev l
    rw [hgo.run] at hs
    rw [show l'.oldRtoC = l.oldRtoC from congrArg Timer.deadline hs]
    exact h.armed hown₀

/-- **After an own IKE rekey the DELETE of the previous IKE SA is in flight as long as that SA is
retained, in every run in which it does not run out of retries: its timer is armed, and when it fires
the DELETE is sent again.** -/
theorem old_ike_delete_pending (hs : s.HandedOff)
    (h : Loop.Runs cfg (fun now ev l => l.DeletePersists cfg now ev) (Loop.start cfg t₀ s w) l)
    (hown : l.actor.OwnsDelete) : ∃ old rest cp deadline,
      l.actor.state.oldIKE = old :: rest ∧ old.hasExpectedResponse = true ∧
      old.outboundRequest = some cp ∧ l.oldRtoC = some deadline ∧
      ∀ now, deadline ≤ now → l.DeletePersists cfg now .oldRto → ∃ l', Loop.Goes cfg now .oldRto l l' ∧
        l'.actor.state = l.actor.state ∧ l'.oldRtoC.isSome ∧
        l'.actor.world.log = l.actor.world.log ++
          cp.packets.map (.frame l.actor.oldSA .retransmission cp.messageID) := by
  have hp : l.Pending := h.invariant
    ⟨tidy_start hs, by simp [Running.Deleting, hs.oldIKE], by simp [Running.OwnsDelete, hs.oldIKE]⟩
    pending_step
  obtain ⟨old, rest, cp, hold, hexp, hcp⟩ := hp.deleting.exists_checkpoint hown
  obtain ⟨deadline, hdeadline⟩ := Option.isSome_iff_exists.mp (hp.armed hown)
  refine ⟨old, rest, cp, deadline, hold, hexp, hcp, hdeadline, fun now hle hpersist => ?_⟩
  have hrun := run_onOldRTO now hold hexp hcp (hpersist.retries rfl) hpersist.cancel
  exact ⟨_, ⟨⟨deadline, hdeadline, hle⟩, hrun⟩, rfl, rfl, rfl⟩

end Persist

section Sample

attribute [local instance] plainCrypto

/-- The request with which the other end rekeys the IKE SA. -/
def sampleIKERekey (msgID : UInt32) : Packet :=
  match Loop.follow sampleConfig [(4000 * second, .ikeSoft)] (samplePeerAt msgID) with
  | some p => p.lastPacket
  | none => ⟨.ike, []⟩

/-- The packet repeats a request with the id `msgID` that was answered on the retained IKE SA. -/
def RepeatsOld (pkt : Packet) (msgID : UInt32) (a : Running) : Prop :=
  ∃ msg ∈ (parseMessage pkt.payload).toOption, ∃ old ∈ a.state.oldIKE.head?,
    ∃ e ∈ old.inboundHistory, a.OldRetransmission old e pkt msg.header ∧ e.messageID = msgID ∧
      e.responsePackets ≠ []

instance (pkt : Packet) (msgID : UInt32) (a : Running) : Decidable (RepeatsOld pkt msgID a) :=
  inferInstanceAs (Decidable (∃ msg ∈ (parseMessage pkt.payload).toOption, _))

/-- The first request of the other end rekeys the IKE SA, and its response is lost: the repeated
request is refused. -/
theorem rekeyRequest_not_replayed : ∃ l : Loop,
    Loop.Runs sampleConfig (fun _ _ _ => True) sampleStart l ∧
    RepeatsOld (sampleIKERekey 0) 0 l.actor ∧
    (processPacket sampleConfig (4001 * second) (sampleIKERekey 0)).run l.actor =
      (.error errMissingMessageID, l.actor) := by
  obtain ⟨l, hl, hrep⟩ := Loop.exists_of_follow sampleConfig sampleStart
    [(4000 * second, .packet (some (sampleIKERekey 0)))]
    (P := fun l => RepeatsOld (sampleIKERekey 0) 0 l.actor) (by decide +kernel)
  refine ⟨l, Loop.runs_of_follow hl, hrep, ?_⟩
  obtain ⟨msg, -, old, -, e, he, hr, h0, -⟩ := hrep
  exact hr.run_of_zero (4001 * second) h0

/-- With the id 1 the repeated request is answered. -/
theorem rekeyRequest_replayed : ∃ l : Loop, ∃ frames : List Frame, frames ≠ [] ∧
    (processPacket sampleConfig (4001 * second) (sampleIKERekey 1)).run l.actor =
      (sendFrames l.actor.oldSA .replay 1 frames >>= fun _ => pure false).run l.actor := by
  obtain ⟨l, hl, hrep⟩ := Loop.exists_of_follow sampleConfig sampleStart
    [(4000 * second, .packet (some (sampleIKERekey 1)))]
    (P := fun l => RepeatsOld (sampleIKERekey 1) 1 l.actor) (by decide +kernel)
  obtain ⟨msg, -, old, -, e, he, hr, h1, hne⟩ := hrep
  obtain ⟨hrun, -⟩ := (old_request_replayed_iff handedOff_sampleSession (Loop.runs_of_follow hl) he
    hr (4001 * second)).mpr (by rw [h1]; decide)
  rw [h1] at hrun
  exact ⟨l, e.responsePackets, hne, hrun⟩

/-- The DELETE of the previous IKE SA is sent twice and not answered. -/
theorem oldIKE_without_delete : ∃ l : Loop,
    Loop.Runs sampleConfig (fun _ _ _ => True) sampleStart l ∧ l.actor.OwnsDelete ∧
    (∀ old ∈ l.actor.state.oldIKE,
      old.hasExpectedResponse = false ∧ old.outboundRequest = none) ∧
    l.oldRtoC = none ∧ l.rtoC = none ∧ l.actor.state.safeToRekey = false := by
  obtain ⟨l, hl, h⟩ := Loop.exists_of_exchange sampleConfig (fun _ _ _ => true) sampleStart
    samplePeer [.here (4000 * second) .ikeSoft, .deliver (4000 * second), .receive (4000 * second),
      .here (4001 * second) .rto, .here (4001 * second) .oldRto, .here (4003 * second) .oldRto]
    (P := fun l => (l.actor.state.isOriginalInitiator = true ∧ l.actor.state.oldIKE ≠ []) ∧
      (∀ old ∈ l.actor.state.oldIKE,
        old.hasExpectedResponse = false ∧ old.outboundRequest = none) ∧
      l.oldRtoC = none ∧ l.rtoC = none ∧ l.actor.state.safeToRekey = false) (by decide +kernel)
  exact ⟨l, hl.mono fun _ _ _ => trivial, h⟩

/-- Requests can be sealed on the current IKE SA. -/
def sampleSeals (_ : Time) (ev : Event) (l : Loop) : Bool :=
  decide (ev ≠ .oldRto ∧ ∃ keys ∈ l.actor.state.ikeKeys,
    (stateIKEEnvelope l.actor.state).CbcKeyed cbcSelection keys ∧
      (oldIKEEnvelope l.actor.state.toOldIKE).CbcKeyed cbcSelection keys)

theorem deletePersists_of_sample {now : Time} {ev : Event} {l : Loop}
    (h : sampleSeals now ev l = true) (hw : l.actor.world.Smooth) :
    l.DeletePersists sampleConfig now ev := by
  obtain ⟨hev, keys, -, hcurrent, hold⟩ := of_decide_eq_true h
  exact ⟨⟨hw.rng, hcurrent.canSeal _, hold.canSeal _⟩, hw.cancel, fun h => absurd h hev⟩

/-- The IKE SA is rekeyed: the DELETE of the old one is in flight. -/
theorem sample_old_ike_delete_pending : ∃ l : Loop, l.actor.OwnsDelete ∧ ∃ old rest cp deadline,
    l.actor.state.oldIKE = old :: rest ∧ old.hasExpectedResponse = true ∧
      old.outboundRequest = some cp ∧ l.oldRtoC = some deadline := by
  obtain ⟨l, hl, hown⟩ := Loop.exists_of_exchange sampleConfig sampleSeals sampleStart samplePeer
    [.here (4000 * second) .ikeSoft, .deliver (4000 * second), .receive (4000 * second)]
    (P := fun l => l.actor.state.isOriginalInitiator = true ∧ l.actor.state.oldIKE ≠ [])
    (by decide +kernel)
  obtain ⟨hruns, -⟩ := hl.and_invariant (smooth_start handedOff_sampleSession smooth_sampleWorld)
    fun _ hgo h => hgo.smooth h
  obtain ⟨old, rest, cp, deadline, hold, hexp, hcp, hdeadline, -⟩ :=
    old_ike_delete_pending handedOff_sampleSession
      (hruns.mono fun _ _ h => deletePersists_of_sample h.1 h.2.1) hown
  exact ⟨l, hown, old, rest, cp, deadline, hold, hexp, hcp, hdeadline⟩

end Sample

end Swan.Control
