import Swan.Control.Refusals

/-! # Which requests are answered

`Supported` says of the payloads of a request on the current IKE SA that a handler has an answer to
them, be it an error notify. While nothing that the actor does not decide fails (`CanAnswer`), a
supported request with a new message id gets one response, which is stored, and any other request
gets none (`request_answered_iff`). -/

namespace Swan.Control

open Swan.Lib Swan.Wire Swan.Payload Swan.Xcrypto

/-! ### Responses in the log -/

/-- The frames of responses among the entries, with their message ids. -/
def responses (log : List Entry) : List (UInt32 × Frame) :=
  log.filterMap fun
    | .frame _ .response msgID f => some (msgID, f)
    | _ => none

theorem responses_append (log log' : List Entry) :
    responses (log ++ log') = responses log ++ responses log' := List.filterMap_append

theorem responses_frames (sa : ℕ) (msgID : UInt32) (frames : List Frame) :
    responses (frames.map (.frame sa .response msgID)) = frames.map fun f => (msgID, f) := by
  induction frames with
  | nil => rfl
  | cons f fs ih =>
    rw [List.map_cons, List.map_cons, ← ih]
    rfl

/-- No response was sent in between. -/
def Unanswered (a a' : Running) : Prop :=
  ∃ es, a'.world.log = a.world.log ++ es ∧ responses es = []

instance : Std.Refl Unanswered := ⟨fun _ => ⟨[], by simp, rfl⟩⟩

instance : IsTrans Running Unanswered := ⟨fun a a₁ a₂ ⟨es₁, h₁, hn₁⟩ ⟨es₂, h₂, hn₂⟩ =>
  ⟨es₁ ++ es₂, by rw [h₂, h₁, List.append_assoc], by rw [responses_append, hn₁, hn₂]; rfl⟩⟩

/-- The response to the request `msgID` is stored, for the current IKE SA or a retained one. -/
def Caches (msgID : UInt32) (frames : List Frame) (s : State) : Prop :=
  s.replayCachedFrames msgID = some frames ∨
    ∃ old ∈ s.oldIKE, ⟨msgID, frames⟩ ∈ old.inboundHistory

/-- One response was sent in between, to the request `msgID`. It is stored, unless the session has
ended. -/
def Answered (msgID : UInt32) (a a' : Running) : Prop :=
  ∃ frames es, frames ≠ [] ∧ a'.world.log = a.world.log ++ es ∧
    responses es = frames.map (fun f => (msgID, f)) ∧
    (Caches msgID frames a'.state ∨ a'.state.phase = .stopped)

section Relations

variable {msgID : UInt32} {a a' a'' : Running}

theorem Quiet.unanswered (h : Quiet a a') : Unanswered a a' := ⟨[], by simp [h.draws.log], rfl⟩

theorem unanswered_logged {e : Entry} (he : responses [e] = []) : Unanswered a (a.logged e) :=
  ⟨[e], rfl, he⟩

theorem Unanswered.answered (h : Unanswered a a') (h' : Answered msgID a' a'') :
    Answered msgID a a'' := by
  obtain ⟨es, hes, hno⟩ := h
  obtain ⟨frames, es', hne, hes', hresp, hcache⟩ := h'
  refine ⟨frames, es ++ es', hne, by rw [hes', hes, List.append_assoc], ?_, hcache⟩
  rw [responses_append, hno, hresp]
  rfl

theorem Answered.unanswered (h : Answered msgID a a') (h' : Unanswered a' a'')
    (hstate : a''.state = a'.state) : Answered msgID a a'' := by
  obtain ⟨frames, es, hne, hes, hresp, hcache⟩ := h
  obtain ⟨es', hes', hno⟩ := h'
  refine ⟨frames, es ++ es', hne, by rw [hes', hes, List.append_assoc], ?_, hstate ▸ hcache⟩
  rw [responses_append, hno, hresp, List.append_nil]

theorem replayCachedFrames_rememberResponse (s : State) (msgID : UInt32) (frames : List Frame) :
    (s.rememberResponse msgID frames).replayCachedFrames msgID = some frames := by
  have hlast : ∃ h, (s.rememberResponse msgID frames).inboundHistory = h ++ [⟨msgID, frames⟩] := by
    refine ⟨s.inboundHistory.drop (s.inboundHistory.length + 1 - maxInboundResponseHistory), ?_⟩
    simp only [State.rememberResponse, List.length_append, List.length_singleton]
    rw [List.drop_append_of_le_length (by simp only [maxInboundResponseHistory]; omega)]
  obtain ⟨h, hh⟩ := hlast
  rw [State.replayCachedFrames, hh]
  simp

end Relations

/-! ### Nothing fails -/

def State.answerLen (s : State) : ℕ :=
  256 + (s.activeChild.map fun c => c.tsi.length + c.tsr.length).getD 0

/-- What the actor does not decide works: the random source, the sends and the acknowledgements, the
sealing of the answers, and the key exchange with the public key of the request. -/
structure Running.CanAnswer [Crypto] (cfg : Config) (inner : List Payload) (a : Running) :
    Prop where
  smooth : a.world.Smooth
  wired : cfg.dataUpdates = true
  seals : ∀ c, c = none ∨ c = some cfg →
    (stateIKEEnvelope a.state).SealsUpTo a.state.answerLen c
  ecdh : ∀ p, collectPeerRekey "peer child rekey" childPeerTS inner ⟨none, [], [], [], []⟩ = .ok p ∨
      collectPeerRekey "peer IKE rekey" ikePeerTS inner ⟨none, [], [], [], []⟩ = .ok p →
    p.ke ≠ [] → ∀ dh : DHKey, dh.key.isSome → ∃ shared, (dh.ecdh p.ke).1 = .ok shared

section Success

variable [Crypto] {a b : Running} {msgID : UInt32} {cfg : Config} {inner : List Payload}

theorem Running.CanAnswer.quiet (h : a.CanAnswer cfg inner) (hq : Quiet a b) :
    b.CanAnswer cfg inner := by
  refine ⟨h.smooth.draws hq.draws, h.wired, ?_, h.ecdh⟩
  rw [hq.world]
  exact h.seals

omit [Crypto] in
theorem succeeds_onRng {α : Type} {x : Eff Rng α} {P : α → Prop}
    (h : x.Succeeds Rng.Drawn P a.world.rng) : (onRng x).Succeeds Quiet P a := by
  obtain ⟨v, hv, hP, hd⟩ := h
  exact ⟨v, hv, hP, rfl, hd, refl_of Shifted _, refl_of Shifted _, refl_of Shifted _, rfl⟩

theorem succeeds_sealCurrent {n : ℕ} {c : Option Config} (hw : a.world.Smooth)
    (hseals : (stateIKEEnvelope a.state).SealsUpTo n c) (exchange : ExchangeType) (msgID : UInt32)
    (nextPayload : PayloadType) {plaintext : Bytes} (flags : IkeEnvelope → Flags)
    (hlen : plaintext.length ≤ n) :
    (sealCurrent c exchange msgID nextPayload plaintext flags).Succeeds Quiet (· ≠ []) a := by
  obtain ⟨frames, rng, hrun⟩ := hseals a.world.rng hw.rng exchange msgID nextPayload plaintext
    (flags (stateIKEEnvelope a.state)) hlen
  have hsucceeds : (onRng (buildProtectedStateAs c a.state exchange msgID nextPayload plaintext
      (flags (stateIKEEnvelope a.state)))).Succeeds Quiet (· ≠ []) a := by
    refine succeeds_onRng ⟨frames, congrArg Prod.fst hrun,
      ne_nil_of_buildProtectedEnvelopeAs hrun, ?_⟩
    exact drawn_buildProtectedEnvelopeAs _ _ _ _ _ _ _ _
  exact hsucceeds

theorem wp_respond_answered {n : ℕ} {c : Option Config} (hw : a.world.Smooth)
    (hseals : (stateIKEEnvelope a.state).SealsUpTo n c) (exchange : ExchangeType) (msgID : UInt32)
    (nextPayload : PayloadType) {plaintext : Bytes} (hlen : plaintext.length ≤ n) :
    (respond c exchange msgID nextPayload plaintext).wp
      (fun r a' => r = .ok () ∧ Answered msgID a a') a := by
  refine (succeeds_sealCurrent hw hseals exchange msgID nextPayload responseFlags hlen).wp_bind
    (refl_of Quiet a) fun frames b hne hb => ?_
  have hcancel := (hw.draws hb.draws).cancel
  refine Eff.wp_of_run_eq (Eff.run_bind_of_ok (Eff.run_get b)) ?_
  refine Eff.wp_of_run_eq (Eff.run_bind_of_ok (run_sendFrames _ _ _ frames hcancel)) ?_
  refine ⟨rfl, hb.unanswered.answered ?_⟩
  exact ⟨frames, _, hne, rfl, responses_frames _ _ _,
    .inl (.inl (replayCachedFrames_rememberResponse _ _ _))⟩

theorem Running.CanAnswer.respondNotify (h : a.CanAnswer cfg inner) (msgID : UInt32) {n : Notify}
    (hspi : n.spi.length ≤ 4) (hdata : n.data = []) :
    (respondNotify cfg msgID n).wp (fun r a' => r = .ok () ∧ Answered msgID a a') a := by
  have happend : ∃ body, appendNotify n = .ok body ∧ (cepSinglePayload body).length ≤ 64 := by
    refine ⟨_, if_neg (by omega), ?_⟩
    simp only [cepSinglePayload, hdata, List.length_append, List.length_cons, List.length_nil,
      length_payloadHeader, length_putUint16, payloadHeaderLen]
    omega
  obtain ⟨body, hbody, hlen⟩ := happend
  unfold Control.respondNotify
  rw [hbody]
  refine Eff.wp_of_run_eq (Eff.run_bind_of_ok (Eff.run_lift _ _)) ?_
  rw [Eff.wp_bind]
  refine Eff.wp_mono (wp_respond_answered h.smooth (h.seals _ (.inr rfl)) ExchangeType.createChild
    msgID PayloadType.notify (hlen.trans (by simp only [State.answerLen]; omega))) fun r a' ha' => ?_
  obtain ⟨rfl, hans⟩ := ha'
  exact ⟨rfl, hans.unanswered (unanswered_logged rfl) rfl⟩

omit [Crypto] in
theorem length_cesBuildChain (parts : List CesPayloadPart) :
    (cesBuildChain parts).length = (parts.map fun p => 4 + p.body.length).sum := by
  induction parts with
  | nil => rfl
  | cons p ps ih => simp [cesBuildChain, ih, payloadHeaderLen, Nat.add_assoc]

theorem Running.CanAnswer.answerKE (h : a.CanAnswer cfg inner) {p : PeerRekey}
    (hp : collectPeerRekey "peer child rekey" childPeerTS inner ⟨none, [], [], [], []⟩ = .ok p) :
    (answerKE p.ke).Succeeds Quiet (fun v => ∀ ke ∈ v.1, ke.data.length = 32) a := by
  unfold Control.answerKE
  by_cases hke : p.ke.length > 0
  · rw [if_pos hke]
    refine (succeeds_onRng (succeeds_generateRekeyDH h.smooth.rng)).wp_bind (refl_of Quiet a)
      fun v b hv hb => ?_
    obtain ⟨dh, ke⟩ := v
    obtain ⟨shared, hshared⟩ := h.ecdh p (.inl hp) (List.ne_nil_of_length_pos hke) dh hv.1
    dsimp only
    rw [hshared]
    refine ⟨(some ke, shared), rfl, fun ke' hmem => ?_, hb⟩
    obtain rfl := Option.mem_some.mp hmem
    exact hv.2
  · rw [if_neg hke]
    exact ⟨(none, []), rfl, by simp, refl_of Quiet a⟩

omit [Crypto] in
theorem ok_installChild (hw : a.world.Smooth) (hwired : cfg.dataUpdates = true) (child : ChildSA)
    (keys : ChildKeys) (selection : Selection) :
    ∃ b, (installChild cfg child keys selection).run a = (.ok (), b) ∧
      Quiet (a.logged (.update (.childInstalled child keys selection))) b := by
  have hok : (installChild cfg child keys selection).wp (fun r _ => r = .ok ()) a := by
    unfold installChild
    rw [hwired, if_neg (by decide), Eff.wp_bind, wp_drawCancel, Eff.next_ok, hw.cancel 0,
      if_neg (by decide), Eff.wp_bind, record, Eff.wp_modify, Eff.next_ok, Eff.wp_bind, wp_drawAck,
      Eff.next_ok]
    have hack : ((drawCancel.run a).2.logged
      (.update (.childInstalled child keys selection))).world.ack 0 = .acked := hw.ack 0
    rw [hack]
    rfl
  exact ⟨_, Prod.ext hok rfl, (wp_installChild cfg child keys selection a).1 hok⟩

omit [Crypto] in
theorem unanswered_abandoned (a : Running) :
    Unanswered a (a.noted.mapState State.abandonRekey) := by
  unfold Running.noted
  split_ifs
  · exact ⟨_, rfl, rfl⟩
  · exact refl_of Unanswered a

theorem Running.CanAnswer.abandoned (h : a.CanAnswer cfg inner) :
    (a.noted.mapState State.abandonRekey).CanAnswer cfg inner := by
  unfold Running.noted
  split_ifs
  · exact ⟨h.smooth.extend _, h.wired, h.seals, h.ecdh⟩
  · exact ⟨h.smooth, h.wired, h.seals, h.ecdh⟩

theorem Running.CanAnswer.exists_keys (h : a.CanAnswer cfg inner) :
    ∃ ike keys, a.state.selectedIKE = some ike ∧ a.state.ikeKeys = some keys := by
  obtain ⟨frames, rng, hrun⟩ := h.seals none (.inl rfl) a.world.rng h.smooth.rng
    ExchangeType.informational 0 PayloadType.none [] 0 (Nat.zero_le _)
  unfold buildProtectedEnvelopeAs at hrun
  split at hrun
  next sel keys hsel hkeys => exact ⟨sel, keys, hsel, hkeys⟩
  · cases hrun

end Success

/-! ### Rekeys of the peer -/

section Rekeys

variable [Crypto] {a : Running} {msgID : UInt32} {cfg : Config} {inner : List Payload} (now : Time)

theorem Running.CanAnswer.acceptPeerChildRekey (h : a.CanAnswer cfg inner) {old : ChildSA}
    {p : PeerRekey} (targetSPI : UInt32) (sa : SA)
    (hp : collectPeerRekey "peer child rekey" childPeerTS inner ⟨none, [], [], [], []⟩ = .ok p)
    (hold : a.state.activeChild = some old) (htsi : p.tsi = old.tsr) (htsr : p.tsr = old.tsi) :
    (acceptPeerChildRekey cfg now msgID old targetSPI sa p).wp
      (fun r a' => r = .ok () ∧ Answered msgID a a') a := by
  refine (succeeds_onRng (succeeds_generateChildSPI h.smooth.rng)).wp_bind (refl_of Quiet a)
    fun responseSPI a₁ _ h₁ => ?_
  rcases hsel : selectPeerESPProposal cfg sa responseSPI (decide (p.ke.length > 0)) with
    e | ⟨selected, selection⟩
  · obtain ⟨t, rfl⟩ := errorf_of_selectPeerESPProposal hsel
    refine Eff.wp_of_run_eq (Eff.run_bind_of_ok (a := .error (.errorf t)) rfl) ?_
    refine Eff.wp_mono ((h.quiet h₁).respondNotify msgID ?_ rfl) fun r a' ha' => ?_
    · simp [espNotify]
    · exact ⟨ha'.1, h₁.unanswered.answered ha'.2⟩
  obtain ⟨peer, rfl, hsels⟩ := selectPeerESPProposal_ok hsel
  obtain ⟨saBody, hsa, hsalen⟩ := appendSA_responderSelectedESP peer responseSPI selection
  refine Eff.wp_of_run_eq (Eff.run_bind_of_ok rfl) ?_
  refine (succeeds_onRng (succeeds_generateNonce (by decide) (h.quiet h₁).smooth.rng)).wp_bind h₁
    fun ourNr a₂ hnr h₂ => ?_
  refine ((h.quiet h₂).answerKE hp).wp_bind h₂ fun kes a₃ hke h₃ => ?_
  obtain ⟨ke, shared⟩ := kes
  rw [hsa]
  refine Eff.wp_of_run_eq (Eff.run_bind_of_ok (Eff.run_lift _ _)) ?_
  have hlen : (cesBuildChain ([⟨PayloadType.sa, saBody⟩, ⟨PayloadType.nonce, appendNonce ourNr⟩] ++
      keParts ke ++ [⟨PayloadType.tsi, p.tsi⟩, ⟨PayloadType.tsr, p.tsr⟩])).length ≤
        a₃.state.answerLen := by
    have hkelen : (keParts ke).map (fun p => 4 + p.body.length) = [] ∨
        (keParts ke).map (fun p => 4 + p.body.length) = [40] := by
      rcases ke with _ | ke
      · exact .inl rfl
      · have hdata := hke ke rfl
        exact .inr (by simp [keParts, appendKE, hdata])
    rw [h₃.calm.state, State.answerLen, hold, length_cesBuildChain, htsi, htsr]
    rcases hkelen with hk | hk <;> simp [hk, appendNonce, hnr] <;> omega
  refine (succeeds_sealCurrent (h.quiet h₃).smooth ((h.quiet h₃).seals _ (.inr rfl))
    ExchangeType.createChild msgID PayloadType.sa responseFlags hlen).wp_bind h₃ fun frames a₄ hne h₄ => ?_
  refine Eff.wp_of_run_eq (Eff.run_bind_of_ok (Eff.run_get a₄)) ?_
  obtain ⟨ike, ikeKeys, -, hkeys⟩ := (h.quiet h₄).exists_keys
  rw [hkeys]
  obtain ⟨keys, hderive⟩ := exists_deriveChildKeys selection.prf ikeKeys.skd p.ni ourNr shared
    selection.integrity hsels.registered.keyLen
  dsimp only
  rw [hderive]
  refine Eff.wp_of_run_eq (Eff.run_bind_of_ok (Eff.run_lift _ _)) ?_
  have hw := (h.quiet h₄).smooth
  set child : ChildSA := ⟨responseSPI, selectedPeerOutboundSPI sa, p.tsr, p.tsi, false⟩
  obtain ⟨b, hinstall, hb⟩ := ok_installChild hw h.wired child keys selection
  obtain ⟨t, b₁, hreset, hq⟩ := run_resetChildSoft cfg now
    (State.installPeerChild old child selection) hb
  have hcancel : ∀ k, b₁.world.cancel k = false :=
    Shifted.forall (P := (· = false)) hq.draws.cancel hw.cancel
  have hinstalled : Unanswered a₄ (a₄.childInstalled child keys selection t
    (State.installPeerChild old child selection)) := unanswered_logged rfl
  refine Eff.wp_of_run_eq (Eff.run_bind_of_ok hinstall) ?_
  refine Eff.wp_of_run_eq (Eff.run_bind_of_ok (run_modifyState _ _)) ?_
  refine Eff.wp_of_run_eq (Eff.run_bind_of_ok hreset) ?_
  refine Eff.wp_of_run_eq (Eff.run_bind_of_ok (run_sendFrames _ _ _ frames hcancel)) ?_
  refine ⟨rfl, h₄.unanswered.answered (hinstalled.answered (hq.unanswered.answered ?_))⟩
  exact ⟨frames, _, hne, rfl, responses_frames _ _ _,
    .inl (.inl (replayCachedFrames_rememberResponse _ _ _))⟩

omit [Crypto] in
theorem exists_remembered (s : State) (msgID : UInt32) (frames : List Frame) (h : s.oldIKE ≠ []) :
    ∃ old ∈ (s.mapOldIKE (OldIKEContext.remember msgID frames)).oldIKE,
      ⟨msgID, frames⟩ ∈ old.inboundHistory := by
  obtain ⟨old, rest, hs⟩ := List.exists_cons_of_ne_nil h
  refine ⟨old.remember msgID frames, ?_, List.mem_append_right _ (List.mem_singleton_self _)⟩
  rw [State.mapOldIKE, hs]
  exact List.mem_cons_self

theorem Running.CanAnswer.acceptPeerIKERekey (h : a.CanAnswer cfg inner) {p : PeerRekey} {sa : SA}
    (hp : collectPeerRekey "peer IKE rekey" ikePeerTS inner ⟨none, [], [], [], []⟩ = .ok p)
    (hsa : p.sa = some sa) (hni : p.ni ≠ []) (hke : p.ke ≠ []) :
    (acceptPeerIKERekey cfg now msgID inner).wp
      (fun r a' => r = .ok () ∧ Answered msgID a a') a := by
  unfold Control.acceptPeerIKERekey
  rw [hp]
  refine Eff.wp_of_run_eq (Eff.run_bind_of_ok (Eff.run_lift _ _)) ?_
  rw [hsa, Option.filter_some, if_pos (by simp [hni, hke])]
  refine (succeeds_onRng (succeeds_generateSPI h.smooth.rng)).wp_bind (refl_of Quiet a)
    fun spiR a₁ _ h₁ => ?_
  rcases selectPeerIKEProposal_cases cfg sa spiR with ⟨t, hsel⟩ |
    ⟨selected, selection, peer, -, hsel, hselected, hsels⟩
  · rw [hsel]
    refine Eff.wp_of_run_eq (Eff.run_bind_of_ok (a := .error (.errorf t)) rfl) ?_
    refine Eff.wp_mono ((h.quiet h₁).respondNotify msgID ?_ rfl) fun r a' ha' => ?_
    · simp [plainNotify]
    · exact ⟨ha'.1, h₁.unanswered.answered ha'.2⟩
  rw [hsel]
  obtain ⟨saBody, hsaBody, hsalen⟩ := appendSA_responderSelectedIKE hselected
  refine Eff.wp_of_run_eq (Eff.run_bind_of_ok rfl) ?_
  refine (succeeds_onRng (succeeds_generateNonce (by decide) (h.quiet h₁).smooth.rng)).wp_bind h₁
    fun ourNr a₂ hnr h₂ => ?_
  refine (succeeds_onRng (succeeds_generateRekeyDH (h.quiet h₂).smooth.rng)).wp_bind h₂
    fun v a₃ hv h₃ => ?_
  obtain ⟨dh, ke⟩ := v
  obtain ⟨shared, hshared⟩ := h.ecdh p (.inr hp) hke dh hv.1
  dsimp only
  rw [hshared, hsaBody]
  refine Eff.wp_of_run_eq ((Eff.run_bind_of_ok (Eff.run_lift _ _)).trans
    (Eff.run_bind_of_ok (Eff.run_lift _ _))) ?_
  have hlen : (cesBuildChain [⟨PayloadType.sa, saBody⟩, ⟨PayloadType.nonce, appendNonce ourNr⟩,
      ⟨PayloadType.ke, appendKE ke⟩]).length ≤ a₃.state.answerLen := by
    rw [State.answerLen, length_cesBuildChain]
    simp [appendNonce, appendKE, hnr, hv.2]
    omega
  refine (succeeds_sealCurrent (h.quiet h₃).smooth ((h.quiet h₃).seals _ (.inr rfl))
    ExchangeType.createChild msgID PayloadType.sa responseFlags hlen).wp_bind h₃ fun frames a₄ hne h₄ => ?_
  refine Eff.wp_of_run_eq (Eff.run_bind_of_ok (Eff.run_get a₄)) ?_
  obtain ⟨ike, ikeKeys, hike, hkeys⟩ := (h.quiet h₄).exists_keys
  rw [hike, hkeys]
  obtain ⟨newKeys, hderive⟩ := exists_deriveIKEKeys selection.prf (rekeySKEYSEED ike.prf ikeKeys.skd
    shared p.ni ourNr) p.ni ourNr (beUint64 peer.spi) spiR selection.integrity
    hsels.registered.keyLen
  dsimp only
  rw [hderive]
  have hcancel := (h.quiet h₄).smooth.cancel
  refine Eff.wp_of_run_eq ((Eff.run_bind_of_ok (Eff.run_lift _ _)).trans
    (Eff.run_bind_of_ok (run_sendFrames _ _ _ frames hcancel))) ?_
  refine ⟨rfl, h₄.unanswered.answered ⟨frames, _, hne, rfl, responses_frames _ _ _, .inl (.inr ?_)⟩⟩
  exact exists_remembered _ msgID frames (List.append_ne_nil_of_right_ne_nil _ (by simp))

/-- An IKE rekey that has an answer: it is refused because of another rekey, or readable. -/
def SupportedIKERekey (s : State) (inner : List Payload) : Prop :=
  s.rekey.isSome ∧ ¬LosesIKE s inner ∨ s.rekey = none ∧ s.oldIKE ≠ [] ∨
    ∃ p sa, collectPeerRekey "peer IKE rekey" ikePeerTS inner ⟨none, [], [], [], []⟩ = .ok p ∧
      p.sa = some sa ∧ p.ni ≠ [] ∧ p.ke ≠ []

/-- The request `msgID` was answered if it is supported, and otherwise it failed without an
answer. -/
def AnsweredIf (supported : Prop) (msgID : UInt32) (a : Running) {α : Type} (r : Except Err α)
    (a' : Running) : Prop :=
  supported ∧ (∃ v, r = .ok v) ∧ Answered msgID a a' ∨
    ¬supported ∧ (∃ e, r = .error e) ∧ Unanswered a a'

omit [Crypto] in
theorem AnsweredIf.of_ok {supported : Prop} {b : Running} {x : Eff Running Unit}
    (hsup : supported) (hab : Unanswered a b)
    (hx : x.wp (fun r a' => r = .ok () ∧ Answered msgID b a') b) :
    x.wp (AnsweredIf supported msgID a) b :=
  Eff.wp_mono hx fun _ _ h => .inl ⟨hsup, ⟨(), h.1⟩, hab.answered h.2⟩

theorem wp_processPeerChildRekey_answered (h : a.CanAnswer cfg inner) :
    (processPeerChildRekey cfg now msgID inner).wp
      (AnsweredIf (SupportedChildRekey a.state inner) msgID a) a := by
  rcases checksChild cfg now msgID inner a with
    ⟨e, hno, hrun⟩ | ⟨n, hsup, hrun⟩ | hpass
  · exact Eff.wp_of_run_eq hrun (.inr ⟨hno, ⟨e, rfl⟩, refl_of Unanswered a⟩)
  · exact Eff.wp_of_run_eq hrun (.of_ok hsup (refl_of Unanswered a)
      (h.respondNotify msgID (by simp [espNotify]) rfl))
  refine Eff.wp_of_run_eq (hpass.run cfg now) ?_
  have hsup := hpass.supported
  obtain ⟨htsi, htsr⟩ := hpass.selectors
  unfold resolvePeerChildRekey
  rw [Eff.wp_bind, Eff.wp_get, Eff.next_ok]
  split
  · exact .of_ok hsup (refl_of Unanswered a)
      (h.acceptPeerChildRekey now _ _ hpass.read hpass.active htsi htsr)
  split
  · refine Eff.wp_of_run_eq (Eff.run_bind_of_ok (run_abandonRekey_false cfg now a)) ?_
    have hactive := (congrArg State.activeChild (calm_noted a).state).trans hpass.active
    exact .of_ok hsup (unanswered_abandoned a)
      (h.abandoned.acceptPeerChildRekey now _ _ hpass.read hactive htsi htsr)
  · exact .of_ok hsup (refl_of Unanswered a) (h.respondNotify msgID (by simp [plainNotify]) rfl)

/-- The request is handled in a state that differs from the first one by the abandoned rekey. -/
theorem Running.CanAnswer.acceptPeerIKERekey_if {b : Running} (h : b.CanAnswer cfg inner)
    (hab : Unanswered a b) (hread : SupportedIKERekey a.state inner → ∃ p sa,
      collectPeerRekey "peer IKE rekey" ikePeerTS inner ⟨none, [], [], [], []⟩ = .ok p ∧
        p.sa = some sa ∧ p.ni ≠ [] ∧ p.ke ≠ []) :
    (Control.acceptPeerIKERekey cfg now msgID inner).wp
      (AnsweredIf (SupportedIKERekey a.state inner) msgID a) b := by
  by_cases hsup : SupportedIKERekey a.state inner
  · obtain ⟨p, sa, hp, hsa, hni, hke⟩ := hread hsup
    exact .of_ok hsup hab (h.acceptPeerIKERekey now hp hsa hni hke)
  unfold Control.acceptPeerIKERekey
  rw [Eff.wp_bind, Eff.wp_lift]
  rcases hp : collectPeerRekey "peer IKE rekey" ikePeerTS inner ⟨none, [], [], [], []⟩ with e | p
  · exact .inr ⟨hsup, ⟨e, rfl⟩, hab⟩
  rw [Eff.next_ok]
  split
  · exact .inr ⟨hsup, ⟨_, rfl⟩, hab⟩
  next sa hsa =>
    obtain ⟨hsa, hpresent⟩ := Option.filter_eq_some_iff.mp hsa
    have hpresent : p.ni.length ≠ 0 ∧ p.ke.length ≠ 0 := by simpa using hpresent
    exact absurd (.inr (.inr ⟨p, sa, hp, hsa, List.ne_nil_of_length_pos (by omega),
      List.ne_nil_of_length_pos (by omega)⟩)) hsup

theorem wp_processPeerIKERekey_answered (h : a.CanAnswer cfg inner) :
    (processPeerIKERekey cfg now msgID inner).wp
      (AnsweredIf (SupportedIKERekey a.state inner) msgID a) a := by
  rcases resolvesIKE cfg now msgID inner a with ⟨hbusy, hrun⟩ | ⟨hlose, hrun⟩ |
    ⟨hrekey, hold, hrun⟩ <;> refine Eff.wp_of_run_eq hrun ?_
  · exact .of_ok (or_assoc.mp (.inl hbusy)) (refl_of Unanswered a)
      (h.respondNotify msgID (by simp [plainNotify]) rfl)
  · refine h.abandoned.acceptPeerIKERekey_if now (unanswered_abandoned a) ?_
    rintro (⟨-, hno⟩ | ⟨hnone, -⟩ | hread)
    · exact absurd hlose hno
    · obtain ⟨rc, ni, hrc, -⟩ := hlose
      rw [hnone] at hrc
      cases hrc
    · exact hread
  · refine h.acceptPeerIKERekey_if now (refl_of Unanswered a) ?_
    rintro (⟨hsome, -⟩ | ⟨-, hne⟩ | hread)
    · rw [hrekey] at hsome
      cases hsome
    · exact absurd hold hne
    · exact hread

end Rekeys

/-! ### INFORMATIONAL requests -/

/-- An INFORMATIONAL request that has an answer: an empty one, a CFG_SET, or one DELETE, of the IKE SA
or of one child. -/
def SupportedInformational (inner : List Payload) : Prop :=
  inner = [] ∨
  (∃ p cp out, inner = [p] ∧ p.type = PayloadType.cp ∧ parseConfigPayload p.body = .ok cp ∧
    cp.kind = ConfigType.set ∧ cesDecodeAssignedCP cp = .ok out) ∨
  ∃ p d, inner = [p] ∧ p.type = PayloadType.delete ∧ parseDelete p.body = .ok d ∧
    (d.protocolID = deleteProtocolIKE ∧ d.spis = [] ∨
      d.protocolID = deleteProtocolESP ∧ d.spis.length = 1)

/-- Two actors on the same IKE SA, the second one after some steps without a response. -/
structure Prepares (a a' : Running) : Prop where
  smooth : a.world.Smooth → a'.world.Smooth
  envelope : stateIKEEnvelope a'.state = stateIKEEnvelope a.state
  unanswered : Unanswered a a'

instance : Std.Refl Prepares := ⟨fun a => ⟨id, rfl, refl_of Unanswered a⟩⟩

instance : IsTrans Running Prepares := ⟨fun _ _ _ h₁ h₂ => ⟨fun h => h₂.smooth (h₁.smooth h),
  h₂.envelope.trans h₁.envelope, trans_of Unanswered h₁.unanswered h₂.unanswered⟩⟩

section Informational

variable {a : Running} (cfg : Config) (now : Time)

theorem prepares_logged {e : Entry} (he : responses [e] = []) : Prepares a (a.logged e) :=
  ⟨fun h => h.extend [e], rfl, unanswered_logged he⟩

theorem succeeds_offerUpdate (u : DataplaneUpdate) (a : Running) :
    (offerUpdate cfg u).Succeeds Prepares (fun _ => True) a := by
  obtain ⟨through, w, hw, -, hrun⟩ := run_offerUpdate cfg u a
  refine Eff.wp_run hrun ⟨(), rfl, trivial, ?_⟩
  have hq : Prepares a { a with world := w } :=
    ⟨fun h => h.draws hw, rfl, [], by simp [hw.log], rfl⟩
  cases through with
  | true => exact trans_of Prepares hq (prepares_logged rfl)
  | false => exact hq

theorem succeeds_deleteChild (spi : UInt32) (a : Running) :
    (deleteChild cfg spi).Succeeds Prepares (fun _ => True) a := by
  have hmod : ∀ {f : State → State} {b : Running}, Prepares a b →
      (∀ s, stateIKEEnvelope (f s) = stateIKEEnvelope s) →
      (modifyState f).wp (fun r a' => ∃ v, r = .ok v ∧ True ∧ Prepares a a') b := by
    intro f b hb hf
    exact ⟨(), rfl, trivial, hb.smooth, (hf _).trans hb.envelope, hb.unanswered⟩
  unfold deleteChild
  rw [Eff.Succeeds, Eff.wp_bind, Eff.wp_get, Eff.next_ok, Eff.wp_bind, record, Eff.wp_modify,
    Eff.next_ok]
  have hnote : ∀ replaced, Prepares a (a.logged (.peerDeleted spi replaced)) :=
    fun _ => prepares_logged rfl
  split
  next old _ =>
    exact (succeeds_offerUpdate cfg _ _).wp_bind (hnote _) fun _ b _ hb => hmod hb fun _ => rfl
  split
  · exact ⟨(), rfl, trivial, hnote _⟩
  next active _ =>
    exact (succeeds_offerUpdate cfg _ _).wp_bind (hnote _) fun _ b _ hb => hmod hb fun _ => rfl

theorem succeeds_applyConfigUpdate (incoming : AssignedConfig) (present : CesAssignedMask)
    (mode : ConfigApplyMode) (a : Running) :
    (applyConfigUpdate cfg now incoming present mode).Succeeds Prepares (fun _ => True) a := by
  obtain ⟨through, w, hw, -, -, hrun⟩ :=
    run_applyConfigUpdate cfg now incoming present mode a rfl
  refine Eff.wp_run hrun ⟨_, rfl, trivial, ?_⟩
  have hq : Prepares a (Running.assigning now
      (updatedAssigned a.state.assigned incoming present mode) { a with world := w }) :=
    ⟨fun h => h.draws hw, rfl, [], by simp [Running.assigning, hw.log], rfl⟩
  cases through with
  | true => exact trans_of Prepares hq (prepares_logged rfl)
  | false => exact hq

theorem singleDelete_some : ∀ {plds : List Payload} {acc : Option Delete} {d : Delete},
    singleDelete plds acc = .ok (some d) → (plds = [] ∧ acc = some d) ∨
      ∃ p, plds = [p] ∧ acc = none ∧ p.type = PayloadType.delete ∧ parseDelete p.body = .ok d
  | [], acc, d, h => .inl ⟨rfl, Except.ok.inj h⟩
  | p :: ps, acc, d, h => by
    rw [singleDelete] at h
    by_cases htype : p.type = PayloadType.delete
    · rw [if_neg (not_not.mpr htype)] at h
      obtain ⟨d', hd', h⟩ := bind_eq_ok.mp h
      split_ifs at h with hacc
      have hnone : acc = none := by simpa using hacc
      rcases singleDelete_some h with ⟨rfl, hd⟩ | ⟨p', -, hd, -⟩
      · obtain rfl := Option.some.inj hd
        exact .inr ⟨p, rfl, hnone, htype, hd'⟩
      · cases hd
    · rw [if_pos htype] at h
      cases h

/-- How the application of a request ends that has an answer if `S` holds. -/
def PreparedIf (S : Prop) (a : Running) (r : Except Err (Bool × Bool)) (a' : Running) : Prop :=
  Prepares a a' ∧ (S ∧ (∃ v, r = .ok v) ∨ ¬S ∧ ∃ e, r = .error e)

theorem PreparedIf.fail {S : Prop} {e : Err} (hno : ¬S) : PreparedIf S a (.error e) a :=
  ⟨refl_of Prepares a, .inr ⟨hno, e, rfl⟩⟩

theorem PreparedIf.done {S : Prop} {α : Type} {x : Eff Running α} {v : Bool × Bool} (hsup : S)
    (hx : x.Succeeds Prepares (fun _ => True) a) : (x >>= fun _ => pure v).wp (PreparedIf S a) a :=
  hx.wp_bind (refl_of Prepares a) fun _ _ _ hb => ⟨hb, .inl ⟨hsup, v, rfl⟩⟩

variable {p : Payload} {ps : List Payload}

/-- The payload sets the configuration. -/
def SetsConfig (p : Payload) : Prop :=
  ∃ cp out, parseConfigPayload p.body = .ok cp ∧ cp.kind = ConfigType.set ∧
    cesDecodeAssignedCP cp = .ok out

theorem supported_cp_iff (htype : p.type = PayloadType.cp) :
    SupportedInformational [p] ↔ SetsConfig p := by
  constructor
  · rintro (h | ⟨p', cp, out, h, -, hset⟩ | ⟨p', d, h, hdel, -⟩)
    · cases h
    · obtain rfl := List.singleton_inj.mp h
      exact ⟨cp, out, hset⟩
    · obtain rfl := List.singleton_inj.mp h
      rw [htype] at hdel
      exact absurd hdel (by decide)
  · rintro ⟨cp, out, hset⟩
    exact .inr (.inl ⟨p, cp, out, rfl, htype, hset⟩)

theorem wp_handleInformational_cp (htype : p.type = PayloadType.cp) (a : Running) :
    (handleInformationalForPayloads cfg now [p]).wp (PreparedIf (SetsConfig p) a) a := by
  unfold handleInformationalForPayloads SetsConfig
  refine Eff.wp_ite (fun _ => ?_) fun h => absurd ⟨rfl, htype⟩ h
  rw [Eff.wp_bind, Eff.wp_lift]
  rcases parseConfigPayload p.body with e | cp
  · exact .fail (by simp)
  rw [Eff.next_ok]
  refine Eff.wp_ite (fun hkind => .fail (by simp [hkind])) fun hkind => ?_
  rw [Eff.wp_bind, Eff.wp_lift]
  rcases hdecode : cesDecodeAssignedCP cp with e | out
  · exact .fail (by simp [hdecode])
  rw [Eff.next_ok]
  exact .done ⟨cp, out, rfl, not_not.mp hkind, hdecode⟩ (succeeds_applyConfigUpdate cfg now _ _ _ a)

/-- The DELETE is of the IKE SA or of one child. -/
def DeletesOne (d : Delete) : Prop :=
  d.protocolID = deleteProtocolIKE ∧ d.spis = [] ∨ d.protocolID = deleteProtocolESP ∧ d.spis.length = 1

theorem supported_delete_iff (hcp : ¬(ps.length = 0 ∧ p.type = PayloadType.cp)) :
    SupportedInformational (p :: ps) ↔
      ∃ d, singleDelete (p :: ps) none = .ok (some d) ∧ DeletesOne d := by
  constructor
  · rintro (h | ⟨p', cp, out, h, htype, -⟩ | ⟨p', d, h, htype, hd, hone⟩)
    · cases h
    · obtain ⟨rfl, rfl⟩ := List.cons.inj h
      exact absurd ⟨rfl, htype⟩ hcp
    · obtain ⟨rfl, rfl⟩ := List.cons.inj h
      refine ⟨d, ?_, hone⟩
      rw [singleDelete, if_neg (not_not.mpr htype), hd]
      rfl
  · rintro ⟨d, hsingle, hone⟩
    obtain ⟨hnil, -⟩ | ⟨p', hp', -, htype, hd⟩ := singleDelete_some hsingle
    · cases hnil
    · exact .inr (.inr ⟨p', d, hp', htype, hd, hone⟩)

theorem wp_handleInformational_delete (hcp : ¬(ps.length = 0 ∧ p.type = PayloadType.cp))
    (a : Running) : (handleInformationalForPayloads cfg now (p :: ps)).wp
      (PreparedIf (∃ d, singleDelete (p :: ps) none = .ok (some d) ∧ DeletesOne d) a) a := by
  unfold handleInformationalForPayloads
  refine Eff.wp_ite (fun h => absurd h hcp) fun _ => ?_
  rw [Eff.wp_bind, Eff.wp_lift]
  rcases singleDelete (p :: ps) none with e | _ | d
  · exact .fail (by simp)
  · exact .fail (by simp)
  have hone : (∃ d', (.ok (some d) : Except Err (Option Delete)) = .ok (some d') ∧ DeletesOne d') ↔
      DeletesOne d := by simp
  have hne : deleteProtocolIKE ≠ deleteProtocolESP := by decide
  rw [Eff.next_ok, hone]
  unfold DeletesOne
  refine Eff.wp_ite (fun hike => Eff.wp_ite (fun hspis => .fail ?_) fun hspis => ?_) fun hike => ?_
  · rintro (⟨-, hnil⟩ | ⟨hesp, -⟩)
    · exact hspis (by rw [hnil]; rfl)
    · exact hne (hike.symm.trans hesp)
  · have hnil : d.spis = [] := List.eq_nil_of_length_eq_zero (not_not.mp hspis)
    exact ⟨refl_of Prepares a, .inl ⟨.inl ⟨hike, hnil⟩, _, rfl⟩⟩
  refine Eff.wp_ite (fun hesp => ?_) fun hesp => .fail fun h => h.elim (hike ·.1) (hesp ·.1)
  split
  next spi hspis =>
    exact .done (.inr ⟨hesp, by rw [hspis]; rfl⟩) (succeeds_deleteChild cfg spi a)
  next hspis =>
    refine .fail fun h => ?_
    obtain ⟨spi, hspi⟩ := List.length_eq_one_iff.mp (h.resolve_left (hike ·.1)).2
    exact hspis spi hspi

theorem wp_handleInformational_prepares (inner : List Payload) (a : Running) :
    (handleInformationalForPayloads cfg now inner).wp
      (PreparedIf (SupportedInformational inner) a) a := by
  cases inner with
  | nil => exact ⟨refl_of Prepares a, .inl ⟨.inl rfl, _, rfl⟩⟩
  | cons p ps =>
    by_cases hcp : ps.length = 0 ∧ p.type = PayloadType.cp
    · obtain ⟨hps, htype⟩ := hcp
      obtain rfl := List.eq_nil_of_length_eq_zero hps
      rw [supported_cp_iff htype]
      exact wp_handleInformational_cp cfg now htype a
    · rw [supported_delete_iff hcp]
      exact wp_handleInformational_delete cfg now hcp a

variable [Crypto] {inner : List Payload}

theorem wp_processInformational_answered (msgID : UInt32) (h : a.CanAnswer cfg inner) :
    (processInformational cfg now msgID inner).wp
      (AnsweredIf (SupportedInformational inner) msgID a) a := by
  unfold processInformational
  rw [Eff.wp_bind]
  refine Eff.wp_mono (wp_handleInformational_prepares cfg now inner a) fun r b hb => ?_
  obtain ⟨hprep, ⟨hsup, ⟨⟨shutdown, cfgAck⟩, rfl⟩⟩ | ⟨hno, e, rfl⟩⟩ := hb
  swap
  · exact .inr ⟨hno, ⟨e, rfl⟩, hprep.unanswered⟩
  rw [Eff.next_ok]
  have hseals : (stateIKEEnvelope b.state).SealsUpTo a.state.answerLen none := by
    rw [hprep.envelope]
    exact h.seals none (.inl rfl)
  have hanswer : (answerInformational msgID cfgAck).wp
      (fun r a' => r = .ok () ∧ Answered msgID b a') b := by
    unfold answerInformational
    refine Eff.wp_ite (fun _ => ?_) fun _ => ?_
    · refine Eff.wp_of_run_eq (Eff.run_bind_of_ok
        (show (Eff.lift (appendConfigPayload ⟨ConfigType.ack, []⟩) : Eff Running Bytes).run b =
          (.ok [ConfigType.ack, 0, 0, 0], b) from rfl)) ?_
      refine wp_respond_answered (hprep.smooth h.smooth) hseals _ _ _ ?_
      simp [cepSinglePayload, payloadHeaderLen, State.answerLen]
      omega
    · exact wp_respond_answered (hprep.smooth h.smooth) hseals _ _ _ (Nat.zero_le _)
  dsimp only
  rw [Eff.wp_bind]
  refine Eff.wp_mono hanswer fun r a' ha' => ?_
  obtain ⟨rfl, hans⟩ := ha'
  have hall := hprep.unanswered.answered hans
  rw [Eff.next_ok]
  refine .inl ⟨hsup, ?_⟩
  cases shutdown with
  | false => exact ⟨⟨_, rfl⟩, hall⟩
  | true =>
    obtain ⟨frames, es, hne, hes, hresp, -⟩ := hall
    exact ⟨⟨_, rfl⟩, frames, es, hne, hes, hresp, .inr rfl⟩

end Informational

/-! ### Requests -/

def Supported (s : State) (exchange : ExchangeType) (inner : List Payload) : Prop :=
  exchange = ExchangeType.informational ∧ SupportedInformational inner ∨
  exchange = ExchangeType.createChild ∧ HasTS inner ∧ SupportedChildRekey s inner ∨
  exchange = ExchangeType.createChild ∧ ¬HasTS inner ∧ SupportedIKERekey s inner

section Requests

variable [Crypto] {a : Running} {inner : List Payload} {pkt : Packet} {hdr : Header} (cfg : Config)
  (now : Time)

theorem wp_processRequest_answered
    (hex : hdr.exchangeType = ExchangeType.informational ∨ hdr.exchangeType = ExchangeType.createChild)
    (hfresh : ∀ e ∈ a.state.inboundHistory, e.messageID < hdr.messageID)
    (h : a.CanAnswer cfg inner) :
    (processRequest cfg now hdr inner).wp
      (AnsweredIf (Supported a.state hdr.exchangeType inner) hdr.messageID a) a := by
  have hcache : a.state.replayCachedFrames hdr.messageID = none := by
    rw [State.replayCachedFrames, Option.map_eq_none_iff, List.find?_eq_none]
    intro e he
    have hlt := hfresh e (List.mem_reverse.mp he)
    simpa using UInt32.ne_of_lt hlt
  have hlast : (a.state.inboundHistory.getLast?.filter
      fun last => decide (hdr.messageID ≤ last.messageID)) = none := by
    rw [Option.filter_eq_none_iff]
    intro last hmem
    have hlt := hfresh last (List.mem_of_getLast? hmem)
    simpa using hlt
  have hiff : ∀ {P Q : Prop} {α : Type} {x : Eff Running α}, (P ↔ Q) →
      x.wp (AnsweredIf P hdr.messageID a) a → x.wp (AnsweredIf Q hdr.messageID a) a := by
    intro P Q α x hPQ hx
    rwa [propext hPQ] at hx
  unfold processRequest
  rw [Eff.wp_bind, Eff.wp_get, Eff.next_ok, hcache]
  dsimp only
  rw [hlast]
  dsimp only
  rcases hex with hex | hex
  · rw [if_pos hex]
    refine hiff ?_ (wp_processInformational_answered cfg now hdr.messageID h)
    simp [Supported, hex, show ExchangeType.informational ≠ ExchangeType.createChild by decide]
  rw [if_neg (by rw [hex]; decide), if_pos hex, Eff.wp_bind]
  have hchild : (processCreateChild cfg now hdr.messageID inner).wp
      (AnsweredIf (Supported a.state hdr.exchangeType inner) hdr.messageID a) a := by
    unfold processCreateChild
    refine Eff.wp_ite (fun hts => ?_) fun hts => ?_
    · refine hiff ?_ (wp_processPeerChildRekey_answered now h)
      simp [Supported, hex, show HasTS inner from hts,
        show ExchangeType.createChild ≠ ExchangeType.informational by decide]
    · refine hiff ?_ (wp_processPeerIKERekey_answered now h)
      simp [Supported, hex, show ¬HasTS inner from hts,
        show ExchangeType.createChild ≠ ExchangeType.informational by decide]
  refine Eff.wp_mono hchild fun r a' ha' => ?_
  rcases ha' with ⟨hsup, ⟨v, rfl⟩, hans⟩ | ⟨hno, ⟨e, rfl⟩, hun⟩
  · exact .inl ⟨hsup, ⟨false, rfl⟩, hans⟩
  · exact .inr ⟨hno, ⟨e, rfl⟩, hun⟩

/-- **Supported requests are answered, and no others**: a complete request with a new message id on
the current IKE SA gets one response, which is stored, if it is supported; if not, handling it fails
and no response is sent. -/
theorem request_answered_iff (hreq : a.CurrentRequest pkt hdr)
    (hopen : a.Opens now pkt.payload inner)
    (hex : hdr.exchangeType = ExchangeType.informational ∨ hdr.exchangeType = ExchangeType.createChild)
    (hfresh : ∀ e ∈ a.state.inboundHistory, e.messageID < hdr.messageID)
    (hcan : a.CanAnswer cfg inner) :
    (Supported a.state hdr.exchangeType inner →
      Answered hdr.messageID a ((processPacket cfg now pkt).run a).2) ∧
    (¬Supported a.state hdr.exchangeType inner →
      (∃ e, ((processPacket cfg now pkt).run a).1 = .error e) ∧
      Unanswered a ((processPacket cfg now pkt).run a).2) := by
  obtain ⟨r, f, hopen', hrun⟩ := run_onState_open now pkt.payload a
  have hr : r = .ok (some inner) := by rw [Running.Opens, hopen'] at hopen; exact hopen
  rw [hreq.run cfg now, Eff.run_bind_of_ok (hr ▸ hrun)]
  have hcan' : (a.mapState (State.withFragments f)).CanAnswer cfg inner :=
    ⟨hcan.smooth, hcan.wired, hcan.seals, hcan.ecdh⟩
  have hend := wp_processRequest_answered (a := a.mapState (State.withFragments f)) cfg now hex hfresh
    hcan'
  rcases hend with ⟨hsup, -, hans⟩ | ⟨hno, herr, hun⟩
  · exact ⟨fun _ => hans, fun hno => absurd hsup hno⟩
  · exact ⟨fun hsup => absurd hsup hno, fun _ => ⟨herr, hun⟩⟩

end Requests

section Sample

attribute [local instance] plainCrypto

theorem canAnswer_sampleStart {inner : List Payload}
    (hke : ∀ p, collectPeerRekey "peer child rekey" childPeerTS inner ⟨none, [], [], [], []⟩ = .ok p ∨
      collectPeerRekey "peer IKE rekey" ikePeerTS inner ⟨none, [], [], [], []⟩ = .ok p → p.ke = []) :
    sampleStart.actor.CanAnswer sampleConfig inner := by
  have hkeyed : (stateIKEEnvelope sampleStart.actor.state).CbcKeyed cbcSelection cbcKeys := by
    decide +kernel
  refine ⟨⟨fun _ => rfl, fun _ => rfl, fun _ => rfl, fun _ => rfl⟩, rfl, fun c _ => ?_, ?_⟩
  · exact hkeyed.sealsUpTo (by decide) c
  · exact fun p hp hne => absurd (hke p hp) hne

/-- The packet is an INFORMATIONAL request with the id 0 and one payload, in the session at its
start. -/
def SampleRequest (pkt : Packet) (p : Payload) : Prop :=
  pkt.kind = .ike ∧ (∃ msg ∈ (parseMessage pkt.payload).toOption, msg.encrypted.isSome ∧
    msg.header.flags &&& flagResponse = 0 ∧ msg.header.messageID = 0 ∧
    msg.header.exchangeType = ExchangeType.informational ∧
    sampleStart.actor.state.oldIKEFor msg.header = none) ∧
  sampleStart.actor.Opens 0 pkt.payload [p]

instance (pkt : Packet) (p : Payload) : Decidable (SampleRequest pkt p) :=
  inferInstanceAs (Decidable (_ ∧ (∃ msg ∈ (parseMessage pkt.payload).toOption, _) ∧ _))

theorem SampleRequest.exists_header {pkt : Packet} {p : Payload} (h : SampleRequest pkt p) :
    ∃ hdr, sampleStart.actor.CurrentRequest pkt hdr ∧ hdr.messageID = 0 ∧
      hdr.exchangeType = ExchangeType.informational := by
  obtain ⟨hkind, ⟨msg, hmsg, henc, hflags, hid, hex, hold⟩, -⟩ := h
  have hparse : parseMessage pkt.payload = .ok msg := by
    rcases hp : parseMessage pkt.payload with e | msg' <;> rw [hp] at hmsg <;> cases hmsg
    rfl
  exact ⟨msg.header, ⟨⟨hkind, ⟨msg, hparse, rfl, henc⟩, hold⟩, hflags⟩, hid, hex⟩

/-- The peer sends a notify about no SA, in an INFORMATIONAL request. -/
def sampleNotify : Packet :=
  sampleSession.peerPacket ExchangeType.informational 0 requestFlags
    (some (PayloadType.notify, [0, 0, 0x40, 0]))

/-- The notify is well formed, and the request is not answered. -/
theorem notify_unanswered : ∃ (hdr : Header) (p : Payload) (n : Notify),
    sampleStart.actor.CurrentRequest sampleNotify hdr ∧
    hdr.exchangeType = ExchangeType.informational ∧
    sampleStart.actor.state.inboundHistory = [] ∧
    sampleStart.actor.Opens 0 sampleNotify.payload [p] ∧
    p.type = PayloadType.notify ∧ parseNotify p.body = .ok n ∧
    sampleStart.actor.CanAnswer sampleConfig [p] ∧ Unanswered sampleStart.actor
      ((processPacket sampleConfig 0 sampleNotify).run sampleStart.actor).2 := by
  have hreq : SampleRequest sampleNotify
      ⟨PayloadType.notify, false, PayloadType.none, [0, 0, 0x40, 0]⟩ := by decide +kernel
  obtain ⟨hdr, hcur, -, hex⟩ := hreq.exists_header
  refine ⟨hdr, _, ⟨0, [], 0x4000, []⟩, hcur, hex, rfl, hreq.2.2, rfl, by decide +kernel,
    canAnswer_sampleStart ?_, [], by decide +kernel, rfl⟩
  rintro p (hp | hp) <;> cases hp <;> rfl

/-- The peer deletes the child: the request is answered. -/
theorem sample_delete_answered : Answered 0 sampleStart.actor
    ((processPacket sampleConfig 0 sampleChildDelete).run sampleStart.actor).2 := by
  have hreq : SampleRequest sampleChildDelete
      ⟨PayloadType.delete, false, PayloadType.none, [3, 4, 0, 1, 0, 0, 0, 8]⟩ := by decide +kernel
  obtain ⟨hdr, hcur, hid, hex⟩ := hreq.exists_header
  have hcan : sampleStart.actor.CanAnswer sampleConfig
      [⟨PayloadType.delete, false, PayloadType.none, [3, 4, 0, 1, 0, 0, 0, 8]⟩] := by
    refine canAnswer_sampleStart ?_
    rintro p (hp | hp) <;> cases hp <;> rfl
  have hanswer := (request_answered_iff sampleConfig 0 hcur hreq.2.2 (.inl hex)
    (fun e he => absurd he List.not_mem_nil) hcan).1
  rw [hid] at hanswer
  refine hanswer (.inl ⟨hex, .inr (.inr ⟨_, ⟨deleteProtocolESP, [8]⟩, rfl, rfl, ?_, .inr ⟨rfl, rfl⟩⟩)⟩)
  decide +kernel

end Sample

end Swan.Control
