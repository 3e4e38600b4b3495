import Swan.Control.Exchange
import Swan.Control.Answers
import Swan.Control.Choices

/-! # An accepted child rekey of the peer

What a run of `processPeerChildRekey` that succeeds has done: the request was refused with a notify
(`RefusesChild`), or there is a `ChildAnswer`, the record of what was read, chosen and drawn, and the
child of that answer is in place and its packets are sent (`AcceptsChild`). -/

namespace Swan.Control

open Swan.Lib Swan.Wire Swan.Payload Swan.Xcrypto

section Answers

variable [Crypto]

/-- What goes into the answer to a child rekey request. -/
structure ChildAnswer where
  request : PeerRekey
  sa : SA
  responseSPI : UInt32
  selected : SA
  selection : Selection
  nonce : Bytes
  ke : Option KeyExchange
  shared : Bytes
  saBody : Bytes
  frames : List Frame
  keys : ChildKeys

namespace ChildAnswer

def parts (x : ChildAnswer) : List CesPayloadPart :=
  [⟨PayloadType.sa, x.saBody⟩, ⟨PayloadType.nonce, appendNonce x.nonce⟩] ++ keParts x.ke ++
    [⟨PayloadType.tsi, x.request.tsi⟩, ⟨PayloadType.tsr, x.request.tsr⟩]

def child (x : ChildAnswer) : ChildSA :=
  ⟨x.responseSPI, selectedPeerOutboundSPI x.sa, x.request.tsr, x.request.tsi, false⟩

/-- The key exchange of the answer: a new key pair and the secret with the peer's key, or nothing if
the request has no KE payload. -/
def KeyExchanged (x : ChildAnswer) : Prop :=
  if x.request.ke.length > 0 then ∃ dh ke, x.ke = some ke ∧ IsKeyPair dh ke ∧
    (dh.ecdh x.request.ke).1 = .ok x.shared
  else x.ke = none ∧ x.shared = []

end ChildAnswer

/-- The packets of a response to the request `msgID` were sent, and no other response. -/
def Responds (msgID : UInt32) (frames : List Frame) (a b : Running) : Prop :=
  responses b.world.log = responses a.world.log ++ frames.map fun f => (msgID, f)

/-- The children that were handed to the data plane, with their keys and algorithms. -/
def installs (log : List Entry) : List (ChildSA × ChildKeys × Selection) :=
  log.filterMap fun
    | .update (.childInstalled child keys selection) => some (child, keys, selection)
    | _ => none

/-- The child was handed to the data plane in between, and no other one. -/
def Installs (child : ChildSA) (keys : ChildKeys) (selection : Selection) (a b : Running) : Prop :=
  installs b.world.log = installs a.world.log ++ [(child, keys, selection)]

/-- The request was refused with the notify `n`; the child is as it was. -/
def RefusedWith (n : Notify) (msgID : UInt32) (a b : Running) : Prop :=
  b.state.activeChild = a.state.activeChild ∧ ∃ body frames, appendNotify n = .ok body ∧
    Built (stateIKEEnvelope a.state) msgID [⟨PayloadType.notify, body⟩] frames ∧
    Responds msgID frames a b

/-- The request was refused with a notify. -/
def RefusesChild (msgID : UInt32) (a b : Running) : Prop := ∃ n, RefusedWith n msgID a b

/-- The answer `x` was chosen, sent and installed. -/
structure AcceptsChild (cfg : Config) (msgID : UInt32) (a b : Running) (x : ChildAnswer) : Prop where
  select : selectPeerESPProposal cfg x.sa x.responseSPI (decide (x.request.ke.length > 0)) =
    .ok (x.selected, x.selection)
  nonce : x.nonce.length = 32
  ke : x.KeyExchanged
  saBody : appendSA x.selected = .ok x.saBody
  built : Built (stateIKEEnvelope a.state) msgID x.parts x.frames
  keys : ∃ ikeKeys, a.state.ikeKeys = some ikeKeys ∧ deriveChildKeys x.selection.prf ikeKeys.skd
    x.request.ni x.nonce x.shared x.selection.encryption x.selection.integrity = .ok x.keys
  sent : Responds msgID x.frames a b
  installed : .update (.childInstalled x.child x.keys x.selection) ∈ b.world.log
  child : b.state.activeChild = some x.child

/-! ### Steps -/

variable {msgID : UInt32} {frames : List Frame} {a b : Running} {cfg : Config} {now : Time}
  {x : ChildAnswer}

section

omit [Crypto]

theorem Unanswered.responds {a' : Running} (h : Unanswered a a') (h' : Responds msgID frames a' b) :
    Responds msgID frames a b := by
  obtain ⟨es, hes, hno⟩ := h
  rw [Responds, h', hes, responses_append, hno, List.append_nil]

theorem Responds.unanswered {b' : Running} (h : Responds msgID frames a b) (h' : Unanswered b b') :
    Responds msgID frames a b' := by
  obtain ⟨es, hes, hno⟩ := h'
  rw [Responds, hes, responses_append, hno, List.append_nil, h]

theorem responds_sendFrames {sa : ℕ}
    (h : (sendFrames sa .response msgID frames).run a = (.ok (), b)) :
    Responds msgID frames a b := by
  rw [Responds, (sendFrames_ok h).2, responses_append, responses_frames]

theorem installs_append (log log' : List Entry) :
    installs (log ++ log') = installs log ++ installs log' := List.filterMap_append

theorem installs_frames (sa : ℕ) (purpose : Purpose) (msgID : UInt32) (frames : List Frame) :
    installs (frames.map (.frame sa purpose msgID)) = [] := by
  simp [installs]

theorem installs_noted (a : Running) : installs a.noted.world.log = installs a.world.log := by
  unfold Running.noted
  split_ifs
  · change installs (a.world.log ++ [_]) = _
    rw [installs_append]
    simp [installs]
  · rfl

theorem cesBuildChain_singleton (type : PayloadType) (body : Bytes) :
    cesBuildChain [⟨type, body⟩] = cepSinglePayload body := by
  simp [cesBuildChain, cepSinglePayload, firstType]

end

theorem respondNotify_ok {n : Notify} (h : (respondNotify cfg msgID n).run a = (.ok (), b)) :
    RefusedWith n msgID a b := by
  obtain ⟨body, hbody, h⟩ := Eff.run_lift_bind_ok h
  obtain ⟨⟨⟩, a₂, hrespond, h⟩ := Eff.run_bind_ok h
  obtain rfl := congrArg Prod.snd h
  obtain ⟨frames, a₃, hseal, hq, hrespond⟩ := (quiet_sealCurrent _ _ _ _ _ _).run_bind_ok hrespond
  have hrespond := Eff.run_get_bind_ok hrespond
  obtain ⟨⟨⟩, a₅, hsend, hrespond⟩ := Eff.run_bind_ok hrespond
  obtain rfl := congrArg Prod.snd hrespond
  obtain ⟨hstate, -⟩ := sendFrames_ok hsend
  rw [← cesBuildChain_singleton PayloadType.notify] at hseal
  have hbuilt : Built (stateIKEEnvelope a.state) msgID [⟨PayloadType.notify, body⟩] frames :=
    built_of_sealCurrent responseFlags_mask hseal
  have hsent : Responds msgID frames a a₅ := hq.unanswered.responds (responds_sendFrames hsend)
  refine ⟨?_, body, frames, hbody, hbuilt, hsent.unanswered ⟨[.refused msgID n.type], rfl, rfl⟩⟩
  change a₅.state.activeChild = _
  rw [hstate, hq.world]

theorem answerKE_ok {peerKE shared : Bytes} {ke : Option KeyExchange}
    (h : (answerKE peerKE).run a = (.ok (ke, shared), b)) :
    if peerKE.length > 0 then ∃ dh ke', ke = some ke' ∧ IsKeyPair dh ke' ∧
      (dh.ecdh peerKE).1 = .ok shared
    else ke = none ∧ shared = [] := by
  unfold answerKE at h
  split_ifs at h ⊢
  · obtain ⟨⟨dh, ke'⟩, a₁, hdh, h⟩ := Eff.run_bind_ok h
    obtain ⟨shared', a₂, hshared, h⟩ := Eff.run_bind_ok h
    obtain ⟨⟨rfl, rfl⟩, -⟩ := Prod.mk.inj h |>.imp (fun h => Prod.mk.inj (Except.ok.inj h)) id
    rw [onRng, Eff.run_zoom] at hdh
    have hrun := congrArg Prod.fst hdh
    exact ⟨dh, ke', rfl, isKeyPair_of_generateRekeyDH (Prod.ext hrun rfl),
      congrArg Prod.fst hshared⟩
  · obtain ⟨⟨rfl, rfl⟩, -⟩ := Prod.mk.inj h |>.imp (fun h => Prod.mk.inj (Except.ok.inj h)) id
    exact ⟨rfl, rfl⟩

omit [Crypto] in
theorem length_of_generateNonce {n : ℕ} {rng rng' : Rng} {nonce : Bytes}
    (h : (generateNonce n).run rng = (.ok nonce, rng')) : nonce.length = n := by
  unfold generateNonce at h
  split_ifs at h
  · cases h
  obtain ⟨r, rng₁, hfill, h⟩ := Eff.run_bind_ok h
  cases r with
  | error e => cases h
  | ok b =>
    obtain ⟨rfl, rfl⟩ := Prod.mk.inj h |>.imp Except.ok.inj id
    exact length_of_fill (Eff.run_attempt_ok hfill)

theorem acceptPeerChildRekey_ok {targetSPI : UInt32} {old : ChildSA} {sa : SA} {p : PeerRekey}
    (h : (acceptPeerChildRekey cfg now msgID old targetSPI sa p).run a = (.ok (), b)) :
    (∃ n, n.data = [] ∧ RefusedWith n msgID a b) ∨
      ∃ x : ChildAnswer, x.request = p ∧ x.sa = sa ∧ AcceptsChild cfg msgID a b x ∧
        Installs x.child x.keys x.selection a b := by
  obtain ⟨responseSPI, a₁, -, q₁, h⟩ := (quiet_onRng drawn_generateChildSPI).run_bind_ok h
  have h := Eff.run_attempt_lift_bind_ok h
  cases hselect : selectPeerESPProposal cfg sa responseSPI (decide (p.ke.length > 0)) with
  | error e =>
    rw [hselect] at h
    obtain ⟨hchild, body, frames, hbody, hbuilt, hsent⟩ := respondNotify_ok h
    rw [q₁.calm.state] at hchild hbuilt
    exact .inl ⟨_, rfl, hchild, body, frames, hbody, hbuilt, q₁.unanswered.responds hsent⟩
  | ok chosen =>
    obtain ⟨selected, selection⟩ := chosen
    rw [hselect] at h
    obtain ⟨nonce, a₂, hnonce, q₂, h⟩ := (quiet_onRng (drawn_generateNonce 32)).run_bind_ok h
    obtain ⟨⟨ke, shared⟩, a₃, hke, q₃, h⟩ := (quiet_answerKE _).run_bind_ok h
    obtain ⟨saBody, hsaBody, h⟩ := Eff.run_lift_bind_ok h
    obtain ⟨frames, a₄, hseal, q₄, h⟩ := (quiet_sealCurrent _ _ _ _ _ _).run_bind_ok h
    have h := Eff.run_get_bind_ok h
    have q₀₃ : Quiet a a₃ := trans_of Quiet q₁ (trans_of Quiet q₂ q₃)
    have q₀₄ : Quiet a a₄ := trans_of Quiet q₀₃ q₄
    cases hkeys : a₄.state.ikeKeys with
    | none =>
      rw [hkeys] at h
      cases h
    | some ikeKeys =>
      rw [hkeys] at h
      obtain ⟨keys, hderive, h⟩ := Eff.run_lift_bind_ok h
      obtain ⟨⟨⟩, b₁, hinstall, h⟩ := Eff.run_bind_ok h
      obtain ⟨⟨⟩, b₂, hmodify, h⟩ := Eff.run_bind_ok h
      obtain ⟨⟨⟩, b₃, hreset, h⟩ := Eff.run_bind_ok h
      obtain ⟨⟨⟩, b₄, hsend, h⟩ := Eff.run_bind_ok h
      obtain rfl := congrArg Prod.snd h
      obtain rfl := congrArg Prod.snd hmodify
      set x : ChildAnswer := ⟨p, sa, responseSPI, selected, selection, nonce, ke, shared, saBody,
        frames, keys⟩
      have hinstall : (installChild cfg x.child keys selection).run a₄ = (.ok (), b₁) := hinstall
      have hq := (wp_installChild cfg x.child keys selection a₄).1 (congrArg Prod.fst hinstall)
      rw [hinstall] at hq
      obtain ⟨t, b', hreset', hq'⟩ := run_resetChildSoft cfg now
        (State.installPeerChild old x.child selection) hq
      obtain rfl : b₃ = b' := congrArg Prod.snd (hreset.symm.trans hreset')
      obtain ⟨hstate, hlog⟩ := sendFrames_ok hsend
      have hchild : Unanswered a₄ (a₄.childInstalled x.child keys selection t
        (State.installPeerChild old x.child selection)) := unanswered_logged rfl
      have hbefore : Unanswered a b₃ := trans_of Unanswered q₀₄.unanswered
        (trans_of Unanswered hchild hq'.unanswered)
      refine .inr ⟨x, rfl, rfl, ⟨hselect, ?_, answerKE_ok hke, hsaBody, ?_, ⟨ikeKeys, ?_, hderive⟩,
        ?_, ?_, ?_⟩, ?_⟩
      · rw [onRng, Eff.run_zoom] at hnonce
        have hrun := congrArg Prod.fst hnonce
        exact length_of_generateNonce (Prod.ext hrun rfl)
      · rw [← q₀₃.calm.state]
        exact built_of_sealCurrent responseFlags_mask hseal
      · rw [← q₀₄.calm.state, hkeys]
      · exact (hbefore.responds (responds_sendFrames hsend)).unanswered ⟨[], by simp; rfl, rfl⟩
      · have hmem : Entry.update (.childInstalled x.child keys selection) ∈ b₃.world.log := by
          rw [hq'.draws.log]
          exact List.mem_append_right _ (List.mem_singleton_self _)
        change _ ∈ b₄.world.log
        rw [hlog]
        exact List.mem_append_left _ hmem
      · change b₄.state.activeChild = _
        rw [hstate, hq'.world]
        rfl
      · change installs b₄.world.log = _
        rw [hlog, installs_append, installs_frames, List.append_nil, hq'.draws.log]
        change installs (a₄.world.log ++ [_]) = _
        rw [installs_append, q₀₄.draws.log]
        rfl

/-! ### The whole handling -/

omit [Crypto] in
theorem abandoned_same (a : Running) :
    stateIKEEnvelope (a.noted.mapState State.abandonRekey).state = stateIKEEnvelope a.state ∧
      (a.noted.mapState State.abandonRekey).state.ikeKeys = a.state.ikeKeys ∧
      (a.noted.mapState State.abandonRekey).state.activeChild = a.state.activeChild := by
  unfold Running.noted
  split_ifs <;> exact ⟨rfl, rfl, rfl⟩

theorem RefusedWith.of_abandoned {n : Notify}
    (h : RefusedWith n msgID (a.noted.mapState State.abandonRekey) b) :
    RefusedWith n msgID a b := by
  obtain ⟨henv, -, hactive⟩ := abandoned_same a
  obtain ⟨hchild, body, frames, hbody, hbuilt, hsent⟩ := h
  exact ⟨hchild.trans hactive, body, frames, hbody, henv ▸ hbuilt,
    (unanswered_abandoned a).responds hsent⟩

theorem AcceptsChild.of_abandoned
    (h : AcceptsChild cfg msgID (a.noted.mapState State.abandonRekey) b x) :
    AcceptsChild cfg msgID a b x := by
  obtain ⟨henv, hkeys, -⟩ := abandoned_same a
  exact ⟨h.select, h.nonce, h.ke, h.saBody, henv ▸ h.built, hkeys ▸ h.keys,
    (unanswered_abandoned a).responds h.sent, h.installed, h.child⟩

theorem resolvePeerChildRekey_ok {targetSPI : UInt32} {old : ChildSA} {sa : SA} {p : PeerRekey}
    (h : (resolvePeerChildRekey cfg now msgID old targetSPI sa p).run a = (.ok (), b)) :
    (∃ n, n.data = [] ∧ RefusedWith n msgID a b) ∨
      ∃ x : ChildAnswer, x.request = p ∧ x.sa = sa ∧ AcceptsChild cfg msgID a b x ∧
        Installs x.child x.keys x.selection a b := by
  have h := Eff.run_get_bind_ok h
  split at h
  · exact acceptPeerChildRekey_ok h
  split at h
  · rw [Eff.run_bind_of_ok (run_abandonRekey_false cfg now a)] at h
    refine (acceptPeerChildRekey_ok h).imp ?_ ?_
    · rintro ⟨n, hdata, hn⟩
      exact ⟨n, hdata, hn.of_abandoned⟩
    · rintro ⟨x, hp, hsa, hx, hinst⟩
      refine ⟨x, hp, hsa, hx.of_abandoned, ?_⟩
      rw [Installs, ← installs_noted a]
      exact hinst
  · exact .inl ⟨_, rfl, respondNotify_ok h⟩

/-- What the request says, of which the answer is made. -/
structure RequestsChild (a : Running) (inner : List Payload) (x : ChildAnswer) : Prop where
  read : collectPeerRekey "peer child rekey" childPeerTS inner ⟨none, [], [], [], []⟩ =
    .ok x.request
  sa : x.request.sa = some x.sa
  ni : x.request.ni ≠ []
  old : ∃ old, a.state.activeChild = some old ∧ x.request.tsi = old.tsr ∧ x.request.tsr = old.tsi

/-- **What a child rekey request of the peer that is handled leaves**: a refusal, or the answer and
the new child. -/
theorem processPeerChildRekey_ok {inner : List Payload}
    (h : (processPeerChildRekey cfg now msgID inner).run a = (.ok (), b)) :
    (∃ n, n.data = [] ∧ RefusedWith n msgID a b) ∨
      ∃ x : ChildAnswer, RequestsChild a inner x ∧ AcceptsChild cfg msgID a b x ∧
        Installs x.child x.keys x.selection a b := by
  rcases checksChild cfg now msgID inner a with ⟨e, -, hrun⟩ | ⟨n, -, hrun⟩ | hpass
  · rw [hrun] at h
    cases h
  · exact .inl ⟨_, rfl, respondNotify_ok (hrun.symm.trans h)⟩
  refine (resolvePeerChildRekey_ok ((hpass.run cfg now).symm.trans h)).imp_right ?_
  rintro ⟨x, rfl, rfl, hx⟩
  have hni : x.request.ni ≠ [] := fun hnil => hpass.complete.2.2 (by simp [hnil])
  exact ⟨x, ⟨hpass.read, hpass.sa, hni, _, hpass.active, hpass.selectors⟩, hx⟩

/-! ### The choice -/

/-- The answer was chosen from the proposal `prop` alone: its number, its transforms, a DH transform
exactly if there is a KE payload, and the SPI that the new child sends to. -/
structure ChildAnswer.FromOne (x : ChildAnswer) (prop : Payload.Proposal) : Prop where
  mem : prop ∈ x.sa.proposals
  chosen : ∃ q, x.selected = ⟨[q]⟩ ∧ ChosenFrom prop q ∧
    ((∃ t ∈ q.transforms, t.type = TransformType.dh) ↔ x.ke.isSome = true)
  spi : prop.spi = putUint32 x.child.outboundSPI

/-- The requests that the answer fits: the first acceptable proposal has the group if there is a KE
payload, and its SPI is that of the first proposal. -/
def FitsFirst (cfg : Config) (sa : SA) (ke : Bytes) : Prop :=
  ∀ prop, IsFirst sa.proposals (Acceptable cfg) prop →
    (ke ≠ [] → OffersCurve25519 prop) ∧ selectedPeerOutboundSPI sa = beUint32 prop.spi

theorem ChildAnswer.KeyExchanged.isSome_iff (h : x.KeyExchanged) :
    x.ke.isSome = true ↔ x.request.ke.length > 0 := by
  unfold KeyExchanged at h
  split_ifs at h with hlen
  · obtain ⟨dh, ke, hke, -⟩ := h
    simp [hke, hlen]
  · simp [h.1, hlen]

theorem AcceptsChild.fromOne_iff (h : AcceptsChild cfg msgID a b x) :
    ∃ prop, IsFirst x.sa.proposals (Acceptable cfg) prop ∧ (∀ prop', x.FromOne prop' →
      prop'.num = prop.num) ∧ (x.FromOne prop ↔ FitsFirst cfg x.sa x.request.ke) := by
  obtain ⟨prop, remote, hfirst, hselected, hread, hsel⟩ := selectPeerESPProposal_isFirst h.select
  have hne : x.request.ke.length > 0 ↔ x.request.ke ≠ [] := List.length_pos_iff
  have hdh : (∃ t ∈ (answerProposal prop x.responseSPI x.selection).transforms,
      t.type = TransformType.dh) ↔ x.ke.isSome = true := by
    rw [exists_dh_answerProposal hsel, decide_eq_true_eq, h.ke.isSome_iff]
  have hchosen : ChosenFrom prop (answerProposal prop x.responseSPI x.selection) ↔
      (x.request.ke ≠ [] → OffersCurve25519 prop) := by
    rw [answerProposal_chosenFrom hread hsel, decide_eq_true_eq, hne]
  have hlen : prop.spi.length = 4 := hfirst.holds.2.1
  have hspi : prop.spi = putUint32 x.child.outboundSPI ↔
      selectedPeerOutboundSPI x.sa = beUint32 prop.spi := by
    constructor
    · intro heq
      rw [heq, beUint32_putUint32]
      rfl
    · intro heq
      rw [show x.child.outboundSPI = selectedPeerOutboundSPI x.sa from rfl, heq,
        putUint32_beUint32 hlen]
  refine ⟨prop, hfirst, ?_, ?_, ?_⟩
  · rintro prop' ⟨-, ⟨q, hq, hfrom, -⟩, -⟩
    rw [hselected] at hq
    obtain rfl : answerProposal prop x.responseSPI x.selection = q := by simpa using hq
    exact hfrom.num.symm
  · rintro ⟨-, ⟨q, hq, hfrom, -⟩, hspi'⟩ prop' hfirst'
    obtain rfl := hfirst.unique hfirst'
    rw [hselected] at hq
    obtain rfl : answerProposal prop x.responseSPI x.selection = q := by simpa using hq
    exact ⟨hchosen.mp hfrom, hspi.mp hspi'⟩
  · intro hfits
    obtain ⟨hgroup, hspi'⟩ := hfits prop hfirst
    exact ⟨hfirst.mem, ⟨_, hselected, hchosen.mpr hgroup, hdh⟩, hspi.mpr hspi'⟩

/-- **A child rekey of the peer is answered from one of its proposals**, if its first acceptable
proposal fits; with different proposal numbers only then. -/
theorem peer_child_choice {cfg : Config} {now : Time} {msgID : UInt32} {inner : List Payload}
    {a b : Running} (h : (processPeerChildRekey cfg now msgID inner).run a = (.ok (), b)) :
    RefusesChild msgID a b ∨ ∃ x : ChildAnswer, RequestsChild a inner x ∧
      AcceptsChild cfg msgID a b x ∧
      (FitsFirst cfg x.sa x.request.ke → ∃ prop, x.FromOne prop) ∧
      ((x.sa.proposals.map Payload.Proposal.num).Nodup → (∃ prop, x.FromOne prop) →
        FitsFirst cfg x.sa x.request.ke) := by
  obtain ⟨n, -, hn⟩ | ⟨x, hreq, hx, -⟩ := processPeerChildRekey_ok h
  · exact .inl ⟨n, hn⟩
  obtain ⟨prop, hfirst, hnum, hiff⟩ := hx.fromOne_iff
  refine .inr ⟨x, hreq, hx, fun hfits => ⟨prop, hiff.mpr hfits⟩, ?_⟩
  rintro hnodup ⟨prop', hfrom⟩
  -- the numbers being different, the proposal is the one that was answered
  obtain rfl : prop' = prop :=
    List.inj_on_of_nodup_map hnodup hfrom.mem hfirst.mem (hnum prop' hfrom)
  exact hiff.mp hfrom

/-! ### Simultaneous rekeys -/

/-- The actor `a` has a rekey in flight with the nonce `ours` when it handles a request for the same
with the nonce `theirs`; it may go on to accept it. -/
inductive Contends (cfg : Config) (now : Time) (msgID : UInt32) (a : Running) :
    Bytes → Bytes → Eff Running Unit → Eff Running Unit → Prop
  | child {rc : RekeyContext} {p : PeerRekey} (old : ChildSA) (targetSPI : UInt32) (sa : SA)
      (hrekey : a.state.rekey = some rc) (hkind : rc.kind = .child) :
      Contends cfg now msgID a rc.ni p.ni (resolvePeerChildRekey cfg now msgID old targetSPI sa p)
        (acceptPeerChildRekey cfg now msgID old targetSPI sa p)
  | ike {rc : RekeyContext} {inner : List Payload} {ni : Bytes}
      (hrekey : a.state.rekey = some rc) (hkind : rc.kind = .ike)
      (hni : firstInnerNonce inner = some ni) :
      Contends cfg now msgID a rc.ni ni (processPeerIKERekey cfg now msgID inner)
        (acceptPeerIKERekey cfg now msgID inner)

theorem Contends.run {ours theirs : Bytes} {handle accept : Eff Running Unit}
    (h : Contends cfg now msgID a ours theirs handle accept) :
    handle.run a = (if decideNonceCollision ours theirs = .weLose then
        abandonRekey cfg now false >>= fun _ => accept
      else sendCreateChildTemporaryFailure cfg msgID).run a := by
  cases h with
  | child old targetSPI sa hrekey hkind =>
    exact run_resolvePeerChildRekey cfg now targetSPI hrekey hkind
  | ike hrekey hkind hni => exact run_processPeerIKERekey cfg now hrekey hkind hni

/-- The actor gives its own rekey up for the one that it is asked for. -/
structure GivesWay (cfg : Config) (now : Time) (handle accept : Eff Running Unit) (a : Running) :
    Prop where
  run : handle.run a = (abandonRekey cfg now false >>= fun _ => accept).run a
  gone : (handle.run a).2.state.rekey = none

/-- The actor refuses the rekey that it is asked for and keeps its own. -/
structure RefusesRekey (cfg : Config) (msgID : UInt32) (handle : Eff Running Unit) (a : Running) :
    Prop where
  run : handle.run a = (sendCreateChildTemporaryFailure cfg msgID).run a
  kept : a.state.rekey.isSome ∧ (handle.run a).2.state.rekey = a.state.rekey

section Contends

variable {ours theirs : Bytes} {handle accept : Eff Running Unit}

theorem Contends.givesWay (h : Contends cfg now msgID a ours theirs handle accept)
    (hlose : decideNonceCollision ours theirs = .weLose) : GivesWay cfg now handle accept a := by
  have hrun := h.run
  rw [if_pos hlose] at hrun
  refine ⟨hrun, ?_⟩
  rw [hrun, Eff.run_bind_of_ok (run_abandonRekey_false cfg now a)]
  cases h with
  | child old targetSPI sa _ _ => exact (wp_acceptPeerChildRekey cfg now old targetSPI sa _).staysIdle rfl
  | ike _ _ _ => exact (wp_acceptPeerIKERekey cfg now _).staysIdle rfl

theorem Contends.refuses (h : Contends cfg now msgID a ours theirs handle accept)
    (hwin : decideNonceCollision ours theirs ≠ .weLose) : RefusesRekey cfg msgID handle a := by
  have hrun := h.run
  rw [if_neg hwin] at hrun
  have hsome : a.state.rekey.isSome := by
    cases h with
    | child _ _ _ hrekey _ => rw [hrekey]; rfl
    | ike hrekey _ _ => rw [hrekey]; rfl
  refine ⟨hrun, hsome, ?_⟩
  rw [hrun]
  exact (untraced_respondNotify cfg (refl_of Calm a) _).rekey

end Contends

/-- Two nonces that are the same as far as they are compared. -/
def Agree (x y : Bytes) : Prop := x.take (min x.length y.length) = y.take (min x.length y.length)

omit [Crypto] in
theorem bytesLt_cases : ∀ {x y : Bytes}, x.length = y.length → x ≠ y →
    bytesLt x y = !bytesLt y x
  | [], [], _, hne => absurd rfl hne
  | a :: x, b :: y, hlen, hne => by
    rw [bytesLt, bytesLt]
    by_cases hlt : a < b
    · simp [hlt, UInt8.lt_asymm hlt]
    by_cases hgt : b < a
    · simp [hgt, hlt]
    obtain rfl : a = b := UInt8.le_antisymm (UInt8.not_lt.mp hgt) (UInt8.not_lt.mp hlt)
    simpa using bytesLt_cases (Nat.succ.inj hlen) fun h => hne (h ▸ rfl)

omit [Crypto] in
theorem bytesLt_self : ∀ x : Bytes, bytesLt x x = false
  | [] => rfl
  | a :: x => by simp [bytesLt, bytesLt_self x]

omit [Crypto] in
theorem weLose_iff (x y : Bytes) :
    (decideNonceCollision x y = .weLose ↔ ¬Agree x y ∧ decideNonceCollision y x ≠ .weLose) := by
  unfold decideNonceCollision Agree
  rw [min_comm y.length]
  by_cases hnil : x.length = 0 ∨ y.length = 0
  · rcases hnil with hnil | hnil <;> simp [List.length_eq_zero_iff.mp hnil]
  rw [if_neg hnil, if_neg (mt Or.symm hnil)]
  by_cases h : x.take (min x.length y.length) = y.take (min x.length y.length)
  · simp [h, bytesLt_self]
  · simp [h, bytesLt_cases (by simp) h]

/-- **Simultaneous rekeys are resolved once**: when both ends rekey at a time and each handles the
request of the other, exactly one of them gives its own rekey up and accepts the other's, and the other
one refuses and keeps its own; only if the nonces agree as far as they are compared do both refuse. -/
theorem simultaneous_rekeys_resolved {cfg cfg' : Config} {now now' : Time} {msgID msgID' : UInt32}
    {a b : Running} {x y : Bytes} {handle accept handle' accept' : Eff Running Unit}
    (ha : Contends cfg now msgID a x y handle accept)
    (hb : Contends cfg' now' msgID' b y x handle' accept') :
    (Agree x y → RefusesRekey cfg msgID handle a ∧ RefusesRekey cfg' msgID' handle' b) ∧
      (¬Agree x y →
        GivesWay cfg now handle accept a ∧ RefusesRekey cfg' msgID' handle' b ∨
          RefusesRekey cfg msgID handle a ∧ GivesWay cfg' now' handle' accept' b) := by
  have hagree : Agree y x ↔ Agree x y := by
    rw [Agree, Agree, min_comm y.length]
    exact eq_comm
  have hlose' := weLose_iff y x
  by_cases hlose : decideNonceCollision x y = .weLose
  · obtain ⟨hne, hwin⟩ := (weLose_iff x y).mp hlose
    exact ⟨fun h => absurd h hne, fun _ => .inl ⟨ha.givesWay hlose, hb.refuses hwin⟩⟩
  · refine ⟨fun h => ⟨ha.refuses hlose, hb.refuses fun hl => ?_⟩,
      fun h => .inr ⟨ha.refuses hlose, hb.givesWay ?_⟩⟩
    · exact (hlose'.mp hl).1 (hagree.mpr h)
    · exact hlose'.mpr ⟨fun hy => h (hagree.mp hy), hlose⟩

end Answers

section Sample

attribute [local instance] plainCrypto

/-- A proposal of AES with the given key length, HMAC-SHA2-256-128 and no extended sequence
numbers. -/
def aesProposal (num : UInt8) (spi : Bytes) (keyBits : UInt16) : Payload.Proposal :=
  ⟨num, deleteProtocolESP, spi,
    [⟨TransformType.enc, transformEncryptionAESCBC, keyLengthAttr keyBits⟩,
      ⟨TransformType.integ, transformIntegrityHMACSHA2256128, []⟩,
      ⟨TransformType.esn, esnNoExtendedSequenceNumbers, []⟩]⟩

/-- The payloads of a request that rekeys the child of the sample session. -/
def childRekeyPayloads (sa : SA) : List Payload :=
  chainPayloads [
    ⟨PayloadType.notify, (appendNotify (espNotify 8 NotifyType.rekeySA)).toOption.getD []⟩,
    ⟨PayloadType.sa, (appendSA sa).toOption.getD []⟩,
    ⟨PayloadType.nonce, List.replicate 32 1⟩, ⟨PayloadType.tsi, [2]⟩, ⟨PayloadType.tsr, [1]⟩]

/-- The sample session after such a request. -/
def afterChildRekey (sa : SA) : Except Err Unit × Running :=
  (processPeerChildRekey sampleConfig 0 1 (childRekeyPayloads sa)).run sampleStart.actor

def oneProposal : SA := ⟨[aesProposal 1 [0, 0, 0, 9] 128]⟩

/-- Two proposals, of which the sample configuration allows the second. -/
def twoProposals : SA := ⟨[aesProposal 1 [0, 0, 0, 5] 256, aesProposal 2 [0, 0, 0, 9] 128]⟩

def ownRekey (ni : Bytes) : RekeyContext :=
  ⟨.child, .time, 0, 5, ni, none, none, none, none, 0, [], 0⟩

/-- The sample session with a child rekey in flight. -/
def rekeyingWith (ni : Bytes) : Running :=
  sampleStart.actor.mapState fun s => { s with rekey := some (ownRekey ni) }

def askedWith (ni : Bytes) : Eff Running Unit :=
  resolvePeerChildRekey sampleConfig 0 1 sampleChild 8 oneProposal ⟨none, ni, [], [], []⟩

theorem contends_sample (x y : Bytes) : Contends sampleConfig 0 1 (rekeyingWith x) x y (askedWith y)
    (acceptPeerChildRekey sampleConfig 0 1 sampleChild 8 oneProposal ⟨none, y, [], [], []⟩) :=
  @Contends.child _ sampleConfig 0 1 (rekeyingWith x) (ownRekey x) ⟨none, y, [], [], []⟩ sampleChild 8
    oneProposal rfl rfl

theorem sample_rekeys_resolved : ∃ accept accept',
    GivesWay sampleConfig 0 (askedWith [2]) accept (rekeyingWith [1]) ∧
        RefusesRekey sampleConfig 1 (askedWith [1]) (rekeyingWith [2]) ∨
      RefusesRekey sampleConfig 1 (askedWith [2]) (rekeyingWith [1]) ∧
        GivesWay sampleConfig 0 (askedWith [1]) accept' (rekeyingWith [2]) :=
  ⟨_, _, (simultaneous_rekeys_resolved (contends_sample [1] [2]) (contends_sample [2] [1])).2
    (by unfold Agree; decide)⟩

theorem run_afterChildRekey (sa : SA) (h : (afterChildRekey sa).1 = .ok ()) :
    (processPeerChildRekey sampleConfig 0 1 (childRekeyPayloads sa)).run sampleStart.actor =
      (.ok (), (afterChildRekey sa).2) := Prod.ext h rfl

theorem request_oneProposal : collectPeerRekey "peer child rekey" childPeerTS
    (childRekeyPayloads oneProposal) ⟨none, [], [], [], []⟩ =
      .ok ⟨some oneProposal, List.replicate 32 1, [], [2], [1]⟩ := by
  decide +kernel

theorem request_twoProposals : collectPeerRekey "peer child rekey" childPeerTS
    (childRekeyPayloads twoProposals) ⟨none, [], [], [], []⟩ =
      .ok ⟨some twoProposals, List.replicate 32 1, [], [2], [1]⟩ := by
  decide +kernel

theorem sample_child_choice : ∃ x : ChildAnswer,
    AcceptsChild sampleConfig 1 sampleStart.actor (afterChildRekey oneProposal).2 x ∧
      ∃ prop, x.FromOne prop := by
  obtain ⟨n, hrefused⟩ | ⟨x, hreq, hx, hfits, -⟩ :=
    peer_child_choice (run_afterChildRekey oneProposal (by decide +kernel))
  · exact absurd hrefused.1 (by decide +kernel)
  have hrequest := Except.ok.inj (hreq.read.symm.trans request_oneProposal)
  have hsa : x.sa = oneProposal := by
    have h := hreq.sa
    rw [hrequest] at h
    exact (Option.some.inj h).symm
  refine ⟨x, hx, hfits fun prop hfirst => ?_⟩
  have hmem := hfirst.mem
  rw [hsa] at hmem ⊢
  obtain rfl := List.mem_singleton.mp hmem
  exact ⟨fun hke => absurd (congrArg PeerRekey.ke hrequest) hke, rfl⟩

/-- The first proposal is passed over, and the new child sends to its SPI all the same. -/
theorem spi_of_other_proposal : ∃ x : ChildAnswer,
    RequestsChild sampleStart.actor (childRekeyPayloads twoProposals) x ∧
    AcceptsChild sampleConfig 1 sampleStart.actor (afterChildRekey twoProposals).2 x ∧
      ¬∃ prop, x.FromOne prop := by
  obtain ⟨n, -, hrefused⟩ | ⟨x, hreq, hx, -⟩ :=
    processPeerChildRekey_ok (run_afterChildRekey twoProposals (by decide +kernel))
  · exact absurd hrefused.1 (by decide +kernel)
  have hrequest := Except.ok.inj (hreq.read.symm.trans request_twoProposals)
  have hsa : x.sa = twoProposals := by
    have h := hreq.sa
    rw [hrequest] at h
    exact (Option.some.inj h).symm
  refine ⟨x, hreq, hx, ?_⟩
  rintro ⟨prop, hmem, ⟨q, hq, hchosen, -⟩, hspi⟩
  have hnum : q.num = 2 := by
    have hselect := hx.select
    rw [hsa, hrequest, hq] at hselect
    have hnums : (selectPeerESPProposal sampleConfig twoProposals x.responseSPI false).toOption.map
        (fun r => r.1.proposals.map Payload.Proposal.num) = some [2] := rfl
    rw [show decide (List.length ([] : Bytes) > 0) = false from rfl] at hselect
    rw [hselect] at hnums
    exact List.singleton_inj.mp (Option.some.inj hnums)
  rw [hchosen.num] at hnum
  have hspi : prop.spi = putUint32 (selectedPeerOutboundSPI x.sa) := hspi
  rw [hsa] at hmem hspi
  rcases List.mem_cons.mp hmem with rfl | hmem
  · exact absurd hnum (by decide)
  · obtain rfl := List.mem_singleton.mp hmem
    exact absurd hspi (by decide)

end Sample

end Swan.Control
