import Swan.Control.Handlers

/-! # Rekey requests of the peer

What each handler of a rekey request can do, said once for all that is proved about them: which
requests pass the checks, which of them meet an own rekey, and how a request ends that is accepted
(`PeerChildEnds`, `PeerIKEEnds`). -/

namespace Swan.Control

open Swan.Lib Swan.Wire Swan.Payload Swan.Xcrypto

/-! ### The checks of a child rekey -/

/-- The checks that a child rekey request has passed when a collision with an own rekey is looked
for. -/
structure PassesChecks (s : State) (inner : List Payload) (old : ChildSA) (n : Notify) (sa : SA)
    (p : PeerRekey) : Prop where
  notify : findRekeyNotify inner = .ok (some n)
  named : n.protocolID = deleteProtocolESP ∧ n.spi.length = 4
  active : s.activeChild = some old
  target : beUint32 n.spi = old.outboundSPI ∨ beUint32 n.spi = old.inboundSPI
  read : collectPeerRekey "peer child rekey" childPeerTS inner ⟨none, [], [], [], []⟩ = .ok p
  sa : p.sa = some sa
  complete : p.tsi.length ≠ 0 ∧ p.tsr.length ≠ 0 ∧ p.ni.length ≠ 0
  selectors : p.tsi = old.tsr ∧ p.tsr = old.tsi

/-- A child rekey that has an answer: it names no child of this end, or it passes the checks. -/
def SupportedChildRekey (s : State) (inner : List Payload) : Prop :=
  ∃ n, findRekeyNotify inner = .ok (some n) ∧ n.protocolID = deleteProtocolESP ∧ n.spi.length = 4 ∧
    ∀ old, s.activeChild = some old →
      beUint32 n.spi = old.outboundSPI ∨ beUint32 n.spi = old.inboundSPI →
      ∃ p sa, collectPeerRekey "peer child rekey" childPeerTS inner ⟨none, [], [], [], []⟩ = .ok p ∧
        p.sa = some sa ∧ p.ni ≠ [] ∧ p.tsi ≠ [] ∧ p.tsr ≠ [] ∧ p.tsi = old.tsr ∧ p.tsr = old.tsi

theorem PassesChecks.supported {s : State} {inner : List Payload} {old : ChildSA} {n : Notify}
    {sa : SA} {p : PeerRekey} (h : PassesChecks s inner old n sa p) :
    SupportedChildRekey s inner := by
  refine ⟨n, h.notify, h.named.1, h.named.2, fun old' hold' _ => ⟨p, sa, h.read, h.sa, ?_⟩⟩
  obtain rfl := Option.some.inj (h.active.symm.trans hold')
  obtain ⟨htsi, htsr, hni⟩ := h.complete
  exact ⟨List.ne_nil_of_length_pos (by omega), List.ne_nil_of_length_pos (by omega),
    List.ne_nil_of_length_pos (by omega), h.selectors⟩

section Checks

variable [Crypto] {a : Running} {msgID : UInt32} {inner : List Payload} (cfg : Config) (now : Time)

theorem PassesChecks.run {old : ChildSA} {n : Notify} {sa : SA} {p : PeerRekey}
    (h : PassesChecks a.state inner old n sa p) :
    (processPeerChildRekey cfg now msgID inner).run a =
      (resolvePeerChildRekey cfg now msgID old (beUint32 n.spi) sa p).run a := by
  have hactive : a.state.activeChild.filter (fun old =>
      beUint32 n.spi = old.outboundSPI ∨ beUint32 n.spi = old.inboundSPI) = some old := by
    simp [h.active, h.target]
  have hsa : p.sa.filter (fun _ => p.tsi.length ≠ 0 ∧ p.tsr.length ≠ 0 ∧ p.ni.length ≠ 0) =
      some sa := by
    rw [h.sa, Option.filter_some, if_pos (decide_eq_true h.complete)]
  rw [processPeerChildRekey, Eff.run_bind_of_ok (Eff.run_get a), h.notify,
    Eff.run_bind_of_ok (Eff.run_lift _ _)]
  dsimp only
  rw [if_neg (not_or.mpr ⟨not_not.mpr h.named.1, not_not.mpr h.named.2⟩), hactive]
  dsimp only
  rw [h.read, Eff.run_bind_of_ok (Eff.run_lift _ _), hsa]
  exact congrArg (Eff.run · a)
    (if_neg (not_or.mpr ⟨not_not.mpr h.selectors.1, not_not.mpr h.selectors.2⟩))

/-- How a child rekey request fares: it fails at a check, it names no child of this end, or it passes
the checks and goes on to the collisions. -/
inductive ChecksChild (cfg : Config) (now : Time) (msgID : UInt32) (inner : List Payload)
    (a : Running) : Prop
  | fails (e : Err) (hno : ¬SupportedChildRekey a.state inner)
      (hrun : (processPeerChildRekey cfg now msgID inner).run a = (.error e, a))
  | unknown (n : Notify) (hsup : SupportedChildRekey a.state inner)
      (hrun : (processPeerChildRekey cfg now msgID inner).run a = (respondNotify cfg msgID
        (espNotify (beUint32 n.spi) NotifyType.childSANotFound)).run a)
  | passes {old : ChildSA} {n : Notify} {sa : SA} {p : PeerRekey}
      (h : PassesChecks a.state inner old n sa p)

/-- A request without an answer fails at one of the checks. -/
theorem exists_error_of_not_supported (hno : ¬SupportedChildRekey a.state inner) :
    ∃ e, (processPeerChildRekey cfg now msgID inner).run a = (.error e, a) := by
  rw [processPeerChildRekey, Eff.run_bind_of_ok (Eff.run_get a)]
  rcases hn : findRekeyNotify inner with e | _ | n
  · exact ⟨e, rfl⟩
  · exact ⟨_, rfl⟩
  rw [Eff.run_bind_of_ok (Eff.run_lift _ _)]
  dsimp only
  split
  · exact ⟨_, rfl⟩
  next hnamed =>
  simp only [not_or, not_not] at hnamed
  split
  next hnone =>
    refine absurd ⟨n, hn, hnamed.1, hnamed.2, fun old hold htarget => ?_⟩ hno
    rw [hold, Option.filter_some, if_pos (decide_eq_true htarget)] at hnone
    cases hnone
  next old hold =>
  obtain ⟨hold, htarget⟩ := Option.filter_eq_some_iff.mp hold
  rcases hp : collectPeerRekey "peer child rekey" childPeerTS inner ⟨none, [], [], [], []⟩ with e | p
  · exact ⟨e, rfl⟩
  rw [Eff.run_bind_of_ok (Eff.run_lift _ _)]
  split
  · exact ⟨_, rfl⟩
  next sa hsa =>
  obtain ⟨hsa, hcomplete⟩ := Option.filter_eq_some_iff.mp hsa
  split
  · exact ⟨_, rfl⟩
  next hts =>
  simp only [not_or, not_not] at hts
  have hpasses : PassesChecks a.state inner old n sa p :=
    ⟨hn, hnamed, hold, of_decide_eq_true htarget, hp, hsa, of_decide_eq_true hcomplete, hts⟩
  exact absurd hpasses.supported hno

theorem checksChild (msgID : UInt32) (inner : List Payload) (a : Running) :
    ChecksChild cfg now msgID inner a := by
  by_cases hsup : SupportedChildRekey a.state inner
  swap
  · obtain ⟨e, hrun⟩ := exists_error_of_not_supported cfg now hsup
    exact .fails e hsup hrun
  obtain ⟨n, hn, hesp, hspi, hall⟩ := hsup
  rcases hfind : a.state.activeChild.filter (fun old =>
      beUint32 n.spi = old.outboundSPI ∨ beUint32 n.spi = old.inboundSPI) with _ | old
  · refine .unknown n ⟨n, hn, hesp, hspi, hall⟩ ?_
    rw [processPeerChildRekey, Eff.run_bind_of_ok (Eff.run_get a), hn,
      Eff.run_bind_of_ok (Eff.run_lift _ _)]
    dsimp only
    rw [if_neg (not_or.mpr ⟨not_not.mpr hesp, not_not.mpr hspi⟩), hfind]
  · obtain ⟨hold, htarget⟩ := Option.filter_eq_some_iff.mp hfind
    obtain ⟨p, sa, hp, hsa, hni, htsi, htsr, hts⟩ := hall old hold (of_decide_eq_true htarget)
    exact .passes ⟨hn, ⟨hesp, hspi⟩, hold, of_decide_eq_true htarget, hp, hsa,
      by simp [htsi, htsr, hni], hts⟩

end Checks

/-! ### Collisions -/

/-- Whether a request of the peer wins against the child rekey in flight. -/
def LosesChild (s : State) (inner : List Payload) : Prop :=
  ∃ rc p, s.rekey = some rc ∧ rc.kind = .child ∧
    collectPeerRekey "peer child rekey" childPeerTS inner ⟨none, [], [], [], []⟩ = .ok p ∧
    decideNonceCollision rc.ni p.ni = .weLose

/-- Whether a request of the peer wins against the IKE rekey in flight. -/
def LosesIKE (s : State) (inner : List Payload) : Prop :=
  ∃ rc ni, s.rekey = some rc ∧ rc.kind = .ike ∧ firstInnerNonce inner = some ni ∧
    decideNonceCollision rc.ni ni = .weLose

section Collisions

variable [Crypto] {a : Running} {msgID : UInt32} {inner : List Payload} (cfg : Config) (now : Time)

theorem run_resolvePeerChildRekey {old : ChildSA} {sa : SA} {p : PeerRekey} {rc : RekeyContext}
    (targetSPI : UInt32) (hrekey : a.state.rekey = some rc) (hkind : rc.kind = .child) :
    (resolvePeerChildRekey cfg now msgID old targetSPI sa p).run a =
      (if decideNonceCollision rc.ni p.ni = .weLose then
        abandonRekey cfg now false >>= fun _ => acceptPeerChildRekey cfg now msgID old targetSPI sa p
      else sendCreateChildTemporaryFailure cfg msgID).run a := by
  have hown : a.state.rekey.filter (fun rc => rc.kind = .child) = some rc := by simp [hrekey, hkind]
  rw [resolvePeerChildRekey, Eff.run_bind_of_ok (Eff.run_get a), hown]
  dsimp only
  cases decideNonceCollision rc.ni p.ni <;> rfl

theorem run_processPeerIKERekey {rc : RekeyContext} {ni : Bytes} (hrekey : a.state.rekey = some rc)
    (hkind : rc.kind = .ike) (hni : firstInnerNonce inner = some ni) :
    (processPeerIKERekey cfg now msgID inner).run a =
      (if decideNonceCollision rc.ni ni = .weLose then
        abandonRekey cfg now false >>= fun _ => acceptPeerIKERekey cfg now msgID inner
      else sendCreateChildTemporaryFailure cfg msgID).run a := by
  rw [processPeerIKERekey, Eff.run_bind_of_ok (Eff.run_get a), hrekey]
  dsimp only
  rw [if_pos hkind, hni]
  dsimp only
  cases decideNonceCollision rc.ni ni <;> rfl

/-- What becomes of an IKE rekey request: it is refused because of another rekey or of the retained
IKE SA, the own rekey gives way to it, or it is taken up at once. -/
inductive ResolvesIKE (cfg : Config) (now : Time) (msgID : UInt32) (inner : List Payload)
    (a : Running) : Prop
  | refuses (h : a.state.rekey.isSome ∧ ¬LosesIKE a.state inner ∨
        a.state.rekey = none ∧ a.state.oldIKE ≠ [])
      (hrun : (processPeerIKERekey cfg now msgID inner).run a =
        (sendCreateChildTemporaryFailure cfg msgID).run a)
  | yields (h : LosesIKE a.state inner)
      (hrun : (processPeerIKERekey cfg now msgID inner).run a =
        (acceptPeerIKERekey cfg now msgID inner).run (a.noted.mapState State.abandonRekey))
  | accepts (hrekey : a.state.rekey = none) (hold : a.state.oldIKE = [])
      (hrun : (processPeerIKERekey cfg now msgID inner).run a =
        (acceptPeerIKERekey cfg now msgID inner).run a)

theorem resolvesIKE (msgID : UInt32) (inner : List Payload) (a : Running) :
    ResolvesIKE cfg now msgID inner a := by
  have hget : (processPeerIKERekey cfg now msgID inner).run a = _ :=
    Eff.run_bind_of_ok (Eff.run_get a)
  rcases hrekey : a.state.rekey with _ | rc
  · rw [hrekey] at hget
    by_cases hold : a.state.oldIKE.length > 0
    · exact .refuses (.inr ⟨hrekey, List.ne_nil_of_length_pos hold⟩)
        (hget.trans (congrArg (Eff.run · a) (if_pos hold)))
    · exact .accepts hrekey (List.eq_nil_of_length_eq_zero (by omega))
        (hget.trans (congrArg (Eff.run · a) (if_neg hold)))
  have hsome : a.state.rekey.isSome := by rw [hrekey]; rfl
  by_cases hkind : rc.kind = .ike
  swap
  · refine .refuses (.inl ⟨hsome, ?_⟩) ?_
    · rintro ⟨rc', ni, hrc', hkind', -⟩
      obtain rfl := Option.some.inj (hrekey.symm.trans hrc')
      exact hkind hkind'
    · rw [hget, hrekey]
      exact congrArg (Eff.run · a) (if_neg hkind)
  rcases hni : firstInnerNonce inner with _ | ni
  · refine .refuses (.inl ⟨hsome, ?_⟩) ?_
    · rintro ⟨rc', ni, -, -, hni', -⟩
      rw [hni] at hni'
      cases hni'
    · rw [hget, hrekey]
      dsimp only
      rw [if_pos hkind, hni]
  have hrun : (processPeerIKERekey cfg now msgID inner).run a = _ :=
    run_processPeerIKERekey cfg now hrekey hkind hni
  by_cases hlose : decideNonceCollision rc.ni ni = .weLose
  · rw [if_pos hlose, Eff.run_bind_of_ok (run_abandonRekey_false cfg now a)] at hrun
    exact .yields ⟨rc, ni, hrekey, hkind, hni, hlose⟩ hrun
  · rw [if_neg hlose] at hrun
    refine .refuses (.inl ⟨hsome, ?_⟩) hrun
    rintro ⟨rc', ni', hrc', -, hni', hlose'⟩
    obtain rfl := Option.some.inj (hrekey.symm.trans hrc')
    obtain rfl := Option.some.inj (hni.symm.trans hni')
    exact hlose hlose'

end Collisions

/-! ### Requests that are accepted -/

/-- How the acceptance of a child rekey ends: before the state changes, with a refusal, with an update
that is not acknowledged, or with the new child in place, for which the answer is sent. -/
inductive PeerChildEnds [Crypto] (cfg : Config) (msgID : UInt32) (old : ChildSA)
    (targetSPI : UInt32) (a : Running) (r : Except Err Unit) (a' : Running) : Prop
  | failed (h : Calm a a')
  | refused (b : Running) (hb : Quiet a b) (hrun : (respondNotify cfg msgID
      (espNotify targetSPI NotifyType.noProposalChosen)).run b = (r, a'))
  | unacked (b : Running) (child : ChildSA) (keys : ChildKeys) (selection : Selection)
      (hb : Quiet a b) (hack : b.world.ack 0 ≠ .acked)
      (h : Quiet (b.logged (.update (.childInstalled child keys selection))) a')
  | installed (b b' : Running) (child : ChildSA) (keys : ChildKeys) (selection : Selection)
      (t : Time) (frames : List Frame) (sa : ℕ) (hb : Quiet a b)
      (h : Quiet (b.childInstalled child keys selection t
        (State.installPeerChild old child selection)) b')
      (hrun : (sendFrames sa .response msgID frames >>= fun _ =>
        rememberResponse msgID frames).run b' = (r, a'))

/-- How the acceptance of an IKE rekey ends: before the state changes, with a refusal, or, once the
answer is on its way under the old keys, with the new IKE SA in place. -/
inductive PeerIKEEnds [Crypto] (cfg : Config) (msgID : UInt32) (a : Running) (r : Except Err Unit)
    (a' : Running) : Prop
  | failed (h : Calm a a')
  | refused (b : Running) (hb : Quiet a b) (hrun : (respondNotify cfg msgID
      (plainNotify NotifyType.noProposalChosen)).run b = (r, a'))
  | installed (b b₁ b₂ : Running) (spiI spiR : UInt64) (ni nr : Bytes) (keys : IKEKeys)
      (selection : Selection) (t : Time) (frames : List Frame) (sa : ℕ) (hb : Quiet a b)
      (hsent : (sendFrames sa .response msgID frames).run b = (.ok (), b₁))
      (h : Quiet (b₁.ikeInstalled t (State.installIKE spiI spiR false ni nr keys selection)) b₂)
      (hr : r = .ok ()) (ha' : a' = b₂.mapState (State.mapOldIKE (OldIKEContext.remember msgID frames)))

section Accepted

variable [Crypto] {a : Running} {msgID : UInt32} (cfg : Config) (now : Time)

theorem quiet_answerKE (peerKE : Bytes) : (answerKE peerKE).Within Quiet :=
  .ite ((quiet_onRng drawn_generateRekeyDH).bind fun _ => (Eff.within_lift _).bind fun _ =>
    Eff.within_pure _) (Eff.within_pure _)

omit [Crypto] in
theorem calm_of_sendFrames {sa : ℕ} {frames : List Frame} {r : Except Err Unit} {a' : Running}
    (h : (sendFrames sa .response msgID frames).run a = (r, a')) : Calm a a' := by
  have hcalm : Calm a ((sendFrames sa .response msgID frames).run a).2 :=
    calm_sendFrames (by decide) msgID frames a
  rwa [h] at hcalm

theorem wp_acceptPeerChildRekey (old : ChildSA) (targetSPI : UInt32) (sa : SA) (p : PeerRekey) :
    (acceptPeerChildRekey cfg now msgID old targetSPI sa p).wp
      (PeerChildEnds cfg msgID old targetSPI a) a := by
  have herr : ∀ (e : Err) a', Quiet a a' → PeerChildEnds cfg msgID old targetSPI a (.error e) a' :=
    fun _ _ h => .failed h.calm
  refine Eff.wp_within_bind (refl_of Quiet a) (quiet_onRng drawn_generateChildSPI) herr
    fun responseSPI a₁ h₁ => ?_
  refine Eff.wp_within_bind h₁ (Eff.within_lift _).attempt herr fun chosen a₂ h₂ => ?_
  rcases chosen with _ | ⟨selected, selection⟩
  · exact .refused a₂ h₂ rfl
  refine Eff.wp_within_bind h₂ (quiet_onRng (drawn_generateNonce 32)) herr fun ourNr a₃ h₃ => ?_
  refine Eff.wp_within_bind h₃ (quiet_answerKE _) herr fun kes a₄ h₄ => ?_
  obtain ⟨ke, shared⟩ := kes
  refine Eff.wp_within_bind h₄ (Eff.within_lift _) herr fun saBody a₅ h₅ => ?_
  refine Eff.wp_within_bind h₅ (quiet_sealCurrent _ _ _ _ _ _) herr fun frames a₆ h₆ => ?_
  refine Eff.wp_within_bind h₆ Eff.within_get herr fun r a₇ h₇ => ?_
  rcases r.state.ikeKeys with _ | ikeKeys
  · exact herr _ _ h₇
  refine Eff.wp_within_bind h₇ (Eff.within_lift _) herr fun keys b hb => ?_
  rw [Eff.wp_bind]
  refine Eff.wp_mono (wp_installChild cfg _ keys selection b) fun res b₁ hb₁ => ?_
  cases res with
  | error e =>
    rcases hb₁.2 e rfl with h | ⟨hnack, h⟩
    · exact herr e _ (trans_of Quiet hb h)
    · exact .unacked b _ keys selection hb hnack h
  | ok _ =>
    obtain ⟨t, b₂, hrun, hq⟩ := run_resetChildSoft cfg now (State.installPeerChild old
      ⟨responseSPI, selectedPeerOutboundSPI sa, p.tsr, p.tsi, false⟩ selection) (hb₁.1 rfl)
    rw [Eff.next_ok]
    refine Eff.wp_of_run_eq (Eff.run_bind_of_ok (run_modifyState _ _)) ?_
    exact Eff.wp_of_run_eq (Eff.run_bind_of_ok hrun) (.installed b b₂ _ keys selection t frames r.sa
      hb hq rfl)

theorem wp_acceptPeerIKERekey (inner : List Payload) :
    (acceptPeerIKERekey cfg now msgID inner).wp (PeerIKEEnds cfg msgID a) a := by
  have herr : ∀ (e : Err) a', Quiet a a' → PeerIKEEnds cfg msgID a (.error e) a' :=
    fun _ _ h => .failed h.calm
  refine Eff.wp_within_bind (refl_of Quiet a) (Eff.within_lift _) herr fun p a₁ h₁ => ?_
  split
  · exact herr _ _ h₁
  refine Eff.wp_within_bind h₁ (quiet_onRng drawn_generateSPI) herr fun spiR a₂ h₂ => ?_
  refine Eff.wp_within_bind h₂ (Eff.within_lift _).attempt herr fun chosen a₃ h₃ => ?_
  rcases chosen with _ | ⟨selected, selection, spiI⟩
  · exact .refused a₃ h₃ rfl
  refine Eff.wp_within_bind h₃ (quiet_onRng (drawn_generateNonce 32)) herr fun ourNr a₄ h₄ => ?_
  refine Eff.wp_within_bind h₄ (quiet_onRng drawn_generateRekeyDH) herr fun kes a₅ h₅ => ?_
  refine Eff.wp_within_bind h₅ (Eff.within_lift _) herr fun shared a₆ h₆ => ?_
  refine Eff.wp_within_bind h₆ (Eff.within_lift _) herr fun saBody a₇ h₇ => ?_
  refine Eff.wp_within_bind h₇ (quiet_sealCurrent _ _ _ _ _ _) herr fun frames a₈ h₈ => ?_
  refine Eff.wp_within_bind h₈ Eff.within_get herr fun r a₉ h₉ => ?_
  split
  swap
  · exact herr _ _ h₉
  refine Eff.wp_within_bind h₉ (Eff.within_lift _) herr fun keys b hb => ?_
  rcases hsent : (sendFrames r.sa .response msgID frames).run b with ⟨e | _, b₁⟩
  · exact Eff.wp_of_run_eq (Eff.run_bind_of_error hsent)
      (.failed (trans_of Calm hb.calm (calm_of_sendFrames hsent)))
  obtain ⟨t, b₂, hq, hrun⟩ := run_installIKE_bind (k := fun _ => modifyState
    (State.mapOldIKE (OldIKEContext.remember msgID frames))) cfg now spiI spiR false p.ni ourNr keys
    selection (refl_of Quiet b₁)
  exact Eff.wp_of_run_eq ((Eff.run_bind_of_ok hsent).trans hrun) (.installed b b₁ b₂ spiI spiR p.ni
    ourNr keys selection t frames r.sa hb hsent hq rfl rfl)

end Accepted

end Swan.Control
