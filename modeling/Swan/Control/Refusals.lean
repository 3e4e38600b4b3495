import Swan.Control.Routing

/-! # Peer rekeys that are not accepted

A peer rekey ends with an error, with an error notify for an answer, or with the new SA in place.
`Untraced` compares the actor before and after: only the stored responses may have grown, by one.
A request that is not accepted is untraced exactly if the own rekey was not given up for it
(`rejected_peer_rekey_untraced`). One that wins against an own rekey drops it first, and its proposals
are looked at afterwards (`refused_after_abandon`). -/

namespace Swan.Control

open Swan.Lib Swan.Wire Swan.Payload Swan.Xcrypto

/-! ### What a refusal leaves behind -/

/-- The note that the request `msgID` was answered with an error notify. -/
def Entry.refuses (msgID : UInt32) : Entry → Bool
  | .refused msgID' _ => decide (msgID' = msgID)
  | _ => false

/-- The request `msgID` was answered with an error notify in between. -/
def Refuses (msgID : UInt32) (a a' : Running) : Prop :=
  ∃ e ∈ a'.world.log.drop a.world.log.length, e.refuses msgID = true

instance (msgID : UInt32) (a a' : Running) : Decidable (Refuses msgID a a') :=
  inferInstanceAs (Decidable (∃ e ∈ _, _))

/-- A run of a handler failed, or has answered the request `msgID` with an error notify. -/
def Rejects (msgID : UInt32) (a : Running) (x : Except Err Unit × Running) : Prop :=
  (∃ e, x.1 = .error e) ∨ Refuses msgID a x.2

/-- No request was answered with an error notify in between. -/
def Unrefused (a a' : Running) : Prop :=
  ∃ es, a'.world.log = a.world.log ++ es ∧ ∀ msgID, ∀ e ∈ es, e.refuses msgID = false

/-- The two actors differ in their worlds and in the stored responses only: by one response to the
request `msgID`, or by none. -/
structure Untraced (msgID : UInt32) (a a' : Running) : Prop where
  actor : a' = { a with state := a'.state, world := a'.world }
  state : a'.state = a.state ∨ ∃ frames, a'.state = a.state.rememberResponse msgID frames

instance : Std.Refl Unrefused := ⟨fun _ => ⟨[], by simp⟩⟩

instance : IsTrans Running Unrefused := ⟨fun a a₁ a₂ ⟨es₁, h₁, hn₁⟩ ⟨es₂, h₂, hn₂⟩ =>
  ⟨es₁ ++ es₂, by rw [h₂, h₁, List.append_assoc], fun msgID e he =>
    (List.mem_append.mp he).elim (hn₁ msgID e) (hn₂ msgID e)⟩⟩

section Relations

variable {msgID : UInt32} {a a' : Running}

theorem Unrefused.not_refuses (h : Unrefused a a') : ¬Refuses msgID a a' := by
  obtain ⟨es, hes, hno⟩ := h
  rintro ⟨e, he, href⟩
  rw [hes, List.drop_left] at he
  rw [hno msgID e he] at href
  cases href

theorem Quiet.unrefused (h : Quiet a a') : Unrefused a a' := ⟨[], by simp [h.draws.log]⟩

theorem unrefused_logged {e : Entry} (he : ∀ msgID, e.refuses msgID = false) :
    Unrefused a (a.logged e) :=
  ⟨[e], rfl, fun msgID e' he' => by rw [List.mem_singleton.mp he']; exact he msgID⟩

theorem Calm.untraced (h : Calm a a') : Untraced msgID a a' :=
  ⟨by rw [h.world], .inl h.state⟩

theorem unrefused_sendFrames (sa : ℕ) (purpose : Purpose) (msgID : UInt32) (frames : List Frame) :
    (sendFrames sa purpose msgID frames).Within Unrefused := by
  refine Eff.Within.forEach (fun f => Eff.Within.bind ?_ fun canceled => ?_) frames
  · exact quiet_drawCancel.mono fun _ _ h => h.unrefused
  · exact Eff.Within.ite (Eff.within_fail _) fun _ => unrefused_logged fun _ => rfl

end Relations

/-! ### The handlers -/

/-- No rekey begins. -/
def StaysIdle (a a' : Running) : Prop := a.state.rekey = none → a'.state.rekey = none

/-- How the handling of a peer rekey ends: without a trace, or with an acceptance. -/
def RekeyEnds (msgID : UInt32) (a : Running) (r : Except Err Unit) (a' : Running) : Prop :=
  Untraced msgID a a' ∨ r = .ok () ∧ Unrefused a a'

/-- The own child rekey is given up for a request of the peer. -/
def YieldsChild (s : State) (inner : List Payload) : Prop :=
  ∃ old n sa p rc, PassesChecks s inner old n sa p ∧ s.rekey = some rc ∧ rc.kind = .child ∧
    decideNonceCollision rc.ni p.ni = .weLose

theorem Untraced.rekey {msgID : UInt32} {a a' : Running} (h : Untraced msgID a a') :
    a'.state.rekey = a.state.rekey := by
  rcases h.state with h | ⟨frames, h⟩ <;> rw [h]
  rfl

section Handlers

variable [Crypto] {a : Running} {msgID : UInt32} {old : ChildSA} {inner : List Payload}
  {p : PeerRekey} {sa : SA} (cfg : Config) (now : Time)

theorem untraced_respond {a₀ : Running} (h₀ : Calm a₀ a) (sealCfg : Option Config)
    (exchange : ExchangeType) (nextPayload : PayloadType) (plaintext : Bytes) :
    (respond sealCfg exchange msgID nextPayload plaintext).wp (fun _ a' => Untraced msgID a₀ a')
      a := by
  have herr : ∀ (e : Err) a', Calm a₀ a' → Untraced msgID a₀ a' := fun _ _ h => h.untraced
  refine Eff.wp_within_bind h₀ (calm_of_quiet (quiet_sealCurrent _ _ _ _ _ _)) herr
    fun frames a₁ h₁ => ?_
  refine Eff.wp_within_bind h₁ Eff.within_get herr fun r a₂ h₂ => ?_
  refine Eff.wp_within_bind h₂ (calm_sendFrames (by decide) _ _) herr fun _ a₃ h₃ => ?_
  refine ⟨?_, .inr ⟨frames, ?_⟩⟩
  · show a₃.mapState _ = _
    rw [h₃.world]
    rfl
  · show a₃.state.rememberResponse msgID frames = _
    rw [h₃.state]

theorem untraced_respondNotify {a₀ : Running} (h₀ : Calm a₀ a) (n : Notify) :
    (respondNotify cfg msgID n).wp (fun _ a' => Untraced msgID a₀ a') a := by
  refine Eff.wp_within_bind h₀ (Eff.within_lift _) (fun _ _ h => h.untraced) fun body a₁ h₁ => ?_
  rw [Eff.wp_bind]
  refine Eff.wp_mono (untraced_respond h₁ _ _ _ _) fun r a₂ h₂ => ?_
  cases r with
  | error e => exact h₂
  | ok _ => exact ⟨congrArg (Running.logged (.refused msgID n.type)) h₂.actor, h₂.state⟩

theorem ends_acceptPeerChildRekey (targetSPI : UInt32)
    (hc : ∀ k, a.world.cancel k = false) :
    (acceptPeerChildRekey cfg now msgID old targetSPI sa p).wp (RekeyEnds msgID a) a := by
  refine Eff.wp_mono (wp_acceptPeerChildRekey cfg now old targetSPI sa p) fun r a' h => ?_
  rcases h with h | ⟨b, hb, hrun⟩ | ⟨b, child, keys, selection, hb, -, h⟩ |
    ⟨b, b₂, child, keys, selection, t, frames, sa', hb, hq, hrun⟩
  · exact .inl h.untraced
  · exact .inl (Eff.wp_of_run (untraced_respondNotify cfg hb.calm _) hrun)
  · -- the update is on the channel, the state is as before
    exact .inl ⟨by rw [h.world, hb.world]; rfl, .inl (by rw [h.world, hb.world]; rfl)⟩
  · have hcancel : ∀ k, b₂.world.cancel k = false := Shifted.forall (P := (· = false))
      hq.draws.cancel (Shifted.forall (P := (· = false)) hb.draws.cancel hc)
    have hinstalled : Unrefused b (b.childInstalled child keys selection t
        (State.installPeerChild old child selection)) := unrefused_logged fun _ => rfl
    have hb₂ : Unrefused a b₂ :=
      trans_of Unrefused hb.unrefused (trans_of Unrefused hinstalled hq.unrefused)
    have hsent := unrefused_sendFrames sa' .response msgID frames b₂
    rw [run_sendFrames _ _ _ frames hcancel] at hsent
    rw [Eff.run_bind_of_ok (run_sendFrames _ _ _ frames hcancel)] at hrun
    obtain ⟨rfl, rfl⟩ := Prod.mk.inj hrun
    exact .inr ⟨rfl, trans_of Unrefused hb₂ hsent⟩

theorem ends_processPeerChildRekey (hyield : ¬YieldsChild a.state inner)
    (hc : ∀ k, a.world.cancel k = false) :
    (processPeerChildRekey cfg now msgID inner).wp (RekeyEnds msgID a) a := by
  have hrefuse : ∀ n, (respondNotify cfg msgID n).wp (RekeyEnds msgID a) a := fun n =>
    Eff.wp_mono (untraced_respondNotify cfg (refl_of Calm a) n) fun _ _ h => .inl h
  rcases checksChild cfg now msgID inner a with ⟨e, -, hrun⟩ | ⟨n, -, hrun⟩ | h
  · exact Eff.wp_of_run_eq hrun (.inl (refl_of Calm a).untraced)
  · exact Eff.wp_of_run_eq hrun (hrefuse _)
  refine Eff.wp_of_run_eq (h.run cfg now) ?_
  unfold resolvePeerChildRekey
  rw [Eff.wp_bind, Eff.wp_get, Eff.next_ok]
  split
  · exact ends_acceptPeerChildRekey cfg now _ hc
  next rc hrc =>
  obtain ⟨hrc, hkind⟩ := Option.filter_eq_some_iff.mp hrc
  split
  next hwins => exact absurd ⟨_, _, _, _, rc, h, hrc, of_decide_eq_true hkind, hwins⟩ hyield
  · exact hrefuse _

theorem ends_acceptPeerIKERekey :
    (acceptPeerIKERekey cfg now msgID inner).wp (RekeyEnds msgID a) a := by
  refine Eff.wp_mono (wp_acceptPeerIKERekey cfg now inner) fun r a' h => ?_
  rcases h with h | ⟨b, hb, hrun⟩ | ⟨b, b₁, b₂, spiI, spiR, ni, nr, keys, selection, t,
    frames, sa, hb, hsent, hq, rfl, rfl⟩
  · exact .inl h.untraced
  · exact .inl (Eff.wp_of_run (untraced_respondNotify cfg hb.calm _) hrun)
  · have hun := unrefused_sendFrames sa .response msgID frames b
    rw [hsent] at hun
    have hb₂ : Unrefused b₁ b₂ := hq.unrefused
    exact .inr ⟨rfl, trans_of Unrefused (trans_of Unrefused hb.unrefused hun) hb₂⟩

theorem ends_processPeerIKERekey (hlose : ¬LosesIKE a.state inner) :
    (processPeerIKERekey cfg now msgID inner).wp (RekeyEnds msgID a) a := by
  rcases resolvesIKE cfg now msgID inner a with ⟨-, hrun⟩ | ⟨h, -⟩ | ⟨-, -, hrun⟩
  · exact Eff.wp_of_run_eq hrun (Eff.wp_mono (untraced_respondNotify cfg (refl_of Calm a) _)
      fun _ _ h => .inl h)
  · exact absurd h hlose
  · exact Eff.wp_of_run_eq hrun (ends_acceptPeerIKERekey cfg now)

omit [Crypto] in
theorem untraced_of_rejects {x : Eff Running Unit} (h : x.wp (RekeyEnds msgID a) a)
    (hrej : Rejects msgID a (x.run a)) : Untraced msgID a (x.run a).2 := by
  rcases h with h | ⟨hok, hun⟩
  · exact h
  rcases hrej with ⟨e, he⟩ | hr
  · rw [hok] at he
    cases he
  · exact absurd hr hun.not_refuses

/-! ### A collision that the peer wins -/

variable {cfg} in
theorem PeerChildEnds.staysIdle {targetSPI : UInt32} {r : Except Err Unit} {a' : Running}
    (h : PeerChildEnds cfg msgID old targetSPI a r a') : StaysIdle a a' := by
  intro hnone
  rcases h with h | ⟨b, hb, hrun⟩ | ⟨b, child, keys, selection, hb, -, h⟩ |
    ⟨b, b', child, keys, selection, t, frames, sa, hb, hq, hrun⟩
  · rw [h.state, hnone]
  · exact (Eff.wp_of_run (untraced_respondNotify cfg hb.calm _) hrun).rekey.trans hnone
  · rw [h.world, hb.world]
    exact hnone
  · have hsent : (sendFrames sa .response msgID frames >>= fun _ => rememberResponse msgID frames).wp
        (fun _ a' => a'.state.rekey = b'.state.rekey) b' :=
      Eff.wp_within_bind (refl_of Calm b') (calm_sendFrames (by decide) msgID frames)
        (fun _ _ h => by rw [h.state]) fun _ a' h => (congrArg State.rekey h.state : a'.state.rekey = _)
    rw [Eff.wp_of_run hsent hrun, hq.world, hb.world]
    exact hnone

variable {cfg} in
theorem PeerIKEEnds.staysIdle {r : Except Err Unit} {a' : Running}
    (h : PeerIKEEnds cfg msgID a r a') : StaysIdle a a' := by
  intro hnone
  rcases h with h | ⟨b, hb, hrun⟩ | ⟨b, b₁, b₂, spiI, spiR, ni, nr, keys, selection, t,
    frames, sa, hb, hsent, hq, rfl, rfl⟩
  · rw [h.state, hnone]
  · exact (Eff.wp_of_run (untraced_respondNotify cfg hb.calm _) hrun).rekey.trans hnone
  · refine (sameRequest_mapOldIKE _ b₂.state).rekey.trans ?_
    rw [hq.world]
    rfl

theorem rekey_of_yieldsChild (h : YieldsChild a.state inner) :
    ((processPeerChildRekey cfg now msgID inner).run a).2.state.rekey = none := by
  obtain ⟨old, n, sa, p, rc, hchecks, hrekey, hkind, hlose⟩ := h
  rw [hchecks.run, run_resolvePeerChildRekey cfg now _ hrekey hkind, if_pos hlose,
    Eff.run_bind_of_ok (run_abandonRekey_false cfg now a)]
  exact (wp_acceptPeerChildRekey cfg now old _ sa p).staysIdle rfl

theorem rekey_of_losesIKE (h : LosesIKE a.state inner) :
    ((processPeerIKERekey cfg now msgID inner).run a).2.state.rekey = none := by
  obtain ⟨rc, ni, hrekey, hkind, hni, hlose⟩ := h
  rw [run_processPeerIKERekey cfg now hrekey hkind hni, if_pos hlose,
    Eff.run_bind_of_ok (run_abandonRekey_false cfg now a)]
  exact (wp_acceptPeerIKERekey cfg now inner).staysIdle rfl

/-- **A peer rekey that fails or is refused leaves no trace** but a stored response, exactly if the own
rekey was not given up for it; for a child, if the context lasts. -/
theorem rejected_peer_rekey_untraced (inner : List Payload) :
    ((∀ k, a.world.cancel k = false) →
      Rejects msgID a ((processPeerChildRekey cfg now msgID inner).run a) →
      (Untraced msgID a ((processPeerChildRekey cfg now msgID inner).run a).2 ↔
        ¬YieldsChild a.state inner)) ∧
    (Rejects msgID a ((processPeerIKERekey cfg now msgID inner).run a) →
      (Untraced msgID a ((processPeerIKERekey cfg now msgID inner).run a).2 ↔
        ¬LosesIKE a.state inner)) := by
  refine ⟨fun hc hrej => ⟨fun h hyield => ?_, fun hyield => ?_⟩,
    fun hrej => ⟨fun h hlose => ?_, fun hlose => ?_⟩⟩
  · -- the rekey that was in flight is gone
    have hgone := h.rekey.symm.trans (rekey_of_yieldsChild cfg now hyield)
    obtain ⟨-, -, -, -, rc, -, hrekey, -⟩ := hyield
    exact absurd (hrekey.symm.trans hgone) (by simp)
  · exact untraced_of_rejects (ends_processPeerChildRekey cfg now hyield hc) hrej
  · have hgone := h.rekey.symm.trans (rekey_of_losesIKE cfg now hlose)
    obtain ⟨rc, -, hrekey, -⟩ := hlose
    exact absurd (hrekey.symm.trans hgone) (by simp)
  · exact untraced_of_rejects (ends_processPeerIKERekey cfg now hlose) hrej

end Handlers

/-! ### A collision -/

section Sample

attribute [local instance] plainCrypto

/-- The other end offers AES-256 only. -/
def strongConfig : Config :=
  { sampleConfig with esp := [{ cbcProposal with encryption := [⟨transformEncryptionAESCBC, 32⟩] }] }

/-- The request with which the other end rekeys the child, with AES-256. -/
def strongRekey : Packet :=
  match Loop.follow strongConfig [(1000 * second, .childSoft)] samplePeer with
  | some p => p.lastPacket
  | none => ⟨.ike, []⟩

/-- The payloads of a packet on the current IKE SA. -/
def Running.opened (a : Running) (now : Time) (raw : Bytes) : Option (List Payload) :=
  match ((openProtectedRawState none now raw).run a.state).1 with
  | .ok inner => inner
  | .error _ => none

theorem opens_of_opened {a : Running} {now : Time} {raw : Bytes} {inner : List Payload}
    (h : inner ∈ a.opened now raw) : a.Opens now raw inner := by
  rw [Running.opened] at h
  rw [Running.Opens]
  split at h
  next hopen => rw [hopen, h]
  · cases h

/-- Both ends rekey the child. The request of the other end has the higher nonce: the own rekey is
dropped, and then the request is answered with NO_PROPOSAL_CHOSEN. -/
theorem refused_after_abandon : ∃ (l : Loop) (inner : List Payload),
    Loop.Runs sampleConfig (fun _ _ _ => True) sampleStart l ∧
    l.actor.Opens (1000 * second) strongRekey.payload inner ∧
    Refuses 1 l.actor
      ((processPeerChildRekey sampleConfig (1000 * second) 1 inner).run l.actor).2 ∧
    l.actor.state.rekey.isSome ∧ l.actor.state.outboundRequest.isSome ∧
    ((processPeerChildRekey sampleConfig (1000 * second) 1 inner).run l.actor).2.state.rekey = none ∧
    ((processPeerChildRekey sampleConfig (1000 * second) 1 inner).run
      l.actor).2.state.outboundRequest = none := by
  obtain ⟨l, hl, inner, hinner, h⟩ := Loop.exists_of_follow sampleConfig sampleStart
    [(1000 * second, .nearWrap)]
    (P := fun l => ∃ inner ∈ l.actor.opened (1000 * second) strongRekey.payload, (Refuses 1 l.actor
        ((processPeerChildRekey sampleConfig (1000 * second) 1 inner).run l.actor).2 ∧
      l.actor.state.rekey.isSome ∧ l.actor.state.outboundRequest.isSome ∧
      ((processPeerChildRekey sampleConfig (1000 * second) 1 inner).run
        l.actor).2.state.rekey = none ∧
      ((processPeerChildRekey sampleConfig (1000 * second) 1 inner).run
        l.actor).2.state.outboundRequest = none)) (by decide +kernel)
  exact ⟨l, inner, Loop.runs_of_follow hl, opens_of_opened hinner, h⟩

/-- Without an own rekey in flight the same request leaves no trace. -/
theorem sample_rejected_untraced : ∃ inner : List Payload,
    sampleStart.actor.Opens (1000 * second) strongRekey.payload inner ∧
    Refuses 1 sampleStart.actor
      ((processPeerChildRekey sampleConfig (1000 * second) 1 inner).run sampleStart.actor).2 ∧
    Untraced 1 sampleStart.actor
      ((processPeerChildRekey sampleConfig (1000 * second) 1 inner).run sampleStart.actor).2 := by
  have h : ∃ inner ∈ sampleStart.actor.opened (1000 * second) strongRekey.payload, Refuses 1 sampleStart.actor
      ((processPeerChildRekey sampleConfig (1000 * second) 1 inner).run sampleStart.actor).2 := by
    decide +kernel
  obtain ⟨inner, hinner, hrefuses⟩ := h
  refine ⟨inner, opens_of_opened hinner, hrefuses, ?_⟩
  refine ((rejected_peer_rekey_untraced sampleConfig (1000 * second) inner).1 (fun k => rfl)
    (.inr hrefuses)).mpr ?_
  rintro ⟨-, -, -, -, rc, -, hrekey, -⟩
  cases hrekey

end Sample

end Swan.Control
