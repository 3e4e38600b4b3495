import Swan.Control.Handshake.Schedule
import Swan.Control.Handshake.EspChoice
import Swan.Control.Window

/-! # The handshake as a whole

A handshake waits for one response at a time. The ids of its requests follow one another, and every
response that it accepts takes it further in a fixed order, which has an end (`handshake_in_order`). It
leaves alone what only the running actor uses (`ExchangePart`), so that the actor can start in the
state that an established handshake hands over, and its invariants hold in every session
(`session_coherent`). -/

namespace Swan.Control.Handshake

open Swan.Lib Swan.Wire Swan.Payload Swan.Xcrypto

/-! ### What a handshake does not touch -/

/-- The numbering of the requests and what belongs to rekeys and to requests of the peer. -/
structure ExchangePart where
  next : UInt32
  waiting : Bool
  expected : UInt32
  rekey : Option RekeyContext
  oldIKE : List OldIKEContext
  oldChild : Option ChildSA
  inboundHistory : List CachedResponse

def exchangePart (s : State) : ExchangePart where
  next := s.nextRequestMessageID
  waiting := s.hasExpectedResponse
  expected := s.expectedResponseMessageID
  rekey := s.rekey
  oldIKE := s.oldIKE
  oldChild := s.oldChild
  inboundHistory := s.inboundHistory

def SameExchange (s s' : State) : Prop := exchangePart s' = exchangePart s

instance : Std.Refl SameExchange := ⟨fun _ => rfl⟩

instance : IsTrans State SameExchange := ⟨fun _ _ _ h₁ h₂ => h₂.trans h₁⟩

def Keeps (h h' : Handshake) : Prop := SameExchange h.state h'.state

instance : Std.Refl Keeps := ⟨fun _ => rfl⟩

instance : IsTrans Handshake Keeps := ⟨fun _ _ _ h₁ h₂ => h₂.trans h₁⟩

theorem within_onState {α : Type} {x : Eff State α} (hx : x.Within SameExchange) :
    (onState x).Within Keeps := hx.zoom fun _ _ h => h

theorem within_onRng {α : Type} (x : Eff Rng α) : (onRng x).Within Keeps := fun _ => rfl

theorem within_modifyState {f : State → State} (hf : ∀ s, SameExchange s (f s)) :
    (modifyState f).Within Keeps := fun h => hf h.state

/-- The state is as it was. -/
def SameState (h h' : Handshake) : Prop := h'.state = h.state

instance : Std.Refl SameState := ⟨fun _ => rfl⟩

instance : IsTrans Handshake SameState := ⟨fun _ _ _ h₁ h₂ => h₂.trans h₁⟩

theorem sameState_sendFrame (purpose : Purpose) (f : Frame) :
    (sendFrame purpose f).Within SameState :=
  have hdraw : drawCancel.Within SameState := fun _ => rfl
  hdraw.bind fun _ => .ite (Eff.within_fail _) (Eff.within_modify fun _ => rfl)

theorem within_sendFrame (purpose : Purpose) (f : Frame) : (sendFrame purpose f).Within Keeps :=
  (sameState_sendFrame purpose f).mono fun _ _ h => congrArg exchangePart h

theorem within_sendRequest (packets : List Frame) : (sendRequest packets).Within Keeps :=
  Eff.within_get.bind fun _ => .ite (Eff.within_fail _) <|
    .bind (within_modifyState fun _ => rfl) fun _ => .forEach (within_sendFrame _) _

theorem within_unscoped {name : String} {n : Notify} {f : State → State}
    (hf : ∀ s, SameExchange s (f s)) : (unscoped name n f).Within SameExchange :=
  .ite (Eff.within_fail _) (Eff.within_modify hf)

theorem within_applySAInitNotify (n : Notify) (f : SAInitFields) :
    (applySAInitNotify n f).Within SameExchange := by
  have hlearn : ∀ {name : String} {g : State → State}, (∀ s, SameExchange s (g s)) →
      (unscoped name n g >>= fun _ => pure f).Within SameExchange := fun hg =>
    (within_unscoped hg).bind fun _ => Eff.within_pure f
  have hnote : ∀ {c d : Prop} [Decidable c] [Decidable d] (e e' : Err) (f' : SAInitFields),
      (if c then Eff.fail e else if d then Eff.fail e' else pure f' :
        Eff State SAInitFields).Within SameExchange := fun e e' f' =>
    .ite (Eff.within_fail _) (.ite (Eff.within_fail _) (Eff.within_pure _))
  refine .ite (hnote _ _ _) <| .ite (hnote _ _ _) <| .ite (hlearn fun _ => rfl) <|
    .ite (hlearn fun _ => rfl) <| .ite (hlearn fun _ => rfl) <| .ite ?_ <|
    .ite (Eff.within_fail _) <| .ite (Eff.within_fail _) (Eff.within_pure f)
  exact (within_unscoped fun _ => rfl).bind fun _ => (Eff.within_lift _).bind fun _ =>
    .bind (Eff.within_modify fun _ => rfl) fun _ => Eff.within_pure f

theorem within_applySAInitPayload (p : Wire.Payload) (f : SAInitFields) :
    (applySAInitPayload p f).Within SameExchange := by
  refine .ite (.ite (Eff.within_fail _) ?_) <| .ite (.ite (Eff.within_fail _) ?_) <|
    .ite (.ite (Eff.within_fail _) ?_) <| .ite ?_ (Eff.within_pure f)
  · exact (Eff.within_lift _).bind fun _ => .ite (Eff.within_fail _) (Eff.within_pure _)
  · exact (Eff.within_lift _).bind fun _ => Eff.within_pure _
  · exact (Eff.within_lift _).bind fun _ => Eff.within_pure _
  · exact (Eff.within_lift _).bind fun n => within_applySAInitNotify n f

theorem within_applySAInitPayloads : ∀ (ps : List Wire.Payload) (f : SAInitFields),
    (applySAInitPayloads ps f).Within SameExchange
  | [], f => Eff.within_pure f
  | p :: ps, f => (within_applySAInitPayload p f).bind fun f' => within_applySAInitPayloads ps f'

theorem within_validateAuthNotifies (ns : List Notify) :
    (validateAuthNotifies ns).Within SameExchange := by
  refine .forEach (fun n => ?_) ns
  refine .ite (Eff.within_pure _) <| .ite (Eff.within_pure _) <| .ite (Eff.within_fail _) <|
    .ite ?_ <| .ite (Eff.within_fail _) (Eff.within_pure _)
  exact .bind (Eff.within_modify fun _ => rfl) fun _ => Eff.within_fail _

theorem within_recordPeerIdentity (cfg : HandshakeConfig) (idr : Bytes) :
    (recordPeerIdentity cfg idr).Within SameExchange :=
  (Eff.within_lift _).bind fun _ => .ite (Eff.within_fail _) <| .ite (Eff.within_fail _) <|
    Eff.within_modify fun _ => rfl

theorem sameExchange_storeCerts (certs : List Bytes) (s : State) :
    SameExchange s (storeCerts certs s) := by
  unfold storeCerts
  split_ifs <;> rfl

section Within

variable [Pki] [Crypto] {cfg : HandshakeConfig}

omit [Crypto] in
theorem within_establish (spi : UInt64) (f : SAInitFields) :
    (establish cfg spi f).Within SameExchange := by
  unfold establish
  split
  · exact Eff.within_fail _
  refine .ite (Eff.within_fail _) ?_
  split
  · exact Eff.within_fail _
  split
  · exact Eff.within_fail _
  split
  · exact Eff.within_fail _
  refine (Eff.within_lift _).bind fun selection => .bind (Eff.within_modify fun _ => rfl) fun _ => ?_
  exact Eff.within_get.bind fun s => (Eff.within_lift _).bind fun detected =>
    .bind (Eff.within_modify fun _ => rfl) fun _ => Eff.within_pure _

omit [Crypto] in
theorem within_applySAInitResponse (m : Message) :
    (applySAInitResponse cfg m).Within SameExchange := by
  refine .ite (Eff.within_fail _) <| .bind (Eff.within_modify fun _ => rfl) fun _ =>
    (within_applySAInitPayloads _ _).bind fun f => .ite ?_ (within_establish _ f)
  refine .ite (Eff.within_fail _) <| .ite (Eff.within_fail _) <| .ite ?_ ?_
  · exact .bind (Eff.within_modify fun _ => rfl) fun _ => Eff.within_pure _
  · exact .bind (Eff.within_modify fun _ => rfl) fun _ => Eff.within_pure _

omit [Pki] in
theorem within_deriveIKEKeys : deriveIKEKeys.Within SameExchange := by
  refine Eff.within_get.bind fun s => ?_
  dsimp only
  split
  · exact Eff.within_fail _
  split
  · refine .ite (Eff.within_fail _) <| .bind (Eff.within_modify fun _ => rfl) fun _ => ?_
    exact (Eff.within_lift _).bind fun _ => (Eff.within_lift _).bind fun _ =>
      Eff.within_modify fun _ => rfl
  · exact Eff.within_fail _

theorem within_verifyPeerAuth (idr : Bytes) (auth : Auth) :
    (verifyPeerAuth cfg idr auth).Within SameExchange :=
  Eff.within_get.bind fun _ => (Eff.within_lift _).bind fun _ => Eff.within_modify fun _ => rfl

theorem within_handleAuthResponse (m : Message) (first : Bool) :
    (handleAuthResponse cfg m first).Within SameExchange := by
  refine (Eff.within_lift _).bind fun f => (within_validateAuthNotifies _).bind fun _ =>
    .bind (Eff.within_modify fun _ => rfl) fun _ => Eff.within_get.bind fun s =>
    .ite (Eff.within_fail _) ?_
  refine (within_recordPeerIdentity cfg _).bind fun _ =>
    .bind (Eff.within_modify (sameExchange_storeCerts _)) fun _ => Eff.within_get.bind fun s => ?_
  -- the EAP packet is returned at the end of each branch
  have hlast : ∀ e, (if f.eap.length = 0 then Eff.fail e else pure f.eap : Eff State Bytes).Within
      SameExchange := fun e => .ite (Eff.within_fail _) (Eff.within_pure _)
  dsimp only
  cases f.auth with
  | some auth => exact (within_verifyPeerAuth _ auth).bind fun _ => hlast _
  | none =>
    exact .ite (.ite ((Eff.within_fail _).bind fun _ => hlast _)
      (.ite ((Eff.within_fail _).bind fun _ => hlast _) (hlast _))) (hlast _)

theorem within_authenticatePeer (f : FinalFields) :
    (authenticatePeer cfg f).Within SameExchange := by
  refine .ite (Eff.within_fail _) <| (within_validateAuthNotifies _).bind fun _ => ?_
  cases f.auth with
  | none => exact Eff.within_fail _
  | some auth =>
    refine Eff.within_get.bind fun s => .ite (Eff.within_fail _) ?_
    exact (within_recordPeerIdentity cfg _).bind fun _ =>
      .bind (Eff.within_modify (sameExchange_storeCerts _)) fun _ => within_verifyPeerAuth _ _

omit [Pki] in
theorem within_buildProtected (exchange : ExchangeType) (msgID : UInt32) (next : PayloadType)
    (plaintext : Bytes) : (buildProtected cfg exchange msgID next plaintext).Within Keeps :=
  Eff.within_get.bind fun _ => within_onRng _

omit [Pki] [Crypto] in
theorem within_drawn {α : Type} (x : Eff Rng α) {f : Except Err α → Eff Handshake Unit}
    (herror : ∀ e, (f (.error e)).Within Keeps) (hok : ∀ v, (f (.ok v)).Within Keeps) :
    ((onRng x).attempt >>= f).Within Keeps :=
  (within_onRng x).attempt.bind fun r => by
    cases r with
    | error e => exact herror e
    | ok v => exact hok v

omit [Pki] [Crypto] in
theorem within_chooseInitiator : chooseInitiator.Within Keeps := by
  refine Eff.within_get.bind fun h => ?_
  dsimp only
  refine .ite (within_drawn _ (fun e => (Eff.within_fail _).bind fun _ => ?_)
    fun v => .bind (within_modifyState fun _ => rfl) fun _ => ?_) ?_
  -- the nonce is chosen after each of the three
  all_goals exact .ite (within_drawn _ (fun _ => Eff.within_fail _)
    fun _ => within_modifyState fun _ => rfl) (Eff.within_pure _)

omit [Pki] in
theorem within_chooseKE (selection : Selection) : (chooseKE selection).Within Keeps := by
  unfold chooseKE
  split
  · exact Eff.within_fail _
  · exact within_drawn _ (fun _ => Eff.within_fail _) fun dh => (Eff.within_lift _).bind fun _ =>
      within_modifyState fun _ => rfl

theorem within_buildSAInitRequest (forced : UInt16) :
    (buildSAInitRequest cfg forced).Within Keeps :=
  (Eff.within_lift _).bind fun selected => .bind (within_modifyState fun _ => rfl) fun _ =>
    within_chooseInitiator.bind fun _ => (within_chooseKE selected.2).bind fun _ =>
    Eff.within_get.bind fun _ => (Eff.within_lift _).bind fun _ =>
    .bind (within_modifyState fun _ => rfl) fun _ => Eff.within_get.bind fun _ =>
    (Eff.within_lift _).bind fun _ => .bind (within_modifyState fun _ => rfl) fun _ =>
    Eff.within_pure _

omit [Pki] in
theorem within_buildBootstrapAuthRequest (msgID : UInt32) :
    (buildBootstrapAuthRequest cfg msgID).Within Keeps :=
  (within_onRng _).bind fun _ => .bind (within_modifyState fun _ => rfl) fun _ =>
    (Eff.within_lift _).bind fun _ => within_buildProtected _ _ _ _

omit [Pki] in
theorem within_buildFinalAuthRequest (msgID : UInt32) :
    (buildFinalAuthRequest cfg msgID).Within Keeps :=
  Eff.within_get.bind fun _ => .ite (Eff.within_fail _) <| (Eff.within_lift _).bind fun _ =>
    within_buildProtected _ _ _ _

theorem within_processFinalAuth (m : Message) : (processFinalAuth cfg m).Within SameExchange := by
  refine Eff.within_get.bind fun s => ?_
  dsimp only
  split
  · exact Eff.within_fail _
  refine (Eff.within_lift _).bind fun f => (within_authenticatePeer f).bind fun _ => ?_
  cases f.sa with
  | none => dsimp only; split <;> exact Eff.within_fail _
  | some sa =>
    exact (Eff.within_lift _).bind fun _ => (Eff.within_lift _).bind fun _ =>
      .bind (Eff.within_modify fun _ => rfl) fun _ => (Eff.within_lift _).bind fun _ =>
      .bind (Eff.within_modify fun _ => rfl) fun _ => Eff.within_pure _

omit [Pki] in
theorem sameState_acknowledgeSet (finalID : UInt32) :
    (acknowledgeSet cfg finalID).Within SameState :=
  (Eff.within_lift _).bind fun _ => Eff.within_get.bind fun _ => Eff.Within.bind (fun _ => rfl)
    fun _ => .forEach (sameState_sendFrame _) _

omit [Pki] [Crypto] in
theorem within_validateResponseHeader (hdr : Header) (exchange : ExchangeType) (msgID : UInt32) :
    (validateResponseHeader hdr exchange msgID).Within SameExchange :=
  Eff.within_get.bind fun _ => (Eff.within_lift _).bind fun _ => .ite (Eff.within_fail _) <|
    .ite (Eff.within_fail _) <| .ite (Eff.within_fail _) <| .ite (Eff.within_fail _) <|
    .ite (.ite (.ite (Eff.within_fail _) (Eff.within_pure _)) (Eff.within_modify fun _ => rfl))
      (Eff.within_pure _)

end Within

/-! ### Stages -/

section Stages

variable {μ : Type}

/-- The id of the request after that of a stage. -/
def Stage.next : Stage μ → UInt32
  | .saInit _ _ => 0
  | .eap _ msgID _ _ => msgID + 1
  | .finalAuth msgID => msgID + 1

/-- The place of a stage in a handshake. -/
def Stage.rank : Stage μ → ℕ
  | .saInit attempt _ => attempt
  | .eap _ _ _ round => maxSAInitAttempts + round
  | .finalAuth _ => maxSAInitAttempts + maxEAPRounds

/-- The stages that a handshake can be in, with the ids of their requests. -/
def Stage.InOrder : Stage μ → Prop
  | .saInit attempt _ => attempt < maxSAInitAttempts
  | .eap _ msgID first round =>
    round < maxEAPRounds ∧ msgID.toNat = round + 1 ∧ (first = true ↔ round = 0)
  | .finalAuth msgID => 2 ≤ msgID.toNat ∧ msgID.toNat ≤ maxEAPRounds + 1

/-- A request is outstanding, and there is nothing else. -/
def asking (msgID next : UInt32) : ExchangePart := ⟨next, true, msgID, none, [], none, []⟩

/-- No request is outstanding, and there is nothing else. -/
def quiet (next : UInt32) : ExchangePart := ⟨next, false, 0, none, [], none, []⟩

/-- The packets of the request `msgID` are kept for retransmission. -/
def Stored (msgID : UInt32) (s : State) : Prop :=
  ∃ packets, s.outboundRequest = some ⟨msgID, packets⟩

/-- The worker has sent the request of a stage and waits for the response. -/
structure Waits (stage : Stage μ) (s : State) : Prop where
  order : stage.InOrder
  part : exchangePart s = asking stage.msgID stage.next
  stored : Stored stage.msgID s

/-- The state of a handshake that has come to a stage of the rank `r` or later. -/
def Reaches (r : ℕ) : Progress μ → State → Prop
  | .waiting stage, s => r ≤ stage.rank ∧ Waits stage s
  | .established e, s => e.state = s ∧ s.HandedOff ∧ s.HasAddress ∧
      3 ≤ s.nextRequestMessageID.toNat ∧ s.nextRequestMessageID.toNat ≤ maxEAPRounds + 2

theorem Reaches.mono {r r' : ℕ} {p : Progress μ} {s : State} (h : Reaches r p s) (hr : r' ≤ r) :
    Reaches r' p s := by
  cases p with
  | waiting stage => exact ⟨hr.trans h.1, h.2⟩
  | established e => exact h

theorem asking_begun {s : State} {next : UInt32} (hs : exchangePart s = quiet next)
    (hn : next ≠ 0xffffffff) : exchangePart (begun s) = asking next (next + 1) := by
  obtain ⟨hnext, -, -, hrekey, hold, hchild, hhistory⟩ := ExchangePart.mk.inj hs
  simp [exchangePart, begun, asking, hnext, hrekey, hold, hchild, hhistory, hn]

theorem beginRequest_bind_ok {α : Type} {f : UInt32 → Eff Handshake α} {h h' : Handshake} {a : α}
    {n : UInt32} (hrun : (beginRequest >>= f).run h = (.ok a, h'))
    (hpart : exchangePart h.state = quiet n) :
    (f n).run (mapState begun h) = (.ok a, h') := by
  obtain ⟨msgID, h₁, hbegin, hrun⟩ := Eff.run_bind_ok hrun
  cases hbegin
  rw [← show h.state.nextRequestMessageID = n from congrArg ExchangePart.next hpart]
  exact hrun

theorem stored_sendRequest {packets : List Frame} {h h' : Handshake} {msgID next : UInt32}
    (hpart : exchangePart h.state = asking msgID next)
    (hrun : (sendRequest packets).run h = (.ok (), h')) :
    exchangePart h'.state = asking msgID next ∧ Stored msgID h'.state := by
  have hpart' : exchangePart h'.state = asking msgID next := by
    have hkeeps : Keeps h h' := by
      have hwithin := within_sendRequest packets h
      rw [hrun] at hwithin
      exact hwithin
    exact hkeeps.trans hpart
  have hreq := sendRequest_ok hrun
  rw [show h'.state.expectedResponseMessageID = msgID from congrArg ExchangePart.expected hpart'] at hreq
  exact ⟨hpart', packets, hreq⟩

theorem toNat_succ {msgID : UInt32} {k : ℕ} (h : msgID.toNat = k) (hk : k ≤ 100) :
    (msgID + 1).toNat = k + 1 ∧ msgID ≠ 0xffffffff := by
  subst h
  refine ⟨?_, ?_⟩
  · rw [UInt32.toNat_add, show (1 : UInt32).toNat = 1 from rfl]
    exact Nat.mod_eq_of_lt (by omega)
  · rintro rfl
    exact absurd hk (by decide)

end Stages

section Steps

variable {μ : Type} [Pki] [Crypto] {cfg : HandshakeConfig} {method : EapMethod μ} {h h' : Handshake}
  {p : Progress μ}

theorem reaches_sendSAInit {attempt : ℕ} {forced : UInt16} (ha : attempt < maxSAInitAttempts)
    (hpart : exchangePart h.state = asking 0 0)
    (hrun : (sendSAInit cfg attempt forced).run h = (.ok p, h')) : Reaches attempt p h'.state := by
  have hrun := Eff.run_modify_bind_ok hrun
  obtain ⟨frames, h₁, -, hkeeps, hrun⟩ := (within_buildSAInitRequest forced).run_bind_ok hrun
  obtain ⟨u, h₂, hsend, hrun⟩ := Eff.run_bind_ok hrun
  obtain ⟨hpart₂, hstored⟩ := stored_sendRequest (hkeeps.trans hpart) hsend
  have hrun := Eff.run_modify_bind_ok hrun
  cases hrun
  exact ⟨le_rfl, ha, hpart₂, hstored⟩

variable {msgID : UInt32} {msg : Message} {ev : Event}

omit [Pki] [Crypto] in
theorem reaches_recvEAP {m : μ} {first : Bool} {round : ℕ} (hround : round < maxEAPRounds)
    (hid : msgID.toNat = round + 1) (hfirst : first = true ↔ round = 0)
    (hpart : exchangePart h.state = asking msgID (msgID + 1)) (hstored : Stored msgID h.state)
    (hrun : (recvEAP cfg m first round).run h = (.ok p, h')) :
    Reaches (maxSAInitAttempts + round) p h'.state := by
  have hrun := Eff.run_get_bind_ok hrun
  split_ifs at hrun
  · cases hrun
  have hrun := Eff.run_modify_bind_ok hrun
  cases hrun
  rw [show h.state.expectedResponseMessageID = msgID from congrArg ExchangePart.expected hpart]
  exact ⟨le_rfl, ⟨hround, hid, hfirst⟩, hpart, hstored⟩

omit [Pki] in
theorem reaches_beginAuth (hpart : exchangePart h.state = asking 0 0)
    (hrun : (beginAuth cfg method).run h = (.ok p, h')) :
    Reaches maxSAInitAttempts p h'.state := by
  obtain ⟨u, h₁, -, hkeeps₁, hrun⟩ := (within_onState within_deriveIKEKeys).run_bind_ok hrun
  have hrun := Eff.run_modify_bind_ok hrun
  have hquiet : exchangePart (saInitDone h₁.state) = quiet 1 := by
    obtain ⟨-, -, -, hrekey, hold, hchild, hhistory⟩ := ExchangePart.mk.inj (hkeeps₁.trans hpart)
    simp [exchangePart, saInitDone, quiet, hrekey, hold, hchild, hhistory]
  have hrun := beginRequest_bind_ok hrun hquiet
  obtain ⟨frames, h₂, -, hkeeps₂, hrun⟩ := (within_buildBootstrapAuthRequest _).run_bind_ok hrun
  obtain ⟨v, h₃, hsend, hrun⟩ := Eff.run_bind_ok hrun
  obtain ⟨hpart₃, hstored⟩ :=
    stored_sendRequest (hkeeps₂.trans (asking_begun hquiet (by decide))) hsend
  have hrun := Eff.run_modify_bind_ok hrun
  obtain ⟨m, -, hrun⟩ := Eff.run_lift_bind_ok hrun
  have hid : (1 : UInt32).toNat = 0 + 1 := rfl
  have hfirst : true = true ↔ 0 = 0 := by decide
  refine reaches_recvEAP (by decide) hid hfirst ?_ ?_ hrun
  · exact hpart₃
  · exact hstored

theorem reaches_handleSAInit {attempt : ℕ} {forced : UInt16} (ha : attempt < maxSAInitAttempts)
    (hpart : exchangePart h.state = asking 0 0)
    (hrun : (handleSAInit cfg method attempt forced msg).run h = (.ok p, h')) :
    Reaches (attempt + 1) p h'.state := by
  obtain ⟨o, h₁, -, hkeeps, hrun⟩ :=
    (within_onState (within_applySAInitResponse msg)).run_bind_ok hrun
  have hpart₁ : exchangePart h₁.state = asking 0 0 := hkeeps.trans hpart
  cases o with
  | established => exact (reaches_beginAuth hpart₁ hrun).mono ha
  | retryCookie =>
    dsimp only at hrun
    split_ifs at hrun with hlast
    · cases hrun
    · exact reaches_sendSAInit (not_le.mp hlast) hpart₁ hrun
  | retryDHGroup =>
    dsimp only at hrun
    split_ifs at hrun with hgroup hlast
    · cases hrun
    · cases hrun
    · exact reaches_sendSAInit (not_le.mp hlast) hpart₁ hrun

omit [Pki] in
theorem reaches_beginFinalAuth {n : UInt32} (hrun : (beginFinalAuth cfg).run h = (.ok p, h'))
    (hpart : exchangePart h.state = quiet n) (hlow : 2 ≤ n.toNat) (hhigh : n.toNat ≤ maxEAPRounds + 1) :
    Reaches (maxSAInitAttempts + maxEAPRounds) p h'.state := by
  have hrun := Eff.run_modify_bind_ok hrun
  have hrun := beginRequest_bind_ok hrun hpart
  obtain ⟨frames, h₁, -, hkeeps, hrun⟩ := (within_buildFinalAuthRequest _).run_bind_ok hrun
  obtain ⟨v, h₂, hsend, hrun⟩ := Eff.run_bind_ok hrun
  have hbegun := asking_begun hpart (toNat_succ rfl (hhigh.trans (by decide))).2
  obtain ⟨hpart₂, hstored⟩ := stored_sendRequest (hkeeps.trans hbegun) hsend
  have hrun := Eff.run_modify_bind_ok hrun
  cases hrun
  exact ⟨le_rfl, ⟨hlow, hhigh⟩, hpart₂, hstored⟩

theorem reaches_handleEAP {m : μ} {first : Bool} {round : ℕ} (hround : round < maxEAPRounds)
    (hid : msgID.toNat = round + 1) (hpart : exchangePart h.state = quiet (msgID + 1))
    (hrun : (handleEAP cfg method m first round msg).run h = (.ok p, h')) :
    Reaches (maxSAInitAttempts + round + 1) p h'.state := by
  obtain ⟨pkt, h₁, -, hkeeps, hrun⟩ :=
    (within_onState (within_handleAuthResponse msg first)).run_bind_ok hrun
  have hpart₁ : exchangePart h₁.state = quiet (msgID + 1) := hkeeps.trans hpart
  have hle : round + 1 ≤ 99 := hround.trans (by decide)
  have hnext := (toNat_succ hid (hle.trans (by decide))).1
  have hrun := Eff.run_get_bind_ok hrun
  rcases hhandle : method.handle m pkt h₁.state.nextRequestMessageID.toUInt16 with
    ⟨e | response | msk, m'⟩
  · rw [hhandle] at hrun
    cases hrun
  · rw [hhandle] at hrun
    obtain ⟨u, h₂, hsend, hrun⟩ := Eff.run_bind_ok hrun
    split_ifs at hrun with hmore
    · have hsend := beginRequest_bind_ok hsend hpart₁
      obtain ⟨frames, h₃, -, hkeeps₃, hsend⟩ := (within_buildProtected _ _ _ _).run_bind_ok hsend
      have hbegun := asking_begun hpart₁ (toNat_succ hnext (by omega)).2
      obtain ⟨hpart₂, hstored⟩ := stored_sendRequest (hkeeps₃.trans hbegun) hsend
      exact reaches_recvEAP hmore hnext (by simp) hpart₂ hstored hrun
    · cases hrun
  · rw [hhandle] at hrun
    have hrun := Eff.run_modify_bind_ok hrun
    have hhigh : (msgID + 1).toNat ≤ maxEAPRounds + 1 := by omega
    have hreach := reaches_beginFinalAuth hrun (n := msgID + 1) hpart₁ (by omega) hhigh
    exact hreach.mono (by omega)

omit [Crypto] in
theorem hasAddress_of_checkAssigned {f : FinalFields} {assigned : AssignedConfig} {cfgSet : Bool}
    (hok : checkAssigned f = .ok (assigned, cfgSet)) : assigned.HasAddress := by
  unfold checkAssigned at hok
  split at hok
  · cases hok
  obtain ⟨cp, -, hok⟩ := bind_eq_ok.mp hok
  split at hok
  · cases hok
  obtain ⟨⟨out, mask⟩, -, hok⟩ := bind_eq_ok.mp hok
  dsimp only at hok
  split_ifs at hok with hnone
  obtain ⟨tsi, -, hok⟩ := bind_eq_ok.mp hok
  obtain ⟨tsr, -, hok⟩ := bind_eq_ok.mp hok
  obtain ⟨u, -, hok⟩ := bind_eq_ok.mp hok
  obtain ⟨rfl, -⟩ := Prod.mk.inj (Except.ok.inj hok)
  exact (not_and_or.mp hnone).imp Option.isSome_iff_ne_none.mpr Option.isSome_iff_ne_none.mpr

theorem hasAddress_processFinalAuth {m : Message} {s s' : State} {child : ChildSA} {cfgSet : Bool}
    (hok : (processFinalAuth cfg m).run s = (.ok (child, cfgSet), s')) : s'.HasAddress := by
  obtain ⟨f, _, _, _, _, assigned, _, hacc⟩ := processFinalAuth_ok hok
  obtain ⟨_, hassigned⟩ := hacc.checked
  exact ⟨assigned, by rw [hacc.state]; rfl, hasAddress_of_checkAssigned hassigned⟩

theorem reaches_handleFinalAuth {finalID : UInt32} (hlow : 2 ≤ finalID.toNat)
    (hhigh : finalID.toNat ≤ maxEAPRounds + 1) (hpart : exchangePart h.state = quiet (finalID + 1))
    (hrun : (handleFinalAuth cfg finalID msg).run h = (.ok p, h')) (r : ℕ) :
    Reaches r p h'.state := by
  obtain ⟨⟨child, cfgSet⟩, h₁, hfinal, hkeeps₁, hrun⟩ :=
    (within_onState (within_processFinalAuth msg)).run_bind_ok hrun
  have hprocessed : (processFinalAuth cfg msg).run h.state = (.ok (child, cfgSet), h₁.state) :=
    Prod.ext (congrArg Prod.fst hfinal :) (congrArg (·.2.state) hfinal :)
  have haddr := hasAddress_processFinalAuth hprocessed
  have hack : (Eff.when (cfgSet = true) (acknowledgeSet cfg finalID)).Within SameState :=
    .ite (sameState_acknowledgeSet finalID) (Eff.within_pure _)
  obtain ⟨u, h₂, -, hsame, hrun⟩ := hack.run_bind_ok hrun
  have hsame : h₂.state = h₁.state := hsame
  have hrun := Eff.run_get_bind_ok hrun
  obtain ⟨keys, -, hrun⟩ := Eff.run_lift_bind_ok hrun
  have hrun := Eff.run_get_bind_ok hrun
  split at hrun
  · cases hrun
  next assigned hassigned =>
  split at hrun
  · cases hrun
  next selection hselection =>
  split at hrun
  · cases hrun
  next child hchild =>
  split_ifs at hrun
  · cases hrun
  have hrun := Eff.run_modify_bind_ok hrun
  cases hrun
  obtain ⟨hnext, -, -, hrekey, hold, holdChild, hhistory⟩ :=
    ExchangePart.mk.inj ((congrArg exchangePart hsame).trans (hkeeps₁.trans hpart))
  refine ⟨rfl, ⟨rfl, rfl, hrekey, hold, holdChild, hhistory, ?_, ?_, ?_⟩, ?_, ?_⟩
  · exact Option.isSome_of_eq_some hchild
  · exact Option.isSome_of_eq_some hselection
  · exact Option.isSome_of_eq_some hassigned
  · exact (hsame ▸ haddr : h₂.state.HasAddress)
  · have hid : (finalID + 1).toNat = finalID.toNat + 1 := (toNat_succ rfl (hhigh.trans (by decide))).1
    rw [show (mapState handedOver h₂).state.nextRequestMessageID = finalID + 1 from hnext, hid]
    exact ⟨by omega, by omega⟩

/-! ### Events -/

omit [Pki] [Crypto] in
theorem keeps_waitSAInitResponse {cfg : Config}
    (hrun : (waitSAInitResponse cfg ev).run h = (.ok (some msg), h')) : Keeps h h' := by
  rcases ev with pkt | _ | _ | _
  · rcases pkt with _ | pkt
    · cases hrun
    obtain ⟨r, h₁, hreceive, hrun⟩ := Eff.run_bind_ok hrun
    rcases receive_ok hreceive with ⟨-, rfl, -⟩ | ⟨-, m, rfl, hval, -⟩
    · cases hrun
    have hsame := within_validateResponseHeader m.header ExchangeType.ikeSAInit 0 h.state
    rw [hval] at hsame
    have hrun := Eff.run_modify_bind_ok hrun
    cases hrun
    exact hsame
  · obtain ⟨u, h₁, -, hrun⟩ := Eff.run_bind_ok hrun
    cases hrun
  · cases hrun
  · cases hrun

omit [Pki] in
theorem quiet_recvProtectedPayloads {step : String} {id next : UInt32}
    (hpart : exchangePart h.state = asking id next)
    (hrun : (recvProtectedPayloads cfg.toConfig step ExchangeType.ikeAuth msgID ev).run h =
      (.ok (some msg), h')) : exchangePart h'.state = quiet next := by
  obtain ⟨raw, h₁, hwait, hopens⟩ := Eff.run_bind_ok hrun
  rcases raw with _ | raw
  · cases hopens
  obtain ⟨-, -, -, -, rfl⟩ := waitResponseRaw_some hwait
  have hrun := Eff.run_get_bind_ok hopens
  have hopen : (onState (openProtectedRawState (some cfg.toConfig) h₁.clock raw)).Within Keeps :=
    within_onState <| (within_openProtectedRawState _ _ _).mono fun s s' honly => by
      rw [SameExchange, honly]
      rfl
  obtain ⟨opened, h₂, -, hkeeps₂, hrun⟩ := hopen.run_bind_ok hrun
  have hseen : (Eff.when (ExchangeType.ikeAuth = ExchangeType.ikeAuth)
      (modifyState fun s => { s with firstIKEAuthSeen := true })).Within Keeps :=
    .ite (within_modifyState fun _ => rfl) (Eff.within_pure _)
  obtain ⟨u, h₃, -, hkeeps₃, hrun⟩ := hseen.run_bind_ok hrun
  rcases opened with _ | inner
  · cases hrun
  have hrun := Eff.run_modify_bind_ok hrun
  obtain ⟨m, -, hrun⟩ := Eff.run_lift_bind_ok hrun
  cases hrun
  obtain ⟨hnext, -, -, hrekey, hold, hchild, hhistory⟩ :=
    ExchangePart.mk.inj (hkeeps₃.trans (hkeeps₂.trans hpart))
  simp [exchangePart, mapState, completed, quiet, hnext, hrekey, hold, hchild, hhistory]

theorem reaches_turn {stage : Stage μ} (hw : Waits stage h.state)
    (hrun : (turn cfg method ev stage).run h = (.ok p, h')) :
    p = .waiting stage ∧ Waits stage h'.state ∨ Reaches (stage.rank + 1) p h'.state := by
  obtain ⟨msg, h₁, hlisten, hrun⟩ := Eff.run_bind_ok hrun
  rcases msg with _ | msg
  · cases hrun
    exact .inl ⟨rfl, by cases listen_none_cases hlisten <;> exact ⟨hw.order, hw.part, hw.stored⟩⟩
  refine .inr ?_
  cases stage with
  | saInit attempt forced =>
    exact reaches_handleSAInit hw.order ((keeps_waitSAInitResponse hlisten).trans hw.part) hrun
  | eap m msgID first round =>
    exact reaches_handleEAP hw.order.1 hw.order.2.1 (quiet_recvProtectedPayloads hw.part hlisten) hrun
  | finalAuth msgID =>
    exact reaches_handleFinalAuth hw.order.1 hw.order.2
      (quiet_recvProtectedPayloads hw.part hlisten) hrun _

theorem reaches_begin (hrun : (begin cfg).run h = (.ok p, h')) : Reaches 0 p h'.state :=
  reaches_sendSAInit (by decide) rfl (Eff.run_modify_bind_ok hrun)

/-! ### Runs -/

/-- What holds of a handshake that has not failed. -/
def Outcome.Reaches (r : ℕ) : Outcome μ → Prop
  | .waiting stage h => Handshake.Reaches r (.waiting stage) h.state
  | .established e h => Handshake.Reaches r (.established e : Progress μ) h.state
  | .failed _ _ => True

omit [Pki] [Crypto] in
theorem Outcome.Reaches.mono {r r' : ℕ} {o : Outcome μ} (ho : o.Reaches r) (hr : r' ≤ r) :
    o.Reaches r' := by
  cases o with
  | waiting stage w => exact ⟨hr.trans ho.1, ho.2⟩
  | established e w => exact ho
  | failed e w => exact ho

variable (cfg method) in
theorem step_waiting {stage : Stage μ} {w : Handshake} (hw : Waits stage w.state) (now : Time)
    (ev : Event) : (∃ w', step cfg method now ev (.waiting stage w) = .waiting stage w' ∧
      Waits stage w'.state) ∨
    (step cfg method now ev (.waiting stage w)).Reaches (stage.rank + 1) := by
  rcases hrun : (turn cfg method ev stage).run { w with clock := now } with ⟨e | p, h'⟩
  · rw [step, hrun]
    cases e <;> exact .inr trivial
  · rw [step, hrun]
    obtain ⟨rfl, hw'⟩ | hreach := reaches_turn (h := { w with clock := now }) hw hrun
    · exact .inl ⟨h', rfl, hw'⟩
    · exact .inr (by cases p <;> exact hreach)

theorem reaches_step {r : ℕ} {o : Outcome μ} (now : Time) (ev : Event) (ho : o.Reaches r) :
    (step cfg method now ev o).Reaches r := by
  cases o with
  | waiting stage w =>
    obtain ⟨w', heq, hw'⟩ | hreach := step_waiting cfg method ho.2 now ev
    · rw [heq]
      exact ⟨ho.1, hw'⟩
    · exact hreach.mono (ho.1.trans (Nat.le_succ _))
  | established e w => exact ho
  | failed e w => exact ho

theorem reaches_run (evs : List (Time × Event)) (h : Handshake) :
    (run cfg method evs h).Reaches 0 := by
  refine List.foldlRecOn (motive := fun o : Outcome μ => o.Reaches 0) evs _ ?_
    fun _ ho ev _ => reaches_step ev.1 ev.2 ho
  rcases hrun : (begin cfg : Eff Handshake (Progress μ)).run h with ⟨e | p, h'⟩
  · rw [start, hrun]
    cases e <;> exact trivial
  · rw [start, hrun]
    cases p <;> exact reaches_begin hrun

/-- **The order of a handshake**: whenever a handshake waits, its request has the id that the stage
says, is stored for retransmission and is the only one outstanding. Later on it still waits in the same
stage or in one of a higher rank; there are at most three attempts and 64 EAP rounds. -/
theorem handshake_in_order {evs evs' : List (Time × Event)} {stage stage' : Stage μ} {w w' : Handshake}
    (hrun : run cfg method evs h = .waiting stage w)
    (hrun' : run cfg method (evs ++ evs') h = .waiting stage' w') :
    Waits stage w.state ∧ Waits stage' w'.state ∧ (stage' = stage ∨ stage.rank < stage'.rank) := by
  have hw : Waits stage w.state := by
    have hreach : (run cfg method evs h).Reaches 0 := reaches_run evs h
    rw [hrun] at hreach
    exact hreach.2
  -- the handshake stays in the stage for some events, and never returns to it after that
  have hlater : (∃ w₁, run cfg method (evs ++ evs') h = .waiting stage w₁ ∧ Waits stage w₁.state) ∨
      (run cfg method (evs ++ evs') h).Reaches (stage.rank + 1) := by
    rw [run, List.foldl_append, ← run, hrun]
    refine List.foldlRecOn (motive := fun o : Outcome μ => (∃ w₁, o = .waiting stage w₁ ∧
      Waits stage w₁.state) ∨ o.Reaches (stage.rank + 1)) evs' _ (.inl ⟨w, rfl, hw⟩) ?_
    rintro o (⟨w₁, rfl, hw₁⟩ | hreach) ev -
    · exact step_waiting cfg method hw₁ ev.1 ev.2
    · exact .inr (reaches_step ev.1 ev.2 hreach)
  rw [hrun'] at hlater
  obtain ⟨w₁, heq, hw₁⟩ | hreach := hlater
  · obtain ⟨rfl, rfl⟩ := Outcome.waiting.inj heq
    exact ⟨hw, hw₁, .inl rfl⟩
  · exact ⟨hw, hreach.2, .inr hreach.1⟩

/-- **A session from its start**: what an established handshake hands over is what the running actor
expects, with an address, and the id of its next request follows those of the handshake. In every
session that starts with it, as long as messages can be sealed, the state of the actor is coherent, a
request goes out when the earlier ones are answered or given up, and the stored responses are in
order. -/
theorem session_coherent {evs : List (Time × Event)} {e : Established} {w : Handshake}
    (hrun : run cfg method evs h = .established e w) :
    e.state = w.state ∧ e.state.HandedOff ∧ e.state.HasAddress ∧
      3 ≤ e.state.nextRequestMessageID.toNat ∧
      e.state.nextRequestMessageID.toNat ≤ maxEAPRounds + 2 ∧
      ∀ now world l, world.log = [] →
        Loop.Runs cfg.toConfig (fun _ _ l => l.actor.CanSeal cfg.toConfig)
          (Loop.start cfg.toConfig now e.state world) l →
        l.actor.state.Coherent ∧ Disciplined l.actor.world.log ∧
          Ordered l.actor.state.inboundHistory := by
  have hreach : (run cfg method evs h).Reaches 0 := reaches_run evs h
  rw [hrun] at hreach
  obtain ⟨hstate, hhanded, haddr, hids⟩ := hreach
  rw [hstate]
  refine ⟨rfl, hhanded, haddr, hids.1, hids.2, fun now world l hlog hruns => ?_⟩
  have hany : Loop.Runs cfg.toConfig (fun _ _ _ => True) (Loop.start cfg.toConfig now w.state world) l :=
    hruns.mono fun _ _ _ => trivial
  exact ⟨Loop.coherent_of_runs hhanded hruns, disciplined_of_runs hhanded hlog hany,
    (ordered_of_runs hhanded hany).1⟩

end Steps

section Sample

attribute [local instance] plainCrypto plainPki

/-- The datagrams of the complete handshake. -/
def sampleEvents (cfg : HandshakeConfig) : List (Time × Event) :=
  [(1, .packet (some (sampleResponse (start cfg sampleWorker : Outcome Unit).worker.state))),
    (2, .packet (some (onlyPacket
      (protectedResponse cfg.toConfig (sampleKeyed cfg).worker.state 1 eapParts)))),
    (3, .packet (some (onlyPacket (protectedResponse cfg.toConfig (sampleProven cfg).worker.state 2
      (finalResponseParts (sampleProven cfg).worker.state [0, 0, 0, 8])))))]

def Outcome.isEstablished {μ : Type} : Outcome μ → Bool
  | .established _ _ => true
  | _ => false

theorem Outcome.exists_established {μ : Type} {o : Outcome μ} (h : o.isEstablished = true) :
    ∃ e w, o = .established e w := by
  cases o with
  | established e w => exact ⟨e, w, rfl⟩
  | waiting stage w => cases h
  | failed e w => cases h

theorem sample_in_order : ∃ w w', Waits (.saInit 0 0 : Stage Unit) w ∧
    Waits (.eap () 1 true 0 : Stage Unit) w' := by
  have hstart : (run sampleHandshakeConfig sampleMethod [] sampleWorker).stage =
    some (.saInit 0 0) := by decide +kernel
  have hkeyed : (run sampleHandshakeConfig sampleMethod
    ([] ++ (sampleEvents sampleHandshakeConfig).take 1) sampleWorker).stage =
      some (.eap () 1 true 0) := by decide +kernel
  generalize (sampleEvents sampleHandshakeConfig).take 1 = evs at hkeyed
  obtain ⟨hw, hw', -⟩ :=
    handshake_in_order (Outcome.eq_waiting hstart) (Outcome.eq_waiting hkeyed)
  exact ⟨_, _, hw, hw'⟩

theorem sample_session : ∃ e w l, run sampleHandshakeConfig sampleMethod
    (sampleEvents sampleHandshakeConfig) sampleWorker = .established e w ∧ e.state.HandedOff ∧
      Loop.start sampleHandshakeConfig.toConfig 0 e.state sampleWorld = l ∧
      l.actor.state.Coherent := by
  have hestablished : (run sampleHandshakeConfig sampleMethod (sampleEvents sampleHandshakeConfig)
    sampleWorker).isEstablished = true := by decide +kernel
  generalize sampleEvents sampleHandshakeConfig = evs at hestablished ⊢
  obtain ⟨e, w, hrun⟩ := Outcome.exists_established hestablished
  obtain ⟨-, hhanded, -, -, -, hsession⟩ := session_coherent hrun
  exact ⟨e, w, _, hrun, hhanded, rfl, (hsession 0 sampleWorld _ rfl .refl).1⟩

end Sample

end Swan.Control.Handshake
