import Swan.Eap.MSCHAPv2
import Swan.Xcrypto.Instance

/-! # Soundness of EAP-MSCHAPv2

A run of the method is a sequence of calls of `handle`. `wp_handle` says what one call can do, and
`Tracks` what the calls so far say about the state of the method: the challenge state belongs to the
last challenge that was answered, and it expects no success packet any more only if one with the
authenticator of that answer was verified since. `complete_verified` follows: the method completes only
after that, with the key of the same answer, and never after a failure. -/

namespace Swan.Eap.MSCHAPv2

open Swan.Lib Swan.Xcrypto

/-- One call of `handle`. -/
structure Call where
  packet : Bytes
  result : Except Err Result

namespace Call

def Requests (c : Call) (eapID opcode mschapID : UInt8) (data : Bytes) : Prop :=
  ∃ l₁ l₀, parse c.packet =
    .ok ⟨codeRequest, eapID, typeMSCHAPV2, opcode :: mschapID :: l₁ :: l₀ :: data⟩

def AcceptsChallenge (c : Call) : Prop :=
  (∃ eapID mschapID data, c.Requests eapID opChallenge mschapID data) ∧
    ∃ resp, c.result = .ok (.send resp)

/-- The call verifies a success packet against an authenticator. -/
def Verifies (c : Call) (authHex : Bytes) : Prop :=
  (∃ eapID mschapID data, c.Requests eapID opSuccess mschapID data ∧
    verifySuccess data authHex = .ok ()) ∧ ∃ resp, c.result = .ok (.send resp)

/-- The packet of the call is a failure packet, of the outer or of the inner method. -/
def IsFailure (c : Call) : Prop :=
  (∃ p, parse c.packet = .ok p ∧ p.code = codeFailure) ∨
    ∃ eapID mschapID data, c.Requests eapID opFailure mschapID data

/-- The call answers the challenge `authChallenge`, to which the peer adds `peerChallenge`, with an
NT response. -/
def Answers [Digests] (c : Call) (m : Method) (peerChallenge authChallenge ntResponse : Bytes) :
    Prop :=
  ∃ eapID mschapID data resp, c.Requests eapID opChallenge mschapID data ∧
    authChallenge = slice data 1 (1 + challengeLen) ∧
    ntResponse = generateNTResponse peerChallenge authChallenge (extractUsername m.identity)
      m.password ∧
    buildResponse eapID mschapID peerChallenge ntResponse m.identity = .ok resp ∧
    c.result = .ok (.send resp)

theorem Requests.unique {c : Call} {e e' o o' i i' : UInt8} {d d' : Bytes}
    (h : c.Requests e o i d) (h' : c.Requests e' o' i' d') : o = o' ∧ d = d' := by
  obtain ⟨l₁, l₀, h⟩ := h
  obtain ⟨l₁', l₀', h'⟩ := h'
  have heq := Except.ok.inj (h.symm.trans h')
  simp only [Packet.mk.injEq, List.cons.injEq] at heq
  exact ⟨heq.2.2.2.1, heq.2.2.2.2.2.2.2⟩

end Call

section Runs

variable [Digests]

/-- The challenge state that belongs to an NT response. -/
def ChallengeState.Of (st : ChallengeState) (m : Method)
    (peerChallenge authChallenge ntResponse : Bytes) : Prop :=
  st.authHex = generateAuthenticatorResponse peerChallenge authChallenge
      (extractUsername m.identity) m.password ntResponse ∧
    st.msk = generateMSK m.password ntResponse

/-! ### One call -/

def SameCredentials (m m' : Method) : Prop := m'.identity = m.identity ∧ m'.password = m.password

/-- What a call of `handle` can do. -/
inductive Handles (m : Method) : Call → Method → Prop
  /-- The call fails, for good. -/
  | fails {packet e} {m' : Method} (hid : SameCredentials m m') (hphase : m'.phase = .failed)
      (hstate : m'.state = m.state ∨ m'.state = none) : Handles m ⟨packet, .error e⟩ m'
  /-- A request that is not about the challenge is answered. -/
  | other {packet resp} {m' : Method} (hid : SameCredentials m m') (hok : m.phase ≠ .failed)
      (hstate : m'.state = m.state)
      (hno : ¬(Call.mk packet (.ok (.send resp))).AcceptsChallenge)
      (hf : ¬(Call.mk packet (.ok (.send resp))).IsFailure) :
      Handles m ⟨packet, .ok (.send resp)⟩ m'
  /-- A challenge is answered. -/
  | challenge {packet resp peer auth nt} {m' : Method} {st : ChallengeState}
      (hid : SameCredentials m m') (hok : m.phase ≠ .failed) (hstate : m'.state = some st)
      (hexp : st.expectingSuccess = true) (hof : st.Of m peer auth nt)
      (hans : (Call.mk packet (.ok (.send resp))).Answers m peer auth nt) :
      Handles m ⟨packet, .ok (.send resp)⟩ m'
  /-- A success packet is verified. -/
  | verified {packet resp} {m' : Method} {st : ChallengeState} (hid : SameCredentials m m')
      (hok : m.phase ≠ .failed) (hstate : m.state = some st)
      (hstate' : m'.state = some { st with expectingSuccess := false })
      (hver : (Call.mk packet (.ok (.send resp))).Verifies st.authHex) :
      Handles m ⟨packet, .ok (.send resp)⟩ m'
  /-- The method completes. -/
  | complete {packet} {m' : Method} {st : ChallengeState} (hid : SameCredentials m m')
      (hok : m.phase ≠ .failed) (hstate : m.state = some st) (hstate' : m'.state = m.state)
      (hexp : st.expectingSuccess = false)
      (hf : ¬(Call.mk packet (.ok (.complete st.msk))).IsFailure) :
      Handles m ⟨packet, .ok (.complete st.msk)⟩ m'

variable {mschapID eapID : UInt8} {s : Machine} {st : ChallengeState} {packet data : Bytes}
  {r : Except Err Result} {pkt : Packet} {c : Call} {m₀ m : Method} {cs : List Call}

omit [Digests] in
theorem state_of_currentChallenge {what : String} (h : currentChallenge what mschapID s = .ok st) :
    s.method.state = some st := by
  unfold currentChallenge at h
  split at h
  · cases h
  next st' hst =>
    split_ifs at h
    rw [hst, Except.ok.inj h]

/-- How a request for the inner method ends, when the actor was `m` before the call. -/
def Requested (m : Method) (packet : Bytes) (r : Except Err Bytes) (m' : Method) : Prop :=
  SameCredentials m m' ∧ match r with
    | .error e => (∀ t, e ≠ .panicked t) → m'.state = m.state ∨ m'.state = none
    | .ok resp => m.phase ≠ .failed → Handles m ⟨packet, .ok (.send resp)⟩ m'

theorem wp_onChallenge (s : Machine) (p : Phase)
    (hreq : ∀ r, (Call.mk packet r).Requests eapID opChallenge mschapID data) :
    (onChallenge eapID mschapID data).wp (fun r s' => Requested s.method packet r s'.method)
      (s.setPhase p) := by
  unfold onChallenge
  rw [Eff.wp_bind, Eff.wp_get, Eff.next_ok]
  refine Eff.wp_ite (fun _ => ⟨⟨rfl, rfl⟩, fun _ => .inl rfl⟩) fun _ =>
    Eff.wp_ite (fun _ => ⟨⟨rfl, rfl⟩, fun _ => .inl rfl⟩) fun _ =>
    Eff.wp_ite (fun _ => ⟨⟨rfl, rfl⟩, fun _ => .inl rfl⟩) fun _ => ?_
  rw [Eff.wp_bind, Eff.wp_attempt, Eff.wp_zoom]
  rcases hfill : (fill challengeLen).run (s.setPhase p).rng with ⟨r, g⟩
  refine Eff.wp_run hfill ?_
  cases r with
  | error e =>
    exact Eff.next_caught_error ⟨⟨rfl, rfl⟩, fun _ => .inl rfl⟩ ⟨⟨rfl, rfl⟩, fun _ => .inl rfl⟩
  | ok peer =>
    set nt := generateNTResponse peer (slice data 1 (1 + challengeLen))
      (extractUsername s.method.identity) s.method.password with hnt
    change Requested s.method packet (buildResponse eapID mschapID peer nt s.method.identity) _
    rcases hresp : buildResponse eapID mschapID peer nt s.method.identity with e | resp
    · obtain ⟨t, rfl⟩ := panicked_of_buildRequest hresp
      exact ⟨⟨rfl, rfl⟩, fun h => absurd rfl (h t)⟩
    · exact ⟨⟨rfl, rfl⟩, fun hok => .challenge ⟨rfl, rfl⟩ hok rfl rfl ⟨rfl, rfl⟩
        ⟨eapID, mschapID, data, resp, hreq _, rfl, hnt, hresp, rfl⟩⟩

theorem wp_onSuccess (s : Machine) (p : Phase)
    (hreq : ∀ r, (Call.mk packet r).Requests eapID opSuccess mschapID data) :
    (onSuccess eapID mschapID data).wp (fun r s' => Requested s.method packet r s'.method)
      (s.setPhase p) := by
  unfold onSuccess
  rw [Eff.wp_bind, Eff.wp_get, Eff.next_ok, Eff.wp_bind, Eff.wp_lift]
  rcases hst : currentChallenge "success" mschapID (s.setPhase p) with e | st
  · exact ⟨⟨rfl, rfl⟩, fun _ => .inl rfl⟩
  rw [Eff.next_ok, Eff.wp_bind, Eff.wp_lift]
  rcases hver : verifySuccess data st.authHex with e | u
  · exact ⟨⟨rfl, rfl⟩, fun _ => .inl rfl⟩
  rw [Eff.next_ok, Eff.wp_bind, Eff.wp_modify, Eff.next_ok, Eff.wp_lift]
  rcases hresp : buildSuccess eapID with e | resp
  · obtain ⟨t, rfl⟩ := panicked_of_buildRequest hresp
    exact ⟨⟨rfl, rfl⟩, fun h => absurd rfl (h t)⟩
  · exact ⟨⟨rfl, rfl⟩, fun hok => .verified ⟨rfl, rfl⟩ hok (state_of_currentChallenge hst) rfl
      ⟨⟨eapID, mschapID, data, hreq _, hver⟩, resp, rfl⟩⟩

theorem wp_onFailure (s : Machine) (p : Phase) :
    (onFailure mschapID data).wp (fun r s' => (∃ e, r = .error e) ∧
      Requested s.method packet r s'.method) (s.setPhase p) := by
  unfold onFailure
  rw [Eff.wp_bind, Eff.wp_get, Eff.next_ok, Eff.wp_bind, Eff.wp_lift]
  rcases currentChallenge "failure" mschapID (s.setPhase p) with e | st
  · exact ⟨⟨e, rfl⟩, ⟨rfl, rfl⟩, fun _ => .inl rfl⟩
  rw [Eff.next_ok, Eff.wp_bind, Eff.wp_lift]
  rcases parseFailureTokens data with e | u
  · exact ⟨⟨e, rfl⟩, ⟨rfl, rfl⟩, fun _ => .inl rfl⟩
  · exact ⟨⟨_, rfl⟩, ⟨rfl, rfl⟩, fun _ => .inr rfl⟩

/-- **A request for the inner method** is an answered challenge, a verified success packet, or an
error. -/
theorem wp_onRequest {payload : Bytes} (s : Machine) (p : Phase)
    (hparse : parse packet = .ok ⟨codeRequest, eapID, typeMSCHAPV2, payload⟩) :
    (onRequest eapID payload).wp (fun r s' => Requested s.method packet r s'.method)
      (s.setPhase p) := by
  unfold onRequest
  split
  next opcode mschapID l₁ l₀ data =>
    have hreq : ∀ r, (Call.mk packet r).Requests eapID opcode mschapID data :=
      fun r => ⟨l₁, l₀, hparse⟩
    refine Eff.wp_ite (fun _ => ⟨⟨rfl, rfl⟩, fun _ => .inl rfl⟩) fun _ =>
      Eff.wp_ite (fun hop => ?_) fun _ => Eff.wp_ite (fun hop => ?_) fun _ =>
      Eff.wp_ite (fun _ => Eff.wp_mono (wp_onFailure s p) fun _ _ h => h.2) fun _ =>
        ⟨⟨rfl, rfl⟩, fun _ => .inl rfl⟩
    · exact wp_onChallenge s p (hop ▸ hreq)
    · exact wp_onSuccess s p (hop ▸ hreq)
  · exact ⟨⟨rfl, rfl⟩, fun _ => .inl rfl⟩

omit [Digests] in
theorem not_requests {opcode : UInt8} (hparse : parse packet = .ok pkt)
    (hno : pkt.code ≠ codeRequest ∨ pkt.type ≠ typeMSCHAPV2) :
    ¬(Call.mk packet r).Requests eapID opcode mschapID data := by
  rintro ⟨l₁, l₀, h⟩
  obtain rfl := Except.ok.inj (hparse.symm.trans h)
  exact hno.elim (fun h => h rfl) fun h => h rfl

omit [Digests] in
theorem not_acceptsChallenge (hparse : parse packet = .ok pkt)
    (hno : pkt.code ≠ codeRequest ∨ pkt.type ≠ typeMSCHAPV2) :
    ¬(Call.mk packet r).AcceptsChallenge := by
  rintro ⟨⟨eapID, mschapID, data, h⟩, -⟩
  exact not_requests hparse hno h

omit [Digests] in
theorem not_isFailure (hparse : parse packet = .ok pkt) (hcode : pkt.code ≠ codeFailure)
    (hno : pkt.code ≠ codeRequest ∨ pkt.type ≠ typeMSCHAPV2) :
    ¬(Call.mk packet r).IsFailure := by
  rintro (⟨p, hp, hfail⟩ | ⟨eapID, mschapID, data, h⟩)
  · obtain rfl := Except.ok.inj (hparse.symm.trans hp)
    exact hcode hfail
  · exact not_requests hparse hno h

/-- **What a call can do**, unless it panics. -/
theorem wp_handle (packet : Bytes) (s : Machine) : (handle packet).wp (fun r s' =>
    (∀ t, r ≠ .error (.panicked t)) → Handles s.method ⟨packet, r⟩ s'.method) s := by
  have hfails : ∀ e : Err, (failWith e : Eff Machine Result).wp (fun r s' =>
      (∀ t, r ≠ .error (.panicked t)) → Handles s.method ⟨packet, r⟩ s'.method) s :=
    fun e _ => .fails ⟨rfl, rfl⟩ rfl (.inl rfl)
  unfold handle
  rw [Eff.wp_bind, Eff.wp_get, Eff.next_ok]
  refine Eff.wp_ite (fun hphase _ => .fails ⟨rfl, rfl⟩ hphase (.inl rfl)) fun hok => ?_
  rcases hparse : parse packet with e | pkt
  · exact hfails e
  -- a request that only asks for a fixed response
  have hfixed : ∀ {build : Except Err Bytes}, pkt.code = codeRequest → pkt.type ≠ typeMSCHAPV2 →
      (∀ e, build = .error e → ∃ t, e = .panicked t) →
      (Eff.modify (Machine.setPhase .negotiating) >>= fun _ => Result.send <$> Eff.lift build).wp
        (fun r s' => (∀ t, r ≠ .error (.panicked t)) → Handles s.method ⟨packet, r⟩ s'.method) s := by
    intro build hcode htype hbuild
    rw [Eff.wp_bind, Eff.wp_modify, Eff.next_ok]
    cases build with
    | error e =>
      obtain ⟨t, rfl⟩ := hbuild e rfl
      exact fun h => absurd rfl (h t)
    | ok resp =>
      exact fun _ => .other ⟨rfl, rfl⟩ hok rfl (not_acceptsChallenge hparse (.inr htype))
        (not_isFailure hparse (by rw [hcode]; decide) (.inr htype))
  dsimp only
  refine Eff.wp_ite (fun hcode => Eff.wp_ite (fun htype => ?_) fun _ =>
    Eff.wp_ite (fun htype => ?_) fun htype => ?_) fun hcode => ?_
  · exact hfixed hcode (by rw [htype]; decide) fun e => panicked_of_buildRequest
  · obtain ⟨code, eapID, type, payload⟩ := pkt
    obtain rfl : code = codeRequest := hcode
    obtain rfl : type = typeMSCHAPV2 := htype
    rw [Eff.wp_bind, Eff.wp_modify, Eff.next_ok, Eff.wp_bind, Eff.wp_attempt]
    refine Eff.wp_mono (wp_onRequest s _ hparse) fun r s' hr => ?_
    obtain ⟨hid, hr⟩ := hr
    cases r with
    | error e =>
      cases e with
      | panicked t => exact fun h => absurd rfl (h t)
      | _ => exact fun _ => .fails hid rfl (hr fun _ h => by cases h)
    | ok resp => exact fun _ => hr hok
  · exact hfixed hcode htype fun e => panicked_of_buildRequest
  refine Eff.wp_ite (fun hsuccess => ?_) fun _ => Eff.wp_ite (fun _ => hfails _) fun _ => hfails _
  cases hstate : s.method.state with
  | none => exact hfails _
  | some st =>
    refine Eff.wp_ite (fun _ => hfails _) fun hexp _ => ?_
    exact .complete ⟨rfl, rfl⟩ hok hstate rfl (Bool.not_eq_true _ ▸ hexp)
      (not_isFailure hparse (by rw [hsuccess]; decide) (.inl hcode))

theorem Call.Answers.congr {peer auth nt : Bytes} (h : c.Answers m peer auth nt)
    (hid : SameCredentials m₀ m) : c.Answers m₀ peer auth nt := by
  unfold Call.Answers at h ⊢
  rwa [hid.1, hid.2] at h

theorem ChallengeState.Of.congr {peer auth nt : Bytes} (h : st.Of m peer auth nt)
    (hid : SameCredentials m₀ m) : st.Of m₀ peer auth nt := by
  unfold ChallengeState.Of at h ⊢
  rwa [hid.1, hid.2] at h

/-! ### Runs -/

/-- The calls between an initialization and a state. A call that panics ends the run. -/
inductive Run (s₀ : Machine) : List Call → Machine → Prop
  | init : Run s₀ [] s₀
  | call {cs : List Call} {s s' : Machine} {packet : Bytes} {r : Except Err Result}
      (h : Run s₀ cs s) (hrun : (handle packet).run s = (r, s'))
      (hp : ∀ t, r ≠ .error (.panicked t)) : Run s₀ (cs ++ [⟨packet, r⟩]) s'

/-- A challenge state belongs to the last challenge that was accepted, and it expects no success
packet only if one was verified since. -/
def AnsweredBy (m : Method) (cs : List Call) (st : ChallengeState) : Prop :=
  ∃ before c after peer auth nt, cs = before ++ c :: after ∧ c.Answers m peer auth nt ∧
    (∀ d ∈ after, ¬d.AcceptsChallenge) ∧ st.Of m peer auth nt ∧
    (st.expectingSuccess = false → ∃ d ∈ after, d.Verifies st.authHex)

/-- What the calls so far say about the method. -/
structure Tracks (m₀ : Method) (cs : List Call) (m : Method) : Prop where
  credentials : SameCredentials m₀ m
  failed : ∀ c ∈ cs, c.IsFailure ∨ (∃ e, c.result = .error e) → m.phase = .failed
  answered : ∀ st, m.state = some st → AnsweredBy m₀ cs st

theorem AnsweredBy.extend {d : Call} (h : AnsweredBy m cs st) (hd : ¬d.AcceptsChallenge) :
    AnsweredBy m (cs ++ [d]) st := by
  obtain ⟨before, c, after, peer, auth, nt, rfl, hans, hlast, hof, hver⟩ := h
  refine ⟨before, c, after ++ [d], peer, auth, nt, by simp, hans, ?_, hof, ?_⟩
  · intro e he
    rcases List.mem_append.mp he with he | he
    · exact hlast e he
    · rw [List.mem_singleton.mp he]
      exact hd
  · intro hexp
    obtain ⟨e, he, hv⟩ := hver hexp
    exact ⟨e, List.mem_append_left _ he, hv⟩

omit [Digests] in
theorem Call.Requests.not_isFailure {opcode : UInt8} (h : c.Requests eapID opcode mschapID data)
    (ho : opcode ≠ opFailure) : ¬c.IsFailure := by
  rintro (⟨p, hp, hfail⟩ | ⟨_, _, _, h'⟩)
  · obtain ⟨l₁, l₀, h⟩ := h
    rw [← Except.ok.inj (h.symm.trans hp)] at hfail
    exact absurd hfail (show codeRequest ≠ codeFailure by decide)
  · exact ho (h.unique h').1

omit [Digests] in
theorem Call.Verifies.not_acceptsChallenge {authHex : Bytes} (h : c.Verifies authHex) :
    ¬c.AcceptsChallenge := by
  rintro ⟨⟨_, _, _, hreq⟩, -⟩
  obtain ⟨⟨_, _, _, hreq', -⟩, -⟩ := h
  exact absurd (hreq.unique hreq').1 (by decide)

/-- **One more call.** -/
theorem Tracks.call {m' : Method} (h : Tracks m₀ cs m) (hc : Handles m c m') :
    Tracks m₀ (cs ++ [c]) m' := by
  have hcreds : ∀ {m' : Method}, SameCredentials m m' → SameCredentials m₀ m' := fun hid =>
    ⟨hid.1.trans h.credentials.1, hid.2.trans h.credentials.2⟩
  -- a call that succeeds comes after calls that succeeded
  have hnone : m.phase ≠ .failed → ¬(c.IsFailure ∨ ∃ e, c.result = .error e) →
      ∀ d ∈ cs ++ [c], ¬(d.IsFailure ∨ ∃ e, d.result = .error e) := by
    intro hok hno d hd hbad
    rcases List.mem_append.mp hd with hd | hd
    · exact hok (h.failed d hd hbad)
    · rw [List.mem_singleton.mp hd] at hbad
      exact hno hbad
  cases hc with
  | fails hid hphase hstate =>
    refine ⟨hcreds hid, fun _ _ _ => hphase, fun st hst => ?_⟩
    rcases hstate with hsame | hgone
    · exact (h.answered st (hsame ▸ hst)).extend fun hacc => by cases hacc.2 with | _ _ he => cases he
    · rw [hgone] at hst
      cases hst
  | other hid hok hstate hno hf =>
    refine ⟨hcreds hid, fun d hd hbad => absurd hbad (hnone hok ?_ d hd), fun st hst => ?_⟩
    · exact fun hbad => hbad.elim hf fun ⟨e, he⟩ => by cases he
    · exact (h.answered st (hstate ▸ hst)).extend hno
  | @challenge packet resp peer auth nt m' st hid hok hstate hexp hof hans =>
    have hreq := hans
    obtain ⟨_, _, _, _, hreq, -⟩ := hreq
    refine ⟨hcreds hid, fun d hd hbad => absurd hbad (hnone hok ?_ d hd), fun st' hst' => ?_⟩
    · exact fun hbad => hbad.elim (hreq.not_isFailure (by decide)) fun ⟨e, he⟩ => by cases he
    · obtain rfl := Option.some.inj (hstate.symm.trans hst')
      refine ⟨cs, _, [], peer, auth, nt, rfl, hans.congr h.credentials, by simp,
        hof.congr h.credentials, fun hno => ?_⟩
      rw [hexp] at hno
      cases hno
  | @verified packet resp m' st hid hok hstate hstate' hver =>
    have hreq := hver
    obtain ⟨⟨_, _, _, hreq, -⟩, -⟩ := hreq
    refine ⟨hcreds hid, fun d hd hbad => absurd hbad (hnone hok ?_ d hd), fun st' hst' => ?_⟩
    · exact fun hbad => hbad.elim (hreq.not_isFailure (by decide)) fun ⟨e, he⟩ => by cases he
    · obtain rfl := Option.some.inj (hstate'.symm.trans hst')
      obtain ⟨before, d, after, peer, auth, nt, rfl, hans, hlast, hof, -⟩ := h.answered st hstate
      refine ⟨before, d, after ++ [_], peer, auth, nt, by simp, hans, fun e he => ?_, hof,
        fun _ => ⟨_, List.mem_append_right _ (List.mem_singleton_self _), hver⟩⟩
      rcases List.mem_append.mp he with he | he
      · exact hlast e he
      · rw [List.mem_singleton.mp he]
        exact hver.not_acceptsChallenge
  | complete hid hok hstate hstate' hexp hf =>
    refine ⟨hcreds hid, fun d hd hbad => absurd hbad (hnone hok ?_ d hd), fun st hst => ?_⟩
    · exact fun hbad => hbad.elim hf fun ⟨e, he⟩ => by cases he
    · exact (h.answered st (hstate' ▸ hst)).extend fun hacc => by cases hacc.2 with | _ _ he => cases he

theorem Run.next {s₀ : Machine} (h : Run s₀ cs s) (packet : Bytes)
    (hok : ((handle packet).run s).1.toBool = true) :
    Run s₀ (cs ++ [⟨packet, ((handle packet).run s).1⟩]) ((handle packet).run s).2 := by
  refine h.call rfl fun t ht => ?_
  rw [ht] at hok
  cases hok

theorem Run.tracks {s₀ : Machine} (h : Run s₀ cs s) (hstate : s₀.method.state = none) :
    Tracks s₀.method cs s.method := by
  induction h with
  | init =>
    refine ⟨⟨rfl, rfl⟩, fun c hc => (by cases hc), fun st hst => ?_⟩
    rw [hstate] at hst
    cases hst
  | call _ hrun hp ih => exact ih.call (Eff.wp_of_run (wp_handle _ _) hrun hp)

omit [Digests] in
theorem state_fresh (h : m₀.initialize = .ok m) : m.state = none := by
  unfold Method.initialize at h
  split_ifs at h
  rw [← Except.ok.inj h]
  rfl

/-- **The method completes only after the server has proved itself**, with the key of the answer to
the last challenge: a success packet with the authenticator of that answer was verified since. After
a failure packet and after an error every call fails. -/
theorem complete_verified {m₀ m : Method} {rng : Rng} {cs : List Call} {s : Machine}
    (hinit : m₀.initialize = .ok m) (h : Run ⟨m, rng⟩ cs s) :
    (∀ packet msk, ((handle packet).run s).1 = .ok (.complete msk) →
      ∃ before c after peer auth nt, cs = before ++ c :: after ∧ c.Answers m peer auth nt ∧
        (∀ d ∈ after, ¬d.AcceptsChallenge) ∧
        (∃ d ∈ after, d.Verifies (generateAuthenticatorResponse peer auth
          (extractUsername m.identity) m.password nt)) ∧
        msk = generateMSK m.password nt) ∧
    ∀ c ∈ cs, c.IsFailure ∨ (∃ e, c.result = .error e) →
      ∀ packet, ∃ e, ((handle packet).run s).1 = .error e := by
  have htracks := h.tracks (state_fresh hinit)
  refine ⟨fun packet msk hresult => ?_, fun c hc hbad packet => ?_⟩
  · have hcall := wp_handle packet s
    rw [Eff.wp, hresult] at hcall
    cases hcall (by simp) with
    | @complete _ _ st _ _ hstate _ hexp =>
      obtain ⟨before, c, after, peer, auth, nt, hcs, hans, hlast, ⟨hauth, hmsk⟩, hver⟩ :=
        htracks.answered st hstate
      exact ⟨before, c, after, peer, auth, nt, hcs, hans, hlast, hauth ▸ hver hexp, hmsk⟩
  · refine ⟨.errorf "mschapv2 method is in failure state", ?_⟩
    unfold handle
    rw [Eff.run_bind_of_ok (Eff.run_get s), if_pos (htracks.failed c hc hbad)]
    rfl

end Runs

/-! ### A run that completes -/

section Sample

/-- Digests that keep the lengths and nothing else. -/
abbrev plainDigests : Digests where
  sha1 b := padTo 20 (checksum b :: b)
  length_sha1 _ := length_padTo 20 _
  des key block := padTo 8 (checksum key :: block)
  length_des _ _ := length_padTo 8 _

attribute [local instance] plainDigests

def sampleMethod : Method := ⟨ascii "user", ascii "pass", .negotiating, none⟩

def sampleMachine : Machine := ⟨sampleMethod, zeroRng⟩

/-- A request of the server for the inner method. -/
def sampleRequest (opcode : UInt8) (data : Bytes) : Bytes :=
  codeRequest :: 1 :: putUint16 (UInt16.ofNat (data.length + 9)) ++
    typeMSCHAPV2 :: opcode :: 7 :: putUint16 (UInt16.ofNat (data.length + 4)) ++ data

def sampleChallenge : Bytes := sampleRequest opChallenge (16 :: List.replicate 16 5 ++ ascii "srv")

def sampleChallenged : Machine := ((handle sampleChallenge).run sampleMachine).2

def sampleSuccess : Bytes :=
  sampleRequest opSuccess (ascii "S=" ++ (sampleChallenged.method.state.map
    ChallengeState.authHex).getD [] ++ ascii " M=ok")

def sampleVerified : Machine := ((handle sampleSuccess).run sampleChallenged).2

/-- A challenge, its authenticator and the outer success packet: the method completes with the key of
its answer. -/
theorem sample_complete_verified : ∃ msk peer auth nt,
    ((handle [codeSuccess, 2, 0, 4]).run sampleVerified).1 = .ok (.complete msk) ∧
    msk = generateMSK sampleMethod.password nt ∧
    nt = generateNTResponse peer auth (extractUsername sampleMethod.identity)
      sampleMethod.password := by
  have hrun := (Run.init.next (s := sampleMachine) sampleChallenge (by decide +kernel)).next
    sampleSuccess (by decide +kernel)
  obtain ⟨msk, hmsk⟩ : ∃ msk,
      ((handle [codeSuccess, 2, 0, 4]).run sampleVerified).1 = .ok (.complete msk) :=
    ⟨(sampleVerified.method.state.map ChallengeState.msk).getD [], by decide +kernel⟩
  have hinit : sampleMethod.initialize = .ok sampleMethod := by decide +kernel
  obtain ⟨-, c, -, peer, auth, nt, -, ⟨_, _, _, _, -, -, hnt, -⟩, -, -, hkey⟩ :=
    (complete_verified hinit hrun).1 _ msk hmsk
  exact ⟨msk, peer, auth, nt, hmsk, hkey, hnt⟩

end Sample

end Swan.Eap.MSCHAPv2
