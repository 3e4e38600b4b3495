import Swan.Eap.Peap

/-! # Completion of PEAP

What must have happened before the method completes: the tunnel stands and the identity of its server is
verified, the inner method has answered a challenge and verified the authenticator of that answer, and the
server has sent the inner and the outer success. `Reached` says for every phase what has happened before
it.

The method goes by the inner success of the server alone and does not ask the inner method whether it has
verified anything. `completes_in_order` is about the runs in which the server sends the inner success only
after the inner method has (`Proving`); `completes_unproven` is a run of the other kind. -/

namespace Swan.Eap.Peap

open Swan.Lib MSCHAPv2

section Completion

variable {E : Type}

/-! ### What the parts of the method leave alone -/

def Keeps (m m' : Machine E) : Prop := m'.phase = m.phase ∧ m'.inner = m.inner ∧ m'.events = m.events

instance : Std.Refl (@Keeps E) := ⟨fun _ => ⟨rfl, rfl, rfl⟩⟩

instance : IsTrans (Machine E) Keeps := ⟨fun _ _ _ h₁ h₂ =>
  ⟨h₂.1.trans h₁.1, h₂.2.1.trans h₁.2.1, h₂.2.2.trans h₁.2.2⟩⟩

variable {α : Type} {m₀ : MSCHAPv2.Method} {m m' : Machine E} {packet : Bytes}

theorem keeps_onTLS (x : Eff E α) : (onTLS x).Within Keeps :=
  Eff.within_zoomPart fun _ _ => ⟨rfl, rfl, rfl⟩

theorem keeps_onTLSf (text : String) (x : Eff E α) : (onTLSf text x).Within Keeps :=
  (keeps_onTLS x).attempt.bind fun r => by
    cases r with
    | error e => exact Eff.within_fail _
    | ok a => exact Eff.within_pure a

theorem keeps_onOut (missing : Err) (x : Eff OutboundFragmenter α) :
    (onOut (E := E) missing x).Within Keeps := Eff.within_zoomPart fun _ _ => ⟨rfl, rfl, rfl⟩

/-! ### What has happened before a phase -/

def opened (calls : List Call) : List Event := [.established, .identified] ++ calls.map .inner

variable [Digests]

/-- The inner method has answered a challenge and verified the authenticator of that answer since. -/
def Proven (m₀ : MSCHAPv2.Method) (calls : List Call) : Prop :=
  ∃ before c after peer auth nt, calls = before ++ c :: after ∧ c.Answers m₀ peer auth nt ∧
    (∀ d ∈ after, ¬d.AcceptsChallenge) ∧
    ∃ d ∈ after, d.Verifies (generateAuthenticatorResponse peer auth (extractUsername m₀.identity)
      m₀.password nt)

inductive Reached (m₀ : MSCHAPv2.Method) : Phase → Option MSCHAPv2.Method → List Event → Prop
  | outerIdentity : Reached m₀ .outerIdentity (some m₀) []
  | tlsTunnel : Reached m₀ .tlsTunnel (some m₀) []
  | innerMethod {calls inner} (h : Tracks m₀ calls inner) :
      Reached m₀ .innerMethod (some inner) (opened calls)
  | awaitingOuterSuccess {calls inner} (h : Proven m₀ calls) :
      Reached m₀ .awaitingOuterSuccess inner (opened calls ++ [.innerSuccess])
  | awaitingOuterFailure {inner events} : Reached m₀ .awaitingOuterFailure inner events
  | completed {calls inner} (h : Proven m₀ calls) :
      Reached m₀ .completed inner (opened calls ++ [.innerSuccess, .outerSuccess])
  | failed {inner events} : Reached m₀ .failed inner events

def Machine.At (m₀ : MSCHAPv2.Method) (m : Machine E) : Prop := Reached m₀ m.phase m.inner m.events

/-- How a call ends that returns a result. -/
def Good (m₀ : MSCHAPv2.Method) (r : Except Err Result) (m : Machine E) : Prop :=
  ∀ res, r = .ok res → m.At m₀ ∧ ∀ msk, res = .complete msk → m.phase = .completed

theorem good_error (e : Err) (m : Machine E) : Good m₀ (.error e) m :=
  fun _ h => nomatch h

theorem Machine.At.keeps (h : m.At m₀) (hk : Keeps m m') :
    m'.At m₀ := by
  unfold Machine.At at h ⊢
  rw [hk.1, hk.2.1, hk.2.2]
  exact h

theorem Machine.At.of_tlsTunnel (h : m.At m₀) (hphase : m.phase = .tlsTunnel) :
    m.inner = some m₀ ∧ m.events = [] := by
  unfold Machine.At at h
  rw [hphase] at h
  generalize hinner : m.inner = i at h
  generalize hevents : m.events = ev at h
  cases h with
  | tlsTunnel => exact ⟨rfl, rfl⟩

theorem Machine.At.of_innerMethod (h : m.At m₀) (hphase : m.phase = .innerMethod) :
    ∃ calls inner, Tracks m₀ calls inner ∧ m.inner = some inner ∧
      m.events = opened calls := by
  unfold Machine.At at h
  rw [hphase] at h
  generalize hinner : m.inner = i at h
  generalize hevents : m.events = ev at h
  cases h with
  | innerMethod htracks => exact ⟨_, _, htracks, rfl, rfl⟩

theorem Machine.At.start (h : m.At m₀) (hphase : m.phase = .outerIdentity) :
    ({ m with phase := .tlsTunnel } : Machine E).At m₀ := by
  unfold Machine.At at h ⊢
  rw [hphase] at h
  dsimp only
  generalize m.inner = i at h ⊢
  generalize m.events = ev at h ⊢
  cases h with
  | outerIdentity => exact .tlsTunnel

theorem Machine.At.of_awaitingOuterSuccess (h : m.At m₀) (hphase : m.phase = .awaitingOuterSuccess)
    :
    ∃ calls, Proven m₀ calls ∧ m.events = opened calls ++ [.innerSuccess] := by
  unfold Machine.At at h
  rw [hphase] at h
  generalize m.inner = i at h
  generalize hevents : m.events = ev at h
  cases h with
  | awaitingOuterSuccess hproven => exact ⟨_, hproven, rfl⟩

theorem Machine.At.of_completed (h : m.At m₀) (hphase : m.phase = .completed) :
    ∃ calls, m.events = opened calls ++ [.innerSuccess, .outerSuccess] ∧ Proven m₀ calls := by
  unfold Machine.At at h
  rw [hphase] at h
  generalize m.inner = i at h
  generalize hevents : m.events = ev at h
  cases h with
  | completed hproven => exact ⟨_, rfl, hproven⟩

theorem good_send (h : m.At m₀) (r : Except Err Bytes) :
    (Result.send <$> (Eff.lift r : Eff (Machine E) Bytes)).wp (Good m₀) m := by
  cases r with
  | error e => exact good_error e m
  | ok resp =>
    intro res hres
    obtain rfl := Except.ok.inj hres
    exact ⟨h, fun msk hmsk => nomatch hmsk⟩

theorem good_emit (h : m.At m₀) (id : UInt8) (missing : Err)
    (x : Eff OutboundFragmenter (Bytes × Bool)) :
    (onOut missing x >>= fun frag => Result.send <$> Eff.lift (encodePeapResponse id frag.1)).wp
      (Good m₀) m :=
  Eff.wp_within_bind (refl_of Keeps m) (keeps_onOut missing x) (fun e m' _ => good_error e m')
    fun _ _ hk => good_send (h.keeps hk) _

theorem good_emitFragmentedOrSingle (h : m.At m₀) (id : UInt8) (payload : Bytes) (baseFlags : UInt8)
    :
    (emitFragmentedOrSingle id payload baseFlags).wp (Good m₀) m := good_emit h id _ _

theorem good_of_run {x : Eff (Machine E) Result} (h : ∀ res m', x.run m = (.ok res, m') →
      m'.At m₀ ∧ ∀ msk, res = .complete msk → m'.phase = .completed) : x.wp (Good m₀) m :=
  fun res hres => h res (x.run m).2 (Prod.ext hres rfl)

/-! ### The inner success -/

/-- The inner method has verified the authenticator of its last answer. -/
def Method.verified (m : Method E) : Bool :=
  (m.inner.bind MSCHAPv2.Method.state).any fun st => st.expectingSuccess = false

theorem proven_of_verified {inner : MSCHAPv2.Method} {calls : List Call}
    (htracks : Tracks m₀ calls inner) (hinner : m.inner = some inner)
    (hverified : m.verified = true) :
    Proven m₀ calls := by
  unfold Method.verified at hverified
  rw [hinner, Option.bind_some, Option.any_eq_true] at hverified
  obtain ⟨st, hst, hexp⟩ := hverified
  obtain ⟨before, c, after, peer, auth, nt, hcalls, hans, hlast, hof, hver⟩ := htracks.answered st hst
  exact ⟨before, c, after, peer, auth, nt, hcalls, hans, hlast, hof.1 ▸ hver (of_decide_eq_true hexp)⟩

theorem run_handleByInner {inner : MSCHAPv2.Method} {calls : List Call} {res : Result}
    (htracks : Tracks m₀ calls inner) (hinner : m.inner = some inner)
    (hevents : m.events = opened calls) (hrun : (handleByInner packet).run m = (.ok res, m')) :
    m'.phase = m.phase ∧ ∃ calls' inner', Tracks m₀ calls' inner' ∧ m'.inner = some inner' ∧
      m'.events = opened calls' := by
  rcases hcall : (MSCHAPv2.handle packet).run ⟨inner, m.rng⟩ with ⟨r, s⟩
  have hrun' : (handleByInner packet).run m = (r, { m with
      inner := some s.method, rng := s.rng, events := m.events ++ [.inner ⟨packet, r⟩] }) := by
    simp only [handleByInner, Eff.run, hinner]
    rw [show MSCHAPv2.handle packet ⟨inner, m.rng⟩ = (r, s) from hcall]
  obtain ⟨rfl, rfl⟩ := Prod.mk.inj (hrun.symm.trans hrun')
  have hhandles := Eff.wp_of_run (wp_handle packet ⟨inner, m.rng⟩) hcall (by simp)
  refine ⟨rfl, calls ++ [⟨packet, .ok res⟩], s.method, htracks.call hhandles, rfl, ?_⟩
  simp [hevents, opened]

variable [Engine E]

/-- The inner packet that a packet of the server brings through the tunnel. -/
def innerRequest (m : Method E) (packet : Bytes) : Option Bytes := do
  let outer ← (parse packet).toOption
  let peap ← (parsePeapRequest outer.identifier outer.data).toOption
  let f ← m.pendingIn
  let record ← ((collectTLSRecord peap).run f).1.toOption.join
  let tls ← m.tls
  let plain ← ((Engine.unprotect record).run tls).1.toOption
  (decodeInnerRequest plain peap.identifier).toOption

/-- If the packet is the inner success, then the inner method has verified the server. -/
def Proving (m : Method E) (packet : Bytes) : Prop :=
  m.phase = .innerMethod → (innerRequest m packet).map (·.headD 0) = some codeSuccess → m.verified = true

instance (m : Method E) (packet : Bytes) : Decidable (Proving m packet) :=
  inferInstanceAs (Decidable (_ → _ → _))

/-! ### One call -/

theorem good_tunnelResponse (id : UInt8) (inner : Bytes) (next : Eff (Machine E) Unit)
    (hnext : ∀ m', Keeps m m' → next.wp (fun r m'' => r = .ok () → m''.At m₀) m') :
    (tunnelResponse id inner next).wp (Good m₀) m := by
  unfold tunnelResponse
  refine Eff.wp_within_bind (refl_of Keeps m) (Eff.within_lift _) (fun e m' _ => good_error e m')
    fun tunneled m₁ h₁ => Eff.wp_within_bind h₁ (keeps_onTLS _) (fun e m' _ => good_error e m')
    fun encrypted m₂ h₂ => ?_
  rw [Eff.wp_bind]
  refine Eff.wp_mono (hnext m₂ h₂) fun r m₃ h₃ => ?_
  cases r with
  | error e => exact good_error e m₃
  | ok u => exact good_emitFragmentedOrSingle (h₃ rfl) id encrypted 0

theorem wp_enterInnerMethod (hfresh : m₀.reset = m₀) (hinner : m.inner = some m₀)
    (hevents : m.events = []) :
    enterInnerMethod.wp (fun r m' => r = .ok () → m'.At m₀) m := by
  unfold enterInnerMethod note setPhase
  rw [Eff.wp_bind, Eff.wp_modify, Eff.next_ok, Eff.wp_bind, Eff.wp_get, Eff.next_ok]
  refine Eff.wp_within_bind (refl_of Keeps _) (keeps_onTLS _) (fun e m' _ h => nomatch h)
    fun _ m₁ hk => ?_
  rw [Eff.wp_bind, Eff.wp_modify, Eff.next_ok, Eff.wp_bind, Eff.wp_modify, Eff.next_ok]
  have hinner₁ : m₁.inner = some m₀ := hk.2.1.trans hinner
  have hevents₁ : m₁.events = [.established] := by rw [hk.2.2, hevents]; rfl
  unfold initializeInner
  rw [Eff.wp_bind, Eff.wp_get, Eff.next_ok]
  dsimp only
  rw [hinner₁, Eff.wp_bind, Eff.wp_lift]
  rcases hinit : m₀.initialize with e | inner
  · exact fun h => nomatch h
  · intro _
    have hinner' : inner = m₀ := by
      unfold Method.initialize at hinit
      split_ifs at hinit
      rw [← Except.ok.inj hinit, hfresh]
    have hnone : m₀.state = none := by rw [← hfresh]; rfl
    have htracks : Tracks m₀ [] m₀ := (Run.init : Run ⟨m₀, m₁.rng⟩ [] _).tracks hnone
    have hreached : Reached m₀ .innerMethod (some inner) (m₁.events ++ [.identified]) := by
      rw [hinner', hevents₁]
      exact .innerMethod htracks
    exact hreached

theorem wp_enterIfEstablished (hfresh : m₀.reset = m₀) (hphase : m.phase = .tlsTunnel) (h : m.At m₀)
    :
    enterIfEstablished.wp (fun r m' => r = .ok () → m'.At m₀) m := by
  obtain ⟨hinner, hevents⟩ := h.of_tlsTunnel hphase
  unfold enterIfEstablished
  rw [Eff.wp_bind, Eff.wp_get, Eff.next_ok, if_pos hphase]
  refine Eff.wp_within_bind (refl_of Keeps m) (keeps_onTLS _) (fun e m' _ h => nomatch h)
    fun established m₁ hk => ?_
  unfold Eff.when
  refine Eff.wp_ite (fun _ => ?_) fun _ _ => h.keeps hk
  exact wp_enterInnerMethod hfresh (hk.2.1.trans hinner) (hk.2.2.trans hevents)

theorem good_useHandshake (hfresh : m₀.reset = m₀) (hphase : m.phase = .tlsTunnel) (h : m.At m₀)
    (id : UInt8) (record : Bytes) :
    (useHandshake id record).wp (Good m₀) m := by
  unfold useHandshake
  refine Eff.wp_within_bind (refl_of Keeps m) (keeps_onTLSf _ _) (fun e m' _ => good_error e m')
    fun step m₁ hk => ?_
  have h₁ : m₁.At m₀ := h.keeps hk
  have hphase₁ : m₁.phase = .tlsTunnel := hk.1.trans hphase
  obtain ⟨hinner, hevents⟩ := h₁.of_tlsTunnel hphase₁
  unfold onTLSStep
  cases step.2 with
  | needMoreData => exact good_send h₁ _
  | outbound =>
    dsimp only
    rw [Eff.wp_bind]
    refine Eff.wp_mono (wp_enterIfEstablished hfresh hphase₁ h₁) fun r m₂ h₂ => ?_
    cases r with
    | error e => exact good_error e m₂
    | ok u => exact good_emitFragmentedOrSingle (h₂ rfl) id step.1 0
  | established =>
    dsimp only
    rw [Eff.wp_bind]
    refine Eff.wp_mono (wp_enterInnerMethod hfresh hinner hevents) fun r m₂ h₂ => ?_
    cases r with
    | error e => exact good_error e m₂
    | ok u => exact good_send (h₂ rfl) _

/-- **A packet of the inner method.** The inner success of the server is only good if the inner method has
verified the server. -/
theorem good_handleInnerMethod (hphase : m.phase = .innerMethod) (h : m.At m₀) (id : UInt8)
    (plain : Bytes)
    (hproof : ∀ req, decodeInnerRequest plain id = .ok req → req.headD 0 = codeSuccess →
      m.verified = true) : (handleInnerMethod id plain).wp (Good m₀) m := by
  obtain ⟨calls, inner, htracks, hinner, hevents⟩ := h.of_innerMethod hphase
  unfold handleInnerMethod
  rw [Eff.wp_bind, Eff.wp_lift]
  rcases hdecode : decodeInnerRequest plain id with e | req
  · exact good_error e m
  rw [Eff.next_ok]
  refine Eff.wp_ite (fun hsuccess => ?_) fun _ => Eff.wp_ite (fun _ => ?_) fun _ => ?_
  · unfold note
    rw [Eff.wp_bind, Eff.wp_modify, Eff.next_ok]
    refine good_tunnelResponse id req _ fun m₁ hk _ => ?_
    have hproven := proven_of_verified htracks hinner (hproof req hdecode hsuccess)
    have hevents₁ : m₁.events = opened calls ++ [.innerSuccess] := by rw [hk.2.2, ← hevents]
    have hreached : Reached m₀ .awaitingOuterSuccess m₁.inner m₁.events := by
      rw [hevents₁]
      exact .awaitingOuterSuccess hproven
    exact hreached
  · exact good_tunnelResponse id req _ fun m₁ _ _ => .awaitingOuterFailure
  · refine good_of_run fun res m' hrun => ?_
    obtain ⟨r, m₁, hcall, hrest⟩ := Eff.run_bind_ok hrun
    obtain ⟨hphase₁, calls', inner', htracks', hinner', hevents'⟩ :=
      run_handleByInner htracks hinner hevents hcall
    have h₁ : m₁.At m₀ := by
      unfold Machine.At
      rw [hphase₁, hphase, hinner', hevents']
      exact .innerMethod htracks'
    cases r with
    | complete msk => cases hrest
    | send response =>
      have hsent := good_tunnelResponse id response (pure ()) fun m₂ hk _ => h₁.keeps hk
      exact Eff.wp_of_run hsent hrest res rfl

def Brings (m : Method E) (peap : PeapRequest) (req : Bytes) : Prop :=
  ∃ f record f' tls plain tls', m.pendingIn = some f ∧
    (collectTLSRecord peap).run f = (.ok (some record), f') ∧ m.tls = some tls ∧
    (Engine.unprotect record).run tls = (.ok plain, tls') ∧
    decodeInnerRequest plain peap.identifier = .ok req

omit [Digests] in
theorem innerRequest_of_brings {m : Method E} {req : Bytes} {outer : Packet} {peap : PeapRequest}
    (hparse : parse packet = .ok outer)
    (hpeap : parsePeapRequest outer.identifier outer.data = .ok peap) (h : Brings m peap req) :
    innerRequest m packet = some req := by
  obtain ⟨f, record, f', tls, plain, tls', hf, hrecord, htls, hplain, hdecode⟩ := h
  simp [innerRequest, hparse, hpeap, hf, hrecord, htls, hplain, hdecode, Except.toOption]

omit [Digests] [Engine E] in
theorem run_onTLSf_ok {text : String} {x : Eff E α} {a : α}
    (h : (onTLSf text x).run m = (.ok a, m')) :
    ∃ tls tls', m.tls = some tls ∧ x.run tls = (.ok a, tls') := by
  obtain ⟨r, m₁, hattempt, hrest⟩ := Eff.run_bind_ok h
  cases r with
  | error e => cases hrest
  | ok a' =>
    obtain ⟨rfl, rfl⟩ : a' = a ∧ m₁ = m' := by
      obtain ⟨h₁, h₂⟩ := Prod.mk.inj hrest
      exact ⟨Except.ok.inj h₁, h₂⟩
    obtain ⟨tls, tls', htls, hx, -⟩ := Eff.run_zoomPart_ok (Eff.run_attempt_ok hattempt)
    exact ⟨tls, tls', htls, hx⟩

theorem good_useTunneled (hphase : m.phase = .innerMethod) (h : m.At m₀) (id : UInt8)
    (record : Bytes) (hproof : ∀ tls plain tls' req, m.tls = some tls →
      (Engine.unprotect record).run tls = (.ok plain, tls') → decodeInnerRequest plain id = .ok req →
      req.headD 0 = codeSuccess → m.verified = true) : (useTunneled id record).wp (Good m₀) m := by
  refine good_of_run fun res m' hrun => ?_
  obtain ⟨plain, m₁, hunprotect, hk, hrest⟩ := (keeps_onTLSf _ _).run_bind_ok hrun
  obtain ⟨tls, tls', htls, hplain⟩ := run_onTLSf_ok hunprotect
  by_cases hempty : plain.length = 0
  · rw [if_pos hempty] at hrest
    cases hrest
  · rw [if_neg hempty] at hrest
    have hverified : m₁.verified = m.verified := by unfold Method.verified; rw [hk.2.1]
    have hgood := good_handleInnerMethod (hk.1.trans hphase) (h.keeps hk) id plain fun req hdecode hsuccess =>
      hverified.trans (hproof tls plain tls' req htls hplain hdecode hsuccess)
    exact Eff.wp_of_run hgood hrest res rfl

omit [Engine E] in
theorem good_inTunnel (h : m.At m₀) (what : String) (use : UInt8 → Bytes → Eff (Machine E) Result)
    (outer : Packet) (peap : Option PeapRequest)
    (huse : ∀ req record m' f f', peap = some req → m.pendingIn = some f →
      (collectTLSRecord req).run f = (.ok (some record), f') → m' = { m with pendingIn := some f' } →
      (use req.identifier record).wp (Good m₀) m') :
    (inTunnel what use outer peap).wp (Good m₀) m := by
  unfold inTunnel
  refine Eff.wp_ite (fun _ => good_error _ m) fun _ => Eff.wp_ite (fun _ => good_error _ m) fun _ =>
    Eff.wp_ite (fun _ => good_error _ m) fun _ => ?_
  cases peap with
  | none => exact good_error _ m
  | some req =>
    dsimp only
    refine Eff.wp_ite (fun _ => good_error _ m) fun _ => Eff.wp_ite (fun _ => good_send h _) fun _ => ?_
    refine good_of_run fun res m' hrun => ?_
    obtain ⟨whole, m₁, hcollect, hrest⟩ := Eff.run_bind_ok hrun
    obtain ⟨f, f', hin, hpush, rfl⟩ := Eff.run_zoomPart_ok hcollect
    cases whole with
    | none =>
      have h₁ : ({ m with pendingIn := some f' } : Machine E).At m₀ := h.keeps ⟨rfl, rfl, rfl⟩
      exact Eff.wp_of_run (good_send h₁ _) hrest res rfl
    | some record => exact Eff.wp_of_run (huse req record _ f f' rfl hin hpush rfl) hrest res rfl

theorem good_inOuterIdentity (h : m.At m₀) (hphase : m.phase = .outerIdentity) (outer : Packet)
    (peap : Option PeapRequest) :
    (inOuterIdentity outer peap).wp (Good m₀) m := by
  unfold inOuterIdentity
  refine Eff.wp_ite (fun _ => ?_) fun _ => ?_
  · rw [Eff.wp_bind, Eff.wp_get, Eff.next_ok]
    exact good_send h _
  cases peap with
  | none => exact good_error _ m
  | some req =>
    dsimp only
    refine Eff.wp_ite (fun _ => good_error _ m) fun _ => Eff.wp_ite (fun _ => good_error _ m) fun _ => ?_
    unfold setPhase
    rw [Eff.wp_bind, Eff.wp_modify, Eff.next_ok]
    have h₁ : ({ m with phase := .tlsTunnel } : Machine E).At m₀ := h.start hphase
    exact Eff.wp_within_bind (refl_of Keeps _) (keeps_onTLSf _ _) (fun e m' _ => good_error e m')
      fun hello m₂ hk => good_emitFragmentedOrSingle (h₁.keeps hk) _ hello 0

theorem good_inAwaitingOuterSuccess (h : m.At m₀) (hphase : m.phase = .awaitingOuterSuccess)
    (outer : Packet) :
    (inAwaitingOuterSuccess outer).wp (Good m₀) m := by
  unfold inAwaitingOuterSuccess
  refine Eff.wp_ite (fun _ => ?_) fun _ => Eff.wp_ite (fun _ => good_error _ m) fun _ => good_error _ m
  refine Eff.wp_within_bind (refl_of Keeps m) (keeps_onTLS _) (fun e m' _ => good_error e m')
    fun msk m₁ hk => ?_
  obtain ⟨calls, hproven, hevents⟩ := (h.keeps hk).of_awaitingOuterSuccess (hk.1.trans hphase)
  rw [Eff.wp_bind, Eff.wp_modify, Eff.next_ok]
  intro res hres
  have hreached : Reached m₀ .completed m₁.inner (m₁.events ++ [.outerSuccess]) := by
    rw [hevents, List.append_assoc]
    exact .completed hproven
  exact ⟨hreached, fun _ _ => rfl⟩

/-- **The phases.** -/
theorem good_inPhase (hfresh : m₀.reset = m₀) (h : m.At m₀) (outer : Packet)
    (peap : Option PeapRequest)
    (hproof : m.phase = .innerMethod → ∀ preq req, peap = some preq → Brings m.toMethod preq req →
      req.headD 0 = codeSuccess → m.verified = true) : (inPhase outer peap).wp (Good m₀) m := by
  unfold inPhase
  rw [Eff.wp_bind, Eff.wp_get, Eff.next_ok]
  cases hphase : m.phase with
  | idle => exact good_error _ m
  | outerIdentity => exact good_inOuterIdentity h hphase outer peap
  | tlsTunnel =>
    refine good_inTunnel h _ _ outer peap fun req record m' f f' _ _ _ hm' => ?_
    have hk : Keeps m m' := hm' ▸ ⟨rfl, rfl, rfl⟩
    exact good_useHandshake hfresh (hk.1.trans hphase) (h.keeps hk) _ _
  | innerMethod =>
    refine good_inTunnel h _ _ outer peap fun req record m' f f' hreq hin hpush hm' => ?_
    have hk : Keeps m m' := hm' ▸ ⟨rfl, rfl, rfl⟩
    refine good_useTunneled (hk.1.trans hphase) (h.keeps hk) _ _ fun tls plain tls' ireq htls hplain hdecode
      hsuccess => ?_
    rw [hm'] at htls ⊢
    exact hproof hphase req ireq hreq ⟨f, record, f', tls, plain, tls', hin, hpush, htls, hplain, hdecode⟩
      hsuccess
  | awaitingOuterSuccess => exact good_inAwaitingOuterSuccess h hphase outer
  | awaitingOuterFailure =>
    dsimp only [inAwaitingOuterFailure]
    exact Eff.wp_ite (fun _ => good_error _ m) fun _ => Eff.wp_ite (fun _ => good_error _ m) fun _ =>
      good_error _ m
  | completed =>
    cases m.msk with
    | none => exact good_error _ m
    | some msk => exact fun res hres => ⟨h, fun _ _ => hphase⟩
  | failed => exact good_error _ m

theorem good_handleInner (hfresh : m₀.reset = m₀) (h : m.At m₀) (packet : Bytes)
    (hproof : Proving m.toMethod packet) : (handleInner packet).wp (Good m₀) m := by
  unfold handleInner
  rw [Eff.wp_bind, Eff.wp_lift]
  rcases hparse : parse packet with e | outer
  · exact good_error e m
  rw [Eff.next_ok, Eff.wp_bind, Eff.wp_get, Eff.next_ok]
  refine Eff.wp_ite (fun _ => good_error _ m) fun _ => Eff.wp_ite (fun _ => ?_) fun _ =>
    good_inPhase hfresh h outer none fun _ preq req hpreq => nomatch hpreq
  rw [Eff.wp_bind, Eff.wp_lift]
  rcases hpeap : parsePeapRequest outer.identifier outer.data with e | peap
  · exact good_error e m
  rw [Eff.next_ok]
  unfold paced
  rw [Eff.wp_bind, Eff.wp_modify, Eff.next_ok, Eff.wp_bind, Eff.wp_get, Eff.next_ok]
  have h₁ : ({ m with messages := m.messages + 1 } : Machine E).At m₀ := h.keeps ⟨rfl, rfl, rfl⟩
  refine Eff.wp_ite (fun _ => good_error _ _) fun _ => Eff.wp_ite (fun _ =>
    Eff.wp_ite (fun _ => good_error _ _) fun _ => good_emit h₁ _ _ _) fun _ => ?_
  refine good_inPhase hfresh h₁ outer (some peap) fun hphase preq req hpreq hbrings hsuccess => ?_
  obtain rfl := Option.some.inj hpreq
  have hbrings' : Brings m.toMethod peap req := hbrings
  refine hproof hphase ?_
  rw [innerRequest_of_brings hparse hpeap hbrings', Option.map_some, hsuccess]

/-- **One call.** -/
theorem At.handle {r : Except Err Result} (hfresh : m₀.reset = m₀) (h : m.At m₀)
    (hproof : Proving m.toMethod packet) (hrun : (Peap.handle packet).run m = (r, m'))
    (hpanic : ∀ t, r ≠ .error (.panicked t)) :
    m'.At m₀ ∧ ∀ msk, r = .ok (.complete msk) → m'.phase = .completed := by
  have hwp : (Peap.handle packet).wp (fun r m' => (∀ t, r ≠ .error (.panicked t)) →
      m'.At m₀ ∧ ∀ msk, r = .ok (.complete msk) → m'.phase = .completed) m := by
    unfold Peap.handle
    rw [Eff.wp_bind, Eff.wp_attempt]
    refine Eff.wp_mono (good_handleInner hfresh h packet hproof) fun r m₁ hgood => ?_
    cases r with
    | ok res =>
      intro _
      obtain ⟨hat, hcomplete⟩ := hgood res rfl
      exact ⟨hat, fun msk hmsk => hcomplete msk (Except.ok.inj hmsk)⟩
    | error e =>
      cases e with
      | panicked t => exact fun hno => absurd rfl (hno t)
      | _ => exact fun _ => ⟨.failed, fun msk hmsk => nomatch hmsk⟩
  exact Eff.wp_of_run hwp hrun hpanic

/-! ### Runs -/

/-- The states that calls lead to, if the server sends the inner success only after the inner method has
verified it. A call that panics ends the run. -/
inductive Runs (m₀ : Machine E) : Machine E → Prop
  | init : Runs m₀ m₀
  | call {m m' : Machine E} {packet : Bytes} {r : Except Err Result} (h : Runs m₀ m)
      (hproof : Proving m.toMethod packet) (hrun : (Peap.handle packet).run m = (r, m'))
      (hpanic : ∀ t, r ≠ .error (.panicked t)) : Runs m₀ m'

omit [Engine E] in
theorem at_init {newEngine : Bytes → Options → Except Err E} {m₀ : Machine E}
    (h : (newEngine |> Machine.initialize).run m₀ = (.ok (), m)) :
    m.At (MSCHAPv2.new m₀.identity m₀.password) := by
  replace h := Eff.run_get_bind_ok h
  split_ifs at h
  · cases h
  · cases h
  · cases h
  · cases h
  replace h := Eff.run_modify_bind_ok h
  replace h := Eff.run_get_bind_ok h
  obtain ⟨tls, htls, h⟩ := Eff.run_lift_bind_ok h
  replace h := Eff.run_modify_bind_ok h
  replace h := Eff.run_get_bind_ok h
  split_ifs at h
  · cases h
  · obtain ⟨-, rfl⟩ := Prod.mk.inj h
    exact .outerIdentity

theorem Runs.next {m₀ : Machine E} (h : Runs m₀ m) (packet : Bytes)
    (hproof : Proving m.toMethod packet) (hok : ((Peap.handle packet).run m).1.toBool = true) :
    Runs m₀ ((Peap.handle packet).run m).2 := by
  rcases hrun : (Peap.handle packet).run m with ⟨r, m'⟩
  rw [hrun] at hok
  refine h.call hproof hrun fun t ht => ?_
  rw [ht] at hok
  cases hok

theorem Runs.at (hfresh : m₀.reset = m₀) (hruns : Runs m m') (h : m.At m₀) : m'.At m₀ := by
  induction hruns with
  | init => exact h
  | call _ hproof hrun hpanic ih => exact (At.handle hfresh ih hproof hrun hpanic).1

/-- **The method completes after all that has to come before**, in this order: the handshake is reported
complete, the identity of the server is verified, the inner method answers a challenge and verifies the
authenticator of that answer, the server sends the inner success, and the outer success. -/
theorem completes_in_order (newEngine : Bytes → Options → Except Err E) (m₀ m m₁ m₂ : Machine E)
    (packet msk : Bytes) (hinit : (newEngine |> Machine.initialize).run m₀ = (.ok (), m)) (hruns : Runs m m₁)
    (hproof : Proving m₁.toMethod packet)
    (hcomplete : (Peap.handle packet).run m₁ = (.ok (.complete msk), m₂)) :
    ∃ calls, m₂.events = [.established, .identified] ++ calls.map .inner ++ [.innerSuccess, .outerSuccess] ∧
      ∃ before c after peer auth nt, calls = before ++ c :: after ∧
        c.Answers (MSCHAPv2.new m₀.identity m₀.password) peer auth nt ∧
        (∀ d ∈ after, ¬d.AcceptsChallenge) ∧
        ∃ d ∈ after, d.Verifies (generateAuthenticatorResponse peer auth (extractUsername m₀.identity)
          m₀.password nt) := by
  have hat := hruns.at rfl (at_init hinit)
  obtain ⟨hat₂, hphase⟩ := At.handle rfl hat hproof hcomplete fun t h => nomatch h
  exact hat₂.of_completed (hphase msk rfl)

end Completion

section Sample

attribute [local instance] plainEngine plainDigests

def sampleOpening : List Bytes := [Peap.sampleRequest flagStart [], Peap.sampleRequest 0 [1]]

def sampleInnerSuccess : Bytes := Peap.sampleRequest 0 ([codeRequest, 9, 0, 11, typeMSTLV] ++ msAVPSuccess)

def sampleAfter (packets : List Bytes) : Machine Unit :=
  packets.foldl (fun m packet => ((Peap.handle packet).run m).2) (Peap.sampleMethod 100)

theorem sampleAfter_append (packets : List Bytes) (packet : Bytes) :
    sampleAfter (packets ++ [packet]) = ((Peap.handle packet).run (sampleAfter packets)).2 := by
  rw [sampleAfter, List.foldl_append]
  rfl

/-- The packets up to the inner success, with a challenge and the authenticator of its answer before. -/
def sampleExchange : List Bytes :=
  sampleOpening ++ [Peap.sampleRequest 0 sampleChallenge, Peap.sampleRequest 0 sampleSuccess,
    sampleInnerSuccess]

/-- The two packets of the inner method come before its success. -/
theorem sample_completes_in_order : ∃ calls : List Call,
    (sampleAfter (sampleExchange ++ [[codeSuccess, 2, 0, 4]])).events =
      [.established, .identified] ++ calls.map .inner ++ [.innerSuccess, .outerSuccess] ∧
    ∃ c ∈ calls, ∃ d ∈ calls, c.AcceptsChallenge ∧ ∃ authHex, d.Verifies authHex := by
  have hruns : Runs (Peap.sampleMethod 100) (sampleAfter sampleExchange) :=
    ((((Runs.init.next (Peap.sampleRequest flagStart []) (by decide +kernel) (by decide +kernel)).next
      (Peap.sampleRequest 0 [1]) (by decide +kernel) (by decide +kernel)).next
      (Peap.sampleRequest 0 sampleChallenge) (by decide +kernel) (by decide +kernel)).next
      (Peap.sampleRequest 0 sampleSuccess) (by decide +kernel) (by decide +kernel)).next
      sampleInnerSuccess (by decide +kernel) (by decide +kernel)
  have hcomplete : (Peap.handle [codeSuccess, 2, 0, 4]).run (sampleAfter sampleExchange) =
      (.ok (.complete (List.replicate 64 7)),
        sampleAfter (sampleExchange ++ [[codeSuccess, 2, 0, 4]])) := by
    have hresult : ((Peap.handle [codeSuccess, 2, 0, 4]).run (sampleAfter sampleExchange)).1 =
        .ok (.complete (List.replicate 64 7)) := by decide +kernel
    rw [sampleAfter_append, ← hresult]
  obtain ⟨calls, hevents, before, c, after, peer, auth, nt, hcalls, hans, -, d, hd, hver⟩ :=
    completes_in_order (fun _ _ => .ok ()) (sampleNew 100) (Peap.sampleMethod 100) _ _ _ _
      (Prod.ext (by decide +kernel) rfl) hruns (by decide +kernel) hcomplete
  obtain ⟨eapID, mschapID, data, resp, hreq, -, -, -, hresult⟩ := hans
  have hc : c ∈ calls := hcalls ▸ List.mem_append_right _ List.mem_cons_self
  have hd' : d ∈ calls := hcalls ▸ List.mem_append_right _ (List.mem_cons_of_mem _ hd)
  exact ⟨calls, hevents, c, hc, d, hd', ⟨⟨eapID, mschapID, data, hreq⟩, resp, hresult⟩, _, hver⟩

/-- The inner success comes first, and no packet of the inner method at all: the method completes. -/
theorem completes_unproven :
    (Eff.trace ((sampleOpening ++ [sampleInnerSuccess, [codeSuccess, 2, 0, 4]]).map handle)
        (Peap.sampleMethod 100)).1.getLast? = some (.ok (.complete (List.replicate 64 7))) ∧
      (Eff.trace ((sampleOpening ++ [sampleInnerSuccess, [codeSuccess, 2, 0, 4]]).map handle)
        (Peap.sampleMethod 100)).2.events = [.established, .identified, .innerSuccess, .outerSuccess] := by
  refine ⟨by decide +kernel, rfl⟩

end Sample

end Swan.Eap.Peap
