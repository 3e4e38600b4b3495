import Swan.Control.Handshake.Schedule

/-! # Datagrams that do not authenticate

`recvSequence` is what `recvProtectedPayloads` makes of a sequence of datagrams. Inserting a datagram
that does not open under the keys should change nothing. The header of a datagram is however judged
before its payload is opened, and every verdict other than dropping it ends the handshake.
`insertion_unnoticed_iff`: such a datagram can be inserted anywhere without a trace exactly if it is
dropped for its header (`Foreign`). `forged_header_fails` is one that ends the handshake. -/

namespace Swan.Control.Handshake

open Swan.Lib Swan.Wire Swan.Payload Swan.Xcrypto

section Insertion

variable [Crypto]

/-- What the receive loop for an IKE_AUTH response makes of datagrams, each with its time: the message
or the error that ends the loop, or `none` if it waits on, and the worker. -/
def recvSequence (cfg : Config) (step : String) (msgID : UInt32) : List (Time × Packet) → Handshake →
    Except Err (Option Message) × Handshake
  | [], h => (.ok none, h)
  | (now, pkt) :: rest, h =>
    match (recvProtectedPayloads cfg step ExchangeType.ikeAuth msgID (.packet (some pkt))).run
        { h with clock := now } with
    | (.ok none, h') => recvSequence cfg step msgID rest h'
    | r => r

/-- The result and the state of the SA, without the local variables of the loop. -/
def observed (r : Except Err (Option Message) × Handshake) : Except Err (Option Message) × State :=
  (r.1, r.2.state)

omit [Crypto] in
/-- A datagram that is not for this SA, or repeats an id that is complete. -/
def Foreign (s : State) (msgID : UInt32) (pkt : Packet) : Prop :=
  pkt.kind ≠ .ike ∨ ∀ msg, parseMessage pkt.payload = .ok msg →
    msg.header.initiatorSPI ≠ s.initiatorSPI ∨
    s.responderSPI ≠ 0 ∧ msg.header.responderSPI ≠ s.responderSPI ∨
    validateResponseEnvelopeForRole msg.header s.isOriginalInitiator = .ok () ∧
      msg.header.messageID < msgID ∧ s.hasLastCompletedResponse = true ∧
      msg.header.messageID ≤ s.lastCompletedResponseMessageID

omit [Crypto] in
theorem classifyResponse_dropped_iff {s : State} {hdr : Header} {msgID : UInt32} :
    (∃ d, classifyResponse s hdr msgID = .ok d ∧ d ≠ .expected) ↔
      hdr.initiatorSPI ≠ s.initiatorSPI ∨ s.responderSPI ≠ 0 ∧ hdr.responderSPI ≠ s.responderSPI ∨
      validateResponseEnvelopeForRole hdr s.isOriginalInitiator = .ok () ∧ hdr.messageID < msgID ∧
        s.hasLastCompletedResponse = true ∧ hdr.messageID ≤ s.lastCompletedResponseMessageID := by
  unfold classifyResponse
  by_cases hi : hdr.initiatorSPI ≠ s.initiatorSPI
  · simp [hi]
  rw [if_neg hi]
  by_cases hr : s.responderSPI ≠ 0 ∧ hdr.responderSPI ≠ s.responderSPI
  · simp [hr]
  rw [if_neg hr]
  rcases hv : validateResponseEnvelopeForRole hdr s.isOriginalInitiator with e | u
  · simp [hi, hr]
  simp only [ok_bind, hi, hr, false_or, true_and]
  by_cases hid : hdr.messageID = msgID
  · simp [hid]
  rw [if_neg hid]
  by_cases hold : hdr.messageID < msgID ∧ s.hasLastCompletedResponse = true ∧
      hdr.messageID ≤ s.lastCompletedResponseMessageID
  · simp [hold]
  rw [if_neg hold]
  split_ifs <;> simp [hold]

omit [Crypto] in
theorem dropped_iff_foreign {s : State} {msgID : UInt32} {pkt : Packet} :
    Dropped s msgID pkt ↔ Foreign s msgID pkt := by
  unfold Dropped Foreign
  simp only [classifyResponse_dropped_iff]

/-! ### One datagram -/

variable {cfg : Config} {step : String} {msgID : UInt32} {pkt : Packet}

theorem recv_of_dropped {h : Handshake} (hd : Dropped h.state msgID pkt) :
    (recvProtectedPayloads cfg step ExchangeType.ikeAuth msgID (.packet (some pkt))).run h =
      (.ok none, h.timerReset) := by
  have hwait : (waitResponseRaw cfg step ExchangeType.ikeAuth msgID (.packet (some pkt))).run h =
      (.ok none, h.timerReset) := Eff.run_bind_of_ok (run_receive_of_dropped _ hd)
  exact Eff.run_bind_of_ok hwait

theorem recv_of_not_dropped (cfg : Config) (step : String) {s : State} (hd : ¬Dropped s msgID pkt) :
    (∃ e, ∀ h : Handshake, h.state = s →
      (recvProtectedPayloads cfg step ExchangeType.ikeAuth msgID (.packet (some pkt))).run h =
        (.error e, h)) ∨
    ∀ h : Handshake, h.state = s →
      (recvProtectedPayloads cfg step ExchangeType.ikeAuth msgID (.packet (some pkt))).run h =
        (openResponse cfg ExchangeType.ikeAuth msgID pkt.payload).run h := by
  have hd' := hd
  unfold Dropped at hd'
  push Not at hd'
  obtain ⟨-, msg, hparse, -⟩ := hd'
  -- the loop of `waitResponseRaw`, from what `receive` does
  have herror : ∀ {h : Handshake} {e : Err}, (receive ExchangeType.ikeAuth msgID pkt).run h =
      (.error e, h) → (recvProtectedPayloads cfg step ExchangeType.ikeAuth msgID
        (.packet (some pkt))).run h = (.error e, h) := fun hreceive =>
    Eff.run_bind_of_error (Eff.run_bind_of_error hreceive)
  have hcases : ∀ h : Handshake, h.state = s → (∃ e,
      classifyResponse s msg.header msgID = .error e ∧
        (receive ExchangeType.ikeAuth msgID pkt).run h = (.error e, h)) ∨
      classifyResponse s msg.header msgID = .ok .expected ∧
        (receive ExchangeType.ikeAuth msgID pkt).run h =
          (dispose ExchangeType.ikeAuth msgID msg .expected).run h := by
    intro h hs
    obtain ⟨msg', -, hparse', hrun⟩ :=
      run_receive_of_not_dropped ExchangeType.ikeAuth (h := h) (by rwa [hs])
    obtain rfl := Except.ok.inj (hparse.symm.trans hparse')
    rwa [hs] at hrun
  have hne : ExchangeType.ikeAuth ≠ ExchangeType.ikeSAInit := by decide
  have hstate := validateResponseHeader_state hne msg.header msgID s
  rcases hclass : classifyResponse s msg.header msgID with e | d
  · refine .inl ⟨e, fun h hs => ?_⟩
    obtain ⟨e', he', hrun⟩ | ⟨hexp, -⟩ := hcases h hs
    · obtain rfl := Except.error.inj (hclass.symm.trans he')
      exact herror hrun
    · cases hclass.symm.trans hexp
  rcases hval : (validateResponseHeader msg.header ExchangeType.ikeAuth msgID).run s with ⟨e | u, s'⟩
  all_goals
    rw [hval] at hstate
    obtain rfl : s' = s := hstate
    have hdispose : ∀ h : Handshake, h.state = s' →
        (receive ExchangeType.ikeAuth msgID pkt).run h =
          (dispose ExchangeType.ikeAuth msgID msg .expected).run h := fun h hs => by
      obtain ⟨e', he', -⟩ | ⟨-, hrun⟩ := hcases h hs
      · cases hclass.symm.trans he'
      · exact hrun
  · refine .inl ⟨e, fun h hs => herror ((hdispose h hs).trans ?_)⟩
    subst hs
    refine Eff.run_bind_of_error ?_
    rw [onState, Eff.run_zoom, hval]
  · refine .inr fun h hs => ?_
    have hok : (receive ExchangeType.ikeAuth msgID pkt).run h = (.ok (some msg), h) := by
      subst hs
      refine (hdispose h rfl).trans (Eff.run_bind_of_ok (a := ()) ?_)
      rw [onState, Eff.run_zoom, hval]
    have hwait : (waitResponseRaw cfg step ExchangeType.ikeAuth msgID (.packet (some pkt))).run h =
        (.ok (some pkt.payload), h) := Eff.run_bind_of_ok hok
    exact Eff.run_bind_of_ok hwait

omit [Crypto] in
/-- What the loop makes of a datagram that it has tried to open. -/
def afterOpen (msgID : UInt32) (raw : Bytes) :
    Except Err (Option (List Wire.Payload)) × State → Except Err (Option Message) × State
  | (.error e, s) => (.error e, s)
  | (.ok none, s) => (.ok none, { s with firstIKEAuthSeen := true })
  | (.ok (some inner), s) =>
    ((parseMessage raw).map fun msg => some { msg with payloads := inner, encrypted := none },
      completed msgID { s with firstIKEAuthSeen := true })

theorem observed_openResponse (raw : Bytes) (h : Handshake) :
    observed ((openResponse cfg ExchangeType.ikeAuth msgID raw).run h) =
      afterOpen msgID raw ((openProtectedRawState (some cfg) h.clock raw).run h.state) := by
  unfold openResponse
  rw [Eff.run_bind_of_ok (Eff.run_get h)]
  rcases hrun : (openProtectedRawState (some cfg) h.clock raw).run h.state with ⟨r, s⟩
  have hzoom : (onState (openProtectedRawState (some cfg) h.clock raw)).run h =
      (r, { h with state := s }) := by rw [onState, Eff.run_zoom, hrun]
  rcases r with e | opened
  · rw [Eff.run_bind_of_error hzoom]
    rfl
  rw [Eff.run_bind_of_ok hzoom]
  cases opened with
  | none => rfl
  | some inner =>
    rw [afterOpen]
    generalize parseMessage raw = parsed
    cases parsed <;> rfl

theorem recv_congr (cfg : Config) (step : String) (msgID : UInt32) (pkt : Packet)
    {h₁ h₂ : Handshake} (hs : h₁.state = h₂.state) (hc : h₁.clock = h₂.clock) :
    observed ((recvProtectedPayloads cfg step ExchangeType.ikeAuth msgID (.packet (some pkt))).run
        h₁) =
      observed ((recvProtectedPayloads cfg step ExchangeType.ikeAuth msgID (.packet (some pkt))).run
        h₂) := by
  by_cases hd : Dropped h₂.state msgID pkt
  · rw [recv_of_dropped hd, recv_of_dropped (by rwa [hs])]
    exact Prod.ext rfl hs
  obtain ⟨e, herror⟩ | hopen := recv_of_not_dropped cfg step hd
  · rw [herror h₁ hs, herror h₂ rfl]
    exact Prod.ext rfl hs
  · rw [hopen h₁ hs, hopen h₂ rfl, observed_openResponse, observed_openResponse, hs, hc]

/-! ### Sequences -/

theorem recvSequence_congr : ∀ (seq : List (Time × Packet)) {h₁ h₂ : Handshake},
    h₁.state = h₂.state → observed (recvSequence cfg step msgID seq h₁) =
      observed (recvSequence cfg step msgID seq h₂)
  | [], h₁, h₂, hs => Prod.ext rfl hs
  | (now, pkt) :: rest, h₁, h₂, hs => by
    have hsame : ({ h₁ with clock := now } : Handshake).state =
        ({ h₂ with clock := now } : Handshake).state := hs
    have hone := recv_congr cfg step msgID pkt hsame rfl
    unfold recvSequence
    rcases hrun₁ : (recvProtectedPayloads cfg step ExchangeType.ikeAuth msgID
      (.packet (some pkt))).run { h₁ with clock := now } with ⟨r₁, h₁'⟩
    rcases hrun₂ : (recvProtectedPayloads cfg step ExchangeType.ikeAuth msgID
      (.packet (some pkt))).run { h₂ with clock := now } with ⟨r₂, h₂'⟩
    rw [hrun₁, hrun₂] at hone
    obtain ⟨rfl, hs'⟩ := Prod.mk.inj hone
    rcases r₁ with e | _ | msg
    · exact hone
    · exact recvSequence_congr rest hs'
    · exact hone

theorem Dropped.of_waiting {d : Packet} {h h' : Handshake} (hd : Dropped h.state msgID d)
    (hrun : (recvProtectedPayloads cfg step ExchangeType.ikeAuth msgID (.packet (some pkt))).run h =
      (.ok none, h')) : Dropped h'.state msgID d := by
  have hidle := recvProtectedPayloads_none hrun
  cases hidle with
  | dropped _ => exact hd
  | fragment _ fragments seen => exact hd

theorem recvSequence_insert {d : Packet} {now : Time} : ∀ (before after : List (Time × Packet))
    {h : Handshake}, Dropped h.state msgID d →
      observed (recvSequence cfg step msgID (before ++ (now, d) :: after) h) =
        observed (recvSequence cfg step msgID (before ++ after) h)
  | [], after, h, hd => by
    have hd' : Dropped ({ h with clock := now } : Handshake).state msgID d := hd
    rw [List.nil_append, List.nil_append, recvSequence, recv_of_dropped hd']
    exact recvSequence_congr after rfl
  | (t, pkt) :: before, after, h, hd => by
    rw [List.cons_append, List.cons_append]
    unfold recvSequence
    rcases hrun : (recvProtectedPayloads cfg step ExchangeType.ikeAuth msgID
      (.packet (some pkt))).run { h with clock := t } with ⟨e | _ | msg, h'⟩
    · rfl
    · have hd' : Dropped ({ h with clock := t } : Handshake).state msgID d := hd
      exact recvSequence_insert before after (hd'.of_waiting hrun)
    · rfl

theorem recv_unopened (cfg : Config) (step : String) {h : Handshake} {sel : Selection} {keys : IKEKeys}
    (hsel : h.state.selectedIKE = some sel) (hkeys : h.state.ikeKeys = some keys)
    (hunopened : ∀ o, openRaw h.state.isOriginalInitiator sel keys pkt.payload ≠ .ok o)
    (hd : ¬Dropped h.state msgID pkt) : ∃ e,
      (observed ((recvProtectedPayloads cfg step ExchangeType.ikeAuth msgID (.packet (some pkt))).run
        h)).1 = .error e := by
  obtain ⟨e, herror⟩ | hopen := recv_of_not_dropped cfg step hd
  · exact ⟨e, by rw [herror h rfl]; rfl⟩
  rcases hraw : openRaw h.state.isOriginalInitiator sel keys pkt.payload with e | o
  swap
  · exact absurd hraw (hunopened o)
  refine ⟨e, ?_⟩
  have hrun : (openProtectedRawState (some cfg) h.clock pkt.payload).run h.state =
      (.error e, h.state) := by
    rw [openProtectedRawState, Eff.run_bind_of_ok (Eff.run_get _), hsel, hkeys]
    exact Eff.run_bind_of_error (by rw [hraw]; exact Eff.run_lift _ _)
  rw [hopen h rfl, observed_openResponse, hrun]
  rfl

/-- A datagram that does not authenticate can be inserted anywhere without a trace exactly if it is
dropped for its header. -/
theorem insertion_unnoticed_iff (cfg : Config) (step : String) (msgID : UInt32) (h : Handshake)
    (sel : Selection) (keys : IKEKeys) (hsel : h.state.selectedIKE = some sel)
    (hkeys : h.state.ikeKeys = some keys) (now : Time) (d : Packet)
    (hforged : ∀ o, openRaw h.state.isOriginalInitiator sel keys d.payload ≠ .ok o) :
    (∀ before after, observed (recvSequence cfg step msgID (before ++ (now, d) :: after) h) =
      observed (recvSequence cfg step msgID (before ++ after) h)) ↔ Foreign h.state msgID d := by
  rw [← dropped_iff_foreign]
  refine ⟨fun hsame => ?_, fun hd before after => recvSequence_insert before after hd⟩
  by_contra hd
  obtain ⟨e, herror⟩ := recv_unopened cfg step (h := { h with clock := now }) hsel hkeys hforged hd
  have hone := congrArg Prod.fst (hsame [] [])
  rw [List.nil_append, recvSequence] at hone
  rcases hrun : (recvProtectedPayloads cfg step ExchangeType.ikeAuth msgID (.packet (some d))).run
    { h with clock := now } with ⟨r, h'⟩
  rw [hrun] at herror hone
  obtain rfl : r = .error e := herror
  cases hone

end Insertion

section Sample

attribute [local instance] plainCrypto plainPki

/-- An IKE_AUTH response without payloads, from the SPIs alone. -/
def forgedResponse (s : State) (msgID : UInt32) : Packet :=
  ⟨.ike, (newBuilder { saInitHeader s with
    responderSPI := s.responderSPI
    exchangeType := ExchangeType.ikeAuth
    flags := flagResponse
    messageID := msgID }).finish⟩

/-- Whether a datagram opens under the keys of a state, if there are any. -/
def State.opens (s : State) (raw : Bytes) : Bool :=
  match s.selectedIKE, s.ikeKeys with
  | some sel, some keys => (openRaw s.isOriginalInitiator sel keys raw).isOk
  | _, _ => true

theorem keys_of_not_opens {s : State} {raw : Bytes} (h : State.opens s raw = false) : ∃ sel keys,
    s.selectedIKE = some sel ∧ s.ikeKeys = some keys ∧
      ∀ o, openRaw s.isOriginalInitiator sel keys raw ≠ .ok o := by
  unfold State.opens at h
  split at h
  · next sel keys hsel hkeys =>
    refine ⟨sel, keys, hsel, hkeys, fun o ho => ?_⟩
    rw [ho] at h
    cases h
  · cases h

/-- Whoever knows the SPIs can end the handshake with a header: an id that is still to come, or the
expected one. -/
theorem forged_header_fails :
    Asks sampleHandshakeConfig sampleMethod keyedStage (sampleKeyed sampleHandshakeConfig).worker ∧
    [7, 1].all (fun msgID =>
      !State.opens (sampleKeyed sampleHandshakeConfig).worker.state
        (forgedResponse (sampleKeyed sampleHandshakeConfig).worker.state msgID).payload &&
      !(recvSequence sampleHandshakeConfig.toConfig "eap" 1
        [(2, forgedResponse (sampleKeyed sampleHandshakeConfig).worker.state msgID)]
        (sampleKeyed sampleHandshakeConfig).worker).1.isOk) ∧
    (recvSequence sampleHandshakeConfig.toConfig "eap" 1 []
      (sampleKeyed sampleHandshakeConfig).worker).1.isOk := by
  refine ⟨asks_sampleKeyed, ?_, ?_⟩
  · decide +kernel
  · decide +kernel

/-- A forged header that repeats the id of the answered request leaves no trace. -/
theorem sample_unnoticed : ∃ d : Packet, (parseMessage d.payload).isOk ∧
    ∀ before after, observed (recvSequence sampleHandshakeConfig.toConfig "eap" 1
        (before ++ (2, d) :: after) (sampleKeyed sampleHandshakeConfig).worker) =
      observed (recvSequence sampleHandshakeConfig.toConfig "eap" 1 (before ++ after)
        (sampleKeyed sampleHandshakeConfig).worker) := by
  have hparse : (parseMessage (forgedResponse
      (sampleKeyed sampleHandshakeConfig).worker.state 0).payload).isOk = true := by decide +kernel
  have hclass : (parseMessage (forgedResponse
      (sampleKeyed sampleHandshakeConfig).worker.state 0).payload).toOption.all (fun msg =>
        (classifyResponse (sampleKeyed sampleHandshakeConfig).worker.state msg.header 1).toOption.any
          (· ≠ .expected)) = true := by decide +kernel
  have hopens : State.opens (sampleKeyed sampleHandshakeConfig).worker.state (forgedResponse
      (sampleKeyed sampleHandshakeConfig).worker.state 0).payload = false := by decide +kernel
  generalize (sampleKeyed sampleHandshakeConfig).worker = h at hparse hclass hopens ⊢
  obtain ⟨sel, keys, hsel, hkeys, hunopened⟩ := keys_of_not_opens hopens
  refine ⟨forgedResponse h.state 0, hparse, ?_⟩
  refine (insertion_unnoticed_iff sampleHandshakeConfig.toConfig "eap" 1 h sel keys hsel hkeys 2 _
    hunopened).mpr (dropped_iff_foreign.mp (.inr fun msg hmsg => ?_))
  rw [hmsg] at hclass
  rcases hc : classifyResponse h.state msg.header 1 with e | c
  · simp [Except.toOption, hc] at hclass
  · exact ⟨c, rfl, by simpa [Except.toOption, hc] using hclass⟩

end Sample

end Swan.Control.Handshake
