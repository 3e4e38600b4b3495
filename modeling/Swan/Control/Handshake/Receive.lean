import Swan.Control.Handshake.Run

/-! # What one event does in a receive loop

A datagram is dropped (`Dropped`) exactly if it is not IKE, does not parse, has other SPIs, or repeats
an id that is complete. `run_receive_of_dropped` and `run_receive_of_not_dropped` have what a receive
loop does with a datagram, and `listen_none_cases` what an event does that leaves the response incomplete: it is a
dropped datagram, a fragment, or the retransmission timer. -/

namespace Swan.Control.Handshake

open Swan.Lib Swan.Wire Swan.Payload Swan.Xcrypto

/-! ### Datagrams -/

/-- The worker with its timer started again. -/
def timerReset (h : Handshake) : Handshake :=
  { h with wait := { h.wait with deadline := h.clock + h.wait.rto } }

/-- The local variables of a receive loop that starts at a time. -/
def freshWait (cfg : Config) (now : Time) : Wait :=
  ⟨cfg.timeouts.initialRTO, 0, now + cfg.timeouts.initialRTO⟩

/-- A datagram that a receive loop drops. -/
def Dropped (s : State) (msgID : UInt32) (pkt : Packet) : Prop :=
  pkt.kind ≠ .ike ∨ ∀ msg, parseMessage pkt.payload = .ok msg →
    ∃ d, classifyResponse s msg.header msgID = .ok d ∧ d ≠ .expected

variable {h h' : Handshake} {cfg : Config}

theorem run_receive_of_dropped {msgID : UInt32} {pkt : Packet} (exchange : ExchangeType)
    (hd : Dropped h.state msgID pkt) :
    (receive exchange msgID pkt).run h = (.ok none, h.timerReset) := by
  unfold receive
  by_cases hkind : pkt.kind ≠ .ike
  · rw [if_pos hkind]
    rfl
  rw [if_neg hkind]
  cases hparse : parseMessage pkt.payload with
  | error e => rfl
  | ok msg =>
    obtain ⟨d, hclass, hne⟩ := (hd.resolve_left hkind) msg hparse
    dsimp only
    rw [Eff.run_bind_of_ok (Eff.run_get h), Eff.run_bind_of_ok (by rw [hclass]; exact Eff.run_lift _ _)]
    cases d with
    | expected => exact absurd rfl hne
    | duplicateOrStale => rfl
    | ignore => rfl

theorem run_receive_of_not_dropped {msgID : UInt32} {pkt : Packet} (exchange : ExchangeType)
    (hd : ¬Dropped h.state msgID pkt) :
    ∃ msg, pkt.kind = .ike ∧ parseMessage pkt.payload = .ok msg ∧
      ((∃ e, classifyResponse h.state msg.header msgID = .error e ∧
          (receive exchange msgID pkt).run h = (.error e, h)) ∨
        classifyResponse h.state msg.header msgID = .ok .expected ∧
          (receive exchange msgID pkt).run h =
            (dispose exchange msgID msg .expected).run h) := by
  unfold Dropped at hd
  push Not at hd
  obtain ⟨hkind, msg, hparse, hclass⟩ := hd
  refine ⟨msg, hkind, hparse, ?_⟩
  have hrun : ∀ r, classifyResponse h.state msg.header msgID = r →
      (receive exchange msgID pkt).run h =
        ((Eff.lift r : Eff Handshake Disposition) >>= dispose exchange msgID msg).run h := by
    intro r hr
    unfold receive
    rw [if_neg (not_not_intro hkind), hparse]
    dsimp only
    rw [Eff.run_bind_of_ok (Eff.run_get h), hr]
  cases hr : classifyResponse h.state msg.header msgID with
  | error e => exact .inl ⟨e, rfl, (hrun _ hr).trans (Eff.run_bind_of_error (Eff.run_lift _ _))⟩
  | ok d =>
    obtain rfl : d = .expected := hclass d hr
    exact .inr ⟨rfl, (hrun _ hr).trans (Eff.run_bind_of_ok (Eff.run_lift _ _))⟩

theorem validateResponseHeader_state {exchange : ExchangeType} (hne : exchange ≠ ExchangeType.ikeSAInit)
    (hdr : Header) (msgID : UInt32) (s : State) :
    ((validateResponseHeader hdr exchange msgID).run s).2 = s := by
  unfold validateResponseHeader
  rw [Eff.run_bind_of_ok (Eff.run_get s)]
  cases hrole : validateResponseEnvelopeForRole hdr s.isOriginalInitiator with
  | error e => rfl
  | ok u =>
    rw [Eff.run_bind_of_ok (Eff.run_lift _ _), if_neg hne]
    split_ifs <;> rfl

theorem dispose_expected_ok {exchange : ExchangeType} {msgID : UInt32} {msg : Message}
    {r : Option Message} (hrun : (dispose exchange msgID msg .expected).run h = (.ok r, h')) :
    r = some msg ∧ (validateResponseHeader msg.header exchange msgID).run h.state =
      (.ok (), h'.state) ∧ h' = { h with state := h'.state } := by
  obtain ⟨u, h₁, hval, hrest⟩ := Eff.run_bind_ok hrun
  cases hrest
  obtain ⟨hok, hstate⟩ := Prod.mk.inj hval
  subst hstate
  exact ⟨rfl, Prod.ext hok rfl, rfl⟩

/-- A receive that does not fail drops the packet, or has validated its header. -/
theorem receive_ok {exchange : ExchangeType} {msgID : UInt32} {pkt : Packet} {r : Option Message}
    (hrun : (receive exchange msgID pkt).run h = (.ok r, h')) :
    Dropped h.state msgID pkt ∧ r = none ∧ h' = h.timerReset ∨
      ¬Dropped h.state msgID pkt ∧ ∃ msg, r = some msg ∧
        (validateResponseHeader msg.header exchange msgID).run h.state = (.ok (), h'.state) ∧
        h' = { h with state := h'.state } := by
  by_cases hd : Dropped h.state msgID pkt
  · rw [run_receive_of_dropped _ hd] at hrun
    cases hrun
    exact .inl ⟨hd, rfl, rfl⟩
  obtain ⟨msg, -, -, ⟨e, -, herror⟩ | ⟨-, hexpected⟩⟩ := run_receive_of_not_dropped exchange hd
  · rw [herror] at hrun
    cases hrun
  · exact .inr ⟨hd, msg, dispose_expected_ok (hexpected.symm.trans hrun)⟩

theorem waitResponseRaw_some {step : String} {msgID : UInt32} {ev : Event} {raw : Bytes}
    (hrun : (waitResponseRaw cfg step ExchangeType.ikeAuth msgID ev).run h = (.ok (some raw), h')) :
    ∃ pkt, ev = .packet (some pkt) ∧ raw = pkt.payload ∧ ¬Dropped h.state msgID pkt ∧ h' = h := by
  cases ev with
  | packet pkt =>
    cases pkt with
    | none => cases hrun
    | some pkt =>
      obtain ⟨r, h₁, hreceive, hrun⟩ := Eff.run_bind_ok hrun
      rcases receive_ok hreceive with ⟨-, rfl, -⟩ | ⟨hd, msg, rfl, hval, hrest⟩ <;> cases hrun
      have hne : ExchangeType.ikeAuth ≠ ExchangeType.ikeSAInit := by decide
      have hstate := validateResponseHeader_state hne msg.header msgID h.state
      rw [hval] at hstate
      refine ⟨pkt, rfl, rfl, hd, ?_⟩
      rw [hrest, show h'.state = h.state from hstate]
  | timer =>
    obtain ⟨u, h₁, -, hrun⟩ := Eff.run_bind_ok hrun
    cases hrun
  | closed => cases hrun
  | done => cases hrun

/-! ### Sends -/

theorem forEach_sendFrame_ok {purpose : Purpose} : ∀ {frames : List Frame} {h h' : Handshake},
    (Eff.forEach (sendFrame purpose) frames).run h = (.ok (), h') → ∃ cancel, h' =
      { h with sent := h.sent ++ frames.map fun f => ⟨h.clock, purpose, f⟩, cancel }
  | [], h, h', hrun => by
    cases hrun
    exact ⟨h.cancel, by simp⟩
  | f :: fs, h, h', hrun => by
    obtain ⟨u, h₁, hsend, hrest⟩ := Eff.run_bind_ok hrun
    obtain ⟨c, h₂, hdraw, hsend⟩ := Eff.run_bind_ok hsend
    cases hdraw
    split_ifs at hsend
    · cases hsend
    cases hsend
    obtain ⟨cancel, rfl⟩ := forEach_sendFrame_ok hrest
    exact ⟨cancel, by simp [logSent]⟩

/-! ### The timer -/

def backoff (cfg : Config) (rto : Duration) : Duration :=
  if 2 * rto > cfg.timeouts.maxRTO then cfg.timeouts.maxRTO else 2 * rto

/-- The local variables of a receive loop after its timer fired. -/
def fired (cfg : Config) (now : Time) (w : Wait) : Wait :=
  ⟨backoff cfg w.rto, w.retries + 1, now + backoff cfg w.rto⟩

theorem retransmit_ok {step : String} (hrun : (retransmit cfg step).run h = (.ok (), h')) :
    ∃ packets cancel,
      h.state.outboundRequest = some ⟨h.state.expectedResponseMessageID, packets⟩ ∧
      h.wait.retries < cfg.timeouts.maxRetries ∧
      h' = { h with
        state := h.state.withFragments none
        wait := ⟨backoff cfg h.wait.rto, h.wait.retries + 1, h.wait.deadline⟩
        sent := h.sent ++ packets.map fun f => ⟨h.clock, .retransmission, f⟩
        cancel } := by
  have hrun := Eff.run_get_bind_ok hrun
  cases hreq : h.state.outboundRequest with
  | none =>
    rw [hreq] at hrun
    cases hrun
  | some request =>
    rw [hreq] at hrun
    dsimp only at hrun
    split_ifs at hrun with hid hretries
    · cases hrun
    · cases hrun
    have hrun := Eff.run_modify_bind_ok hrun
    have hrun := Eff.run_modify_bind_ok hrun
    obtain ⟨u, h₁, hsend, hrun⟩ := Eff.run_bind_ok hrun
    obtain ⟨cancel, rfl⟩ := forEach_sendFrame_ok hsend
    cases hrun
    refine ⟨request.packets, cancel, ?_, not_le.mp hretries, rfl⟩
    rw [← not_not.mp hid]

theorem retransmit_exhausted (step : String) (hretries : cfg.timeouts.maxRetries ≤ h.wait.retries) :
    ∃ t, (retransmit cfg step).run h = (.error (.errorf t), h) := by
  unfold retransmit
  rw [Eff.run_bind_of_ok (Eff.run_get h)]
  cases hreq : h.state.outboundRequest with
  | none => exact ⟨_, rfl⟩
  | some request =>
    dsimp only
    split_ifs
    · exact ⟨_, rfl⟩
    · exact ⟨_, rfl⟩

/-! ### Fragments -/

section Open

variable [Crypto]

theorem openResponse_none {cfg : Config} {exchange : ExchangeType} {msgID : UInt32} {raw : Bytes}
    {h h' : Handshake} (hrun : (openResponse cfg exchange msgID raw).run h = (.ok none, h')) :
    ∃ fragments seen, h' = { h with
      state := { h.state.withFragments fragments with firstIKEAuthSeen := seen }
      wait := freshWait cfg h.clock } := by
  have hrun := Eff.run_get_bind_ok hrun
  obtain ⟨opened, h₁, hopen, hrun⟩ := Eff.run_bind_ok hrun
  have hfrag : OnlyFragments h.state h₁.state := by
    have hw := within_openProtectedRawState (some cfg) h.clock raw h.state
    obtain ⟨-, rfl⟩ := Prod.mk.inj hopen
    exact hw
  have hrest : h₁ = { h with state := h₁.state } := by
    obtain ⟨-, rfl⟩ := Prod.mk.inj hopen
    rfl
  obtain ⟨u, h₂, hseen, hrun⟩ := Eff.run_bind_ok hrun
  have hstate : ∃ seen, h₂ = { h₁ with state := { h₁.state with firstIKEAuthSeen := seen } } := by
    unfold Eff.when at hseen
    split_ifs at hseen
    · cases hseen
      exact ⟨true, rfl⟩
    · cases hseen
      exact ⟨h₁.state.firstIKEAuthSeen, rfl⟩
  obtain ⟨seen, rfl⟩ := hstate
  cases opened with
  | none =>
    cases hrun
    refine ⟨h₁.state.inboundFragments, seen, ?_⟩
    rw [hrest, hfrag]
    rfl
  | some inner =>
    have hrun := Eff.run_modify_bind_ok hrun
    obtain ⟨msg, -, hrun⟩ := Eff.run_lift_bind_ok hrun
    cases hrun

end Open

/-! ### Events -/

variable {μ : Type}

def Stage.msgID : Stage μ → UInt32
  | .saInit _ _ => 0
  | .eap _ msgID _ _ => msgID
  | .finalAuth msgID => msgID

/-- An event that leaves the response `msgID` incomplete, and what it does to the worker. -/
inductive Idle (cfg : Config) (msgID : UInt32) (h : Handshake) : Event → Handshake → Prop
  | nilPacket : Idle cfg msgID h (.packet none) h
  | dropped {pkt : Packet} (hd : Dropped h.state msgID pkt) :
      Idle cfg msgID h (.packet (some pkt)) h.timerReset
  | fragment {pkt : Packet} (hd : ¬Dropped h.state msgID pkt) (fragments : Option FragmentReassembly)
      (seen : Bool) : Idle cfg msgID h (.packet (some pkt)) { h with
        state := { h.state.withFragments fragments with firstIKEAuthSeen := seen }
        wait := freshWait cfg h.clock }
  | timer {packets : List Frame} (cancel : ℕ → Bool)
      (hreq : h.state.outboundRequest = some ⟨h.state.expectedResponseMessageID, packets⟩)
      (hretries : h.wait.retries < cfg.timeouts.maxRetries) : Idle cfg msgID h .timer { h with
        state := h.state.withFragments none
        wait := fired cfg h.clock h.wait
        sent := h.sent ++ packets.map fun f => ⟨h.clock, .retransmission, f⟩
        cancel }

variable {ev : Event}

theorem await_none {α : Type} {step : String} {msgID : UInt32}
    {accept : Packet → Eff Handshake (Option α)}
    (hrun : (await cfg step accept ev).run h = (.ok none, h'))
    (haccept : ∀ pkt, (accept pkt).run h = (.ok none, h') → Idle cfg msgID h (.packet (some pkt)) h')
    :
    Idle cfg msgID h ev h' := by
  cases ev with
  | packet pkt =>
    cases pkt with
    | none =>
      cases hrun
      exact .nilPacket
    | some pkt => exact haccept pkt hrun
  | timer =>
    obtain ⟨u, h₁, hretransmit, hrun⟩ := Eff.run_bind_ok hrun
    obtain ⟨packets, cancel, hreq, hretries, rfl⟩ := retransmit_ok hretransmit
    cases hrun
    exact .timer cancel hreq hretries
  | closed => cases hrun
  | done => cases hrun

theorem waitSAInitResponse_none (hrun : (waitSAInitResponse cfg ev).run h = (.ok none, h')) :
    Idle cfg 0 h ev h' := by
  refine await_none hrun fun pkt hpkt => ?_
  obtain ⟨r, h₁, hreceive, hpkt⟩ := Eff.run_bind_ok hpkt
  rcases receive_ok hreceive with ⟨hd, rfl, rfl⟩ | ⟨-, msg, rfl, -⟩ <;> cases hpkt
  exact .dropped hd

variable [Crypto]

theorem recvProtectedPayloads_none {step : String} {msgID : UInt32}
    (hrun : (recvProtectedPayloads cfg step ExchangeType.ikeAuth msgID ev).run h = (.ok none, h')) :
    Idle cfg msgID h ev h' := by
  obtain ⟨raw, h₁, hwait, hrest⟩ := Eff.run_bind_ok hrun
  cases raw with
  | none =>
    cases hrest
    refine await_none hwait fun pkt hpkt => ?_
    obtain ⟨r, h₁, hreceive, hpkt⟩ := Eff.run_bind_ok hpkt
    rcases receive_ok hreceive with ⟨hd, rfl, rfl⟩ | ⟨-, msg, rfl, -⟩ <;> cases hpkt
    exact .dropped hd
  | some raw =>
    obtain ⟨pkt, rfl, rfl, hd, rfl⟩ := waitResponseRaw_some hwait
    obtain ⟨fragments, seen, rfl⟩ := openResponse_none hrest
    exact .fragment hd fragments seen

theorem listen_none_cases {cfg : HandshakeConfig} {stage : Stage μ}
    (hrun : (listen cfg ev stage).run h = (.ok none, h')) :
    Idle cfg.toConfig stage.msgID h ev h' := by
  cases stage with
  | saInit attempt forced => exact waitSAInitResponse_none hrun
  | eap m msgID first round => exact recvProtectedPayloads_none hrun
  | finalAuth msgID => exact recvProtectedPayloads_none hrun

end Swan.Control.Handshake
