import Swan.Control.Handshake.Receive
import Swan.Control.Steps

/-! # The retransmission schedule of the handshake

A request is sent, and then events arrive that do not complete its response (`unanswered`). On
schedule, only the timer moves the local variables of the wait: it fires at its deadline, sends the
request again and doubles the timeout, and after the last retransmission it ends the handshake
(`OnSchedule`). A dropped datagram however starts the timer again, and a fragment that does not
complete the response starts the whole receive loop again, with the first timeout and a full budget.
`retransmission_schedule`: a run is on schedule exactly if neither of the two changes anything
(`Steady`). `fragment_renews_budget` is a run with more retransmissions than the budget. -/

namespace Swan.Control.Handshake

open Swan.Lib Swan.Wire Swan.Payload Swan.Xcrypto

section Schedule

variable {μ : Type} [Pki] [Crypto]

/-! ### Requests -/

/-- The worker has sent the request of a stage and starts to wait. -/
inductive Asks (cfg : HandshakeConfig) (method : EapMethod μ) (stage : Stage μ) (h : Handshake) : Prop
  | begin (h₀ : Handshake) (hrun : (begin cfg).run h₀ = (.ok (.waiting stage), h))
  | proceed (h₀ : Handshake) (stage₀ : Stage μ) (msg : Message)
      (hrun : (proceed cfg method msg stage₀).run h₀ = (.ok (.waiting stage), h))

/-- The packets of the outstanding request are stored, and the receive loop is at its start. -/
def Outstanding (cfg : Config) (h : Handshake) : Prop :=
  h.wait = freshWait cfg h.clock ∧
    ∃ packets, h.state.outboundRequest = some ⟨h.state.expectedResponseMessageID, packets⟩

omit [Pki] [Crypto] in
theorem sendRequest_ok {packets : List Frame} {h h' : Handshake}
    (hrun : (sendRequest packets).run h = (.ok (), h')) :
    h'.state.outboundRequest = some ⟨h'.state.expectedResponseMessageID, packets⟩ := by
  have hrun := Eff.run_get_bind_ok hrun
  split_ifs at hrun
  · cases hrun
  have hrun := Eff.run_modify_bind_ok hrun
  obtain ⟨cancel, rfl⟩ := forEach_sendFrame_ok hrun
  rfl

variable {cfg : HandshakeConfig} {method : EapMethod μ} {stage : Stage μ} {h h' : Handshake}

theorem outstanding_of_sendSAInit {attempt : ℕ} {forced : UInt16}
    (hrun : (sendSAInit cfg attempt forced).run h = (.ok (.waiting stage), h')) :
    Outstanding cfg.toConfig h' := by
  have hrun := Eff.run_modify_bind_ok hrun
  obtain ⟨frames, h₁, -, hrun⟩ := Eff.run_bind_ok hrun
  obtain ⟨u, h₂, hsend, hrun⟩ := Eff.run_bind_ok hrun
  have hreq := sendRequest_ok hsend
  have hrun := Eff.run_modify_bind_ok hrun
  cases hrun
  exact ⟨rfl, frames, hreq⟩

omit [Pki] [Crypto] in
theorem outstanding_of_recvEAP {m : μ} {first : Bool} {round : ℕ}
    (hreq : ∃ packets, h.state.outboundRequest = some ⟨h.state.expectedResponseMessageID, packets⟩)
    (hrun : (recvEAP cfg m first round).run h = (.ok (.waiting stage), h')) :
    Outstanding cfg.toConfig h' := by
  have hrun := Eff.run_get_bind_ok hrun
  split_ifs at hrun
  · cases hrun
  have hrun := Eff.run_modify_bind_ok hrun
  cases hrun
  exact ⟨rfl, hreq⟩

omit [Pki] in
theorem outstanding_of_beginAuth (hrun : (beginAuth cfg method).run h = (.ok (.waiting stage), h')) :
    Outstanding cfg.toConfig h' := by
  obtain ⟨u, h₁, -, hrun⟩ := Eff.run_bind_ok hrun
  have hrun := Eff.run_modify_bind_ok hrun
  obtain ⟨id, h₂, -, hrun⟩ := Eff.run_bind_ok hrun
  obtain ⟨frames, h₃, -, hrun⟩ := Eff.run_bind_ok hrun
  obtain ⟨u, h₄, hsend, hrun⟩ := Eff.run_bind_ok hrun
  have hreq := sendRequest_ok hsend
  have hrun := Eff.run_modify_bind_ok hrun
  obtain ⟨m, -, hrun⟩ := Eff.run_lift_bind_ok hrun
  refine outstanding_of_recvEAP ⟨frames, ?_⟩ hrun
  exact hreq

omit [Pki] in
theorem outstanding_of_beginFinalAuth
    (hrun : (beginFinalAuth cfg).run h = (.ok (.waiting stage), h')) :
    Outstanding cfg.toConfig h' := by
  have hrun := Eff.run_modify_bind_ok hrun
  obtain ⟨id, h₁, -, hrun⟩ := Eff.run_bind_ok hrun
  obtain ⟨frames, h₂, -, hrun⟩ := Eff.run_bind_ok hrun
  obtain ⟨u, h₃, hsend, hrun⟩ := Eff.run_bind_ok hrun
  have hreq := sendRequest_ok hsend
  have hrun := Eff.run_modify_bind_ok hrun
  cases hrun
  exact ⟨rfl, frames, hreq⟩

variable {msg : Message} {e : Time × Event} {evs : List (Time × Event)}

theorem outstanding_of_handleSAInit {attempt : ℕ} {forced : UInt16}
    (hrun : (handleSAInit cfg method attempt forced msg).run h = (.ok (.waiting stage), h')) :
    Outstanding cfg.toConfig h' := by
  obtain ⟨outcome, h₁, -, hrun⟩ := Eff.run_bind_ok hrun
  cases outcome with
  | established => exact outstanding_of_beginAuth hrun
  | retryCookie =>
    dsimp only at hrun
    split_ifs at hrun
    · cases hrun
    · exact outstanding_of_sendSAInit hrun
  | retryDHGroup =>
    dsimp only at hrun
    split_ifs at hrun
    · cases hrun
    · cases hrun
    · exact outstanding_of_sendSAInit hrun

theorem outstanding_of_handleEAP {m : μ} {first : Bool} {round : ℕ}
    (hrun : (handleEAP cfg method m first round msg).run h = (.ok (.waiting stage), h')) :
    Outstanding cfg.toConfig h' := by
  obtain ⟨pkt, h₁, -, hrun⟩ := Eff.run_bind_ok hrun
  have hrun := Eff.run_get_bind_ok hrun
  rcases hhandle : method.handle m pkt h₁.state.nextRequestMessageID.toUInt16 with
    ⟨e | response | msk, m'⟩
  · rw [hhandle] at hrun
    cases hrun
  · rw [hhandle] at hrun
    obtain ⟨u, h₂, hsend, hrun⟩ := Eff.run_bind_ok hrun
    split_ifs at hrun
    · obtain ⟨id, h₃, -, hsend⟩ := Eff.run_bind_ok hsend
      obtain ⟨frames, h₄, -, hsend⟩ := Eff.run_bind_ok hsend
      exact outstanding_of_recvEAP ⟨frames, sendRequest_ok hsend⟩ hrun
    · cases hrun
  · rw [hhandle] at hrun
    have hrun := Eff.run_modify_bind_ok hrun
    exact outstanding_of_beginFinalAuth hrun

theorem not_waiting_of_handleFinalAuth {msgID : UInt32} :
    (handleFinalAuth cfg msgID msg).run h ≠ (.ok (.waiting stage), h') := by
  intro hrun
  obtain ⟨r, h₁, -, hrun⟩ := Eff.run_bind_ok hrun
  obtain ⟨u, h₂, -, hrun⟩ := Eff.run_bind_ok hrun
  have hrun := Eff.run_get_bind_ok hrun
  obtain ⟨keys, -, hrun⟩ := Eff.run_lift_bind_ok hrun
  have hrun := Eff.run_get_bind_ok hrun
  split at hrun
  · cases hrun
  split at hrun
  · cases hrun
  split at hrun
  · cases hrun
  split_ifs at hrun
  · cases hrun
  have hrun := Eff.run_modify_bind_ok hrun
  cases hrun

theorem Asks.outstanding (hasks : Asks cfg method stage h) : Outstanding cfg.toConfig h := by
  cases hasks with
  | begin h₀ hrun => exact outstanding_of_sendSAInit (Eff.run_modify_bind_ok hrun)
  | proceed h₀ stage₀ msg hrun =>
    cases stage₀ with
    | saInit attempt forced => exact outstanding_of_handleSAInit hrun
    | eap m msgID first round => exact outstanding_of_handleEAP hrun
    | finalAuth msgID => exact absurd hrun not_waiting_of_handleFinalAuth

/-! ### Runs without an answer -/

/-- One event that leaves the response incomplete. Time does not go back, and the timer does not fire
before its deadline. -/
def idleStep (cfg : HandshakeConfig) (stage : Stage μ) (h : Handshake) (e : Time × Event) :
    Option Handshake :=
  if e.1 < h.clock ∨ e.2 = .timer ∧ e.1 < h.wait.deadline then none
  else
    match (listen cfg e.2 stage).run { h with clock := e.1 } with
    | (.ok none, h') => some h'
    | _ => none

/-- The worker after events of which none has completed the response. -/
def unanswered (cfg : HandshakeConfig) (stage : Stage μ) (h : Handshake) (evs : List (Time × Event)) :
    Option Handshake := evs.foldlM (idleStep cfg stage) h

/-- The local variables of the wait if only the timer moves them. -/
def schedule (cfg : Config) (t₀ : Time) (evs : List (Time × Event)) : Wait :=
  evs.foldl (fun w e => if e.2 = .timer then fired cfg e.1 w else w) (freshWait cfg t₀)

def timers (evs : List (Time × Event)) : ℕ := evs.countP fun e => e.2 = .timer

/-- The packets of a request, once for every time that the timer has fired. -/
def resent (packets : List Frame) (evs : List (Time × Event)) : List Sent :=
  (evs.filter fun e => e.2 = .timer).flatMap fun e => packets.map fun f => ⟨e.1, .retransmission, f⟩

/-- The events `evs` have moved the worker from `h` to `h'` on schedule: the request was sent again at
the deadlines and at no other time, at most as often as the budget allows, and a worker that has used
it up fails when the timer fires once more. -/
structure OnSchedule (cfg : HandshakeConfig) (method : EapMethod μ) (stage : Stage μ)
    (packets : List Frame) (h : Handshake) (evs : List (Time × Event)) (h' : Handshake) : Prop where
  wait : h'.wait = schedule cfg.toConfig h.clock evs
  sent : h'.sent = h.sent ++ resent packets evs
  bounded : timers evs ≤ cfg.timeouts.maxRetries
  ends : timers evs = cfg.timeouts.maxRetries → ∀ now, ∃ e h'',
    step cfg method now .timer (.waiting stage h') = .failed e h''

/-- An event that does not disturb the schedule. A dropped datagram arrives when starting the timer
again makes no difference, and a fragment when the whole receive loop is as at its start. -/
def Steady (cfg : Config) (stage : Stage μ) (h : Handshake) (e : Time × Event) : Prop :=
  ∀ pkt, e.2 = .packet (some pkt) →
    (Dropped h.state stage.msgID pkt → h.wait.deadline = e.1 + h.wait.rto) ∧
    (¬Dropped h.state stage.msgID pkt → h.wait = freshWait cfg e.1)

omit [Pki] in
theorem idleStep_some (hstep : idleStep cfg stage h e = some h') :
    Idle cfg.toConfig stage.msgID { h with clock := e.1 } e.2 h' := by
  unfold idleStep at hstep
  split_ifs at hstep
  split at hstep
  · next h₁ hrun =>
    obtain rfl := Option.some.inj hstep
    exact listen_none_cases hrun
  · cases hstep

omit [Pki] in
theorem unanswered_concat :
    unanswered cfg stage h (evs ++ [e]) = some h' ↔
      ∃ h₁, unanswered cfg stage h evs = some h₁ ∧ idleStep cfg stage h₁ e = some h' := by
  simp [unanswered, List.foldlM_append, Option.bind_eq_some_iff]

omit [Pki] in
theorem unanswered_kept {packets : List Frame}
    (hreq : h.state.outboundRequest = some ⟨h.state.expectedResponseMessageID, packets⟩) :
    ∀ {h' : Handshake}, unanswered cfg stage h evs = some h' →
      h'.state.outboundRequest = some ⟨h'.state.expectedResponseMessageID, packets⟩ ∧
      h'.sent = h.sent ++ resent packets evs := by
  induction evs using List.reverseRecOn with
  | nil =>
    intro h' hrun
    cases hrun
    exact ⟨hreq, by simp [resent]⟩
  | append_singleton evs e ih =>
    intro h' hrun
    obtain ⟨h₁, hrun, hstep⟩ := unanswered_concat.mp hrun
    obtain ⟨hreq₁, hsent⟩ := ih hrun
    have hidle := idleStep_some hstep
    obtain ⟨now, ev⟩ := e
    cases hidle with
    | nilPacket => exact ⟨hreq₁, by simp [hsent, resent]⟩
    | dropped hd => exact ⟨hreq₁, by simp [hsent, resent, timerReset]⟩
    | fragment hd fragments seen => exact ⟨hreq₁, by simp [hsent, resent]⟩
    | timer cancel hreq₂ hretries =>
      obtain ⟨-, rfl⟩ := Checkpoint.mk.inj (Option.some.inj (hreq₂.symm.trans hreq₁))
      exact ⟨hreq₁, by simp [hsent, resent]⟩

/-! ### The schedule -/

omit [Pki] [Crypto] in
theorem Idle.wait_iff (hidle : Idle cfg.toConfig stage.msgID { h with clock := e.1 } e.2 h') :
    h'.wait = (if e.2 = .timer then fired cfg.toConfig e.1 h.wait else h.wait) ↔
      Steady cfg.toConfig stage h e := by
  obtain ⟨now, ev⟩ := e
  unfold Steady
  cases hidle with
  | nilPacket => simp
  | @dropped pkt hd =>
    have hd' : Dropped h.state stage.msgID pkt := hd
    simp only [reduceCtorEq, if_false, Event.packet.injEq, Option.some.injEq, forall_eq', hd',
      true_imp_iff, not_true_eq_false, false_imp_iff, and_true, timerReset]
    constructor
    · intro hwait
      exact (congrArg Wait.deadline hwait).symm
    · intro hdeadline
      rw [← hdeadline]
  | @fragment pkt hd fragments seen =>
    have hd' : ¬Dropped h.state stage.msgID pkt := hd
    simp only [reduceCtorEq, if_false, Event.packet.injEq, Option.some.injEq, forall_eq', hd',
      false_imp_iff, not_false_eq_true, true_imp_iff, true_and]
    exact eq_comm
  | timer cancel hreq hretries => simp

omit [Pki] [Crypto] in
theorem schedule_concat (t₀ : Time) (evs : List (Time × Event)) (e : Time × Event) :
    schedule cfg.toConfig t₀ (evs ++ [e]) =
      if e.2 = .timer then fired cfg.toConfig e.1 (schedule cfg.toConfig t₀ evs)
      else schedule cfg.toConfig t₀ evs := by
  simp [schedule]

omit [Pki] [Crypto] in
theorem retries_schedule (t₀ : Time) (evs : List (Time × Event)) :
    (schedule cfg.toConfig t₀ evs).retries = timers evs := by
  induction evs using List.reverseRecOn with
  | nil => rfl
  | append_singleton evs e ih =>
    rw [schedule_concat, timers, List.countP_append]
    by_cases htimer : e.2 = .timer
    · simp [htimer, fired, ih, timers]
    · simp [htimer, ih, timers]

theorem step_timer_exhausted (hretries : cfg.timeouts.maxRetries ≤ h.wait.retries) (now : Time) :
    ∃ e h'', step cfg method now .timer (.waiting stage h) = .failed e h'' := by
  have hlisten : ∃ t, (listen cfg .timer stage).run { h with clock := now } =
      (.error (.errorf t), { h with clock := now }) := by
    have hexhausted : ∀ name, ∃ t, (retransmit cfg.toConfig name).run { h with clock := now } =
        (.error (.errorf t), { h with clock := now }) := fun name =>
      retransmit_exhausted name (h := { h with clock := now }) hretries
    cases stage with
    | saInit attempt forced =>
      obtain ⟨t, ht⟩ := hexhausted "ike_sa_init"
      exact ⟨t, Eff.run_bind_of_error ht⟩
    | eap m msgID first round =>
      obtain ⟨t, ht⟩ := hexhausted "eap"
      exact ⟨t, Eff.run_bind_of_error (Eff.run_bind_of_error ht)⟩
    | finalAuth msgID =>
      obtain ⟨t, ht⟩ := hexhausted "final_auth"
      exact ⟨t, Eff.run_bind_of_error (Eff.run_bind_of_error ht)⟩
  obtain ⟨t, ht⟩ := hlisten
  rw [step, turn, Eff.run_bind_of_error ht]
  exact ⟨.errorf t, _, rfl⟩

omit [Pki] in
theorem wait_of_steady (hwait : h.wait = freshWait cfg.toConfig h.clock)
    (hsteady : ∀ pre e, pre ++ [e] <+: evs → ∀ h₁, unanswered cfg stage h pre = some h₁ →
      Steady cfg.toConfig stage h₁ e) : ∀ {h' : Handshake}, unanswered cfg stage h evs = some h' →
      h'.wait = schedule cfg.toConfig h.clock evs ∧ timers evs ≤ cfg.timeouts.maxRetries := by
  induction evs using List.reverseRecOn with
  | nil =>
    intro h' hrun
    cases hrun
    exact ⟨hwait, Nat.zero_le _⟩
  | append_singleton evs e ih =>
    intro h' hrun
    obtain ⟨h₁, hrun, hstep⟩ := unanswered_concat.mp hrun
    have hpre : evs <+: evs ++ [e] := List.prefix_append _ _
    obtain ⟨hwait₁, hbound⟩ := ih (fun pre e' h => hsteady pre e' (h.trans hpre)) hrun
    have hidle := idleStep_some hstep
    have hwait' := hidle.wait_iff.mpr (hsteady evs e List.prefix_rfl h₁ hrun)
    rw [hwait₁] at hwait'
    refine ⟨by rw [hwait', schedule_concat], ?_⟩
    -- the timer fires only while the budget lasts
    obtain ⟨now, ev⟩ := e
    cases hidle with
    | nilPacket => simpa [timers] using hbound
    | dropped hd => simpa [timers] using hbound
    | fragment hd fragments seen => simpa [timers] using hbound
    | timer cancel hreq hretries =>
      have hcount : h₁.wait.retries = timers evs := by rw [hwait₁, retries_schedule]
      simp only [timers, List.countP_append] at hcount ⊢
      simp only [List.countP_singleton]
      change h₁.wait.retries < _ at hretries
      simp only [decide_true, if_true]
      omega

/-- A request is retransmitted on schedule in a run exactly if every event of the run is steady. -/
theorem retransmission_schedule (cfg : HandshakeConfig) (method : EapMethod μ) (stage : Stage μ)
    (h : Handshake) (hasks : Asks cfg method stage h) : ∃ packets,
      h.state.outboundRequest = some ⟨h.state.expectedResponseMessageID, packets⟩ ∧
      ∀ evs, (unanswered cfg stage h evs).isSome →
        ((∀ pre h', pre <+: evs → unanswered cfg stage h pre = some h' →
            OnSchedule cfg method stage packets h pre h') ↔
          ∀ pre e h', pre ++ [e] <+: evs → unanswered cfg stage h pre = some h' →
            Steady cfg.toConfig stage h' e) := by
  obtain ⟨hwait, packets, hreq⟩ := hasks.outstanding
  refine ⟨packets, hreq, fun evs hsome => ⟨fun hon pre e h₁ hpre hrun₁ => ?_, fun hsteady pre h₁ hpre hrun₁ => ?_⟩⟩
  · -- the scheduled wait before and after an event makes the event steady
    obtain ⟨h₂, hrun₂⟩ : ∃ h₂, unanswered cfg stage h (pre ++ [e]) = some h₂ := by
      obtain ⟨post, rfl⟩ := hpre
      obtain ⟨h', hrun⟩ := Option.isSome_iff_exists.mp hsome
      rw [unanswered, List.foldlM_append] at hrun
      obtain ⟨h₂, hrun₂, -⟩ := Option.bind_eq_some_iff.mp hrun
      exact ⟨h₂, hrun₂⟩
    obtain ⟨h₁', hrun₁', hstep⟩ := unanswered_concat.mp hrun₂
    obtain rfl := Option.some.inj (hrun₁.symm.trans hrun₁')
    have hbefore := (hon pre h₁ ((List.prefix_append _ _).trans hpre) hrun₁).wait
    have hafter := (hon (pre ++ [e]) h₂ hpre hrun₂).wait
    refine (idleStep_some hstep).wait_iff.mp ?_
    rw [hafter, schedule_concat, hbefore]
  · obtain ⟨hwait₁, hbound⟩ := wait_of_steady hwait
      (fun pre' e hpre' h₂ hrun₂ => hsteady pre' e h₂ (hpre'.trans hpre) hrun₂) hrun₁
    refine ⟨hwait₁, (unanswered_kept hreq hrun₁).2, hbound, fun hcount now => ?_⟩
    refine step_timer_exhausted ?_ now
    rw [hwait₁, retries_schedule, hcount]

theorem asks_of_step {stage₀ : Stage μ} {now : Time} {ev : Event}
    (hstep : step cfg method now ev (.waiting stage₀ h) = .waiting stage h') :
    stage = stage₀ ∨ Asks cfg method stage h' := by
  have hturn : (turn cfg method ev stage₀).run { h with clock := now } = (.ok (.waiting stage), h') := by
    rw [step] at hstep
    rcases hrun : (turn cfg method ev stage₀).run { h with clock := now } with ⟨r, h₁⟩
    rw [hrun] at hstep
    rcases r with e | stage₁ | est
    · cases e <;> cases hstep
    · cases hstep
      rfl
    · cases hstep
  obtain ⟨r, h₁, -, hrest⟩ := Eff.run_bind_ok hturn
  cases r with
  | none =>
    cases hrest
    exact .inl rfl
  | some msg => exact .inr (.proceed h₁ stage₀ msg hrest)

end Schedule

section Sample

attribute [local instance] plainCrypto plainPki

/-- The stage of the handshake after the IKE_SA_INIT exchange. -/
def keyedStage : Stage Unit := .eap () 1 true 0

def sampleFragment (cfg : HandshakeConfig) : Packet :=
  onlyPacket (protectedResponse { cfg.toConfig with fragmentPlaintextLimit := 20 }
    (sampleKeyed cfg).worker.state 1 eapParts)

/-- The timer fires, a fragment arrives, and the timer fires again. -/
def renewedBudget (cfg : HandshakeConfig) : List (Time × Event) :=
  [(1 + second, .timer), (2 + second, .packet (some (sampleFragment cfg))), (2 + 2 * second, .timer)]

/-- A datagram that does not parse, shortly before the timer fires. -/
def junk : List (Time × Event) := [(second, .packet (some ⟨.ike, []⟩))]

theorem asks_of_deliverTo {cfg : HandshakeConfig} {now : Time} {pkt : Packet} {o : Outcome Unit}
    {stage₀ stage : Stage Unit} (ho : o.stage = some stage₀)
    (hd : (deliverTo cfg now pkt o).stage = some stage) (hne : stage ≠ stage₀) :
    Asks cfg sampleMethod stage (deliverTo cfg now pkt o).worker := by
  have hstep := Outcome.eq_waiting hd
  generalize hw : (deliverTo cfg now pkt o).worker = h at hstep ⊢
  rw [deliverTo, Outcome.eq_waiting ho] at hstep
  exact (asks_of_step hstep).resolve_left hne

theorem asks_sampleKeyed_of {cfg : HandshakeConfig}
    (hstart : (start cfg sampleWorker).stage = some (Stage.saInit 0 0 : Stage Unit))
    (hkeyed : (sampleKeyed cfg).stage = some keyedStage) :
    Asks cfg sampleMethod keyedStage (sampleKeyed cfg).worker :=
  asks_of_deliverTo hstart hkeyed (by simp [keyedStage])

theorem asks_sampleKeyed : Asks sampleHandshakeConfig sampleMethod keyedStage
    (sampleKeyed sampleHandshakeConfig).worker :=
  asks_sampleKeyed_of (by decide +kernel) (by decide +kernel)

/-- A fragment of the response lets the request be sent more often than the budget allows, and a
datagram that is dropped postpones the next retransmission. -/
theorem fragment_renews_budget :
    Asks sampleHandshakeConfig sampleMethod keyedStage (sampleKeyed sampleHandshakeConfig).worker ∧
    (unanswered sampleHandshakeConfig keyedStage (sampleKeyed sampleHandshakeConfig).worker
      (renewedBudget sampleHandshakeConfig)).isSome ∧
    sampleHandshakeConfig.timeouts.maxRetries < timers (renewedBudget sampleHandshakeConfig) ∧
    (unanswered sampleHandshakeConfig keyedStage (sampleKeyed sampleHandshakeConfig).worker
      junk).map (fun h => h.wait.deadline) = some (2 * second) ∧
    (schedule sampleHandshakeConfig.toConfig (sampleKeyed sampleHandshakeConfig).worker.clock
      junk).deadline = 1 + second := by
  refine ⟨asks_sampleKeyed, ?_, ?_, ?_, ?_⟩
  · decide +kernel
  · decide +kernel
  · decide +kernel
  · decide +kernel

/-- A run in which only the timer fires. -/
theorem sample_schedule : ∃ packets h',
    unanswered sampleHandshakeConfig keyedStage (sampleKeyed sampleHandshakeConfig).worker
      [(1 + second, .timer)] = some h' ∧
    OnSchedule sampleHandshakeConfig sampleMethod keyedStage packets
      (sampleKeyed sampleHandshakeConfig).worker [(1 + second, .timer)] h' := by
  have hasks := asks_sampleKeyed
  have hsome : (unanswered sampleHandshakeConfig keyedStage
      (sampleKeyed sampleHandshakeConfig).worker [(1 + second, .timer)]).isSome := by decide +kernel
  generalize (sampleKeyed sampleHandshakeConfig).worker = h at hasks hsome ⊢
  obtain ⟨packets, -, hiff⟩ := retransmission_schedule sampleHandshakeConfig sampleMethod keyedStage h
    hasks
  obtain ⟨h', hrun⟩ := Option.isSome_iff_exists.mp hsome
  refine ⟨packets, h', hrun, (hiff _ hsome).mpr (fun pre e h₁ hpre _ pkt hpkt => ?_) _ h'
    List.prefix_rfl hrun⟩
  have he : e ∈ [(1 + second, Event.timer)] := hpre.subset (by simp)
  rw [List.mem_singleton.mp he] at hpkt
  cases hpkt

end Sample

end Swan.Control.Handshake
