import Swan.Session.Agreement

/-! # Installing a child

`installChild` puts a request on the channel to the data plane and waits for the acknowledgement, for
two seconds or until the context ends; `watchControlUpdates` takes the messages off the channel. The
steps of both can interleave in any way. `install_all_or_nothing`: if the wait ends with the
acknowledgement, an install that returns no error is in place and one that returns an error is never
made. A wait that ends otherwise leaves its request on the channel (`late_install`).
`run_installChild_of_steps` relates the steps to the call in one piece of the control plane. -/

namespace Swan.Session

open Swan.Lib Swan.Xcrypto Swan.Control Swan.Esp

def dataUpdatesCap : ℕ := 16

/-- A message on the channel; `ours` is the one that carries our acknowledgement channel. -/
structure Message where
  update : DataplaneUpdate
  ours : Bool
  deriving DecidableEq, Repr

/-- Where `installChild` is. -/
inductive Wait where
  | sending
  | waiting
  /-- With the error, if there is one. -/
  | returned (err : Option Err)
  deriving DecidableEq, Repr

structure Install where
  wait : Wait
  /-- The child that the control plane records as active. -/
  active : ChildSA
  dataUpdates : List Message
  /-- Whether the acknowledgement can be received. -/
  ack : Bool
  dataplane : Dataplane

/-- The arguments of `installChild`. -/
structure InstallRequest where
  child : ChildSA
  keys : ChildKeys
  selection : Selection
  deriving DecidableEq, Repr

def InstallRequest.update (q : InstallRequest) : DataplaneUpdate :=
  .childInstalled q.child q.keys q.selection

/-- What can happen next. -/
inductive InstallEvent where
  | send
  | canceled
  | acked
  | timedOut
  /-- `watchControlUpdates` takes a message off the channel. -/
  | watch
  /-- The control plane has gone on and sends another update, not of an install. -/
  | other (u : DataplaneUpdate)
  deriving DecidableEq, Repr

def IsInstall : DataplaneUpdate → Bool
  | .childInstalled _ _ _ => true
  | _ => false

def errAckTimedOut : Err := .errorf "control: data-plane child install ack timed out"

namespace Install

/-- One step, if it can happen. The control plane records the child after a return without error. -/
def step (flow : FlowConfig) (q : InstallRequest) (x : Install) : InstallEvent → Option Install
  | .send =>
    if x.wait = .sending ∧ x.dataUpdates.length < dataUpdatesCap then
      some { x with wait := .waiting, dataUpdates := x.dataUpdates ++ [⟨q.update, true⟩] }
    else none
  | .canceled =>
    match x.wait with
    | .returned _ => none
    | _ => some { x with wait := .returned (some .canceled) }
  | .acked =>
    if x.wait = .waiting ∧ x.ack = true then
      some { x with wait := .returned none, ack := false, active := q.child }
    else none
  | .timedOut =>
    if x.wait = .waiting then some { x with wait := .returned (some errAckTimedOut) } else none
  | .watch =>
    match x.dataUpdates with
    | [] => none
    | m :: rest =>
      some { x with
        dataUpdates := rest
        ack := x.ack || m.ours
        dataplane := watchControlUpdates flow m.update x.dataplane }
  | .other u =>
    match x.wait with
    | .returned _ =>
      if IsInstall u = false ∧ x.dataUpdates.length < dataUpdatesCap then
        some { x with dataUpdates := x.dataUpdates ++ [⟨u, false⟩] }
      else none
    | _ => none

/-- A sequence of steps, each of which meets the condition `C`. -/
def Runs (flow : FlowConfig) (q : InstallRequest) (C : InstallEvent → Install → Prop) :
    Install → Install → Prop :=
  Lib.Runs (fun ev x x' => x.step flow q ev = some x') C

/-- The state when `installChild` is called: earlier installs are over, and the data plane sends
with the child that the control plane records. -/
structure Ready (x : Install) : Prop where
  wait : x.wait = .sending
  ack : x.ack = false
  noInstall : ∀ m ∈ x.dataUpdates, IsInstall m.update = false ∧ m.ours = false
  outbound : x.dataplane.pipeline.outbound.cfg.spi = x.active.outboundSPI

/-- The codecs of a child are in place. -/
structure Installed (flow : FlowConfig) (q : InstallRequest) (d : Dataplane) : Prop where
  outbound : d.pipeline.outbound.cfg = childOutboundConfig flow q.child q.selection q.keys
  inbound : q.child.inboundSPI ∈ d.pipeline.inbound.spis

variable {flow : FlowConfig} {q : InstallRequest} {x₀ x x' : Install}

theorem installed_watch (flow : FlowConfig) (q : InstallRequest) (d : Dataplane) :
    Installed flow q (watchControlUpdates flow q.update d) where
  outbound := rfl
  inbound := InboundTable.mem_spis_insert.mpr (.inr rfl)

theorem outbound_watch {u : DataplaneUpdate} (h : IsInstall u = false) (d : Dataplane) :
    (watchControlUpdates flow u d).pipeline.outbound = d.pipeline.outbound := by
  cases u with
  | childInstalled child keys sel => cases h
  | childDeleted child =>
    unfold watchControlUpdates
    dsimp only
    split_ifs
    · rfl
    · exact Pipeline.outbound_dropInboundSPI _ _
  | assigned config => rfl

def Acknowledged (ev : InstallEvent) (x : Install) : Prop :=
  x.wait = .waiting → ev ≠ .timedOut ∧ ev ≠ .canceled

def NoInstall (ms : List Message) : Prop := ∀ m ∈ ms, IsInstall m.update = false ∧ m.ours = false

/-- The stages of an install whose wait ends with the acknowledgement. -/
inductive Stage (flow : FlowConfig) (q : InstallRequest) (active₀ : ChildSA) (x : Install) : Prop
  /-- Before the request and after the return. -/
  | idle (wait : x.wait ≠ .waiting) (ack : x.ack = false) (channel : NoInstall x.dataUpdates)
      (outbound : x.dataplane.pipeline.outbound.cfg.spi = x.active.outboundSPI)
      (active : x.wait ≠ .returned none → x.active = active₀)
  /-- The request is the last message on the channel. -/
  | pending (pre : List Message) (wait : x.wait = .waiting) (ack : x.ack = false)
      (channel : x.dataUpdates = pre ++ [⟨q.update, true⟩]) (hpre : NoInstall pre)
      (outbound : x.dataplane.pipeline.outbound.cfg.spi = x.active.outboundSPI)
      (active : x.active = active₀)
  /-- The child is in place; the control plane has sent nothing else meanwhile. -/
  | placed (wait : x.wait = .waiting) (ack : x.ack = true) (channel : x.dataUpdates = [])
      (installed : Installed flow q x.dataplane) (active : x.active = active₀)

theorem stage_ready (h : x.Ready) : Stage flow q x.active x :=
  .idle (by rw [h.wait]; simp) h.ack h.noInstall h.outbound fun _ => rfl

variable {active₀ : ChildSA}

theorem Stage.watch (h : Stage flow q active₀ x) (hstep : x.step flow q .watch = some x') :
    Stage flow q active₀ x' := by
  simp only [step] at hstep
  split at hstep
  · cases hstep
  next m rest hchan =>
  obtain rfl := Option.some.inj hstep
  cases h with
  | idle wait ack channel outbound active =>
    rw [hchan] at channel
    obtain ⟨hinst, hours⟩ := channel m List.mem_cons_self
    refine .idle wait ?_ (fun m' hm' => channel m' (List.mem_cons_of_mem _ hm')) ?_ active
    · simp [ack, hours]
    · dsimp only
      rw [outbound_watch hinst]
      exact outbound
  | pending pre wait ack channel hpre outbound active =>
    rw [hchan] at channel
    cases pre with
    | nil =>
      obtain ⟨rfl, rfl⟩ := List.cons.inj channel
      exact .placed wait (Bool.or_true _) rfl (installed_watch flow q _) active
    | cons m' pre =>
      obtain ⟨rfl, hrest⟩ := List.cons.inj channel
      obtain ⟨hinst, hours⟩ := hpre m List.mem_cons_self
      refine .pending pre wait ?_ hrest (fun m' hm' => hpre m' (List.mem_cons_of_mem _ hm')) ?_ active
      · simp [ack, hours]
      · dsimp only
        rw [outbound_watch hinst]
        exact outbound
  | placed wait ack channel =>
    rw [hchan] at channel
    cases channel

theorem stage_step {ev : InstallEvent} (h : Stage flow q active₀ x) (hC : Acknowledged ev x)
    (hstep : x.step flow q ev = some x') : Stage flow q active₀ x' := by
  cases ev with
  | watch => exact h.watch hstep
  | send =>
    simp only [step] at hstep
    split_ifs at hstep with hsend
    obtain rfl := Option.some.inj hstep
    cases h with
    | idle wait ack channel outbound active =>
      exact .pending x.dataUpdates rfl ack rfl channel outbound (active (by rw [hsend.1]; simp))
    | pending pre wait | placed wait =>
      rw [hsend.1] at wait
      cases wait
  | canceled =>
    simp only [step] at hstep
    split at hstep
    · cases hstep
    next hne =>
      obtain rfl := Option.some.inj hstep
      cases h with
      | idle wait ack channel outbound active =>
        exact .idle (by simp) ack channel outbound fun _ => active (hne none)
      | pending pre wait | placed wait => exact absurd rfl (hC wait).2
  | acked =>
    simp only [step] at hstep
    split_ifs at hstep with hacked
    obtain rfl := Option.some.inj hstep
    cases h with
    | idle wait => exact absurd hacked.1 wait
    | pending pre wait ack =>
      rw [hacked.2] at ack
      cases ack
    | placed wait ack channel installed active =>
      refine .idle (by simp) rfl (by rw [channel]; simp [NoInstall]) ?_ fun hne => absurd rfl hne
      dsimp only
      rw [installed.outbound]
      rfl
  | timedOut =>
    simp only [step] at hstep
    split_ifs at hstep with hwait
    exact absurd rfl (hC hwait).1
  | other u =>
    simp only [step] at hstep
    split at hstep
    next err hret =>
      split_ifs at hstep with hother
      obtain rfl := Option.some.inj hstep
      cases h with
      | idle wait ack channel outbound active =>
        refine .idle wait ack (fun m hm => ?_) outbound active
        rcases List.mem_append.mp hm with hm | hm
        · exact channel m hm
        · rw [List.mem_singleton.mp hm]
          exact ⟨hother.1, rfl⟩
      | pending pre wait | placed wait =>
        rw [hret] at wait
        cases wait
    · cases hstep

theorem stage_runs (h : Runs flow q Acknowledged x₀ x) (h₀ : x₀.Ready) :
    Stage flow q x₀.active x :=
  h.invariant (stage_ready h₀) fun hC hstep hx => stage_step hx hC hstep

theorem acked_of_returned {ev : InstallEvent} (hstep : x.step flow q ev = some x')
    (hret : x'.wait = .returned none) (hne : x.wait ≠ .returned none) :
    ev = .acked ∧ x.ack = true ∧ x.wait = .waiting ∧
      x' = { x with wait := .returned none, ack := false, active := q.child } := by
  cases ev with
  | acked =>
    simp only [step] at hstep
    split_ifs at hstep with hacked
    exact ⟨rfl, hacked.2, hacked.1, (Option.some.inj hstep).symm⟩
  | send | timedOut =>
    simp only [step] at hstep
    split_ifs at hstep
    obtain rfl := Option.some.inj hstep
    cases hret
  | canceled =>
    simp only [step] at hstep
    split at hstep
    · cases hstep
    · obtain rfl := Option.some.inj hstep
      cases hret
  | watch =>
    simp only [step] at hstep
    split at hstep
    · cases hstep
    · obtain rfl := Option.some.inj hstep
      exact absurd hret hne
  | other u =>
    simp only [step] at hstep
    split at hstep
    · split_ifs at hstep
      obtain rfl := Option.some.inj hstep
      exact absurd hret hne
    · cases hstep

/-- **All or nothing**: in every interleaving in which the wait, once the request is on the channel,
ends with the acknowledgement, the codecs of the child are in place when `installChild` returns
without error, and after an error the data plane keeps sending with the child that the control plane
records, which has not changed, and nothing on the channel will change that. -/
theorem install_all_or_nothing (h₀ : x₀.Ready) (h : Runs flow q Acknowledged x₀ x) :
    (∀ ev x', x.step flow q ev = some x' → x'.wait = .returned none → x.wait ≠ .returned none →
      Installed flow q x'.dataplane ∧ x'.active = q.child) ∧
    ∀ e, x.wait = .returned (some e) →
      x.dataplane.pipeline.outbound.cfg.spi = x.active.outboundSPI ∧ x.active = x₀.active ∧
      ∀ m ∈ x.dataUpdates, IsInstall m.update = false := by
  refine ⟨fun ev x' hstep hret hne => ?_, fun e hret => ?_⟩
  · obtain ⟨-, hack, hwait, rfl⟩ := acked_of_returned hstep hret hne
    cases stage_runs h h₀ with
    | idle wait => exact absurd hwait wait
    | pending pre wait ack =>
      rw [hack] at ack
      cases ack
    | placed wait ack channel installed active => exact ⟨installed, rfl⟩
  · cases stage_runs h h₀ with
    | idle wait ack channel outbound active =>
      exact ⟨outbound, active (by rw [hret]; simp), fun m hm => (channel m hm).1⟩
    | pending pre wait | placed wait =>
      rw [hret] at wait
      cases wait

/-- The ways in which the wait can end. -/
def ackResult : AckOutcome → Option Err
  | .acked => none
  | .timedOut => some errAckTimedOut
  | .canceled => some .canceled

def returns : Option Err → Except Err Unit
  | none => .ok ()
  | some e => .error e

theorem ackResult_step {ev : InstallEvent}
    (h : ∀ err, x.wait = .returned err → ∃ out, ackResult out = err)
    (hstep : x.step flow q ev = some x') :
    ∀ err, x'.wait = .returned err → ∃ out, ackResult out = err := by
  intro err hret
  cases ev with
  | send =>
    simp only [step] at hstep
    split_ifs at hstep
    obtain rfl := Option.some.inj hstep
    cases hret
  | acked =>
    simp only [step] at hstep
    split_ifs at hstep
    obtain rfl := Option.some.inj hstep
    exact ⟨.acked, Wait.returned.inj hret⟩
  | timedOut =>
    simp only [step] at hstep
    split_ifs at hstep
    obtain rfl := Option.some.inj hstep
    exact ⟨.timedOut, Wait.returned.inj hret⟩
  | canceled =>
    simp only [step] at hstep
    split at hstep
    · cases hstep
    · obtain rfl := Option.some.inj hstep
      exact ⟨.canceled, Wait.returned.inj hret⟩
  | watch =>
    simp only [step] at hstep
    split at hstep
    · cases hstep
    · obtain rfl := Option.some.inj hstep
      exact h err hret
  | other u =>
    simp only [step] at hstep
    split at hstep
    · split_ifs at hstep
      obtain rfl := Option.some.inj hstep
      exact h err hret
    · cases hstep

theorem run_installChild_of_steps {C : InstallEvent → Install → Prop} {err : Option Err}
    (h : Runs flow q C x₀ x) (h₀ : x₀.wait = .sending) (hret : x.wait = .returned err) :
    ∃ out, ∀ (cfg : Config) (a : Running), cfg.dataUpdates = true → a.world.cancel 0 = false →
      a.world.ack 0 = out →
      ((installChild cfg q.child q.keys q.selection).run a).1 = returns err := by
  obtain ⟨out, rfl⟩ := h.invariant (I := fun x => ∀ err, x.wait = .returned err →
    ∃ out, ackResult out = err) (fun err hret => by rw [h₀] at hret; cases hret)
    (fun _ hstep ih => ackResult_step ih hstep) err hret
  refine ⟨out, fun cfg a hwired hcancel hack => ?_⟩
  suffices hwp : (installChild cfg q.child q.keys q.selection).wp
    (fun r _ => r = returns (ackResult out)) a from hwp
  unfold installChild
  rw [hwired]
  refine Eff.wp_ite (fun h => by cases h) fun _ => ?_
  rw [Eff.wp_bind, wp_drawCancel, Eff.next_ok, hcancel]
  refine Eff.wp_ite (fun h => by cases h) fun _ => ?_
  rw [Eff.wp_bind]
  refine Eff.wp_run rfl ?_
  rw [Eff.next_ok, Eff.wp_bind, wp_drawAck, Eff.next_ok]
  have hack' : ((drawCancel.run a).2.logged (.update q.update)).world.ack 0 = out := hack
  simp only [InstallRequest.update] at hack'
  rw [hack']
  cases out <;> rfl

/-! ### A late acknowledgement -/

def sampleRequest : InstallRequest := ⟨⟨9, 10, [1], [2], true⟩, cbcChildKeys, cbcSelection⟩

def sampleInstall : Install :=
  ⟨.sending, sampleChild, [], false, Dataplane.start sampleFlow sampleChild cbcSelection cbcChildKeys
    sampleAssigned⟩

theorem ready_sampleInstall : sampleInstall.Ready :=
  ⟨rfl, rfl, fun _ hm => absurd hm List.not_mem_nil, rfl⟩

/-- The wait times out, and then the data plane takes the request off the channel: `installChild` has
failed, the control plane keeps the old child, and the data plane sends with the new one. -/
theorem late_install : ∃ x, Runs sampleFlow sampleRequest (fun _ _ => True) sampleInstall x ∧
    x.wait = .returned (some errAckTimedOut) ∧ x.active = sampleChild ∧
    x.dataplane.pipeline.outbound.cfg.spi = 10 ∧ x.active.outboundSPI = 8 := by
  have hfollow : follow (fun ev x => step sampleFlow sampleRequest x ev) [.send, .timedOut, .watch]
      sampleInstall = some ⟨.returned (some errAckTimedOut), sampleChild, [], true,
        watchControlUpdates sampleFlow sampleRequest.update sampleInstall.dataplane⟩ := rfl
  exact ⟨_, runs_of_follow hfollow fun _ _ => fun h => ⟨trivial, h⟩, rfl, rfl, rfl, rfl⟩

/-- An install that is acknowledged. -/
theorem sample_all_or_nothing : ∃ x : Install, Installed sampleFlow sampleRequest x.dataplane ∧
    x.active = sampleRequest.child := by
  have hfollow : follow (fun ev x => step sampleFlow sampleRequest x ev) [.send, .watch]
      sampleInstall = some ⟨.waiting, sampleChild, [], true,
        watchControlUpdates sampleFlow sampleRequest.update sampleInstall.dataplane⟩ := rfl
  have hruns : Runs sampleFlow sampleRequest Acknowledged sampleInstall _ :=
    runs_of_follow hfollow (by simp [Acknowledged])
  exact ⟨_, (install_all_or_nothing ready_sampleInstall hruns).1 .acked _ rfl rfl (by simp)⟩

end Install

end Swan.Session
