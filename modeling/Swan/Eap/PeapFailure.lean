import Swan.Eap.Peap

/-! # After an error of PEAP

An error puts the method into the failed phase, in which a packet is answered with an error. But the
fragments of a message that was going out are asked for and sent before the phase is looked at.
`fails_closed_iff` says when nothing is sent any more: when no fragment is left that the server may still
ask for and that fits into a packet (`Quiet`). -/

namespace Swan.Eap.Peap

open Swan.Lib

/-! ### What is left to send -/

def OutboundFragmenter.rest (f : OutboundFragmenter) : Bytes := (f.payload.getD []).drop f.offset

theorem OutboundFragmenter.pending_iff_rest (f : OutboundFragmenter) : f.Pending ↔ 0 < f.rest.length := by
  unfold OutboundFragmenter.Pending OutboundFragmenter.rest
  cases hp : f.payload with
  | none => simp
  | some p => simp

theorem OutboundFragmenter.run_next {f : OutboundFragmenter} (h : f.Pending) :
    ∃ flags done f', OutboundFragmenter.next.run f = (.ok (flags :: f.rest.take f.chunk, done), f') ∧
      f'.chunk = f.chunk ∧ f'.rest = f.rest.drop f.chunk := by
  obtain ⟨p, hp, hlt⟩ := id h
  have hrest : f.rest = p.drop f.offset := by rw [OutboundFragmenter.rest, hp, Option.getD_some]
  have hchunk : slice p f.offset (min p.length (f.offset + f.chunk)) = f.rest.take f.chunk := by
    rw [hrest, slice, Nat.min_comm, ← List.take_take, List.take_length, List.drop_take,
      Nat.add_sub_cancel_left]
  rw [OutboundFragmenter.next, Eff.run_bind_of_ok (Eff.run_get _)]
  simp only [hp, if_neg (not_not.mpr h), hchunk]
  by_cases hmore : min p.length (f.offset + f.chunk) < p.length
  · rw [if_pos hmore]
    refine ⟨_, _, _, rfl, rfl, ?_⟩
    have hmin : min p.length (f.offset + f.chunk) = f.offset + f.chunk := by omega
    rw [hrest, List.drop_drop, OutboundFragmenter.rest]
    dsimp only
    rw [hp, hmin, Option.getD_some]
  · rw [if_neg hmore]
    refine ⟨_, _, _, rfl, rfl, ?_⟩
    have hall : p.length ≤ f.offset + f.chunk := by omega
    rw [hrest, List.drop_drop, List.drop_of_length_le hall]
    rfl

section Failure

variable {E : Type}

/-- The server may send one more request, after `i` others. -/
def Method.Allows (m : Method E) (i : ℕ) : Prop :=
  m.opts.maxMessageCount ≤ 0 ∨ (m.messages : ℤ) + i + 1 ≤ m.opts.maxMessageCount

instance (m : Method E) (i : ℕ) : Decidable (m.Allows i) := inferInstanceAs (Decidable (_ ∨ _))

/-- Every fragment that is left and that the server may still ask for is too large for a packet. -/
def Method.Quiet (m : Method E) : Prop :=
  ∀ f g, m.pendingOut = some f → m.pendingIn = some g →
    ∀ i, i * f.chunk < f.rest.length → m.Allows i →
      0xFFFF < 6 + min f.chunk (f.rest.length - i * f.chunk)

/-- An initialized method and the message that it is sending. -/
structure Method.SendsFrom (m : Method E) (f : OutboundFragmenter) : Prop where
  out : m.pendingOut = some f
  init : m.pendingIn ≠ none
  pending : f.Pending

def Machine.asked (m : Machine E) (f' : OutboundFragmenter) : Machine E :=
  { m with messages := m.messages + 1, pendingOut := some f' }

theorem Method.allows_succ {m m' : Method E} {i : ℕ} (hopts : m'.opts = m.opts)
    (hmessages : m'.messages = m.messages + 1) : m'.Allows i ↔ m.Allows (i + 1) := by
  unfold Method.Allows
  rw [hopts, hmessages]
  push_cast
  constructor <;> exact Or.imp_right fun h => by omega

theorem Method.Quiet.count {m m' : Method E} (h : m.Quiet) (hopts : m'.opts = m.opts)
    (hmessages : m'.messages = m.messages + 1) (hout : m'.pendingOut = m.pendingOut)
    (hin : m'.pendingIn = m.pendingIn) : m'.Quiet := by
  intro f g hf hg i hi hallows
  refine h f g (hout ▸ hf) (hin ▸ hg) i hi ?_
  have hmore := (Method.allows_succ hopts hmessages).mp hallows
  exact hmore.imp_right fun h => by push_cast at h; omega

variable {m : Machine E} {f : OutboundFragmenter} {e : Err}

theorem Method.Quiet.asked {f' : OutboundFragmenter} (h : m.Quiet) (hf : m.pendingOut = some f)
    (hchunk : f'.chunk = f.chunk) (hrest : f'.rest = f.rest.drop f.chunk) :
    (m.asked f').Quiet := by
  intro f₁ g hf₁ hg i hi hallows
  obtain rfl : f' = f₁ := Option.some.inj hf₁
  have hlen : f'.rest.length = f.rest.length - f.chunk := by rw [hrest, List.length_drop]
  have hmessages : (m.asked f').messages = m.messages + 1 := rfl
  have hopts : (m.asked f').opts = m.opts := rfl
  have hallows' : m.Allows (i + 1) := (Method.allows_succ hopts hmessages).mp hallows
  have hsucc : (i + 1) * f.chunk = i * f.chunk + f.chunk := Nat.succ_mul i f.chunk
  rw [hchunk, hlen] at hi ⊢
  have hlarge := h f g hf hg (i + 1) (by omega) hallows'
  rwa [hsucc, ← Nat.sub_sub, Nat.sub_right_comm] at hlarge

/-- **A request for the next fragment** while the server may send one: it is cut off and encoded. -/
theorem run_emitNextFragment (h : m.SendsFrom f) (id : UInt8) :
    ∃ flags f', (emitNextFragment id).run m =
        (Result.send <$> encodePeapResponse id (flags :: f.rest.take f.chunk),
          { m with pendingOut := some f' }) ∧
      f'.chunk = f.chunk ∧ f'.rest = f.rest.drop f.chunk := by
  obtain ⟨flags, done, f', hnext, hchunk, hrest⟩ := OutboundFragmenter.run_next h.pending
  refine ⟨flags, f', ?_, hchunk, hrest⟩
  have hout : (onOut (E := E)
      (.errorf "github.com/wsm25/swan/eap/peap: no outbound peap fragments pending")
      OutboundFragmenter.next).run m =
        (.ok (flags :: f.rest.take f.chunk, done), { m with pendingOut := some f' }) := by
    rw [run_onOut _ _ h.out, hnext]
  rw [emitNextFragment, Eff.run_bind_of_ok hout]
  cases encodePeapResponse id (flags :: f.rest.take f.chunk) <;> rfl

theorem encodePeapResponse_eq (id flags : UInt8) (rest : Bytes) (chunk : ℕ) :
    encodePeapResponse id (flags :: rest.take chunk) =
      if 0xFFFF < 6 + min chunk rest.length then .error (.errorf "peap packet too large")
      else .ok (codeResponse :: id :: putUint16 (UInt16.ofNat (6 + min chunk rest.length)) ++
        typePEAP :: flags :: rest.take chunk) := by
  have hlen : 5 + (flags :: rest.take chunk).length = 6 + min chunk rest.length := by
    rw [List.length_cons, List.length_take]
    omega
  unfold encodePeapResponse
  rw [hlen]

/-! ### Calls in the failed phase -/

theorem errorf_of_parse {b : Bytes} (h : parse b = .error e) : ∃ text, e = .errorf text := by
  unfold parse at h
  split at h
  · dsimp only at h
    split_ifs at h
    · exact ⟨_, (Except.error.inj h).symm⟩
    · split at h
      · exact ⟨_, (Except.error.inj h).symm⟩
      · cases h
    · exact ⟨_, (Except.error.inj h).symm⟩
  · exact ⟨_, (Except.error.inj h).symm⟩

theorem errorf_of_parsePeapRequest {identifier : UInt8} {b : Bytes}
    (h : parsePeapRequest identifier b = .error e) : ∃ text, e = .errorf text := by
  unfold parsePeapRequest at h
  split at h
  · exact ⟨_, (Except.error.inj h).symm⟩
  · split_ifs at h <;> exact ⟨_, (Except.error.inj h).symm⟩

variable [Engine E] [Digests]

/-- The method has failed, and nothing is sent any more. -/
def Machine.Hushed (m : Machine E) : Prop := m.phase = .failed ∧ m.Quiet

theorem wp_inPhase_failed (h : m.phase = .failed) (outer : Packet) (peap : Option PeapRequest)
    {Q : Except Err Result → Machine E → Prop} (hQ : ∀ text, Q (.error (.errorf text)) m) :
    (inPhase outer peap).wp Q m := by
  unfold inPhase
  rw [Eff.wp_bind, Eff.wp_get, Eff.next_ok, h]
  exact hQ _

theorem wp_paced_hushed (h : m.Hushed) (hin : m.pendingIn ≠ none) (outer : Packet)
    (peap : PeapRequest) :
    (paced outer peap).wp (fun r m' => (∃ text, r = .error (.errorf text)) ∧ m'.Hushed) m := by
  set m₁ : Machine E := { m with messages := m.messages + 1 }
  have hcounted : m₁.Hushed := ⟨h.1, h.2.count rfl rfl rfl rfl⟩
  unfold paced
  rw [Eff.wp_bind, Eff.wp_modify, Eff.next_ok, Eff.wp_bind, Eff.wp_get, Eff.next_ok]
  refine Eff.wp_ite (fun _ => ⟨⟨_, rfl⟩, hcounted⟩) fun hbudget =>
    Eff.wp_ite (fun hpending => Eff.wp_ite (fun _ => ⟨⟨_, rfl⟩, hcounted⟩) fun _ => ?_) fun _ =>
      wp_inPhase_failed hcounted.1 _ _ fun text => ⟨⟨text, rfl⟩, hcounted⟩
  -- the server asks for a fragment: it is too large to be sent
  obtain ⟨f, hf, hp⟩ := hpending
  obtain ⟨g, hg⟩ := Option.ne_none_iff_exists'.mp hin
  obtain ⟨flags, f', hrun, hchunk, hrest⟩ := run_emitNextFragment (m := m₁) ⟨hf, hin, hp⟩ peap.identifier
  have hallows : m.Allows 0 := by
    unfold Method.Allows
    have hmessages : m₁.messages = m.messages + 1 := rfl
    have hopts : m₁.opts = m.opts := rfl
    rw [hmessages, hopts] at hbudget
    push_cast at hbudget ⊢
    omega
  have hlarge := h.2 f g hf hg 0 (by rw [Nat.zero_mul]; exact f.pending_iff_rest.mp hp) hallows
  rw [Nat.zero_mul, Nat.sub_zero] at hlarge
  rw [encodePeapResponse_eq, if_pos hlarge] at hrun
  exact Eff.wp_run hrun ⟨⟨_, rfl⟩, h.1, h.2.asked hf hchunk hrest⟩

theorem wp_handleInner_hushed (h : m.Hushed) (packet : Bytes) :
    (handleInner packet).wp (fun r m' => (∃ text, r = .error (.errorf text)) ∧ m'.Hushed) m := by
  unfold handleInner
  rw [Eff.wp_bind, Eff.wp_lift]
  rcases hparse : parse packet with e | outer
  · obtain ⟨text, rfl⟩ := errorf_of_parse hparse
    exact ⟨⟨text, rfl⟩, h⟩
  rw [Eff.next_ok, Eff.wp_bind, Eff.wp_get, Eff.next_ok]
  refine Eff.wp_ite (fun _ => ⟨⟨_, rfl⟩, h⟩) fun hinit => Eff.wp_ite (fun _ => ?_) fun _ =>
    wp_inPhase_failed h.1 _ _ fun text => ⟨⟨text, rfl⟩, h⟩
  rw [Eff.wp_bind, Eff.wp_lift]
  rcases hpeap : parsePeapRequest outer.identifier outer.data with e | peap
  · obtain ⟨text, rfl⟩ := errorf_of_parsePeapRequest hpeap
    exact ⟨⟨text, rfl⟩, h⟩
  · exact wp_paced_hushed h (fun hin => hinit (.inr hin)) outer peap

/-- **One call**: it fails, and nothing is sent after it either. -/
theorem wp_handle_hushed (h : m.Hushed) (packet : Bytes) :
    (handle packet).wp (fun r m' => (∃ text, r = .error (.errorf text)) ∧ m'.Hushed) m := by
  unfold handle
  rw [Eff.wp_bind, Eff.wp_attempt]
  refine Eff.wp_mono (wp_handleInner_hushed h packet) fun r m' hr => ?_
  obtain ⟨⟨text, rfl⟩, hm'⟩ := hr
  exact ⟨⟨text, rfl⟩, rfl, hm'.2⟩

theorem trace_hushed : ∀ (packets : List Bytes) {m : Machine E}, m.Hushed →
    ∀ r ∈ (Eff.trace (packets.map handle) m).1, ∃ text, r = .error (.errorf text)
  | [], _, _, r, hr => nomatch hr
  | packet :: packets, m, h, r, hr => by
    obtain ⟨hfail, hm'⟩ := wp_handle_hushed h packet
    rw [List.map_cons, Eff.trace] at hr
    rcases List.mem_cons.mp hr with rfl | hr
    · exact hfail
    · exact trace_hushed packets hm' r hr

/-! ### Fragments that are still asked for -/

/-- The packet with which the server asks for the next fragment. -/
def ackRequest : Bytes := [codeRequest, 0, 0, 6, typePEAP, 0]

theorem run_ack (h : m.SendsFrom f) (hallows : m.Allows 0) :
    ∃ r m' f', (handle ackRequest).run m = (r, m') ∧
      ((∃ res, r = .ok res) ↔ ¬0xFFFF < 6 + min f.chunk f.rest.length) ∧
      m'.pendingOut = some f' ∧ f'.chunk = f.chunk ∧ f'.rest = f.rest.drop f.chunk ∧
      m'.pendingIn = m.pendingIn ∧ m'.opts = m.opts ∧ m'.messages = m.messages + 1 := by
  set m₁ : Machine E := { m with messages := m.messages + 1 } with hm₁
  obtain ⟨flags, f', hrun, hchunk, hrest⟩ :=
    run_emitNextFragment (m := m₁) ⟨h.out, h.init, h.pending⟩ 0
  have hbudget : ¬(m₁.opts.maxMessageCount > 0 ∧ (m₁.messages : ℤ) > m₁.opts.maxMessageCount) := by
    have hmessages : m₁.messages = m.messages + 1 := rfl
    have hopts : m₁.opts = m.opts := rfl
    unfold Method.Allows at hallows
    rw [hmessages, hopts]
    push_cast at hallows ⊢
    omega
  have hparse : parse ackRequest = .ok ⟨codeRequest, 0, typePEAP, [0]⟩ := by decide
  have hpeap : parsePeapRequest 0 [0] = .ok ⟨0, 0, false, 0, []⟩ := by decide
  have hinner : (handleInner ackRequest).run m =
      (Result.send <$> encodePeapResponse 0 (flags :: f.rest.take f.chunk),
        { m₁ with pendingOut := some f' }) := by
    rw [handleInner, hparse, Eff.run_bind_of_ok (Eff.run_lift _ _), Eff.run_bind_of_ok (Eff.run_get _),
      if_neg (by rw [h.out]; exact fun hno => hno.elim (fun h => nomatch h) h.init), if_pos ⟨rfl, rfl⟩]
    dsimp only
    rw [hpeap, Eff.run_bind_of_ok (Eff.run_lift _ _), paced, Eff.run_bind_of_ok (Eff.run_modify _ _),
      Eff.run_bind_of_ok (Eff.run_get _), ← hm₁, if_neg hbudget, if_pos ⟨f, h.out, h.pending⟩,
      if_neg (by decide)]
    exact hrun
  rw [encodePeapResponse_eq] at hinner
  rw [handle]
  by_cases hlarge : 0xFFFF < 6 + min f.chunk f.rest.length
  · rw [if_pos hlarge] at hinner
    have hattempt : (handleInner ackRequest).attempt.run m =
        (.ok (.error (.errorf "peap packet too large")), { m₁ with pendingOut := some f' }) := by
      rw [Eff.run_attempt, hinner]
      rfl
    rw [Eff.run_bind_of_ok hattempt]
    exact ⟨_, _, f', rfl, ⟨fun ⟨_, hres⟩ => (nomatch hres), fun hfits => absurd hlarge hfits⟩,
      rfl, hchunk, hrest, rfl, rfl, rfl⟩
  · rw [if_neg hlarge] at hinner
    rw [Eff.run_bind_of_ok (Eff.run_attempt_of_ok hinner)]
    refine ⟨_, _, f', rfl, ?_, rfl, hchunk, hrest, rfl, rfl, rfl⟩
    exact ⟨fun _ => hlarge, fun _ => ⟨_, rfl⟩⟩

theorem ack_answered : ∀ (i : ℕ) {m : Machine E} {f : OutboundFragmenter}, m.pendingOut = some f →
    m.pendingIn ≠ none → i * f.chunk < f.rest.length → m.Allows i →
    ¬0xFFFF < 6 + min f.chunk (f.rest.length - i * f.chunk) →
    ∃ r ∈ (Eff.trace ((List.replicate (i + 1) ackRequest).map handle) m).1, ∃ res, r = .ok res
  | 0, m, f, hf, hin, hi, hallows, hfits => by
    rw [Nat.zero_mul] at hi hfits
    obtain ⟨r, m', f', hrun, hok, -⟩ := run_ack ⟨hf, hin, f.pending_iff_rest.mpr hi⟩ hallows
    refine ⟨r, ?_, hok.mpr (by rwa [Nat.sub_zero] at hfits)⟩
    rw [List.replicate_succ, List.map_cons, Eff.trace_cons_of_run _ hrun]
    exact List.mem_cons_self
  | i + 1, m, f, hf, hin, hi, hallows, hfits => by
    have hsucc : (i + 1) * f.chunk = i * f.chunk + f.chunk := Nat.succ_mul i f.chunk
    rw [hsucc] at hi hfits
    have hfirst : m.Allows 0 := hallows.imp_right fun h => by push_cast at h ⊢; omega
    obtain ⟨r, m', f', hrun, -, hf', hchunk, hrest, hin', hopts, hmessages⟩ :=
      run_ack ⟨hf, hin, f.pending_iff_rest.mpr (by omega)⟩ hfirst
    have hlen : f'.rest.length = f.rest.length - f.chunk := by rw [hrest, List.length_drop]
    obtain ⟨r', hr', hres⟩ := ack_answered i hf' (hin' ▸ hin) (by rw [hchunk, hlen]; omega)
      ((Method.allows_succ hopts hmessages).mpr hallows)
      (by rw [hchunk, hlen, Nat.sub_right_comm, Nat.sub_sub]; exact hfits)
    refine ⟨r', ?_, hres⟩
    rw [List.replicate_succ, List.map_cons, Eff.trace_cons_of_run _ hrun]
    exact List.mem_cons_of_mem _ hr'

/-! ### After an error -/

theorem failed_of_error {m' : Machine E} {packet : Bytes}
    (h : (handle packet).run m = (.error e, m')) (hpanic : ∀ t, e ≠ .panicked t) :
    m'.phase = .failed := by
  have hwp : (handle packet).wp (fun r m' => ∀ e, r = .error e → (∀ t, e ≠ .panicked t) →
      m'.phase = .failed) m := by
    unfold handle
    rw [Eff.wp_bind, Eff.wp_attempt]
    refine Eff.wp_mono (P := fun _ _ => True) trivial fun r m₁ _ => ?_
    cases r with
    | ok res => exact fun e he => nomatch he
    | error e =>
      cases e with
      | panicked t => exact fun e' he' hno => absurd (Except.error.inj he').symm (hno t)
      | _ => exact fun _ _ _ => rfl
  exact Eff.wp_of_run hwp h e rfl hpanic

/-- **After an error nothing is sent** exactly when no fragment is left that the server may still ask for
and that fits into a packet. -/
theorem fails_closed_iff (m m' : Machine E) (packet : Bytes) (e : Err)
    (hrun : (handle packet).run m = (.error e, m')) (hpanic : ∀ t, e ≠ .panicked t) :
    (∀ packets : List Bytes, ∀ r ∈ (Eff.trace (packets.map handle) m').1,
      ∃ text, r = .error (.errorf text)) ↔ m'.Quiet := by
  constructor
  · intro hclosed f g hf hg i hi hallows
    by_contra hfits
    have hin : m'.pendingIn ≠ none := fun hnone => nomatch hnone.symm.trans hg
    obtain ⟨r, hr, res, rfl⟩ := ack_answered i hf hin hi hallows hfits
    obtain ⟨text, htext⟩ := hclosed _ _ hr
    cases htext
  · exact fun hquiet packets r hr => trace_hushed packets ⟨failed_of_error hrun hpanic, hquiet⟩ r hr

end Failure

section Sample

attribute [local instance] plainEngine MSCHAPv2.plainDigests

/-- The state after the start packet and an outer success that comes too early. -/
def sampleFailed (fragmentSize : ℤ) : Machine Unit :=
  (Eff.trace [handle (sampleRequest flagStart []), handle [codeSuccess, 1, 0, 4]]
    (sampleMethod fragmentSize)).2

/-- The first message goes out in one packet: after the error nothing is sent. -/
theorem sample_fails_closed : (sampleFailed 100).phase = .failed ∧
    ∀ packets : List Bytes, ∀ r ∈ (Eff.trace (packets.map handle) (sampleFailed 100)).1,
      ∃ text, r = .error (.errorf text) := by
  refine ⟨by decide +kernel, (fails_closed_iff ((handle (sampleRequest flagStart [])).run
    (sampleMethod 100)).2 (sampleFailed 100) [codeSuccess, 1, 0, 4]
    (.errorf "unexpected outer EAP success 1 during peap tls tunnel") ?_ fun t h => nomatch h).mpr ?_⟩
  · refine Prod.ext (by decide +kernel) rfl
  · intro f g hf _ i hi
    have hnone : (sampleFailed 100).pendingOut.map OutboundFragmenter.rest = some [] := by decide +kernel
    rw [hf, Option.map_some, Option.some.injEq] at hnone
    rw [hnone] at hi
    exact absurd hi (Nat.not_lt_zero _)

/-- The first message goes out in fragments of two bytes: the second fragment is sent after the error. -/
theorem fragment_after_failure :
    (Eff.trace ([sampleRequest flagStart [], [codeSuccess, 1, 0, 4], ackRequest].map handle)
      (sampleMethod 2)).1 =
    [.ok (.send [codeResponse, 1, 0, 12, typePEAP, 0xC0, 0, 0, 0, 5, 1, 2]),
      .error (.errorf "unexpected outer EAP success 1 during peap tls tunnel"),
      .ok (.send [codeResponse, 0, 0, 8, typePEAP, 0x40, 3, 4])] := by
  decide +kernel

end Sample

end Swan.Eap.Peap
