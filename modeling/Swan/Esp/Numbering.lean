import Swan.Esp.Outflow
import Swan.Xcrypto.Instance

/-! # Sequence numbers of an outbound SA

`Call` says what one call of `Outbound.process` does to the codec: it keeps it, it marks it as wrapped, or
it takes the next number. From this, for every sequence of packets (`turns`): the numbers of the returned
datagrams increase, the error of a wrapped counter comes back from then on, the rekey trigger is raised at
most once, and it has been raised once a datagram reaches one of the configured limits
(`sequence_numbers`). A limit of 0 is switched off; `disabled_warning` is a codec without a limit, which
never raises the trigger. -/

namespace Swan.Esp.Outbound

open Swan.Lib Swan.Xcrypto

/-! ### Errors that are not the wrapped counter -/

theorem errorf_append_ne {p t s : String} {i : ℕ} (hi : i < p.toList.length)
    (h : p.toList[i]? ≠ s.toList[i]?) : Err.errorf (p ++ t) ≠ .errorf s := by
  intro heq
  have hlist := congrArg (fun e : Err => e.text.toList[i]?) heq
  dsimp only [Err.text] at hlist
  rw [String.toList_append, List.getElem?_append_left hi] at hlist
  exact h hlist

theorem ipNextHeader_ne {b : UInt8} {e : Err} (h : ipNextHeader b = .error e) : e ≠ errSeqWrapped := by
  unfold ipNextHeader at h
  split_ifs at h
  obtain rfl := Except.error.inj h
  exact errorf_append_ne (i := 28) (by decide) (by decide)

theorem wrap_ne {α : Type} {t : String} {r : Except Err α} {e : Err} (h : wrap t r = .error e) :
    e ≠ errSeqWrapped := by
  cases r with
  | ok a => cases h
  | error i =>
    obtain rfl := Except.error.inj h
    exact fun h => nomatch h

theorem bind_eq_error {ε α β : Type} {x : Except ε α} {f : α → Except ε β} {e : ε}
    (h : x >>= f = .error e) : x = .error e ∨ ∃ a, x = .ok a ∧ f a = .error e := by
  cases x with
  | error e' =>
    obtain rfl := Except.error.inj h
    exact .inl rfl
  | ok a => exact .inr ⟨a, rfl, h⟩

section Calls

variable [Crypto]

theorem prepareOutbound_ne {cfg : OutboundConfig} {e : Err} (h : prepareOutbound cfg = .error e) :
    e ≠ errSeqWrapped := by
  obtain h | ⟨state, -, h⟩ := bind_eq_error h
  · exact wrap_ne h
  cases haead : cfg.selection.encryption.aead with
  | true =>
    rw [haead, if_pos rfl] at h
    cases h
  | false =>
    rw [haead, if_neg Bool.false_ne_true] at h
    obtain h | ⟨integ, -, h⟩ := bind_eq_error h
    · exact wrap_ne h
    · cases h

theorem sealDatagram_ne {cfg : OutboundConfig} {enc : PreparedEncryption} {integ : Option PreparedIntegrity}
    {seq : UInt32} {iv plain : Bytes} {e : Err} (h : sealDatagram cfg enc integ seq iv plain = .error e) :
    e ≠ errSeqWrapped := by
  obtain h | ⟨datagram, -, h⟩ := bind_eq_error h
  · exact wrap_ne h
  cases haead : cfg.selection.encryption.aead with
  | true =>
    rw [haead, if_pos rfl] at h
    cases h
  | false =>
    rw [haead, if_neg Bool.false_ne_true] at h
    cases integ with
    | none =>
      obtain rfl := Except.error.inj h
      decide
    | some integ =>
      obtain h | ⟨icv, -, h⟩ := bind_eq_error h
      · exact wrap_ne h
      · cases h

/-! ### One call -/

/-- What a call with the given packet does to a codec. -/
inductive Call (p : Outbound) (packet : Bytes) : Except Err Bytes → Outbound → Prop
  /-- The counter has wrapped in an earlier call. -/
  | stuck : p.wrapped = true → Call p packet (.error errSeqWrapped) p
  /-- The packet is refused before it takes a number. -/
  | refused {e : Err} : p.wrapped = false → e ≠ errSeqWrapped → Call p packet (.error e) p
  /-- All numbers have been used. -/
  | wraps : p.wrapped = false → p.seq = 0 → Call p packet (.error errSeqWrapped) { p with wrapped := true }
  /-- The packet takes a number and is refused all the same. -/
  | fails {e : Err} : p.wrapped = false → p.seq ≠ 0 → e ≠ errSeqWrapped →
      Call p packet (.error e) (p.take packet)
  | returns {d : Bytes} : p.wrapped = false → p.seq ≠ 0 → seqOf d = p.seq →
      Call p packet (.ok d) (p.take packet)

/-- **Every call is one of these.** -/
theorem call_process (packet : Bytes) (p : Outbound) (rng : Rng) :
    (process packet).wp (fun r s => p.Call packet r s.1) (p, rng) := by
  unfold process
  rw [Eff.wp_bind, Eff.wp_get, Eff.next_ok]
  dsimp only
  refine Eff.wp_ite (fun hwrapped => .stuck hwrapped) fun hwrapped => ?_
  rw [Bool.not_eq_true] at hwrapped
  cases hprep : prepareOutbound p.cfg with
  | error e => exact .refused hwrapped (prepareOutbound_ne hprep)
  | ok states =>
  obtain ⟨enc, integ⟩ := states
  refine Eff.wp_ite (fun _ => .refused hwrapped (by decide)) fun hlen => ?_
  rw [Eff.wp_bind, Eff.wp_lift]
  cases hnext : ipNextHeader (packet.headD 0) with
  | error e => exact .refused hwrapped (ipNextHeader_ne hnext)
  | ok nextHeader =>
  rw [Eff.next_ok, Eff.wp_bind, Eff.wp_attempt, Eff.wp_zoom]
  rcases hfill : (fill p.cfg.selection.encryption.ivLen).run rng with ⟨e | iv, rng'⟩
  · refine Eff.wp_run hfill ?_
    cases e with
    | panicked t => exact .refused hwrapped fun h => nomatch h
    | errorf t => exact .refused hwrapped fun h => nomatch h
    | wrapf t e => exact .refused hwrapped fun h => nomatch h
    | canceled => exact .refused hwrapped fun h => nomatch h
  refine Eff.wp_run hfill ?_
  rw [caught_ok, Eff.next_ok]
  dsimp only
  refine Eff.wp_ite (fun hzero => .wraps hwrapped hzero) fun hseq => ?_
  rw [Eff.wp_bind, Eff.wp_modify, Eff.next_ok]
  refine Eff.wp_ite (fun _ => .fails hwrapped hseq ?_) fun hfits => ?_
  · rw [String.append_assoc, String.append_assoc]
    exact errorf_append_ne (i := 28) (by decide) (by decide)
  rw [Eff.wp_lift]
  cases hseal : sealDatagram p.cfg enc integ p.seq iv
      (espPlaintext p.cfg.selection.encryption packet nextHeader) with
  | error e => exact .fails hwrapped hseq (sealDatagram_ne hseal)
  | ok d =>
    obtain ⟨⟨rest, hrest⟩, -⟩ := decryptBody_sealDatagram hprep (length_of_fill hfill) hseal
    refine .returns hwrapped hseq ?_
    rw [hrest, seqOf_espHeader]

end Calls

/-! ### The rekey trigger -/

/-- A datagram with the sequence number `seq`, after which the codec is `p`, reaches one of the limits
that are switched on. -/
def Reached (p : Outbound) (seq : UInt32) : Prop :=
  p.cfg.flow.flowWarn = true ∧
    ((p.cfg.flow.warnAt > 0 ∧ seq ≥ p.cfg.flow.warnAt) ∨
      (p.cfg.flow.flowLimit.bytes > 0 ∧ p.bytesOut ≥ p.cfg.flow.flowLimit.bytes) ∨
      (p.cfg.flow.flowLimit.packets > 0 ∧ p.packets ≥ p.cfg.flow.flowLimit.packets))

instance (p : Outbound) (seq : UInt32) : Decidable (p.Reached seq) :=
  inferInstanceAs (Decidable (_ ∧ _))

theorem warned_take {p : Outbound} (packet : Bytes) (h : p.warned = true) :
    (p.take packet).warned = true := by
  unfold take checkFlowTriggers
  dsimp only
  rw [if_pos (.inl h)]
  exact h

theorem take_counters (p : Outbound) (packet : Bytes) :
    (p.take packet).packets = p.packets + 1 ∧
      (p.take packet).bytesOut = p.bytesOut + UInt64.ofNat packet.length := by
  unfold take checkFlowTriggers
  dsimp only
  split_ifs <;> exact ⟨rfl, rfl⟩

theorem warned_take_of_reached {p : Outbound} {packet : Bytes} (h : (p.take packet).Reached (p.seq + 1)) :
    (p.take packet).warned = true := by
  obtain ⟨hpackets, hbytes⟩ := p.take_counters packet
  rw [Reached, hpackets, hbytes, (p.take_eq packet).1] at h
  by_cases hwarned : p.warned = true
  · exact warned_take packet hwarned
  unfold take checkFlowTriggers
  dsimp only
  rw [if_neg (by rw [h.1]; simpa using hwarned), if_neg]
  intro hnone
  obtain hseq | hlimit | hlimit := h.2
  · exact hnone.2 hseq
  · exact hnone.1 (.inl hlimit)
  · exact hnone.1 (.inr hlimit)

/-- Once a number behind the first one has reached the warning level, the trigger has been raised. -/
def Warned (p : Outbound) : Prop :=
  p.cfg.flow.flowWarn = true → p.cfg.flow.warnAt > 0 → 1 < p.next → p.cfg.flow.warnAt.toNat ≤ p.next →
    p.warned = true

theorem Warned.take {p : Outbound} (hp : p.Warned) (packet : Bytes) (hseq : p.seq ≠ 0) :
    (p.take packet).Warned := by
  intro hflow hwarn hone hle
  rw [(p.take_eq packet).1] at hflow hwarn hle
  obtain ⟨hnow, hthen⟩ := next_take packet hseq
  have hlt := p.seq.toNat_lt
  have hwarnLt := p.cfg.flow.warnAt.toNat_lt
  by_cases hwrap : p.seq + 1 = 0
  · -- the last number: the trigger was raised with the one before it
    have hmax : p.seq.toNat = 2 ^ 32 - 1 := by
      have hzero := congrArg UInt32.toNat hwrap
      rw [UInt32.toNat_add] at hzero
      change (p.seq.toNat + 1) % 2 ^ 32 = 0 at hzero
      omega
    exact warned_take packet (hp hflow hwarn (by omega) (by omega))
  · refine warned_take_of_reached ⟨by rw [(p.take_eq packet).1]; exact hflow, .inl ?_⟩
    rw [(p.take_eq packet).1]
    refine ⟨hwarn, UInt32.le_iff_toNat_le.mpr ?_⟩
    rw [next, (p.take_eq packet).2.1, if_neg hwrap] at hle
    exact hle

theorem warned_of_reached {p : Outbound} {packet : Bytes} (hp : p.Warned) (hseq : p.seq ≠ 0)
    (h : (p.take packet).Reached p.seq) : (p.take packet).warned = true := by
  obtain ⟨hflow, ⟨hwarn, hge⟩ | hlimit⟩ := h
  · obtain ⟨-, hthen⟩ := next_take packet hseq
    have hpos := ReplayWindow.toNat_ne_zero hseq
    have hle := UInt32.le_iff_toNat_le.mp hge
    exact hp.take packet hseq hflow hwarn (by omega) (by omega)
  · exact warned_take_of_reached ⟨hflow, .inr hlimit⟩

/-! ### Runs -/

/-- One call of a run. -/
structure Turn where
  before : Outbound
  result : Except Err Bytes
  after : Outbound

def Turn.number (t : Turn) : Option ℕ := t.result.toOption.map fun d => (seqOf d).toNat

/-- The call raises the trigger. -/
def Turn.Attempts (t : Turn) : Prop := t.before.warned = false ∧ t.after.warned = true

instance (t : Turn) : Decidable t.Attempts := inferInstanceAs (Decidable (_ ∧ _))

section Runs

variable [Crypto]

/-- The calls with the given packets, one after the other. -/
def turns : List Bytes → Outbound × Rng → List Turn
  | [], _ => []
  | packet :: packets, s =>
    let out := (process packet).run s
    ⟨s.1, out.1, out.2.1⟩ :: turns packets out.2

theorem call_run (packet : Bytes) (s : Outbound × Rng) :
    s.1.Call packet ((process packet).run s).1 ((process packet).run s).2.1 :=
  Eff.wp_of_run (call_process packet s.1 s.2) rfl

variable {p p' : Outbound} {packet : Bytes} {r : Except Err Bytes}

section

omit [Crypto]

theorem Call.next_le (h : p.Call packet r p') :
    p.next ≤ p'.next := by
  cases h with
  | stuck | refused | wraps => exact le_refl p.next
  | fails _ hseq | returns _ hseq =>
    obtain ⟨hnow, hthen⟩ := next_take packet hseq
    omega

theorem Call.warned (h : p.Call packet r p') (hwarned : p.warned = true) : p'.warned = true := by
  cases h with
  | stuck | refused | wraps => exact hwarned
  | fails | returns => exact warned_take packet hwarned

theorem Call.keeps (h : p.Call packet r p') (hp : p.Warned) : p'.Warned := by
  cases h with
  | stuck | refused | wraps => exact hp
  | fails _ hseq | returns _ hseq => exact hp.take packet hseq

theorem Call.number {d : Bytes} (h : p.Call packet (.ok d) p') :
    (seqOf d).toNat = p.next ∧ p'.next = p.next + 1 ∧ p.next ≠ 0 := by
  cases h with
  | returns _ hseq hd =>
    obtain ⟨hnow, hthen⟩ := next_take packet hseq
    have hpos := ReplayWindow.toNat_ne_zero hseq
    exact ⟨by rw [hd, hnow], by omega, by omega⟩

theorem Call.warned_of_reached {d : Bytes} (h : p.Call packet (.ok d) p') (hp : p.Warned)
    (hreached : p'.Reached (seqOf d)) : p'.warned = true := by
  cases h with
  | returns _ hseq hd =>
    rw [hd] at hreached
    exact Outbound.warned_of_reached hp hseq hreached

theorem Call.wrapped (h : p.Call packet (.error errSeqWrapped) p') :
    p'.wrapped = true := by
  cases h with
  | stuck hwrapped => exact hwrapped
  | refused _ hne => exact absurd rfl hne
  | wraps => rfl
  | fails _ _ hne => exact absurd rfl hne

theorem Call.stays_wrapped (h : p.Call packet r p') (hwrapped : p.wrapped = true) :
    r = .error errSeqWrapped ∧ p' = p := by
  cases h with
  | stuck => exact ⟨rfl, rfl⟩
  | refused hw | wraps hw | fails hw | returns hw => exact absurd (hw.symm.trans hwrapped) (by decide)

end

theorem numbers_increase : ∀ (packets : List Bytes) (s : Outbound × Rng),
    (∀ n ∈ (turns packets s).filterMap Turn.number, s.1.next ≤ n ∧ n ≠ 0) ∧
      ((turns packets s).filterMap Turn.number).Pairwise (· < ·)
  | [], s => ⟨fun n hn => absurd hn List.not_mem_nil, .nil⟩
  | packet :: packets, s => by
    have hcall := call_run packet s
    obtain ⟨hnumbers, hpair⟩ := numbers_increase packets ((process packet).run s).2
    have hle := hcall.next_le
    rw [turns, List.filterMap_cons]
    cases hr : ((process packet).run s).1 with
    | error e => exact ⟨fun n hn => ⟨hle.trans (hnumbers n hn).1, (hnumbers n hn).2⟩, hpair⟩
    | ok d =>
      rw [hr] at hcall
      obtain ⟨hnow, hthen, hpos⟩ := hcall.number
      have hfirst : ∀ n ∈ (turns packets ((process packet).run s).2).filterMap Turn.number,
          (seqOf d).toNat < n := fun n hn => by
        have := (hnumbers n hn).1
        omega
      have hhead : s.1.next ≤ (seqOf d).toNat ∧ (seqOf d).toNat ≠ 0 := ⟨hnow.ge, by omega⟩
      exact ⟨List.forall_mem_cons.mpr ⟨hhead, fun n hn => ⟨hle.trans (hnumbers n hn).1, (hnumbers n hn).2⟩⟩,
        List.pairwise_cons.mpr ⟨hfirst, hpair⟩⟩

theorem wrapped_turns : ∀ (packets : List Bytes) (s : Outbound × Rng), s.1.wrapped = true →
    ∀ t ∈ turns packets s, t.result = .error errSeqWrapped
  | [], _, _ => fun t ht => absurd ht List.not_mem_nil
  | packet :: packets, s, hwrapped => by
    obtain ⟨hresult, hsame⟩ := (call_run packet s).stays_wrapped hwrapped
    rw [turns, List.forall_mem_cons]
    exact ⟨hresult, wrapped_turns packets _ (by rw [hsame]; exact hwrapped)⟩

theorem wrapped_sticks : ∀ (packets : List Bytes) (s : Outbound × Rng),
    (turns packets s).Pairwise fun t t' =>
      t.result = .error errSeqWrapped → t'.result = .error errSeqWrapped
  | [], _ => .nil
  | packet :: packets, s => by
    rw [turns, List.pairwise_cons]
    refine ⟨fun t ht hresult => ?_, wrapped_sticks packets _⟩
    have hcall := call_run packet s
    rw [show ((process packet).run s).1 = .error errSeqWrapped from hresult] at hcall
    exact wrapped_turns packets _ hcall.wrapped t ht

theorem not_attempts : ∀ (packets : List Bytes) (s : Outbound × Rng), s.1.warned = true →
    ∀ t ∈ turns packets s, ¬t.Attempts
  | [], _, _ => fun t ht => absurd ht List.not_mem_nil
  | packet :: packets, s, hwarned => by
    rw [turns, List.forall_mem_cons]
    refine ⟨fun h => absurd (hwarned.symm.trans h.1) (by decide), ?_⟩
    exact not_attempts packets _ ((call_run packet s).warned hwarned)

theorem attempts_once : ∀ (packets : List Bytes) (s : Outbound × Rng),
    ((turns packets s).filter (·.Attempts)).length ≤ 1
  | [], _ => Nat.zero_le 1
  | packet :: packets, s => by
    rw [turns, List.filter_cons]
    split_ifs with hfirst
    · have hattempts := of_decide_eq_true hfirst
      have hnone : (turns packets ((process packet).run s).2).filter (·.Attempts) = [] := by
        refine List.filter_eq_nil_iff.mpr fun t ht h => ?_
        exact not_attempts packets _ hattempts.2 t ht (of_decide_eq_true h)
      rw [hnone]
      exact le_rfl
    · exact attempts_once packets _

theorem exists_attempts : ∀ (packets : List Bytes) (s : Outbound × Rng) (l : List Turn) (t : Turn)
    (l' : List Turn), turns packets s = l ++ t :: l' → s.1.warned = false → t.after.warned = true →
    ∃ a ∈ l ++ [t], a.Attempts
  | [], _, l, t, l', h, _, _ => absurd h.symm (by simp [turns])
  | packet :: packets, s, [], t, l', h, hbefore, hafter => by
    rw [turns, List.nil_append] at h
    obtain ⟨rfl, -⟩ := List.cons.inj h
    exact ⟨_, List.mem_singleton_self _, hbefore, hafter⟩
  | packet :: packets, s, u :: l, t, l', h, hbefore, hafter => by
    rw [turns, List.cons_append] at h
    obtain ⟨rfl, hrest⟩ := List.cons.inj h
    by_cases hwarned : ((process packet).run s).2.1.warned = true
    · exact ⟨_, List.mem_cons_self, hbefore, hwarned⟩
    · obtain ⟨a, ha, hattempts⟩ := exists_attempts packets _ l t l' hrest
        (Bool.eq_false_iff.mpr hwarned) hafter
      exact ⟨a, List.mem_cons_of_mem _ ha, hattempts⟩

theorem warned_by : ∀ (packets : List Bytes) (s : Outbound × Rng), s.1.Warned →
    ∀ t ∈ turns packets s, ∀ d, t.result = .ok d → t.after.Reached (seqOf d) → t.after.warned = true
  | [], _, _ => fun t ht => absurd ht List.not_mem_nil
  | packet :: packets, s, hs => by
    have hcall := call_run packet s
    rw [turns, List.forall_mem_cons]
    refine ⟨fun d hd hreached => ?_, warned_by packets _ (hcall.keeps hs)⟩
    rw [show ((process packet).run s).1 = .ok d from hd] at hcall
    exact hcall.warned_of_reached hs hreached

omit [Crypto] in
theorem warned_newOutbound (cfg : OutboundConfig) : (newOutbound cfg).Warned :=
  fun _ _ hone _ => absurd hone (lt_irrefl 1)

/-- **Sequence numbers and the rekey trigger of an outbound SA**, for every sequence of packets. -/
theorem sequence_numbers (cfg : OutboundConfig) (rng : Rng) (packets : List Bytes) :
    (∀ n ∈ (turns packets (newOutbound cfg, rng)).filterMap Turn.number, 1 ≤ n ∧ n ≤ 2 ^ 32 - 1) ∧
    ((turns packets (newOutbound cfg, rng)).filterMap Turn.number).Pairwise (· < ·) ∧
    ((turns packets (newOutbound cfg, rng)).Pairwise fun t t' =>
      t.result = .error errSeqWrapped → t'.result = .error errSeqWrapped) ∧
    ((turns packets (newOutbound cfg, rng)).filter (·.Attempts)).length ≤ 1 ∧
    ∀ l t l', turns packets (newOutbound cfg, rng) = l ++ t :: l' → ∀ d, t.result = .ok d →
      t.after.Reached (seqOf d) → ∃ a ∈ l ++ [t], a.Attempts := by
  obtain ⟨hnumbers, hpair⟩ := numbers_increase packets (newOutbound cfg, rng)
  refine ⟨fun n hn => ⟨?_, ?_⟩, hpair, wrapped_sticks packets _, attempts_once packets _, ?_⟩
  · exact Nat.one_le_iff_ne_zero.mpr (hnumbers n hn).2
  · obtain ⟨t, -, ht⟩ := List.mem_filterMap.mp hn
    obtain ⟨d, -, rfl⟩ := Option.map_eq_some_iff.mp ht
    have := (seqOf d).toNat_lt
    omega
  · intro l t l' hsplit d hd hreached
    have hmem : t ∈ turns packets (newOutbound cfg, rng) := by
      rw [hsplit]
      exact List.mem_append_right l List.mem_cons_self
    exact exists_attempts packets _ l t l' hsplit rfl
      (warned_by packets _ (warned_newOutbound cfg) t hmem d hd hreached)

end Runs

section Sample

attribute [local instance] plainCrypto

/-- A codec with AES-128-CBC and HMAC-SHA2-256, and the given warning level. -/
def sampleConfig (warnAt : UInt32) : OutboundConfig :=
  ⟨7, cbcSelection, cbcChildKeys, ⟨warnAt, true, ⟨0, 0⟩⟩⟩

/-- The first call, with a packet of two bytes. -/
def sampleTurn (warnAt : UInt32) : Turn :=
  let out := (process [0x45, 1]).run (newOutbound (sampleConfig warnAt), zeroRng)
  ⟨newOutbound (sampleConfig warnAt), out.1, out.2.1⟩

theorem sample_sequence_numbers : (sampleTurn 1).Attempts := by
  obtain ⟨a, ha, hattempts⟩ := (sequence_numbers (sampleConfig 1) zeroRng [[0x45, 1]]).2.2.2.2 []
    (sampleTurn 1) [] rfl ((sampleTurn 1).result.toOption.getD []) (by decide +kernel) (by decide +kernel)
  rwa [← List.mem_singleton.mp ha]

/-- With a warning level of 0 every number is at or above it, and the trigger is not raised. -/
theorem disabled_warning :
    (sampleTurn 0).number = some 1 ∧ (sampleConfig 0).flow.flowWarn = true ∧
      (sampleConfig 0).flow.warnAt.toNat ≤ 1 ∧ ¬(sampleTurn 0).Attempts := by
  decide +kernel

end Sample

end Swan.Esp.Outbound
