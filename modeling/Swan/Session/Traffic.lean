import Swan.Session.Updates
import Swan.Xcrypto.Instance

/-! # Packets from end to end

The two ends of a child have codecs with mirrored keys. `esp_round_trip`: in any order of delivery
that stays within the replay window, the receiving end returns every packet of the sending end once,
byte for byte, and rejects every repetition. -/

namespace Swan.Session

open Swan.Lib Swan.Xcrypto Swan.Control Swan.Esp

/-- Every datagram, at its first delivery, is less than 64 below all the earlier ones. The elements
are packets with their datagrams. -/
def WithinWindow (order : List (Bytes × Bytes)) : Prop :=
  ∀ k (h : k < order.length), order[k] ∉ order.take k → ∀ m ∈ order.take k,
    (seqOf m.2).toNat < (seqOf order[k].2).toNat + 64

instance (order : List (Bytes × Bytes)) : Decidable (WithinWindow order) := by
  unfold WithinWindow
  infer_instance

section Delivery

variable [Crypto]

/-- The results of a receiver for a sequence of deliveries. -/
def received (order : List (Bytes × Bytes)) (p : Inbound) : List (Except Err Bytes) :=
  (Eff.trace (order.map fun m => Inbound.processPooled m.2) p).1

/-- The result of a datagram after the deliveries `before`. -/
def outcome (before : List (Bytes × Bytes)) (m : Bytes × Bytes) : Except Err Bytes :=
  if m ∈ before then .error errReplay else .ok m.1

/-- A receiver that has seen the datagrams `before`. -/
structure HasSeen (cfg : InboundConfig) (before : List (Bytes × Bytes)) (p : Inbound) : Prop where
  cfg_eq : p.cfg = cfg
  tracks : ∃ seen, p.window.Tracks seen ∧ ∀ seq, seq ∈ seen ↔ ∃ m ∈ before, seqOf m.2 = seq

/-- What the sender made: readable datagrams that differ in their sequence numbers. -/
structure Readable (cfg : InboundConfig) (msgs : List (Bytes × Bytes)) : Prop where
  opens : ∀ m ∈ msgs, openDatagram cfg m.2 = .ok m.1 ∧ seqOf m.2 ≠ 0
  seq_inj : ∀ m ∈ msgs, ∀ m' ∈ msgs, seqOf m.2 = seqOf m'.2 → m = m'

variable {cfg : InboundConfig} {msgs : List (Bytes × Bytes)}

theorem HasSeen.step (hr : Readable cfg msgs) {before : List (Bytes × Bytes)} {p : Inbound}
    (h : HasSeen cfg before p) (hbefore : ∀ m ∈ before, m ∈ msgs) {m : Bytes × Bytes} (hm : m ∈ msgs)
    (hwin : m ∉ before → ∀ m' ∈ before, (seqOf m'.2).toNat < (seqOf m.2).toNat + 64) :
    ∃ p', (Inbound.processPooled m.2).run p = (outcome before m, p') ∧
      HasSeen cfg (before ++ [m]) p' := by
  obtain ⟨seen, htracks, hseen⟩ := h.tracks
  obtain ⟨hopen, hseq⟩ := hr.opens m hm
  rw [← h.cfg_eq] at hopen
  have hmem : seqOf m.2 ∈ seen ↔ m ∈ before := by
    rw [hseen]
    constructor
    · rintro ⟨m', hm', heq⟩
      rw [← hr.seq_inj m' (hbefore m' hm') m hm heq]
      exact hm'
    · exact fun hm' => ⟨m, hm', rfl⟩
  by_cases hdup : m ∈ before
  · -- the number was recorded before
    have hreject : p.window.accept (seqOf m.2) = none := by
      refine Option.not_isSome_iff_eq_none.mp fun hsome => ?_
      exact ((ReplayWindow.isSome_accept htracks _).mp hsome).2.1 (hmem.mpr hdup)
    refine ⟨p, ?_, h.cfg_eq, seen, htracks, fun seq => ?_⟩
    · rw [Inbound.run_processPooled_of_ok hopen, hreject, outcome, if_pos hdup]
    · rw [hseen]
      constructor
      · rintro ⟨m', hm', heq⟩
        exact ⟨m', List.mem_append_left _ hm', heq⟩
      · rintro ⟨m', hm', heq⟩
        rcases List.mem_append.mp hm' with hm' | hm'
        · exact ⟨m', hm', heq⟩
        · exact ⟨m, hdup, List.mem_singleton.mp hm' ▸ heq⟩
  · -- the highest number so far is one of those delivered
    have hhigh : p.window.highest.toNat < (seqOf m.2).toNat + 64 := by
      by_cases hzero : p.window.highest = 0
      · rw [hzero]
        exact Nat.lt_of_lt_of_le (by decide) (Nat.le_add_left 64 _)
      · obtain ⟨m', hm', heq⟩ := (hseen _).mp (htracks.highest_mem hzero)
        rw [← heq]
        exact hwin hdup m' hm'
    obtain ⟨w, hw⟩ := Option.isSome_iff_exists.mp ((ReplayWindow.isSome_accept htracks _).mpr
      ⟨hseq, fun hin => hdup (hmem.mp hin), hhigh⟩)
    refine ⟨{ p with window := w }, ?_, h.cfg_eq, seqOf m.2 :: seen, htracks.accept hw,
      fun seq => ?_⟩
    · rw [Inbound.run_processPooled_of_ok hopen, hw, outcome, if_neg hdup]
    · rw [List.mem_cons, hseen]
      simp only [List.mem_append, List.mem_singleton, or_and_right, exists_or, exists_eq_left]
      rw [or_comm, eq_comm]

theorem HasSeen.received (hr : Readable cfg msgs) : ∀ (order before : List (Bytes × Bytes))
    (p : Inbound), HasSeen cfg before p → (∀ m ∈ before ++ order, m ∈ msgs) →
    (∀ k (h : k < order.length), order[k] ∉ before ++ order.take k →
      ∀ m ∈ before ++ order.take k, (seqOf m.2).toNat < (seqOf order[k].2).toNat + 64) →
    ∀ k (h : k < order.length),
      (received order p)[k]? = some (outcome (before ++ order.take k) order[k])
  | [], _, _, _, _, _, _, h => absurd h (Nat.not_lt_zero _)
  | m :: order, before, p, hseen, hmem, hwin, k, h => by
    have hm : m ∈ msgs := hmem m (by simp)
    obtain ⟨p', hrun, hseen'⟩ := hseen.step hr (fun m' hm' => hmem m' (List.mem_append_left _ hm')) hm
      (fun hnew => by
        have := hwin 0 (Nat.zero_lt_succ _)
        simp only [List.take_zero, List.append_nil] at this
        exact this hnew)
    have hsplit : ∀ j, before ++ (m :: order).take (j + 1) = before ++ [m] ++ order.take j := by
      intro j
      simp
    rw [Session.received, List.map_cons, Eff.trace_cons_of_run _ hrun]
    cases k with
    | zero => simp
    | succ k =>
      have hk : k < order.length := Nat.lt_of_succ_lt_succ h
      rw [List.getElem?_cons_succ, hsplit]
      refine HasSeen.received hr order (before ++ [m]) p' hseen' (fun m' hm' => hmem m' (by
        simpa using hm')) (fun j hj hnew => ?_) k hk
      have hj' := hwin (j + 1) (Nat.succ_lt_succ hj)
      rw [hsplit] at hj'
      exact hj' hnew

/-- **Round trip**: the packets that one end of a child accepts reach the other end once each,
unchanged, in any order of delivery within the window; a repeated datagram is rejected. -/
theorem esp_round_trip (child child' : ChildSA)
    (hrole : child.localChildInitiator = !child'.localChildInitiator)
    (hspi : child.outboundSPI = child'.inboundSPI) (flow : FlowConfig) (sel : Selection)
    (keys : ChildKeys) (rng : Rng) (packets : List Bytes) (order : List (Bytes × Bytes))
    (hsent : ∀ m ∈ order,
      m ∈ Outbound.sent packets (newOutbound (childOutboundConfig flow child sel keys), rng))
    (hwin : WithinWindow order) :
    ∀ k (h : k < order.length),
      (received order (newInbound (childInboundConfig child' sel keys)))[k]? =
        some (if order[k] ∈ order.take k then .error errReplay else .ok order[k].1) := by
  have hrole' : child'.localChildInitiator = !child.localChildInitiator := by
    rw [hrole, Bool.not_not]
  obtain ⟨hopen, hpair⟩ := Outbound.sent_spec (childInboundConfig child' sel keys) packets
    (newOutbound (childOutboundConfig flow child sel keys)) rng hspi rfl
    (outboundKeys_mirror flow sel keys hrole')
  have hreadable : Readable (childInboundConfig child' sel keys)
      (Outbound.sent packets (newOutbound (childOutboundConfig flow child sel keys), rng)) := by
    refine ⟨fun m hm => ⟨(hopen m hm).1, (hopen m hm).2.1⟩, fun m hm m' hm' heq => ?_⟩
    by_contra hne
    rcases List.pairwise_iff_getElem.mp hpair with hlt
    obtain ⟨i, hi, rfl⟩ := List.getElem_of_mem hm
    obtain ⟨j, hj, rfl⟩ := List.getElem_of_mem hm'
    rcases Nat.lt_trichotomy i j with hij | rfl | hij
    · exact absurd (congrArg UInt32.toNat heq) (hlt i j hi hj hij).ne
    · exact hne rfl
    · exact absurd (congrArg UInt32.toNat heq) (hlt j i hj hi hij).ne'
  have hstart : HasSeen (childInboundConfig child' sel keys) []
      (newInbound (childInboundConfig child' sel keys)) :=
    ⟨rfl, [], ReplayWindow.tracks_zero, by simp⟩
  intro k h
  have hres := hstart.received hreadable order [] _ (by simpa using hsent)
    (fun k h => by simpa only [List.nil_append] using hwin k h) k h
  rwa [List.nil_append] at hres

end Delivery

section Sample

attribute [local instance] plainCrypto

/-- Two packets under AES-128-CBC with HMAC-SHA2-256. -/
def sampleSent : List (Bytes × Bytes) :=
  Outbound.sent [[0x45, 1], [0x60, 2]]
    (newOutbound (childOutboundConfig ⟨0, false, ⟨0, 0⟩⟩ ⟨7, 8, [], [], true⟩ cbcSelection
      cbcChildKeys), zeroRng)

/-- The second packet overtakes the first one, then both are repeated. -/
theorem sample_round_trip : sampleSent.length = 2 ∧
    ∀ k (h : k < (sampleSent.reverse ++ sampleSent).length),
      (received (sampleSent.reverse ++ sampleSent)
        (newInbound (childInboundConfig ⟨8, 7, [], [], false⟩ cbcSelection cbcChildKeys)))[k]? =
        some (if (sampleSent.reverse ++ sampleSent)[k] ∈ (sampleSent.reverse ++ sampleSent).take k
          then .error errReplay else .ok (sampleSent.reverse ++ sampleSent)[k].1) :=
  ⟨by decide +kernel, esp_round_trip ⟨7, 8, [], [], true⟩ ⟨8, 7, [], [], false⟩ rfl rfl
    ⟨0, false, ⟨0, 0⟩⟩ cbcSelection cbcChildKeys zeroRng [[0x45, 1], [0x60, 2]] _ (by
      intro m hm
      rcases List.mem_append.mp hm with hm | hm
      · exact List.mem_reverse.mp hm
      · exact hm) (by decide +kernel)⟩

end Sample

end Swan.Session
