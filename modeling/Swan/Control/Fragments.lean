import Swan.Control.Protected

/-! # Reassembly of fragments

The set of fragments that a receiver stores, as a set of indices: `stored … S` is what it stores
while it holds the pieces with the indices in `S`. `collectSKFragment_stored`: collecting a piece
adds its index to `S`, and the piece that was missing last hands over all of them. The order and the
repetitions of the pieces are irrelevant, because the set is. -/

namespace Swan.Control

open Swan.Lib Swan.Wire

variable {exchange : ExchangeType} {msgID : UInt32} {nextPayload : PayloadType}
  {pieces : List Bytes} {S : Finset ℕ} {i : ℕ} {enc : EncryptedPayload} {plain : Bytes}
  {timeout : Duration} {now e : Time}

/-- The set of a receiver that holds the pieces with the indices in `S`. -/
def reassembled (exchange : ExchangeType) (msgID : UInt32) (nextPayload : PayloadType)
    (pieces : List Bytes) (S : Finset ℕ) (expiresAt : Time) : FragmentReassembly where
  exchangeType := exchange
  messageID := msgID
  firstInnerPayload := if 0 ∈ S then nextPayload else skfFirstPayloadUnset
  fragments := Table.view pieces S
  expiresAt := expiresAt

/-- What a receiver stores while it holds the pieces with the indices in `S`. -/
def stored (exchange : ExchangeType) (msgID : UInt32) (nextPayload : PayloadType)
    (pieces : List Bytes) (S : Finset ℕ) (expiresAt : Time) : Option FragmentReassembly :=
  if S = ∅ then none else some (reassembled exchange msgID nextPayload pieces S expiresAt)

/-- `enc` is the envelope of the `i`-th piece. -/
structure IsPiece (enc : EncryptedPayload) (nextPayload : PayloadType) (total i : ℕ) : Prop where
  type : enc.type = PayloadType.skf
  fragmented : enc.fragmented = true
  number : enc.frag.fragmentNumber.toNat = i + 1
  total : enc.frag.totalFragments.toNat = total
  next : enc.innerNext = fragmentNext nextPayload i

theorem fragmentNumber_eq_one_iff (h : enc.frag.fragmentNumber.toNat = i + 1) :
    enc.frag.fragmentNumber = 1 ↔ i = 0 := by
  rw [← UInt16.toNat_inj, h]
  simp

theorem IsPiece.valid {total : ℕ} (hp : IsPiece enc nextPayload total i) (hi : i < total) :
    ¬enc.frag.Invalid := by
  have hn := hp.number
  have htot := hp.total
  rintro (h | h | h)
  · simp [h] at hn
  · simp [h] at htot
    omega
  · have := UInt16.lt_iff_toNat_lt.mp h
    omega

theorem addFragment_reassembled (exchange : ExchangeType) (msgID : UInt32)
    (hp : IsPiece enc nextPayload pieces.length i)
    (hi : pieces[i]? = some plain) (hu : nextPayload ≠ skfFirstPayloadUnset)
    (s : Option FragmentReassembly) :
    (addFragment enc plain (reassembled exchange msgID nextPayload pieces S e)).run s =
      if ∀ k < pieces.length, k ∈ insert i S then (.ok (some pieces.flatten), none)
      else (.ok none, some (reassembled exchange msgID nextPayload pieces (insert i S) e)) := by
  have hput : (Table.view pieces S).put (enc.frag.fragmentNumber.toNat - 1) plain
      = Table.view pieces (insert i S) := by
    rw [hp.number, Nat.add_sub_cancel]; exact Table.put_view hi
  have hstore : ∀ first s, (storeFragment (enc.frag.fragmentNumber.toNat - 1) plain
      ⟨exchange, msgID, first, Table.view pieces S, e⟩).run s =
      if ∀ k < pieces.length, k ∈ insert i S then (.ok (some pieces.flatten), none)
      else (.ok none, some ⟨exchange, msgID, first, Table.view pieces (insert i S), e⟩) := by
    intro first s
    simp only [storeFragment, hput]
    split_ifs with hall
    · rw [Table.collected_view_of_all hall]; rfl
    · obtain ⟨k, hk, hkS⟩ : ∃ k < pieces.length, k ∉ insert i S := by simpa using hall
      rw [Table.collected_view_of_missing hk hkS]; rfl
  unfold addFragment
  rw [Eff.run_bind_of_ok (Eff.run_modify _ _)]
  simp only [reassembled, Table.length_view, hp.total, lt_irrefl, if_false,
    fragmentNumber_eq_one_iff hp.number, hp.next]
  by_cases h0 : i = 0
  · subst h0
    simp only [fragmentNext, if_true, Finset.mem_insert_self]
    by_cases hS : 0 ∈ S
    · simp only [hS, if_true, hu, if_false, ne_eq, not_true]
      exact hstore _ _
    · simp only [hS, if_false, if_true]
      exact hstore _ _
  · simp only [fragmentNext, h0, if_false, ne_eq, not_true, Finset.mem_insert, Ne.symm h0, false_or]
    simpa only [reassembled, Finset.mem_insert, Ne.symm h0, false_or] using hstore _ _

theorem collectSKFragment_stored (hp : IsPiece enc nextPayload pieces.length i)
    (hi : pieces[i]? = some plain) (hu : nextPayload ≠ skfFirstPayloadUnset)
    (ht : S = ∅ ∨ now ≤ e) :
    (collectSKFragment enc plain msgID exchange timeout now).run
        (stored exchange msgID nextPayload pieces S e) =
      if ∀ k < pieces.length, k ∈ insert i S then (.ok (some pieces.flatten), none)
      else (.ok none, stored exchange msgID nextPayload pieces (insert i S) (now + timeout)) := by
  have hilt : i < pieces.length := (List.getElem?_eq_some_iff.mp hi).1
  have hadd := fun S => addFragment_reassembled exchange msgID (S := S) (e := now + timeout)
    hp hi hu
  have hne : insert i S ≠ ∅ := Finset.insert_ne_empty _ _
  rw [collectSKFragment, if_neg (by simp [hp.type, hp.fragmented]), if_neg (hp.valid hilt),
    Eff.run_bind_of_ok (Eff.run_modify _ _), Eff.run_bind_of_ok (Eff.run_get _)]
  by_cases hS : S = ∅
  · subst hS
    have hfresh : (⟨exchange, msgID, skfFirstPayloadUnset,
        Table.empty enc.frag.totalFragments.toNat, now + timeout⟩ : FragmentReassembly)
        = reassembled exchange msgID nextPayload pieces ∅ (now + timeout) := by
      simp [reassembled, Table.view_empty, hp.total]
    simp only [stored, if_true, Option.filter_none, hne, if_false]
    rw [hfresh]
    exact hadd ∅ _
  · have hlive : ¬e < now := not_lt.mpr (ht.resolve_left hS)
    simp only [stored, hS, hne, if_false, Option.filter_some, reassembled, hlive, not_false_eq_true,
      decide_true, if_true, ne_eq, not_true, hp.total, Table.length_view, gt_iff_lt, lt_irrefl]
    exact hadd S _

end Swan.Control
