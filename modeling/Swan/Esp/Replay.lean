import Mathlib.Data.BitVec
import Mathlib.Tactic

/-! # The anti-replay window

`ReplayWindow` is the highest accepted sequence number and a bitmap of the 64 numbers up to it.
`Tracks w seen` relates a window to the numbers accepted so far: `accept` takes a number exactly if
it is not 0, was not accepted before and is less than 64 below the highest one
(`isSome_accept`), and then records it (`Tracks.accept`). Over a whole sequence of calls the window
answers as a specification that keeps the accepted numbers as a set (`zero_answers_eq`). -/

namespace Swan.Esp

/-- The highest sequence number seen and a 64-slot bitmap: bit `d` stands for `highest - d`. -/
structure ReplayWindow where
  highest : UInt32
  bitmap : BitVec 64
  deriving DecidableEq, Repr

namespace ReplayWindow

def zero : ReplayWindow := ⟨0, 0⟩

/-- Validate a sequence number and record it; `none` if it is a duplicate or outside the window. -/
def accept (seq : UInt32) (w : ReplayWindow) : Option ReplayWindow :=
  if seq = 0 then none
  else if w.highest = 0 then some ⟨seq, 1⟩
  else if seq > w.highest then
    let delta := (seq - w.highest).toNat
    some ⟨seq, if delta ≥ 64 then 1 else w.bitmap <<< delta ||| 1⟩
  else
    let delta := (w.highest - seq).toNat
    if delta ≥ 64 then none
    else if w.bitmap.getLsbD delta then none
    else some { w with bitmap := w.bitmap ||| (1 : BitVec 64) <<< delta }

/-- The window after the numbers `seen` were accepted. -/
structure Tracks (w : ReplayWindow) (seen : List UInt32) : Prop where
  ne_zero : ∀ s ∈ seen, s ≠ 0
  le_highest : ∀ s ∈ seen, s.toNat ≤ w.highest.toNat
  highest_mem : w.highest ≠ 0 → w.highest ∈ seen
  /-- Within the window the bitmap tells which numbers were accepted. -/
  bit : ∀ s d, s ≠ 0 → s.toNat + d = w.highest.toNat → d < 64 →
    (w.bitmap.getLsbD d = true ↔ s ∈ seen)

theorem tracks_zero : Tracks zero [] where
  ne_zero _ h := by cases h
  le_highest _ h := by cases h
  highest_mem h := absurd rfl h
  bit s d hs hd _ := by
    have hpos : s.toNat ≠ 0 := fun h => hs (UInt32.toNat_inj.mp h)
    have hz : zero.highest.toNat = 0 := rfl
    omega

variable {w w' : ReplayWindow} {seen : List UInt32} {seq : UInt32}

theorem toNat_ne_zero {s : UInt32} (h : s ≠ 0) : s.toNat ≠ 0 := fun h0 => h (UInt32.toNat_inj.mp h0)

theorem getLsbD_one (d : ℕ) : (1 : BitVec 64).getLsbD d = decide (d = 0) := by
  have h : (1 : BitVec 64) = 1#64 := rfl
  rw [h, BitVec.getLsbD_one]
  simp

theorem getLsbD_shiftLeft_or_one (b : BitVec 64) (delta d : ℕ) (hd : d < 64) :
    (b <<< delta ||| 1).getLsbD d = (decide (delta ≤ d) && b.getLsbD (d - delta) || decide (d = 0)) := by
  rw [BitVec.getLsbD_or, BitVec.getLsbD_shiftLeft, getLsbD_one]
  by_cases h : d < delta
  · simp [hd, h, Nat.not_le.mpr h]
  · simp [hd, h, Nat.not_lt.mp h]

theorem getLsbD_or_bit (b : BitVec 64) (delta d : ℕ) (hd : d < 64) :
    (b ||| (1 : BitVec 64) <<< delta).getLsbD d = (b.getLsbD d || decide (d = delta)) := by
  rw [BitVec.getLsbD_or, BitVec.getLsbD_shiftLeft, getLsbD_one]
  have hbit : (decide (d < 64) && !decide (d < delta) && decide (d - delta = 0)) =
      decide (d = delta) := by
    rw [Bool.eq_iff_iff]
    simp only [Bool.and_eq_true, Bool.not_eq_true', decide_eq_true_eq, decide_eq_false_iff_not]
    omega
  rw [hbit]

namespace Tracks

theorem eq_nil (h : Tracks w seen) (h0 : w.highest = 0) : seen = [] := by
  refine List.eq_nil_iff_forall_not_mem.mpr fun s hs => ?_
  have hle := h.le_highest s hs
  have hne := toNat_ne_zero (h.ne_zero s hs)
  have hz : w.highest.toNat = 0 := by rw [h0]; rfl
  omega

theorem first (h : Tracks w seen) (h0 : w.highest = 0) (hseq : seq ≠ 0) :
    Tracks ⟨seq, 1⟩ (seq :: seen) := by
  obtain rfl := h.eq_nil h0
  refine ⟨by simpa using hseq, by simp, by simp, fun s d hs hd hlt => ?_⟩
  rw [getLsbD_one, decide_eq_true_eq, List.mem_singleton]
  constructor
  · intro hd0
    exact UInt32.toNat_inj.mp (by simpa [hd0] using hd)
  · rintro rfl
    simpa using hd

theorem raise (h : Tracks w seen) (hlt : w.highest.toNat < seq.toNat) (hseq : seq ≠ 0) :
    Tracks ⟨seq, if seq.toNat - w.highest.toNat ≥ 64 then 1
      else w.bitmap <<< (seq.toNat - w.highest.toNat) ||| 1⟩ (seq :: seen) := by
  refine ⟨?_, ?_, by simp, fun s d hs hd hlt64 => ?_⟩
  · rintro s hs
    rcases List.mem_cons.mp hs with rfl | hs
    · exact hseq
    · exact h.ne_zero s hs
  · rintro s hs
    rcases List.mem_cons.mp hs with rfl | hs
    · exact le_rfl
    · exact (h.le_highest s hs).trans hlt.le
  · have hseqs : s = seq ↔ d = 0 := by
      rw [← UInt32.toNat_inj]
      simp only at hd
      omega
    -- a number above the old highest one was not accepted before
    have hnew : w.highest.toNat < s.toNat → s ∉ seen := fun hlt hmem =>
      absurd (h.le_highest s hmem) (by omega)
    simp only at hd
    rw [List.mem_cons, hseqs]
    split_ifs with hfar
    · rw [getLsbD_one, decide_eq_true_eq]
      have hnot : s ∉ seen := hnew (by omega)
      simp [hnot]
    · rw [getLsbD_shiftLeft_or_one _ _ _ hlt64]
      by_cases hle : seq.toNat - w.highest.toNat ≤ d
      · have hbit := h.bit s (d - (seq.toNat - w.highest.toNat)) hs (by omega) (by omega)
        simp [hle, hbit, or_comm]
      · have hnot : s ∉ seen := hnew (by omega)
        simp [hle, hnot]

theorem mark (h : Tracks w seen) (hle : seq.toNat ≤ w.highest.toNat) (hseq : seq ≠ 0)
    (hhigh : w.highest ≠ 0) :
    Tracks { w with bitmap := w.bitmap ||| (1 : BitVec 64) <<< (w.highest.toNat - seq.toNat) } (seq :: seen) := by
  refine ⟨?_, ?_, fun _ => List.mem_cons_of_mem _ (h.highest_mem hhigh), fun s d hs hd hlt64 => ?_⟩
  · rintro s hs
    rcases List.mem_cons.mp hs with rfl | hs
    · exact hseq
    · exact h.ne_zero s hs
  · rintro s hs
    rcases List.mem_cons.mp hs with rfl | hs
    · exact hle
    · exact h.le_highest s hs
  · have hseqs : s = seq ↔ d = w.highest.toNat - seq.toNat := by
      rw [← UInt32.toNat_inj]
      simp only at hd
      omega
    rw [getLsbD_or_bit _ _ _ hlt64, List.mem_cons, hseqs, Bool.or_eq_true, h.bit s d hs hd hlt64,
      decide_eq_true_eq, or_comm]

end Tracks

theorem isSome_accept (h : Tracks w seen) (seq : UInt32) :
    (w.accept seq).isSome ↔ seq ≠ 0 ∧ seq ∉ seen ∧ w.highest.toNat < seq.toNat + 64 := by
  unfold accept
  by_cases hseq : seq = 0
  · simp [hseq]
  by_cases hhigh : w.highest = 0
  · have hz : w.highest.toNat = 0 := by rw [hhigh]; rfl
    simp [hseq, hhigh, h.eq_nil hhigh]
  rw [if_neg hseq, if_neg hhigh]
  by_cases hlt : seq > w.highest
  · have hnat : w.highest.toNat < seq.toNat := UInt32.lt_iff_toNat_lt.mp hlt
    have hnot : seq ∉ seen := fun hmem => absurd (h.le_highest seq hmem) (by omega)
    rw [if_pos hlt]
    simp only [Option.isSome_some, true_iff]
    exact ⟨hseq, hnot, by omega⟩
  · have hnat : seq.toNat ≤ w.highest.toNat := by
      have hle := UInt32.not_lt.mp hlt
      exact UInt32.le_iff_toNat_le.mp hle
    rw [if_neg hlt]
    simp only [UInt32.toNat_sub_of_le _ _ (UInt32.le_iff_toNat_le.mpr hnat)]
    by_cases hfar : w.highest.toNat - seq.toNat ≥ 64
    · rw [if_pos hfar]
      simp only [Option.isSome_none, Bool.false_eq_true, false_iff]
      rintro ⟨-, -, hwin⟩
      omega
    · have hbit := h.bit seq (w.highest.toNat - seq.toNat) hseq (by omega) (by omega)
      rw [if_neg hfar]
      by_cases hmem : seq ∈ seen
      · rw [if_pos (hbit.mpr hmem)]
        simp [hmem]
      · rw [if_neg (fun hset => hmem (hbit.mp hset))]
        simp only [Option.isSome_some, true_iff]
        exact ⟨hseq, hmem, by omega⟩

theorem Tracks.accept (h : Tracks w seen) (hacc : w.accept seq = some w') :
    Tracks w' (seq :: seen) := by
  obtain ⟨hseq, -, -⟩ := (isSome_accept h seq).mp (by rw [hacc]; rfl)
  unfold ReplayWindow.accept at hacc
  rw [if_neg hseq] at hacc
  by_cases hhigh : w.highest = 0
  · rw [if_pos hhigh] at hacc
    obtain rfl := Option.some.inj hacc
    exact h.first hhigh hseq
  rw [if_neg hhigh] at hacc
  by_cases hlt : seq > w.highest
  · rw [if_pos hlt] at hacc
    obtain rfl := Option.some.inj hacc
    rw [UInt32.toNat_sub_of_le _ _ (UInt32.le_of_lt hlt)]
    exact h.raise (UInt32.lt_iff_toNat_lt.mp hlt) hseq
  · have hle := UInt32.not_lt.mp hlt
    rw [if_neg hlt, UInt32.toNat_sub_of_le _ _ hle] at hacc
    dsimp only at hacc
    split_ifs at hacc
    obtain rfl := Option.some.inj hacc
    exact h.mark (UInt32.le_iff_toNat_le.mp hle) hseq hhigh

/-! ### The set specification -/

def answers (w : ReplayWindow) : List UInt32 → List Bool
  | [] => []
  | seq :: seqs =>
    match w.accept seq with
    | some w' => true :: w'.answers seqs
    | none => false :: w.answers seqs

/-- A number may be accepted after the set `A`: it is not 0, is not in `A`, and is greater than the
largest number of `A`, 0 if there is none, less 64. -/
def Admits (A : Finset UInt32) (seq : UInt32) : Prop :=
  seq ≠ 0 ∧ seq ∉ A ∧ ((A.sup UInt32.toNat : ℕ) : ℤ) - 64 < seq.toNat

instance (A : Finset UInt32) (seq : UInt32) : Decidable (Admits A seq) :=
  inferInstanceAs (Decidable (_ ∧ _ ∧ _))

/-- What the specification answers to a sequence of calls after the set `A` was accepted. -/
def admitted (A : Finset UInt32) : List UInt32 → List Bool
  | [] => []
  | seq :: seqs =>
    if Admits A seq then true :: admitted (insert seq A) seqs else false :: admitted A seqs

theorem Tracks.sup_eq (h : Tracks w seen) : seen.toFinset.sup UInt32.toNat = w.highest.toNat := by
  refine le_antisymm (Finset.sup_le fun s hs => h.le_highest s (List.mem_toFinset.mp hs)) ?_
  by_cases h0 : w.highest = 0
  · rw [h0]
    exact Nat.zero_le _
  · exact Finset.le_sup (f := UInt32.toNat) (List.mem_toFinset.mpr (h.highest_mem h0))

theorem admits_iff (h : Tracks w seen) (seq : UInt32) :
    Admits seen.toFinset seq ↔ (w.accept seq).isSome := by
  rw [isSome_accept h, Admits, h.sup_eq, List.mem_toFinset]
  constructor
  · rintro ⟨hseq, hnot, hwin⟩
    exact ⟨hseq, hnot, by omega⟩
  · rintro ⟨hseq, hnot, hwin⟩
    exact ⟨hseq, hnot, by omega⟩

theorem Tracks.answers_eq : ∀ {w : ReplayWindow} {seen : List UInt32} (_ : Tracks w seen)
    (seqs : List UInt32), w.answers seqs = admitted seen.toFinset seqs
  | _, _, _, [] => rfl
  | w, seen, h, seq :: seqs => by
    rw [answers, admitted]
    cases hacc : w.accept seq with
    | some w' =>
      have hadm : Admits seen.toFinset seq := (admits_iff h seq).mpr (by rw [hacc]; rfl)
      have hrest := Tracks.answers_eq (h.accept hacc) seqs
      rw [List.toFinset_cons] at hrest
      rw [if_pos hadm, ← hrest]
    | none =>
      have hadm : ¬Admits seen.toFinset seq := fun hadm => by
        have hsome := (admits_iff h seq).mp hadm
        rw [hacc] at hsome
        cases hsome
      rw [if_neg hadm, ← Tracks.answers_eq h seqs]

/-- **The window is its set specification**: from the zero window, every call of a sequence is
answered as the set of the numbers accepted before says. -/
theorem zero_answers_eq (seqs : List UInt32) : zero.answers seqs = admitted ∅ seqs :=
  tracks_zero.answers_eq seqs

example : zero.answers [70, 7, 6, 70, 134, 70] = [true, true, false, false, true, false] := by
  decide

end ReplayWindow

end Swan.Esp
