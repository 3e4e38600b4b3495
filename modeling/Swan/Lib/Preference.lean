import Mathlib.Data.List.Basic

/-! # Choice by preference

`IsFirst l P x` says that `x` is the first entry of the list `l` with the property `P`: what a search
through a list of preferences returns (`isFirst_iff_find?`). There is at most one such entry
(`IsFirst.unique`), and exactly one if some entry has the property (`exists_isFirst`). -/

namespace Swan.Lib

variable {α : Type} {l : List α} {P : α → Prop} {x y : α}

/-- `x` is the first entry of `l` with the property `P`. -/
def IsFirst (l : List α) (P : α → Prop) (x : α) : Prop :=
  P x ∧ ∃ before after, l = before ++ x :: after ∧ ∀ y ∈ before, ¬P y

theorem isFirst_iff_find? [DecidablePred P] :
    IsFirst l P x ↔ l.find? (fun a => decide (P a)) = some x := by
  simp [IsFirst, List.find?_eq_some_iff_append]

theorem IsFirst.holds (h : IsFirst l P x) : P x := h.1

theorem IsFirst.mem (h : IsFirst l P x) : x ∈ l := by
  obtain ⟨-, before, after, rfl, -⟩ := h
  simp

theorem IsFirst.unique (hx : IsFirst l P x) (hy : IsFirst l P y) : x = y := by
  classical
  rw [isFirst_iff_find?] at hx hy
  exact Option.some.inj (hx.symm.trans hy)

theorem isFirst_cons_of_pos (h : P x) : IsFirst (x :: l) P x := ⟨h, [], l, rfl, by simp⟩

theorem IsFirst.cons_of_neg (h : IsFirst l P x) (hy : ¬P y) : IsFirst (y :: l) P x := by
  obtain ⟨hx, before, after, rfl, hbefore⟩ := h
  refine ⟨hx, y :: before, after, rfl, ?_⟩
  intro z hz
  rcases List.mem_cons.mp hz with rfl | hz
  · exact hy
  · exact hbefore z hz

theorem exists_isFirst : (∃ x, IsFirst l P x) ↔ ∃ x ∈ l, P x := by
  classical
  constructor
  · rintro ⟨x, hx⟩
    exact ⟨x, hx.mem, hx.holds⟩
  · rintro ⟨x, hmem, hP⟩
    have hsome : (l.find? fun a => decide (P a)).isSome = true := by
      rw [List.find?_isSome]
      exact ⟨x, hmem, by simpa using hP⟩
    obtain ⟨y, hy⟩ := Option.isSome_iff_exists.mp hsome
    exact ⟨y, isFirst_iff_find?.mpr hy⟩

theorem isFirst_iff_mem (hP : ∀ y, P y ↔ y = x) : IsFirst l P x ↔ x ∈ l := by
  constructor
  · exact IsFirst.mem
  · intro hmem
    obtain ⟨y, hy⟩ := exists_isFirst.mpr ⟨x, hmem, (hP x).mpr rfl⟩
    obtain rfl := (hP y).mp hy.holds
    exact hy

end Swan.Lib
