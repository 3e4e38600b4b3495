import Mathlib.Data.List.DropRight
import Mathlib.Data.List.Induction

/-! # Logs

A log grows at its end. `Justified R` says that every entry of a log stands in the relation `R` to
the entries before it; `justified_concat` is the step rule, `Justified.append_of_forall` adds entries
that need no justification. `latest p` is the last entry with the property `p`, and `since p` what
came after it. -/

namespace Swan.Lib

variable {ε : Type} {R : List ε → ε → Prop} {log : List ε}

/-- Every entry of a log stands in the relation `R` to the entries before it. -/
def Justified (R : List ε → ε → Prop) (log : List ε) : Prop :=
  ∀ past e rest, log = past ++ e :: rest → R past e

theorem justified_nil : Justified R ([] : List ε) := by
  intro past e rest h
  simp at h

theorem justified_concat {e : ε} : Justified R (log ++ [e]) ↔ Justified R log ∧ R log e := by
  constructor
  · intro h
    refine ⟨fun past x rest hlog => h past x (rest ++ [e]) (by rw [hlog]; simp), h log e [] rfl⟩
  · rintro ⟨hlog, he⟩ past x rest heq
    rcases List.eq_nil_or_concat rest with rfl | ⟨rest', y, rfl⟩
    · obtain ⟨rfl, hx⟩ := List.append_inj' heq rfl
      obtain rfl := List.singleton_inj.mp hx
      exact he
    · rw [List.concat_eq_append, ← List.cons_append, ← List.append_assoc] at heq
      exact hlog past x rest' (List.append_inj' heq rfl).1

theorem Justified.append_of_mem (h : Justified R log) :
    ∀ {es : List ε}, (∀ e ∈ es, ∀ past, log <+: past → R past e) → Justified R (log ++ es) := by
  intro es
  induction es using List.reverseRecOn with
  | nil => intro _; rwa [List.append_nil]
  | append_singleton es e ih =>
    intro hes
    rw [← List.append_assoc]
    exact justified_concat.mpr ⟨ih fun x hx => hes x (by simp [hx]),
      hes e (by simp) _ (List.prefix_append log es)⟩

theorem Justified.append_of_forall (h : Justified R log) :
    ∀ {es : List ε}, (∀ e ∈ es, ∀ past, R past e) → Justified R (log ++ es) := fun hes =>
  h.append_of_mem fun e he past _ => hes e he past

theorem Justified.take (h : Justified R log) {i : ℕ} {e : ε} (hi : log[i]? = some e) :
    R (log.take i) e := by
  obtain ⟨hlt, rfl⟩ := List.getElem?_eq_some_iff.mp hi
  refine h (log.take i) _ (log.drop (i + 1)) ?_
  rw [← List.drop_eq_getElem_cons hlt, List.take_append_drop]

/-! ### The latest entry of a kind -/

section Latest

variable {p : ε → Bool}

/-- The last entry with the property `p`. -/
def latest (p : ε → Bool) (log : List ε) : Option ε := log.reverse.find? p

/-- The entries after the last one with the property `p`. -/
def since (p : ε → Bool) (log : List ε) : List ε := log.rtakeWhile fun e => !p e

theorem latest_append (log : List ε) {es : List ε} (h : ∀ e ∈ es, p e = false) :
    latest p (log ++ es) = latest p log := by
  have hnone : es.reverse.find? p = none := by simpa using h
  rw [latest, List.reverse_append, List.find?_append, hnone, Option.none_or, latest]

theorem latest_concat (log : List ε) {e : ε} (h : p e = true) : latest p (log ++ [e]) = some e := by
  simp [latest, h]

theorem mem_of_latest {e : ε} (h : latest p log = some e) : e ∈ log :=
  List.mem_reverse.mp (List.mem_of_find?_eq_some h)

theorem since_append {es : List ε} (h : ∀ e ∈ es, p e = false) :
    since p (log ++ es) = since p log ++ es := by
  induction es using List.reverseRecOn with
  | nil => simp
  | append_singleton es e ih =>
    have he : p e = false := h e (by simp)
    rw [← List.append_assoc, since, List.rtakeWhile_concat_pos _ _ _ (by simp [he]), ← since,
      ih fun x hx => h x (by simp [hx]), List.append_assoc]

theorem since_concat {e : ε} (h : p e = true) : since p (log ++ [e]) = [] := by
  rw [since, List.rtakeWhile_concat_neg _ _ _ (by simp [h])]

theorem since_subset : since p log ⊆ log := (List.rtakeWhile_suffix _ log).subset

theorem eq_append_of_latest {e : ε} (h : latest p log = some e) :
    ∃ past, log = past ++ e :: since p log := by
  induction log using List.reverseRecOn with
  | nil => cases h
  | append_singleton log x ih =>
    by_cases hx : p x = true
    · rw [latest_concat _ hx, Option.some.injEq] at h
      subst h
      exact ⟨log, by rw [since_concat hx]⟩
    · have hes : ∀ e ∈ [x], p e = false := by simpa using hx
      rw [latest_append _ hes] at h
      obtain ⟨past, hpast⟩ := ih h
      refine ⟨past, ?_⟩
      rw [since_append hes, ← List.cons_append, ← List.append_assoc, ← hpast]

end Latest

end Swan.Lib
