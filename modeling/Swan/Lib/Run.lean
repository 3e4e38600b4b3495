import Mathlib.Logic.Relation

/-! # Runs

A system takes labelled steps. `Runs Step C` is a sequence of them, each of which meets the condition
`C` where it is taken: what a result assumes of the environment is a condition on single steps.
`Runs.invariant` is the induction rule. `follow next` executes a list of labels with a partial
function, `onlyIf C` guards such a function, and `runs_of_follow` makes a run of an execution. -/

namespace Swan.Lib

variable {ε σ : Type} {Step : ε → σ → σ → Prop} {C C' : ε → σ → Prop} {I : σ → Prop} {s s' : σ}

/-- A sequence of steps, each of which meets the condition `C`. -/
def Runs (Step : ε → σ → σ → Prop) (C : ε → σ → Prop) : σ → σ → Prop :=
  Relation.ReflTransGen fun s s' => ∃ e, C e s ∧ Step e s s'

theorem Runs.mono (h : Runs Step C s s') (hC : ∀ e s, C e s → C' e s) : Runs Step C' s s' :=
  Relation.ReflTransGen.mono (fun s _ ⟨e, hc, hstep⟩ => ⟨e, hC e s hc, hstep⟩) _ _ h

theorem Runs.and_invariant (h : Runs Step C s s') (hs : I s)
    (hstep : ∀ {e s s'}, C e s → Step e s s' → I s → I s') :
    Runs Step (fun e s => C e s ∧ I s) s s' ∧ I s' := by
  induction h with
  | refl => exact ⟨.refl, hs⟩
  | tail _ he ih =>
    obtain ⟨e, hC, he⟩ := he
    exact ⟨ih.1.tail ⟨e, ⟨hC, ih.2⟩, he⟩, hstep hC he ih.2⟩

theorem Runs.invariant (h : Runs Step C s s') (hs : I s)
    (hstep : ∀ {e s s'}, C e s → Step e s s' → I s → I s') : I s' :=
  (h.and_invariant hs hstep).2

section Follow

variable {next : ε → σ → Option σ} {e : ε} {es : List ε}

/-- The state after a list of labels, if each of them can be taken. -/
def follow (next : ε → σ → Option σ) : List ε → σ → Option σ
  | [], s => some s
  | e :: es, s => (next e s).bind (follow next es)

/-- The steps that meet the condition. -/
def onlyIf (C : ε → σ → Prop) [∀ e s, Decidable (C e s)] (next : ε → σ → Option σ) (e : ε) (s : σ) :
    Option σ :=
  if C e s then next e s else none

theorem onlyIf_eq_some [∀ e s, Decidable (C e s)] :
    onlyIf C next e s = some s' ↔ C e s ∧ next e s = some s' := by
  unfold onlyIf
  split <;> simp [*]

theorem follow_cons :
    follow next (e :: es) s = some s' ↔ ∃ s₁, next e s = some s₁ ∧ follow next es s₁ = some s' :=
  Option.bind_eq_some_iff

theorem follow_append {es' : List ε} : follow next (es ++ es') s = some s' ↔
    ∃ s₁, follow next es s = some s₁ ∧ follow next es' s₁ = some s' := by
  induction es generalizing s with
  | nil => simp [follow]
  | cons e es ih =>
    simp only [List.cons_append, follow_cons, ih]
    constructor
    · rintro ⟨s₁, he, s₂, hes, h⟩
      exact ⟨s₂, ⟨s₁, he, hes⟩, h⟩
    · rintro ⟨s₂, ⟨s₁, he, hes⟩, h⟩
      exact ⟨s₁, he, s₂, hes, h⟩

theorem runs_of_follow (h : follow next es s = some s')
    (hnext : ∀ e ∈ es, ∀ {s s'}, next e s = some s' → C e s ∧ Step e s s') : Runs Step C s s' := by
  induction es generalizing s with
  | nil =>
    cases h
    exact .refl
  | cons e es ih =>
    obtain ⟨s₁, he, h⟩ := follow_cons.mp h
    exact .head ⟨e, hnext e List.mem_cons_self he⟩
      (ih h fun x hx => hnext x (List.mem_cons_of_mem e hx))

end Follow

end Swan.Lib
