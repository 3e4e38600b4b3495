import Mathlib.Tactic

/-! # Computations that update a state and may fail

`Eff σ α` is a computation over a state `σ` that returns an `α` or fails with an error. A failing
computation keeps the writes it made before the failure, as a method that returns an error does.
`wp x Q s` says that running `x` from `s` ends in a result and a state that `Q` relates; the rules
`wp_bind`, `wp_attempt`, `wp_zoom` and their companions take a computation apart from the outside
in, and `wp_mono` replaces a call by what is known of it. `run_bind_ok` is the same for one
successful run. `Err` is the error value such computations fail with: a text, a text around another
error, the cancellation of the caller's context, or a panic, which no caller handles. A source that
a computation draws from is a stream, and `Shifted` says what is left of one. -/

namespace Swan.Lib

/-! ### Error values -/

inductive Err where
  | errorf (text : String)
  | wrapf (text : String) (inner : Err)
  | canceled
  | panicked (text : String)
  deriving DecidableEq, Repr

def Err.text : Err → String
  | .errorf t => t
  | .wrapf t e => t ++ e.text
  | .canceled => "context canceled"
  | .panicked t => t

/-- Whether the cancellation of the context is in the chain of wrapped errors. -/
def Err.isCanceled : Err → Bool
  | .errorf _ => false
  | .wrapf _ e => e.isCanceled
  | .canceled => true
  | .panicked _ => false

def ioEOF : Err := .errorf "EOF"
def ioErrUnexpectedEOF : Err := .errorf "unexpected EOF"
def ioErrShortBuffer : Err := .errorf "short buffer"
def ioErrShortWrite : Err := .errorf "short write"

/-- What a caller that handles errors sees of a result: a panic is not handled. -/
def caught {α : Type} : Except Err α → Except Err (Except Err α)
  | .ok a => .ok (.ok a)
  | .error (.panicked t) => .error (.panicked t)
  | .error e => .ok (.error e)

@[simp] theorem caught_ok {α : Type} (a : α) : caught (.ok a) = .ok (.ok a) := rfl

theorem caught_eq_ok_ok {α : Type} {r : Except Err α} {a : α} (h : caught r = .ok (.ok a)) :
    r = .ok a := by
  unfold caught at h
  split at h <;> simp_all

theorem caught_eq_ok_error {α : Type} {r : Except Err α} {e : Err} (h : caught r = .ok (.error e)) :
    r = .error e := by
  unfold caught at h
  split at h <;> simp_all

/-- `wrap t r` puts the text `t` around the error of `r`. -/
def wrap {α : Type} (t : String) : Except Err α → Except Err α
  | .ok a => .ok a
  | .error e => .error (.wrapf t e)

@[simp] theorem wrap_eq_ok {α : Type} {t : String} {r : Except Err α} {a : α} :
    wrap t r = .ok a ↔ r = .ok a := by
  cases r <;> simp [wrap]

@[simp] theorem ok_bind {ε α β : Type} (a : α) (f : α → Except ε β) : (.ok a >>= f) = f a := rfl

@[simp] theorem error_bind {ε α β : Type} (e : ε) (f : α → Except ε β) :
    (.error e >>= f) = .error e := rfl

theorem bind_eq_ok {ε α β : Type} {x : Except ε α} {f : α → Except ε β} {b : β} :
    (x >>= f) = .ok b ↔ ∃ a, x = .ok a ∧ f a = .ok b := by
  cases x <;> simp

/-! ### Streams of draws -/

/-- What is left of a stream after some draws. -/
def Shifted {α : Type} (f g : ℕ → α) : Prop := ∃ n, g = fun k => f (k + n)

instance {α : Type} : Std.Refl (@Shifted α) := ⟨fun _ => ⟨0, rfl⟩⟩

instance {α : Type} : IsTrans (ℕ → α) Shifted := ⟨fun f _ _ ⟨m, h₁⟩ ⟨n, h₂⟩ =>
  ⟨n + m, by rw [h₂, h₁]; funext k; exact congrArg f (Nat.add_assoc k n m)⟩⟩

theorem Shifted.tail {α : Type} (f : ℕ → α) : Shifted f fun k => f (k + 1) := ⟨1, rfl⟩

theorem Shifted.forall {α : Type} {f g : ℕ → α} {P : α → Prop} (h : Shifted f g)
    (hf : ∀ k, P (f k)) : ∀ k, P (g k) := by
  obtain ⟨n, rfl⟩ := h
  exact fun k => hf (k + n)

/-! ### Computations -/

/-- A computation over the state `σ` that returns an `α` or fails. -/
def Eff (σ α : Type) : Type := σ → Except Err α × σ

namespace Eff

variable {σ τ α β : Type}

/-- The result and the final state of a computation. -/
def run (x : Eff σ α) (s : σ) : Except Err α × σ := x s

instance : Monad (Eff σ) where
  pure a := fun s => (.ok a, s)
  bind x f := fun s =>
    match x s with
    | (.ok a, s') => f a s'
    | (.error e, s') => (.error e, s')

/-- Fail with `e`. -/
def fail (e : Err) : Eff σ α := fun s => (.error e, s)

def get : Eff σ σ := fun s => (.ok s, s)

/-- Apply `f` to the state. -/
def modify (f : σ → σ) : Eff σ Unit := fun s => (.ok (), f s)

/-- A result computed without the state. -/
def lift (r : Except Err α) : Eff σ α := fun s => (r, s)

/-- Run `x` and hand its failure, if any, to the caller as a value. -/
def attempt (x : Eff σ α) : Eff σ (Except Err α) := fun s => (caught (x s).1, (x s).2)

/-- Run `x` on a part of the state. -/
def zoom (get : σ → τ) (put : τ → σ → σ) (x : Eff τ α) : Eff σ α := fun s =>
  ((x (get s)).1, put (x (get s)).2 s)

/-- Run `x` on a part of the state that may be missing. -/
def zoomPart (get : σ → Option τ) (put : τ → σ → σ) (missing : Err) (x : Eff τ α) : Eff σ α := fun s =>
  match get s with
  | none => (.error missing, s)
  | some t => ((x t).1, put (x t).2 s)

/-- Do `x` if `c` holds. -/
def when (c : Prop) [Decidable c] (x : Eff σ Unit) : Eff σ Unit := if c then x else pure ()

/-- Do `x` for every element of a list, in order, until one fails. -/
def forEach (x : α → Eff σ Unit) : List α → Eff σ Unit
  | [] => pure ()
  | a :: as => do x a; forEach x as

/-- Do the computations of a list one after the other, whether they fail or not: their results and
the final state. -/
def trace : List (Eff σ α) → σ → List (Except Err α) × σ
  | [], s => ([], s)
  | x :: xs, s => ((x s).1 :: (trace xs (x s).2).1, (trace xs (x s).2).2)

/-! ### One run -/

@[simp] theorem run_pure (a : α) (s : σ) : (pure a : Eff σ α).run s = (.ok a, s) := rfl

theorem run_bind (x : Eff σ α) (f : α → Eff σ β) (s : σ) :
    (x >>= f).run s = match x.run s with
      | (.ok a, s') => (f a).run s'
      | (.error e, s') => (.error e, s') := rfl

@[simp] theorem run_fail (e : Err) (s : σ) : (fail e : Eff σ α).run s = (.error e, s) := rfl

@[simp] theorem run_get (s : σ) : (get : Eff σ σ).run s = (.ok s, s) := rfl

@[simp] theorem run_modify (f : σ → σ) (s : σ) :
    (modify f : Eff σ Unit).run s = (.ok (), f s) := rfl

@[simp] theorem run_lift (r : Except Err α) (s : σ) : (lift r : Eff σ α).run s = (r, s) := rfl

@[simp] theorem run_attempt (x : Eff σ α) (s : σ) :
    x.attempt.run s = (caught (x.run s).1, (x.run s).2) := rfl

variable {x : Eff σ α} {s s' : σ} {a : α} {f : α → Eff σ β} {b : β} {r : Except Err α}
  {Q : Except Err α → σ → Prop}

theorem run_attempt_ok (h : x.attempt.run s = (.ok (.ok a), s')) : x.run s = (.ok a, s') := by
  rw [run_attempt, Prod.mk.injEq] at h
  exact Prod.ext (caught_eq_ok_ok h.1) h.2

theorem run_attempt_of_ok (h : x.run s = (.ok a, s')) :
    x.attempt.run s = (.ok (.ok a), s') := by
  rw [run_attempt, h]
  rfl

@[simp] theorem run_zoom (g : σ → τ) (p : τ → σ → σ) (x : Eff τ α) (s : σ) :
    (zoom g p x).run s = ((x.run (g s)).1, p (x.run (g s)).2 s) := rfl

theorem run_zoomPart {g : σ → Option τ} {p : τ → σ → σ} {missing : Err} {x : Eff τ α} {t : τ}
    (h : g s = some t) : (zoomPart g p missing x).run s = ((x.run t).1, p (x.run t).2 s) := by
  rw [run, zoomPart, h]
  rfl

theorem run_zoomPart_ok {g : σ → Option τ} {p : τ → σ → σ} {missing : Err} {x : Eff τ α}
    (h : (zoomPart g p missing x).run s = (.ok a, s')) :
    ∃ t t', g s = some t ∧ x.run t = (.ok a, t') ∧ s' = p t' s := by
  cases hg : g s with
  | none =>
    rw [run, zoomPart, hg] at h
    cases h
  | some t =>
    rw [run_zoomPart hg] at h
    obtain ⟨hok, hs'⟩ := Prod.mk.inj h
    exact ⟨t, (x.run t).2, rfl, Prod.ext hok rfl, hs'.symm⟩

theorem run_bind_of_ok (h : x.run s = (.ok a, s')) : (x >>= f).run s = (f a).run s' := by
  rw [run_bind, h]

theorem run_bind_of_error {e : Err} (h : x.run s = (.error e, s')) :
    (x >>= f).run s = (.error e, s') := by
  rw [run_bind, h]

theorem run_bind_ok {s'' : σ} (h : (x >>= f).run s = (.ok b, s'')) :
    ∃ a s', x.run s = (.ok a, s') ∧ (f a).run s' = (.ok b, s'') := by
  rw [run_bind] at h
  rcases hx : x.run s with ⟨_ | a, s'⟩
  · rw [hx] at h; simp at h
  · rw [hx] at h; exact ⟨a, s', rfl, h⟩

theorem run_lift_bind_ok (h : (lift r >>= f).run s = (.ok b, s')) :
    ∃ a, r = .ok a ∧ (f a).run s = (.ok b, s') := by
  obtain ⟨a, s₁, hr, h⟩ := run_bind_ok h
  obtain ⟨hok, rfl⟩ := Prod.mk.inj hr
  exact ⟨a, hok, h⟩

theorem run_get_bind_ok {f : σ → Eff σ β} (h : (get >>= f).run s = (.ok b, s')) :
    (f s).run s = (.ok b, s') := by
  rwa [run_bind_of_ok (run_get s)] at h

theorem run_modify_bind_ok {g : σ → σ} {f : Unit → Eff σ β}
    (h : (modify g >>= f).run s = (.ok b, s')) : (f ()).run (g s) = (.ok b, s') := by
  rwa [run_bind_of_ok (run_modify g s)] at h

theorem run_attempt_lift_bind_ok {f : Except Err α → Eff σ β}
    (h : ((lift r).attempt >>= f).run s = (.ok b, s')) : (f r).run s = (.ok b, s') := by
  obtain ⟨r', s₁, hr, h⟩ := run_bind_ok h
  obtain ⟨hcaught, rfl⟩ := Prod.mk.inj hr
  have hr' : r' = r := by
    cases r' with
    | ok a => exact (caught_eq_ok_ok hcaught).symm
    | error e => exact (caught_eq_ok_error hcaught).symm
  exact hr' ▸ h

theorem trace_cons_of_run (xs : List (Eff σ α)) (h : x.run s = (r, s')) :
    trace (x :: xs) s = (r :: (trace xs s').1, (trace xs s').2) := by
  rw [trace, show x s = (r, s') from h]

/-! ### Postconditions -/

/-- Running `x` from `s` ends in a result and a state that `Q` relates. -/
def wp (x : Eff σ α) (Q : Except Err α → σ → Prop) (s : σ) : Prop := Q (x.run s).1 (x.run s).2

theorem wp_mono {P : Except Err α → σ → Prop} (h : x.wp P s) (hPQ : ∀ r s', P r s' → Q r s') :
    x.wp Q s := hPQ _ _ h

theorem wp_of_run (h : x.wp Q s) (hx : x.run s = (r, s')) : Q r s' := by
  unfold wp at h
  rwa [hx] at h

theorem wp_run (hx : x.run s = (r, s')) (h : Q r s') : x.wp Q s := by
  unfold wp
  rwa [hx]

theorem wp_of_run_eq {y : Eff σ α} (hx : x.run s = y.run s') (h : y.wp Q s') : x.wp Q s := by
  unfold wp
  rwa [hx]

@[simp] theorem wp_pure (a : α) (Q : Except Err α → σ → Prop) (s : σ) :
    (pure a : Eff σ α).wp Q s ↔ Q (.ok a) s := Iff.rfl

@[simp] theorem wp_fail (e : Err) (Q : Except Err α → σ → Prop) (s : σ) :
    (fail e : Eff σ α).wp Q s ↔ Q (.error e) s := Iff.rfl

@[simp] theorem wp_get (Q : Except Err σ → σ → Prop) (s : σ) :
    (get : Eff σ σ).wp Q s ↔ Q (.ok s) s := Iff.rfl

@[simp] theorem wp_modify (f : σ → σ) (Q : Except Err Unit → σ → Prop) (s : σ) :
    (modify f : Eff σ Unit).wp Q s ↔ Q (.ok ()) (f s) := Iff.rfl

@[simp] theorem wp_lift (r : Except Err α) (Q : Except Err α → σ → Prop) (s : σ) :
    (lift r : Eff σ α).wp Q s ↔ Q r s := Iff.rfl

@[simp] theorem wp_attempt (x : Eff σ α) (Q : Except Err (Except Err α) → σ → Prop) (s : σ) :
    x.attempt.wp Q s ↔ x.wp (fun r s' => Q (caught r) s') s := Iff.rfl

@[simp] theorem wp_zoom (g : σ → τ) (p : τ → σ → σ) (x : Eff τ α)
    (Q : Except Err α → σ → Prop) (s : σ) :
    (zoom g p x).wp Q s ↔ x.wp (fun r t => Q r (p t s)) (g s) := Iff.rfl

/-- How a computation goes on after a call that ended in `r`. -/
def next (f : α → Eff σ β) (Q : Except Err β → σ → Prop) : Except Err α → σ → Prop
  | .ok a, s => (f a).wp Q s
  | .error e, s => Q (.error e) s

@[simp] theorem next_ok (f : α → Eff σ β) (Q : Except Err β → σ → Prop) (a : α) (s : σ) :
    next f Q (.ok a) s ↔ (f a).wp Q s := Iff.rfl

@[simp] theorem next_error (f : α → Eff σ β) (Q : Except Err β → σ → Prop) (e : Err) (s : σ) :
    next f Q (.error e) s ↔ Q (.error e) s := Iff.rfl

theorem next_caught_error {f : Except Err α → Eff σ β} {Q : Except Err β → σ → Prop} {e : Err}
    (hpanic : Q (.error e) s) (h : (f (.error e)).wp Q s) :
    next f Q (caught (.error e)) s := by
  cases e with
  | panicked t => exact hpanic
  | errorf t => exact h
  | wrapf t e => exact h
  | canceled => exact h

@[simp] theorem wp_bind (x : Eff σ α) (f : α → Eff σ β) (Q : Except Err β → σ → Prop) (s : σ) :
    (x >>= f).wp Q s ↔ x.wp (next f Q) s := by
  unfold wp
  rw [run_bind]
  rcases x.run s with ⟨_ | _, _⟩ <;> rfl

theorem wp_ite {c : Prop} [Decidable c] {y : Eff σ α} (hx : c → x.wp Q s) (hy : ¬c → y.wp Q s) :
    (if c then x else y).wp Q s := by
  split_ifs with h
  · exact hx h
  · exact hy h

theorem wp_forEach {x : α → Eff σ Unit} {I : Except Err Unit → σ → Prop}
    (step : ∀ a s, I (.ok ()) s → (x a).wp I s) :
    ∀ (as : List α) (s : σ), I (.ok ()) s → (forEach x as).wp I s
  | [], s, h => h
  | a :: as, s, h => by
    rw [forEach, wp_bind]
    refine wp_mono (step a s h) fun r s' hr => ?_
    rcases r with e | u
    · exact hr
    · exact wp_forEach step as s' hr

/-! ### Computations within a relation -/

/-- Every run of `x`, successful or not, moves the state along `R`. -/
def Within (R : σ → σ → Prop) (x : Eff σ α) : Prop := ∀ s, R s (x.run s).2

section Within

variable {R : σ → σ → Prop}

theorem Within.wp (h : x.Within R) (s : σ) : x.wp (fun _ s' => R s s') s := h s

theorem Within.mono {S : σ → σ → Prop} (h : x.Within R) (hRS : ∀ s s', R s s' → S s s') :
    x.Within S := fun s => hRS _ _ (h s)

theorem Within.attempt (h : x.Within R) : x.attempt.Within R := h

theorem Within.ite {c : Prop} [Decidable c] {y : Eff σ α} (hx : x.Within R) (hy : y.Within R) :
    (if c then x else y).Within R := by
  split_ifs
  · exact hx
  · exact hy

theorem within_modify {f : σ → σ} (h : ∀ s, R s (f s)) : (modify f).Within R := h

theorem Within.zoom {g : σ → τ} {p : τ → σ → σ} {x : Eff τ α} {S : τ → τ → Prop} (h : x.Within S)
    (hp : ∀ s t, S (g s) t → R s (p t s)) : (zoom g p x).Within R := fun s => hp s _ (h (g s))

variable [Std.Refl R]

theorem within_pure (a : α) : (pure a : Eff σ α).Within R := fun s => refl_of R s

theorem within_zoomPart {g : σ → Option τ} {p : τ → σ → σ} {missing : Err} {x : Eff τ α}
    (hp : ∀ s t, R s (p t s)) : (zoomPart g p missing x).Within R := by
  intro s
  cases h : g s with
  | none =>
    rw [run, zoomPart, h]
    exact refl_of R s
  | some t =>
    rw [run_zoomPart h]
    exact hp s _

theorem within_fail (e : Err) : (fail e : Eff σ α).Within R := fun s => refl_of R s

theorem within_get : (get : Eff σ σ).Within R := fun s => refl_of R s

theorem within_lift (x : Except Err α) : (lift x : Eff σ α).Within R := fun s => refl_of R s

variable [IsTrans σ R]

omit [Std.Refl R] in
theorem Within.bind (hx : x.Within R) (hf : ∀ a, (f a).Within R) : (x >>= f).Within R := by
  intro s
  have h := hx s
  rw [run_bind]
  rcases hrun : x.run s with ⟨_ | a, s'⟩
  · rwa [hrun] at h
  · rw [hrun] at h
    exact trans_of R h (hf a s')

theorem Within.forEach {x : α → Eff σ Unit} (h : ∀ a, (x a).Within R) :
    ∀ as, (forEach x as).Within R
  | [] => within_pure ()
  | a :: as => (h a).bind fun _ => Within.forEach h as

omit [Std.Refl R] in
theorem wp_within_bind {s₀ : σ} {Q : Except Err β → σ → Prop} (h₀ : R s₀ s) (hx : x.Within R)
    (he : ∀ e s', R s₀ s' → Q (.error e) s') (hf : ∀ v s', R s₀ s' → (f v).wp Q s') :
    (x >>= f).wp Q s := by
  rw [wp_bind]
  refine wp_mono (hx.wp s) fun r s' h => ?_
  cases r with
  | ok v => exact hf v s' (trans_of R h₀ h)
  | error e => exact he e s' (trans_of R h₀ h)

omit [Std.Refl R] [IsTrans σ R] in
theorem Within.run_bind_ok {s'' : σ} {b : β} (hx : x.Within R) (h : (x >>= f).run s = (.ok b, s''))
    :
    ∃ a s', x.run s = (.ok a, s') ∧ R s s' ∧ (f a).run s' = (.ok b, s'') := by
  obtain ⟨a, s', hrun, h⟩ := Eff.run_bind_ok h
  have hR := hx s
  rw [hrun] at hR
  exact ⟨a, s', hrun, hR, h⟩

/-- The computation succeeds in the state `s`, within `R` and with a value that meets `P`. -/
def Succeeds (R : σ → σ → Prop) (P : α → Prop) (x : Eff σ α) (s : σ) : Prop :=
  x.wp (fun r s' => ∃ v, r = .ok v ∧ P v ∧ R s s') s

omit [Std.Refl R] in
theorem Succeeds.wp_bind {s₀ : σ} {P : α → Prop} {Q : Except Err β → σ → Prop}
    (hx : x.Succeeds R P s) (h₀ : R s₀ s) (hf : ∀ v s', P v → R s₀ s' → (f v).wp Q s') :
    (x >>= f).wp Q s := by
  rw [Eff.wp_bind]
  refine wp_mono hx fun r s' h => ?_
  obtain ⟨v, rfl, hv, hR⟩ := h
  exact hf v s' hv (trans_of R h₀ hR)

end Within

end Eff

end Swan.Lib
