import Mathlib.Data.List.Basic
import Mathlib.Data.List.Forall2
import Mathlib.Tactic

/-! # Glob patterns

A pattern is a list over the same alphabet as the values it matches; one symbol (`star`) stands for any
run of symbols, another one (`any`) for one arbitrary symbol, and every other symbol for a symbol that is
the same (`Glob`).

`LiteralGlob` is the reading under which a `star` that meets a symbol that is the same as `star` stands
for that symbol. It is what a matcher computes that compares symbols before it looks for a `star`. A match
in this reading is a match (`LiteralGlob.glob`), and conversely if no symbol of the value is the same as
`star` (`LiteralGlob.of_glob`). `Reach p v` says that the pattern matches a suffix of `v` in this reading.
A matcher may forget all but its last `star` because of `reach_commit`: where the symbols between two
stars fit once, they need not be tried further to the right. -/

namespace Swan.Lib

variable {α : Type} {star any : α} {same : α → α → Prop}

variable (star any same) in
/-- The pattern matches the whole value. -/
inductive Glob : List α → List α → Prop
  | nil : Glob [] []
  | run {p v : List α} (w : List α) : Glob p v → Glob (star :: p) (w ++ v)
  | one {p v : List α} (x : α) : Glob p v → Glob (any :: p) (x :: v)
  | symbol {p v : List α} {c x : α} : c ≠ star → c ≠ any → same c x → Glob p v → Glob (c :: p) (x :: v)

variable (any same) in
/-- A symbol of a pattern fits a symbol of the value at once. -/
def Fits (c x : α) : Prop := c = any ∨ same c x

variable (star any same) in
/-- The pattern matches the whole value, and a `star` that fits a symbol stands for that symbol. -/
def LiteralGlob : List α → List α → Prop
  | [], v => v = []
  | c :: p, [] => c = star ∧ LiteralGlob p []
  | c :: p, x :: v => (Fits any same c x ∧ LiteralGlob p v) ∨
      (¬Fits any same c x ∧ c = star ∧ ∃ w, w <:+ x :: v ∧ LiteralGlob p w)

variable (star any same) in
/-- The pattern matches a suffix of the value. -/
def Reach (p v : List α) : Prop := ∃ w, w <:+ v ∧ LiteralGlob star any same p w

/-! ### One symbol -/

section Symbol

variable {c x : α} {p v : List α}

theorem literalGlob_cons_of_fits (h : Fits any same c x) :
    LiteralGlob star any same (c :: p) (x :: v) ↔ LiteralGlob star any same p v := by
  rw [LiteralGlob]
  exact ⟨fun hl => hl.elim (fun hl => hl.2) fun hl => absurd h hl.1, fun hl => .inl ⟨h, hl⟩⟩

theorem literalGlob_star_cons (h : ¬Fits any same star x) :
    LiteralGlob star any same (star :: p) (x :: v) ↔ Reach star any same p (x :: v) := by
  rw [LiteralGlob]
  exact ⟨fun hl => hl.elim (fun hl => absurd hl.1 h) fun hl => hl.2.2, fun hl => .inr ⟨h, rfl, hl⟩⟩

theorem not_literalGlob_cons (h : ¬Fits any same c x) (hstar : c ≠ star) :
    ¬LiteralGlob star any same (c :: p) (x :: v) := by
  rw [LiteralGlob]
  exact fun hl => hl.elim (fun hl => h hl.1) fun hl => hstar hl.2.1

theorem literalGlob_nil_right : ∀ {p : List α},
    LiteralGlob star any same p [] ↔ ∀ c ∈ p, c = star
  | [] => ⟨fun _ c hc => absurd hc List.not_mem_nil, fun _ => rfl⟩
  | c :: p => by
    rw [LiteralGlob, literalGlob_nil_right, List.forall_mem_cons]

end Symbol

/-! ### Symbols that fit one by one -/

section Segment

variable {seg u p v : List α}

theorem literalGlob_append (h : List.Forall₂ (Fits any same) seg u) :
    LiteralGlob star any same (seg ++ p) (u ++ v) ↔ LiteralGlob star any same p v := by
  induction h with
  | nil => rfl
  | cons hfit _ ih => exact (literalGlob_cons_of_fits hfit).trans ih

/-- Where symbols fit one by one, they do not end earlier if they are matched further to the right: a
`star` among them that stands for nothing there has been passed by. -/
theorem reach_of_literalGlob (h : List.Forall₂ (Fits any same) seg u) : ∀ {w : List α}, w <:+ u ++ v →
    LiteralGlob star any same (seg ++ p) w → Reach star any same p v := by
  induction h with
  | nil => exact fun hw hl => ⟨_, hw, hl⟩
  | @cons c x seg u hfit hrest ih =>
    intro w hw hl
    obtain rfl | hw := List.suffix_cons_iff.mp hw
    · exact ih (List.suffix_refl _) ((literalGlob_cons_of_fits hfit).mp hl)
    cases w with
    | nil => exact ih hw hl.2
    | cons y w =>
      obtain ⟨-, hl⟩ | ⟨-, -, w', hw', hl⟩ := hl
      · exact ih ((List.suffix_cons y w).trans hw) hl
      · exact ih (hw'.trans hw) hl

theorem reach_commit {x : α} (h : List.Forall₂ (Fits any same) seg u) (hx : ¬Fits any same star x) :
    Reach star any same (seg ++ star :: p) (u ++ x :: v) ↔ Reach star any same p (x :: v) := by
  constructor
  · rintro ⟨w, hw, hl⟩
    obtain ⟨w, hw, hl⟩ := reach_of_literalGlob h hw hl
    cases w with
    | nil => exact ⟨[], hw, hl.2⟩
    | cons y w =>
      obtain ⟨-, hl⟩ | ⟨-, -, w', hw', hl⟩ := hl
      · exact ⟨w, (List.suffix_cons y w).trans hw, hl⟩
      · exact ⟨w', hw'.trans hw, hl⟩
  · intro hreach
    exact ⟨u ++ x :: v, List.suffix_refl _,
      (literalGlob_append h).mpr ((literalGlob_star_cons hx).mpr hreach)⟩

theorem reach_retry {y : α} {w : List α} (h : List.Forall₂ (Fits any same) seg u)
    (hno : ¬LiteralGlob star any same p v) (hv : u ++ v = y :: w) :
    Reach star any same (seg ++ p) (u ++ v) ↔ Reach star any same (seg ++ p) w := by
  constructor
  · rintro ⟨w', hw', hl⟩
    rw [hv] at hw'
    obtain rfl | hw' := List.suffix_cons_iff.mp hw'
    · rw [← hv, literalGlob_append h] at hl
      exact absurd hl hno
    · exact ⟨w', hw', hl⟩
  · rintro ⟨w', hw', hl⟩
    exact ⟨w', hv ▸ hw'.trans (List.suffix_cons y w), hl⟩

theorem reach_end (h : List.Forall₂ (Fits any same) seg u) :
    Reach star any same (seg ++ p) (u ++ []) ↔ ∀ c ∈ p, c = star := by
  have hnil : LiteralGlob star any same p [] ↔ ∀ c ∈ p, c = star := literalGlob_nil_right
  rw [← hnil]
  constructor
  · rintro ⟨w, hw, hl⟩
    obtain ⟨w, hw, hl⟩ := reach_of_literalGlob h hw hl
    obtain rfl := List.suffix_nil.mp hw
    exact hl
  · exact fun hl => ⟨u ++ [], List.suffix_refl _, (literalGlob_append h).mpr hl⟩

end Segment

/-! ### The two readings -/

theorem LiteralGlob.glob : ∀ {p v : List α}, LiteralGlob star any same p v → Glob star any same p v
  | [], v, h => by
    obtain rfl : v = [] := h
    exact .nil
  | c :: p, [], ⟨hstar, h⟩ => by
    rw [hstar]
    exact .run [] (LiteralGlob.glob h)
  | c :: p, x :: v, .inl ⟨hfit, h⟩ => by
    by_cases hstar : c = star
    · rw [hstar]
      exact .run [x] (LiteralGlob.glob h)
    by_cases hany : c = any
    · rw [hany]
      exact .one x (LiteralGlob.glob h)
    · exact .symbol hstar hany (hfit.resolve_left hany) (LiteralGlob.glob h)
  | c :: p, x :: v, .inr ⟨_, hstar, w, ⟨t, ht⟩, h⟩ => by
    rw [hstar, ← ht]
    exact .run t (LiteralGlob.glob h)

theorem LiteralGlob.of_glob (hne : star ≠ any) {p v : List α} (h : Glob star any same p v) :
    (∀ x ∈ v, ¬same star x) → LiteralGlob star any same p v := by
  induction h with
  | nil => exact fun _ => rfl
  | @run p v w _ ih =>
    intro hv
    have hrest := ih fun x hx => hv x (List.mem_append_right w hx)
    cases hw : w ++ v with
    | nil =>
      obtain ⟨-, rfl⟩ := List.append_eq_nil_iff.mp hw
      exact ⟨rfl, hrest⟩
    | cons x t =>
      have hx : ¬Fits any same star x := by
        rintro (h | h)
        · exact hne h
        · exact hv x (hw ▸ List.mem_cons_self) h
      exact (literalGlob_star_cons hx).mpr ⟨v, hw ▸ List.suffix_append w v, hrest⟩
  | one x _ ih =>
    exact fun hv => (literalGlob_cons_of_fits (.inl rfl)).mpr (ih fun y hy => hv y (List.mem_cons_of_mem x hy))
  | @symbol p v c x _ _ hsame _ ih =>
    exact fun hv => (literalGlob_cons_of_fits (.inr hsame)).mpr
      (ih fun y hy => hv y (List.mem_cons_of_mem x hy))

/-! ### Symbols that are compared through a map -/

section Map

variable {f : α → α}

theorem literalGlob_map (hstar : ∀ c, f c = star ↔ c = star) (hany : ∀ c, f c = any ↔ c = any) :
    ∀ {p v : List α}, LiteralGlob star any (· = ·) (p.map f) (v.map f) ↔
      LiteralGlob star any (fun c x => f c = f x) p v
  | [], v => by
    rw [List.map_nil, LiteralGlob, LiteralGlob, List.map_eq_nil_iff]
  | c :: p, [] => by
    rw [List.map_cons, List.map_nil, LiteralGlob, LiteralGlob, hstar c, ← literalGlob_map hstar hany,
      List.map_nil]
  | c :: p, x :: v => by
    have hfit : Fits any (· = ·) (f c) (f x) ↔ Fits any (fun c x => f c = f x) c x := by
      rw [Fits, Fits, hany c]
    have hsuffix : (∃ w, w <:+ (x :: v).map f ∧ LiteralGlob star any (· = ·) (p.map f) w) ↔
        ∃ w, w <:+ x :: v ∧ LiteralGlob star any (fun c x => f c = f x) p w := by
      constructor
      · rintro ⟨w, hw, hl⟩
        obtain ⟨w', hw', rfl⟩ : ∃ w', w' <:+ x :: v ∧ w'.map f = w := by
          obtain ⟨t, ht⟩ := hw
          obtain ⟨t', w', hsplit, -, rfl⟩ := List.map_eq_append_iff.mp ht.symm
          exact ⟨w', ⟨t', hsplit.symm⟩, rfl⟩
        exact ⟨w', hw', (literalGlob_map hstar hany).mp hl⟩
      · rintro ⟨w, hw, hl⟩
        exact ⟨w.map f, hw.map f, (literalGlob_map hstar hany).mpr hl⟩
    rw [List.map_cons, List.map_cons, LiteralGlob, LiteralGlob, hfit, hstar c,
      literalGlob_map hstar hany, ← List.map_cons, hsuffix]

end Map

end Swan.Lib
