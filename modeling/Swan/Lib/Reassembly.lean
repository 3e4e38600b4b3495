import Mathlib.Data.List.Basic
import Mathlib.Data.Finset.Basic
import Mathlib.Tactic

/-! # Splitting a list into pieces and collecting pieces in any order

`chunks k l` cuts `l` into pieces of length `k`, the last one possibly shorter; the pieces join to
`l` (`flatten_chunks`).

A `Table` has one slot per expected piece. `Table.put` fills an empty slot and leaves a filled one
alone, and `Table.collected` returns the pieces once no slot is empty. `view xs S` is the table that
holds the pieces of `xs` with the indices in `S`: putting a piece into it adds its index to `S`
(`put_view`), and it is complete exactly when `S` has every index (`collected_view_of_all`,
`collected_view_of_missing`). So the order and the repetitions of the pieces do not matter. -/

namespace Swan.Lib

variable {α : Type}

/-! ### Pieces -/

/-- The `i`-th piece of length `k`. -/
def chunk (k : ℕ) (l : List α) (i : ℕ) : List α := (l.take (i * k + k)).drop (i * k)

/-- The number of pieces of length `k` that cover `n` elements. -/
def chunkCount (k n : ℕ) : ℕ := (n + k - 1) / k

/-- The pieces of length `k`, in order. -/
def chunks (k : ℕ) (l : List α) : List (List α) :=
  (List.range (chunkCount k l.length)).map (chunk k l)

theorem flatten_map_chunk (k : ℕ) (l : List α) :
    ∀ m, ((List.range m).map (chunk k l)).flatten = l.take (m * k)
  | 0 => by simp
  | m + 1 => by
    rw [List.range_succ, List.map_append, List.flatten_append, flatten_map_chunk k l m]
    simp only [List.map_cons, List.map_nil, List.flatten_cons, List.flatten_nil, List.append_nil,
      chunk, Nat.succ_mul]
    rw [List.drop_take, show m * k + k - m * k = k by omega, List.take_add]

theorem le_chunkCount_mul {k : ℕ} (hk : 0 < k) (n : ℕ) : n ≤ chunkCount k n * k := by
  have := Nat.lt_div_mul_add (a := n + k - 1) hk
  rw [chunkCount]
  omega

/-- **The pieces of a list join to the list.** -/
theorem flatten_chunks {k : ℕ} (hk : 0 < k) (l : List α) : (chunks k l).flatten = l := by
  rw [chunks, flatten_map_chunk, List.take_of_length_le (le_chunkCount_mul hk _)]

theorem mul_lt_of_lt_chunkCount {k n i : ℕ} (h : i < chunkCount k n) : i * k < n := by
  rcases Nat.eq_zero_or_pos k with rfl | hk
  · simp [chunkCount] at h
  · have hle : (i + 1) * k ≤ n + k - 1 :=
      (Nat.le_div_iff_mul_le hk).mp (Nat.succ_le_of_lt h)
    rw [Nat.succ_mul] at hle
    omega

theorem one_lt_chunkCount {k n : ℕ} (hk : 0 < k) (h : k < n) : 1 < chunkCount k n := by
  rw [chunkCount, Nat.lt_iff_add_one_le, Nat.le_div_iff_mul_le hk]
  omega

/-! ### Tables of pieces -/

/-- One slot per expected piece. -/
abbrev Table (α : Type) := List (Option α)

namespace Table

/-- The table with `n` empty slots. -/
def empty (n : ℕ) : Table α := List.replicate n none

/-- Fill the slot `i` unless it is filled already. -/
def put (t : Table α) (i : ℕ) (a : α) : Table α :=
  match t[i]? with
  | some none => t.set i (some a)
  | _ => t

/-- All pieces, if no slot is empty. -/
def collected : Table α → Option (List α)
  | [] => some []
  | none :: _ => none
  | some a :: t => (collected t).map (a :: ·)

/-- The table that holds the pieces of `xs` whose index is in `S`. -/
def view (xs : List α) (S : Finset ℕ) : Table α :=
  xs.mapIdx fun i x => if i ∈ S then some x else none

@[simp] theorem length_view (xs : List α) (S : Finset ℕ) : (view xs S).length = xs.length := by
  simp [view]

theorem view_empty (xs : List α) : view xs ∅ = empty xs.length := by
  simp [view, empty, List.mapIdx_eq_replicate_iff]

theorem getElem?_view (xs : List α) (S : Finset ℕ) (i : ℕ) :
    (view xs S)[i]? = xs[i]?.map fun x => if i ∈ S then some x else none := by
  simp [view]

theorem put_view {xs : List α} {S : Finset ℕ} {i : ℕ} {a : α} (h : xs[i]? = some a) :
    (view xs S).put i a = view xs (insert i S) := by
  by_cases hi : i ∈ S
  · rw [put, getElem?_view, h, Option.map_some, if_pos hi, Finset.insert_eq_self.mpr hi]
  · rw [put, getElem?_view, h, Option.map_some, if_neg hi]
    apply List.ext_getElem?
    intro j
    by_cases hj : i = j
    · subst hj
      simp only [List.getElem?_set_self', getElem?_view, h, Option.map_some, if_neg hi,
        Finset.mem_insert_self, if_true]
      rfl
    · rw [List.getElem?_set_ne hj, getElem?_view, getElem?_view]
      simp [Finset.mem_insert, Ne.symm hj]

theorem collected_eq_none_of_mem {t : Table α} (h : none ∈ t) : collected t = none := by
  induction t with
  | nil => simp at h
  | cons o t ih =>
    cases o with
    | none => rfl
    | some a => simp [collected, ih (by simpa using h)]

theorem collected_map_some : ∀ xs : List α, collected (xs.map some) = some xs
  | [] => rfl
  | x :: xs => by simp [collected, collected_map_some xs]

theorem collected_view_of_all {xs : List α} {S : Finset ℕ} (h : ∀ i < xs.length, i ∈ S) :
    collected (view xs S) = some xs := by
  have : view xs S = xs.map some := by
    apply List.ext_getElem?
    intro i
    rw [getElem?_view, List.getElem?_map]
    rcases lt_or_ge i xs.length with hi | hi
    · simp [h i hi]
    · simp [hi]
  rw [this, collected_map_some]

theorem collected_view_of_missing {xs : List α} {S : Finset ℕ} {i : ℕ} (hi : i < xs.length)
    (h : i ∉ S) : collected (view xs S) = none := by
  apply collected_eq_none_of_mem
  refine List.mem_of_getElem? (i := i) ?_
  rw [getElem?_view, List.getElem?_eq_getElem hi, Option.map_some, if_neg h]

end Table

end Swan.Lib
