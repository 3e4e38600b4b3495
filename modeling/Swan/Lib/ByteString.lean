import Mathlib.Data.List.Basic
import Mathlib.Tactic

/-! # Byte strings and big-endian numbers

A byte string is a list of `UInt8`. `slice b i j` is Go's `b[i:j]`. `beNat` reads a byte string as a
big-endian number and `beBytes k n` writes the `k` low bytes of `n`; each undoes the other
(`beNat_beBytes`, `beBytes_beNat`). The fixed-width accessors `beUint16`, `beUint32`, `beUint64` and
`putUint16`, `putUint32`, `putUint64` are these two at 2, 4 and 8 bytes. `AgreeOutside s a b` says that
two byte strings differ at the positions `s` at most. -/

namespace Swan.Lib

abbrev Bytes := List UInt8

def ascii (s : String) : Bytes := s.toList.map fun c => UInt8.ofNat c.toNat

def quoted (s : Bytes) : String :=
  "\"" ++ String.ofList (s.map fun c => Char.ofNat c.toNat) ++ "\""

/-- The bytes at the positions `i, …, j - 1`. -/
def slice (b : Bytes) (i j : ℕ) : Bytes := (b.take j).drop i

theorem length_slice (b : Bytes) (i j : ℕ) : (slice b i j).length = min j b.length - i := by
  simp [slice]

theorem slice_append_right (a b : Bytes) (i j : ℕ) :
    slice (a ++ b) (a.length + i) (a.length + j) = slice b i j := by
  simp [slice, List.take_append, List.drop_append]

@[simp] theorem slice_self (a : Bytes) : slice a 0 a.length = a := by simp [slice]

theorem slice_append_to_end (a b : Bytes) : slice (a ++ b) a.length (a.length + b.length) = b := by
  simpa using slice_append_right a b 0 b.length

theorem slice_append_left (a b : Bytes) : slice (a ++ b) 0 a.length = a := by simp [slice]

theorem slice_middle (a b c : Bytes) : slice (a ++ (b ++ c)) a.length (a.length + b.length) = b := by
  simpa [slice_append_left] using slice_append_right a (b ++ c) 0 b.length

/-! ### Big-endian numbers -/

/-- A byte string read as a big-endian number. -/
def beNat (b : Bytes) : ℕ := b.foldl (fun n x => n * 256 + x.toNat) 0

/-- The `k` low bytes of `n`, most significant first. -/
def beBytes : ℕ → ℕ → Bytes
  | 0, _ => []
  | k + 1, n => beBytes k (n / 256) ++ [UInt8.ofNat (n % 256)]

theorem beNat_append_singleton (b : Bytes) (x : UInt8) :
    beNat (b ++ [x]) = beNat b * 256 + x.toNat := by
  simp [beNat]

@[simp] theorem length_beBytes : ∀ k n, (beBytes k n).length = k
  | 0, n => rfl
  | k + 1, n => by simp [beBytes, length_beBytes k]

theorem beNat_beBytes : ∀ k n, beNat (beBytes k n) = n % 256 ^ k
  | 0, n => by simp [beBytes, beNat, Nat.mod_one]
  | k + 1, n => by
    rw [beBytes, beNat_append_singleton, beNat_beBytes k, pow_succ', Nat.mod_mul]
    have : (UInt8.ofNat (n % 256)).toNat = n % 256 := by simp
    rw [this]; ring

theorem beNat_lt (b : Bytes) : beNat b < 256 ^ b.length := by
  induction b using List.reverseRecOn with
  | nil => simp [beNat]
  | append_singleton b x ih =>
    rw [beNat_append_singleton, List.length_append, List.length_singleton, pow_succ]
    have := x.toNat_lt
    omega

theorem beBytes_beNat (b : Bytes) : beBytes b.length (beNat b) = b := by
  induction b using List.reverseRecOn with
  | nil => rfl
  | append_singleton b x ih =>
    have hx := x.toNat_lt
    rw [List.length_append, List.length_singleton, beBytes, beNat_append_singleton,
      show (beNat b * 256 + x.toNat) / 256 = beNat b by omega,
      show (beNat b * 256 + x.toNat) % 256 = x.toNat by omega, ih]
    simp

/-! ### Fixed-width accessors -/

/-- The 16-bit number in the first two bytes. -/
def beUint16 (b : Bytes) : UInt16 := UInt16.ofNat (beNat (b.take 2))

/-- The 32-bit number in the first four bytes. -/
def beUint32 (b : Bytes) : UInt32 := UInt32.ofNat (beNat (b.take 4))

/-- The 64-bit number in the first eight bytes. -/
def beUint64 (b : Bytes) : UInt64 := UInt64.ofNat (beNat (b.take 8))

/-- The two bytes of a 16-bit number. -/
def putUint16 (v : UInt16) : Bytes := beBytes 2 v.toNat

/-- The four bytes of a 32-bit number. -/
def putUint32 (v : UInt32) : Bytes := beBytes 4 v.toNat

/-- The eight bytes of a 64-bit number. -/
def putUint64 (v : UInt64) : Bytes := beBytes 8 v.toNat

@[simp] theorem length_putUint16 (v : UInt16) : (putUint16 v).length = 2 := length_beBytes _ _

@[simp] theorem length_putUint32 (v : UInt32) : (putUint32 v).length = 4 := length_beBytes _ _

@[simp] theorem length_putUint64 (v : UInt64) : (putUint64 v).length = 8 := length_beBytes _ _

@[simp] theorem beUint16_put (v : UInt16) (t : Bytes) : beUint16 (putUint16 v ++ t) = v := by
  unfold beUint16
  rw [List.take_append_of_le_length (by simp), List.take_of_length_le (by simp)]
  unfold putUint16
  rw [beNat_beBytes]
  have := v.toNat_lt
  rw [Nat.mod_eq_of_lt (by omega), UInt16.ofNat_toNat]

@[simp] theorem beUint32_put (v : UInt32) (t : Bytes) : beUint32 (putUint32 v ++ t) = v := by
  unfold beUint32
  rw [List.take_append_of_le_length (by simp), List.take_of_length_le (by simp)]
  unfold putUint32
  rw [beNat_beBytes]
  have := v.toNat_lt
  rw [Nat.mod_eq_of_lt (by omega), UInt32.ofNat_toNat]

@[simp] theorem beUint64_put (v : UInt64) (t : Bytes) : beUint64 (putUint64 v ++ t) = v := by
  unfold beUint64
  rw [List.take_append_of_le_length (by simp), List.take_of_length_le (by simp)]
  unfold putUint64
  rw [beNat_beBytes]
  have := v.toNat_lt
  rw [Nat.mod_eq_of_lt (by omega), UInt64.ofNat_toNat]

@[simp] theorem beUint16_putUint16 (v : UInt16) : beUint16 (putUint16 v) = v := by
  simpa using beUint16_put v []

@[simp] theorem beUint32_putUint32 (v : UInt32) : beUint32 (putUint32 v) = v := by
  simpa using beUint32_put v []

@[simp] theorem beUint64_putUint64 (v : UInt64) : beUint64 (putUint64 v) = v := by
  simpa using beUint64_put v []

theorem putUint16_beUint16 {b : Bytes} (h : b.length = 2) : putUint16 (beUint16 b) = b := by
  have hlt : beNat b < 2 ^ 16 := by simpa [h] using beNat_lt b
  rw [putUint16, beUint16, List.take_of_length_le h.le, UInt16.toNat_ofNat', Nat.mod_eq_of_lt hlt,
    ← h, beBytes_beNat]

theorem putUint32_beUint32 {b : Bytes} (h : b.length = 4) : putUint32 (beUint32 b) = b := by
  have hlt : beNat b < 2 ^ 32 := by simpa [h] using beNat_lt b
  rw [putUint32, beUint32, List.take_of_length_le h.le, UInt32.toNat_ofNat', Nat.mod_eq_of_lt hlt,
    ← h, beBytes_beNat]

theorem putUint64_beUint64 {b : Bytes} (h : b.length = 8) : putUint64 (beUint64 b) = b := by
  have hlt : beNat b < 2 ^ 64 := by simpa [h] using beNat_lt b
  rw [putUint64, beUint64, List.take_of_length_le h.le, UInt64.toNat_ofNat', Nat.mod_eq_of_lt hlt,
    ← h, beBytes_beNat]

/-! ### Byte strings that agree outside given positions -/

/-- `a` and `b` have the same length, and the same bytes outside the positions `s`. -/
structure AgreeOutside (s : List ℕ) (a b : Bytes) : Prop where
  length : a.length = b.length
  get : ∀ i, i ∉ s → a[i]? = b[i]?

theorem AgreeOutside.refl (s : List ℕ) (a : Bytes) : AgreeOutside s a a := ⟨rfl, fun _ _ => rfl⟩

theorem AgreeOutside.append {s t : List ℕ} {a a' b b' : Bytes} (h : AgreeOutside s a a')
    (h' : AgreeOutside t b b') : AgreeOutside (s ++ t.map (a.length + ·)) (a ++ b) (a' ++ b') := by
  refine ⟨by rw [List.length_append, List.length_append, h.length, h'.length], fun i hi => ?_⟩
  rw [List.mem_append, not_or] at hi
  by_cases hlt : i < a.length
  · rw [List.getElem?_append_left hlt, List.getElem?_append_left (h.length ▸ hlt)]
    exact h.get i hi.1
  · have hge : a.length ≤ i := not_lt.mp hlt
    rw [List.getElem?_append_right hge, List.getElem?_append_right (h.length ▸ hge), ← h.length]
    refine h'.get _ fun hmem => hi.2 (List.mem_map.mpr ⟨_, hmem, ?_⟩)
    omega

/-! ### Fixed headers -/

theorem exists_four {b : Bytes} (h : 4 ≤ b.length) :
    ∃ x0 x1 x2 x3 t, b = x0 :: x1 :: x2 :: x3 :: t := by
  rcases b with _ | ⟨x0, _ | ⟨x1, _ | ⟨x2, _ | ⟨x3, t⟩⟩⟩⟩
  case cons.cons.cons.cons => exact ⟨x0, x1, x2, x3, t, rfl⟩
  all_goals simp at h

theorem exists_eight {b : Bytes} (h : 8 ≤ b.length) :
    ∃ x0 x1 x2 x3 x4 x5 x6 x7 t, b = x0 :: x1 :: x2 :: x3 :: x4 :: x5 :: x6 :: x7 :: t := by
  obtain ⟨x0, x1, x2, x3, t, rfl⟩ := exists_four (b := b) (by omega)
  obtain ⟨x4, x5, x6, x7, t, rfl⟩ := exists_four (b := t) (by simpa using h)
  exact ⟨x0, x1, x2, x3, x4, x5, x6, x7, t, rfl⟩

theorem putUint16_pair (x y : UInt8) : putUint16 (beUint16 [x, y]) = [x, y] :=
  putUint16_beUint16 rfl

theorem putUint16_ofNat_toNat {v : UInt16} {n : ℕ} (h : v.toNat = n) :
    putUint16 (UInt16.ofNat n) = putUint16 v := by
  rw [← h, UInt16.ofNat_toNat]

end Swan.Lib
