import Swan.Lib.ByteString

/-! # Expansion of a key

A function of byte strings with outputs of one length gives a long key: each block is the function at
the block before it, a seed and the number of the block. The key of any length is the beginning of the
blocks in a row, so a shorter one is a prefix of a longer one. -/

namespace Swan.Lib

/-- The block with number `n`; the one before the first is empty. -/
def expansionBlock (prf : Bytes → Bytes) (seed : Bytes) : ℕ → Bytes
  | 0 => []
  | n + 1 => prf (expansionBlock prf seed n ++ seed ++ [UInt8.ofNat (n + 1)])

/-- The blocks `1` to `n` in a row. -/
def expansion (prf : Bytes → Bytes) (seed : Bytes) : ℕ → Bytes
  | 0 => []
  | n + 1 => expansion prf seed n ++ expansionBlock prf seed (n + 1)

section

variable {prf : Bytes → Bytes} {len : ℕ} (hlen : ∀ m, (prf m).length = len) (seed : Bytes)

include hlen in
theorem length_expansion : ∀ n, (expansion prf seed n).length = n * len
  | 0 => (Nat.zero_mul len).symm
  | n + 1 => by
    rw [expansion, List.length_append, length_expansion n, expansionBlock, hlen, Nat.succ_mul]

theorem expansion_prefix_of_le {m n : ℕ} (h : m ≤ n) :
    expansion prf seed m <+: expansion prf seed n := by
  induction n, h using Nat.le_induction with
  | base => exact List.prefix_rfl
  | succ n _ ih => exact ih.trans (List.prefix_append _ _)

include hlen in
theorem take_expansion {m n k : ℕ} (h : m ≤ n) (hk : k ≤ m * len) :
    (expansion prf seed m).take k = (expansion prf seed n).take k := by
  obtain ⟨rest, hrest⟩ : expansion prf seed m <+: expansion prf seed n := expansion_prefix_of_le seed h
  rw [← hrest, List.take_append_of_le_length (by rwa [length_expansion hlen seed m])]

end

/-! ### Cutting a key -/

theorem slice_append_slice (b : Bytes) {i j k : ℕ} (hij : i ≤ j) (hjk : j ≤ k) :
    slice b i j ++ slice b j k = slice b i k := by
  have hback : (b.take k).take j = b.take j := by rw [List.take_take, min_eq_left hjk]
  have hsplit : ((b.take k).drop i).take (j - i) ++ ((b.take k).drop i).drop (j - i) = (b.take k).drop i :=
    List.take_append_drop _ _
  rwa [List.drop_drop, Nat.add_sub_cancel' hij, ← List.drop_take, hback] at hsplit

end Swan.Lib
