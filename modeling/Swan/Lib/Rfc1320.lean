import Swan.Lib.ByteString

/-! # The MD4 message digest as RFC 1320 states it

A message is padded to a whole number of blocks of 64 bytes, its length last (`pad`); every block goes
through three rounds of sixteen operations on four registers (`compress`). An operation `[abcd k s]`
names the register it sets, the three it reads, a word of the block and an amount of rotation; the
three tables are those of the standard. -/

namespace Swan.Lib.Rfc1320

abbrev Word := BitVec 32

/-! ### Little-endian numbers -/

/-- A byte string read as a number, least significant byte first. -/
def leNat : Bytes → ℕ
  | [] => 0
  | x :: b => x.toNat + 256 * leNat b

/-- The `k` low bytes of `n`, least significant first. -/
def leBytes : ℕ → ℕ → Bytes
  | 0, _ => []
  | k + 1, n => UInt8.ofNat (n % 256) :: leBytes k (n / 256)

theorem leNat_eq_beNat (b : Bytes) : leNat b = beNat b.reverse := by
  induction b with
  | nil => rfl
  | cons x b ih => rw [leNat, List.reverse_cons, beNat_append_singleton, ih, Nat.mul_comm, Nat.add_comm]

theorem leBytes_eq_beBytes (k n : ℕ) : leBytes k n = (beBytes k n).reverse := by
  induction k generalizing n with
  | zero => rfl
  | succ k ih => rw [leBytes, beBytes, List.reverse_append, ih]; rfl

@[simp] theorem length_leBytes (k n : ℕ) : (leBytes k n).length = k := by
  rw [leBytes_eq_beBytes, List.length_reverse, length_beBytes]

/-! ### Padding -/

/-- The zeros after the first padding byte: the fewest that leave 8 bytes of the last block. -/
def zeros (n : ℕ) : ℕ := (119 - n % 64) % 64

/-- The message, a one bit, zeros, and the length of the message in bits. -/
def pad (m : Bytes) : Bytes := m ++ 0x80 :: List.replicate (zeros m.length) 0 ++ leBytes 8 (8 * m.length)

theorem length_pad (m : Bytes) : (pad m).length = m.length + 1 + zeros m.length + 8 := by
  simp only [pad, List.length_append, List.length_cons, List.length_replicate, length_leBytes]
  omega

/-! ### The rounds -/

def F (x y z : Word) : Word := (x &&& y) ||| (~~~x &&& z)
def G (x y z : Word) : Word := (x &&& y) ||| (x &&& z) ||| (y &&& z)
def H (x y z : Word) : Word := x ^^^ y ^^^ z

inductive Register where
  | A
  | B
  | C
  | D
  deriving DecidableEq, Repr

abbrev Registers := Register → Word

/-- The operation `[abcd k s]`. -/
structure Operation where
  a : Register
  b : Register
  c : Register
  d : Register
  k : ℕ
  s : ℕ
  deriving DecidableEq, Repr

/-- Carry out an operation with the function and the constant of its round. -/
def operate (f : Word → Word → Word → Word) (constant : Word) (x : ℕ → Word) (r : Registers)
    (op : Operation) : Registers :=
  Function.update r op.a
    ((r op.a + f (r op.b) (r op.c) (r op.d) + x op.k + constant).rotateLeft op.s)

open Register in
def round1 : List Operation :=
  [⟨A, B, C, D, 0, 3⟩, ⟨D, A, B, C, 1, 7⟩, ⟨C, D, A, B, 2, 11⟩, ⟨B, C, D, A, 3, 19⟩,
   ⟨A, B, C, D, 4, 3⟩, ⟨D, A, B, C, 5, 7⟩, ⟨C, D, A, B, 6, 11⟩, ⟨B, C, D, A, 7, 19⟩,
   ⟨A, B, C, D, 8, 3⟩, ⟨D, A, B, C, 9, 7⟩, ⟨C, D, A, B, 10, 11⟩, ⟨B, C, D, A, 11, 19⟩,
   ⟨A, B, C, D, 12, 3⟩, ⟨D, A, B, C, 13, 7⟩, ⟨C, D, A, B, 14, 11⟩, ⟨B, C, D, A, 15, 19⟩]

open Register in
def round2 : List Operation :=
  [⟨A, B, C, D, 0, 3⟩, ⟨D, A, B, C, 4, 5⟩, ⟨C, D, A, B, 8, 9⟩, ⟨B, C, D, A, 12, 13⟩,
   ⟨A, B, C, D, 1, 3⟩, ⟨D, A, B, C, 5, 5⟩, ⟨C, D, A, B, 9, 9⟩, ⟨B, C, D, A, 13, 13⟩,
   ⟨A, B, C, D, 2, 3⟩, ⟨D, A, B, C, 6, 5⟩, ⟨C, D, A, B, 10, 9⟩, ⟨B, C, D, A, 14, 13⟩,
   ⟨A, B, C, D, 3, 3⟩, ⟨D, A, B, C, 7, 5⟩, ⟨C, D, A, B, 11, 9⟩, ⟨B, C, D, A, 15, 13⟩]

open Register in
def round3 : List Operation :=
  [⟨A, B, C, D, 0, 3⟩, ⟨D, A, B, C, 8, 9⟩, ⟨C, D, A, B, 4, 11⟩, ⟨B, C, D, A, 12, 15⟩,
   ⟨A, B, C, D, 2, 3⟩, ⟨D, A, B, C, 10, 9⟩, ⟨C, D, A, B, 6, 11⟩, ⟨B, C, D, A, 14, 15⟩,
   ⟨A, B, C, D, 1, 3⟩, ⟨D, A, B, C, 9, 9⟩, ⟨C, D, A, B, 5, 11⟩, ⟨B, C, D, A, 13, 15⟩,
   ⟨A, B, C, D, 3, 3⟩, ⟨D, A, B, C, 11, 9⟩, ⟨C, D, A, B, 7, 11⟩, ⟨B, C, D, A, 15, 15⟩]

def compress (r : Registers) (x : ℕ → Word) : Registers :=
  let r₁ := round1.foldl (operate F 0 x) r
  let r₂ := round2.foldl (operate G 0x5a827999 x) r₁
  let r₃ := round3.foldl (operate H 0x6ed9eba1 x) r₂
  fun i => r i + r₃ i

theorem foldl_operate_congr {f : Word → Word → Word → Word} {constant : Word} {x y : ℕ → Word}
    {ops : List Operation} (hops : ∀ op ∈ ops, op.k < 16) (h : ∀ j < 16, x j = y j) (r : Registers) :
    ops.foldl (operate f constant x) r = ops.foldl (operate f constant y) r :=
  List.foldl_ext _ _ _ fun r op hop => by rw [operate, operate, h op.k (hops op hop)]

theorem compress_congr {x y : ℕ → Word} (h : ∀ j < 16, x j = y j) (r : Registers) :
    compress r x = compress r y := by
  simp only [compress, foldl_operate_congr (show ∀ op ∈ round1, op.k < 16 by decide) h,
    foldl_operate_congr (show ∀ op ∈ round2, op.k < 16 by decide) h,
    foldl_operate_congr (show ∀ op ∈ round3, op.k < 16 by decide) h]

def initial : Registers
  | .A => 0x67452301
  | .B => 0xefcdab89
  | .C => 0x98badcfe
  | .D => 0x10325476

/-- The word with number `i` of a byte string. -/
def word (m : Bytes) (i : ℕ) : Word := BitVec.ofNat 32 (leNat ((m.drop (4 * i)).take 4))

theorem word_slice (m : Bytes) (i : ℕ) {j : ℕ} (hj : j < 16) :
    word (slice m (i * 64) ((i + 1) * 64)) j = word m (16 * i + j) := by
  have hend : (i + 1) * 64 - i * 64 = 64 := by omega
  have hplace : i * 64 + 4 * j = 4 * (16 * i + j) := by omega
  have hfits : min 4 (64 - 4 * j) = 4 := by omega
  rw [word, word, slice, List.drop_take, hend, List.drop_take, List.take_take, List.drop_drop, hplace, hfits]

def digest (m : Bytes) : Bytes :=
  let padded := pad m
  let r := (List.range (padded.length / 64)).foldl
    (fun r i => compress r fun j => word padded (16 * i + j)) initial
  leBytes 4 (r .A).toNat ++ leBytes 4 (r .B).toNat ++ leBytes 4 (r .C).toNat ++ leBytes 4 (r .D).toNat

end Swan.Lib.Rfc1320
