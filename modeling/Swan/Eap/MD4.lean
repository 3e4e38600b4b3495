import Swan.Lib.Rfc1320

/-! # MD4

The message digest of RFC 1320, which the hash of a password rests on.

The source keeps the four registers in a tuple that it turns by one place after every operation. `Reads`
says which register is in which place, and `md4_eq_digest` that the digest is the one of the standard. -/

namespace Swan.Eap.MSCHAPv2

open Swan.Lib

/-- The four words of the digest. -/
structure MD4State where
  a : UInt32
  b : UInt32
  c : UInt32
  d : UInt32
  deriving DecidableEq, Repr

/-- The `k` low bytes of `n`, least significant first. -/
def leBytes (k n : ℕ) : Bytes := (beBytes k n).reverse

/-- The 32-bit number at position `i`, least significant byte first. -/
def leUint32 (b : Bytes) (i : ℕ) : UInt32 := UInt32.ofNat (beNat (slice b i (i + 4)).reverse)

/-- A word rotated by `s < 32` bits to the left. -/
def rotateLeft32 (x s : UInt32) : UInt32 := (x <<< s) ||| (x >>> (32 - s))

def md4F (x y z : UInt32) : UInt32 := (x &&& y) ||| (~~~x &&& z)

def md4G (x y z : UInt32) : UInt32 := (x &&& y) ||| (x &&& z) ||| (y &&& z)

def md4H (x y z : UInt32) : UInt32 := x ^^^ y ^^^ z

/-- One operation of a round: the first word is updated, and the words move on by one place. -/
def md4Step (f : UInt32 → UInt32 → UInt32 → UInt32) (constant : UInt32) (s : MD4State)
    (x shift : UInt32) : MD4State :=
  ⟨s.d, rotateLeft32 (s.a + f s.b s.c s.d + x + constant) shift, s.b, s.c⟩

def md4StepF : MD4State → UInt32 → UInt32 → MD4State := md4Step md4F 0

def md4StepG : MD4State → UInt32 → UInt32 → MD4State := md4Step md4G 0x5a827999

def md4StepH : MD4State → UInt32 → UInt32 → MD4State := md4Step md4H 0x6ed9eba1

def order1 : List ℕ := [0, 1, 2, 3, 4, 5, 6, 7, 8, 9, 10, 11, 12, 13, 14, 15]

def shifts1 : List UInt32 := [3, 7, 11, 19, 3, 7, 11, 19, 3, 7, 11, 19, 3, 7, 11, 19]

def order2 : List ℕ := [0, 4, 8, 12, 1, 5, 9, 13, 2, 6, 10, 14, 3, 7, 11, 15]

def shifts2 : List UInt32 := [3, 5, 9, 13, 3, 5, 9, 13, 3, 5, 9, 13, 3, 5, 9, 13]

def order3 : List ℕ := [0, 8, 4, 12, 2, 10, 6, 14, 1, 9, 5, 13, 3, 11, 7, 15]

def shifts3 : List UInt32 := [3, 9, 11, 15, 3, 9, 11, 15, 3, 9, 11, 15, 3, 9, 11, 15]

def md4Round (step : MD4State → UInt32 → UInt32 → MD4State) (block : Bytes) (order : List ℕ)
    (shifts : List UInt32) (s : MD4State) : MD4State :=
  (order.zip shifts).foldl (fun s (i, shift) => step s (leUint32 block (4 * i)) shift) s

def md4Transform (s₀ : MD4State) (block : Bytes) : MD4State :=
  let s := md4Round md4StepF block order1 shifts1 s₀
  let s := md4Round md4StepG block order2 shifts2 s
  let s := md4Round md4StepH block order3 shifts3 s
  ⟨s₀.a + s.a, s₀.b + s.b, s₀.c + s.c, s₀.d + s.d⟩

def md4 (input : Bytes) : Bytes :=
  let fullBlocks := input.length / 64
  let s := (List.range fullBlocks).foldl
    (fun s i => md4Transform s (slice input (i * 64) ((i + 1) * 64)))
    ⟨0x67452301, 0xefcdab89, 0x98badcfe, 0x10325476⟩
  let tail := input.drop (fullBlocks * 64)
  let block := tail ++ 0x80 :: List.replicate (63 - tail.length) 0
  -- the length does not fit after the tail: it goes to a block of its own
  let (s, block) := if tail.length ≥ 56 then (md4Transform s block, List.replicate 64 0)
    else (s, block)
  let s := md4Transform s (block.take 56 ++ leBytes 8 (input.length * 8 % 2 ^ 64))
  leBytes 4 s.a.toNat ++ leBytes 4 s.b.toNat ++ leBytes 4 s.c.toNat ++ leBytes 4 s.d.toNat

/-- The digest of the empty string, from the test suite of RFC 1320. -/
example : md4 [] = [0x31, 0xd6, 0xcf, 0xe0, 0xd1, 0x6a, 0xe9, 0x31, 0xb7, 0x3c, 0x59, 0xd7, 0xe0,
    0xc0, 0x89, 0xc0] := by decide +kernel

/-! ### Conformance -/

open Rfc1320

structure Places where
  a : Register
  b : Register
  c : Register
  d : Register
  deriving DecidableEq, Repr

namespace Places

def turn (q : Places) : Places := ⟨q.d, q.a, q.b, q.c⟩

def Nodup (q : Places) : Prop := [q.a, q.b, q.c, q.d].Nodup

theorem Nodup.turn {q : Places} (h : q.Nodup) : q.turn.Nodup := by
  simp only [Nodup, Places.turn, List.nodup_cons, List.mem_cons, List.not_mem_nil, or_false, not_or,
    not_false_eq_true, List.nodup_nil, and_true] at h ⊢
  tauto

/-- The operations on a turning tuple, as those on registers. -/
def operations : Places → List (ℕ × UInt32) → List Operation
  | _, [] => []
  | q, (k, s) :: rest => ⟨q.a, q.b, q.c, q.d, k, s.toNat⟩ :: operations q.turn rest

end Places

/-- The tuple holds the registers. -/
structure Reads (s : MD4State) (r : Registers) (q : Places) : Prop where
  a : s.a.toBitVec = r q.a
  b : s.b.toBitVec = r q.b
  c : s.c.toBitVec = r q.c
  d : s.d.toBitVec = r q.d

theorem toNat_mod_width {s : UInt32} (h : s.toNat < 32) : (s.toBitVec % 32).toNat = s.toNat := by
  rw [BitVec.toNat_umod, UInt32.toNat_toBitVec]
  exact Nat.mod_eq_of_lt h

theorem toBitVec_rotateLeft32 {x s : UInt32} (h₀ : 0 < s.toNat) (h : s.toNat < 32) :
    (rotateLeft32 x s).toBitVec = x.toBitVec.rotateLeft s.toNat := by
  have hsub : (32 - s).toNat = 32 - s.toNat := by
    rw [UInt32.toNat_sub_of_le _ _ (UInt32.le_iff_toNat_le.mpr (by simpa using h.le))]
    rfl
  rw [rotateLeft32, UInt32.toBitVec_or, UInt32.toBitVec_shiftLeft, UInt32.toBitVec_shiftRight,
    BitVec.shiftLeft_eq', BitVec.ushiftRight_eq', toNat_mod_width h,
    toNat_mod_width (by omega), hsub, BitVec.rotateLeft, BitVec.rotateLeftAux, Nat.mod_eq_of_lt h]

section Rounds

variable {f : UInt32 → UInt32 → UInt32 → UInt32} {g : Word → Word → Word → Word} (constant : UInt32)
  (x : ℕ → UInt32) {s : MD4State} {r : Registers} {q : Places}

/-- **One operation.** -/
theorem Reads.step (hf : ∀ u v w, (f u v w).toBitVec = g u.toBitVec v.toBitVec w.toBitVec)
    (h : Reads s r q) (hq : q.Nodup) (k : ℕ) {shift : UInt32} (h₀ : 0 < shift.toNat)
    (h₃₂ : shift.toNat < 32) :
    Reads (md4Step f constant s (x k) shift)
      (operate g constant.toBitVec (fun j => (x j).toBitVec) r ⟨q.a, q.b, q.c, q.d, k, shift.toNat⟩)
      q.turn := by
  have hab : q.b ≠ q.a := by simp [Places.Nodup] at hq; tauto
  have hac : q.c ≠ q.a := by simp [Places.Nodup] at hq; tauto
  have had : q.d ≠ q.a := by simp [Places.Nodup] at hq; tauto
  have hset : (md4Step f constant s (x k) shift).b.toBitVec =
      (r q.a + g (r q.b) (r q.c) (r q.d) + (x k).toBitVec + constant.toBitVec).rotateLeft
        shift.toNat := by
    rw [md4Step, toBitVec_rotateLeft32 h₀ h₃₂]
    simp only [UInt32.toBitVec_add, hf, h.a, h.b, h.c, h.d]
  exact ⟨h.d.trans (Function.update_of_ne had _ _).symm, hset.trans (Function.update_self q.a _ r).symm,
    h.b.trans (Function.update_of_ne hab _ _).symm, h.c.trans (Function.update_of_ne hac _ _).symm⟩

/-- **Any number of operations.** -/
theorem Reads.steps (hf : ∀ u v w, (f u v w).toBitVec = g u.toBitVec v.toBitVec w.toBitVec) :
    ∀ (steps : List (ℕ × UInt32)) {s : MD4State} {r : Registers} {q : Places},
      (∀ p ∈ steps, 0 < p.2.toNat ∧ p.2.toNat < 32) → q.Nodup → Reads s r q →
      Reads (steps.foldl (fun s p => md4Step f constant s (x p.1) p.2) s)
        ((q.operations steps).foldl (operate g constant.toBitVec fun j => (x j).toBitVec) r)
        (Places.turn^[steps.length] q)
  | [], _, _, _, _, _, h => h
  | (k, shift) :: steps, s, r, q, hsteps, hq, h => by
    have hshift := hsteps (k, shift) List.mem_cons_self
    exact Reads.steps hf steps (fun p hp => hsteps p (List.mem_cons_of_mem _ hp)) hq.turn
      (h.step constant x hf hq k hshift.1 hshift.2)

end Rounds

theorem toBitVec_leUint32 (block : Bytes) (i : ℕ) : (leUint32 block (4 * i)).toBitVec = word block i := by
  rw [leUint32, word, UInt32.toBitVec_ofNat', leNat_eq_beNat, slice, List.drop_take, Nat.add_sub_cancel_left]

def Places.start : Places := ⟨.A, .B, .C, .D⟩

/-- **One round.** -/
theorem Reads.round {f : UInt32 → UInt32 → UInt32 → UInt32} {g : Word → Word → Word → Word}
    {constant : UInt32} {order : List ℕ} {shifts : List UInt32} {ops : List Operation} {s : MD4State}
    {r : Registers} (hf : ∀ u v w, (f u v w).toBitVec = g u.toBitVec v.toBitVec w.toBitVec)
    (hops : Places.start.operations (order.zip shifts) = ops)
    (hshifts : ∀ p ∈ order.zip shifts, 0 < p.2.toNat ∧ p.2.toNat < 32)
    (hturns : Places.turn^[(order.zip shifts).length] Places.start = Places.start) (block : Bytes)
    (h : Reads s r Places.start) :
    Reads (md4Round (md4Step f constant) block order shifts s)
      (ops.foldl (operate g constant.toBitVec (word block)) r) Places.start := by
  have hround := Reads.steps constant (fun k => leUint32 block (4 * k)) hf
    (order.zip shifts) hshifts (by simp [Places.Nodup, Places.start]) h
  simp only [toBitVec_leUint32, hops, hturns] at hround
  exact hround

/-- **One block.** -/
theorem Reads.transform {s : MD4State} {r : Registers} (h : Reads s r Places.start) (block : Bytes) :
    Reads (md4Transform s block) (compress r (word block)) Places.start := by
  have h₁ : Reads (md4Round md4StepF block order1 shifts1 s)
      (round1.foldl (operate F 0 (word block)) r) Places.start :=
    h.round (fun _ _ _ => rfl) rfl (by decide) rfl block
  have h₂ : Reads (md4Round md4StepG block order2 shifts2 _)
      (round2.foldl (operate G 0x5a827999 (word block)) _) Places.start :=
    h₁.round (fun _ _ _ => rfl) rfl (by decide) rfl block
  have h₃ : Reads (md4Round md4StepH block order3 shifts3 _)
      (round3.foldl (operate H 0x6ed9eba1 (word block)) _) Places.start :=
    h₂.round (fun _ _ _ => rfl) rfl (by decide) rfl block
  exact ⟨congrArg₂ (· + ·) h.a h₃.a, congrArg₂ (· + ·) h.b h₃.b, congrArg₂ (· + ·) h.c h₃.c,
    congrArg₂ (· + ·) h.d h₃.d⟩

/-- **Whole blocks.** -/
theorem Reads.blocks (padded : Bytes) : ∀ (n : ℕ) {s : MD4State} {r : Registers},
    Reads s r Places.start →
    Reads ((List.range n).foldl (fun s i => md4Transform s (slice padded (i * 64) ((i + 1) * 64))) s)
      ((List.range n).foldl (fun r i => compress r fun j => word padded (16 * i + j)) r) Places.start
  | 0, _, _, h => h
  | n + 1, s, r, h => by
    simp only [List.range_succ, List.foldl_append, List.foldl_cons, List.foldl_nil]
    rw [← compress_congr (fun j hj => word_slice padded n hj)]
    exact (Reads.blocks padded n h).transform _

theorem slice_pad_of_lt {input : Bytes} {i : ℕ} (hi : i < input.length / 64) :
    slice (pad input) (i * 64) ((i + 1) * 64) = slice input (i * 64) ((i + 1) * 64) := by
  have hle : (i + 1) * 64 ≤ input.length := by omega
  rw [slice, slice, pad, List.append_assoc, List.take_append_of_le_length hle]

theorem drop_pad (input : Bytes) :
    (pad input).drop (input.length / 64 * 64) = input.drop (input.length / 64 * 64) ++
      0x80 :: List.replicate (zeros input.length) 0 ++ Rfc1320.leBytes 8 (8 * input.length) := by
  have hle : input.length / 64 * 64 ≤ input.length := Nat.div_mul_le_self _ _
  rw [pad, List.append_assoc, List.drop_append_of_le_length hle, List.append_assoc]

theorem leBytes_length (n : ℕ) : leBytes 8 (n * 8 % 2 ^ 64) = Rfc1320.leBytes 8 (8 * n) := by
  have hlow : beBytes 8 (n * 8 % 256 ^ 8) = beBytes 8 (n * 8) := by
    have hcopy := beBytes_beNat (beBytes 8 (n * 8))
    rwa [length_beBytes, beNat_beBytes] at hcopy
  rw [leBytes, show 2 ^ 64 = 256 ^ 8 by norm_num, hlow, leBytes_eq_beBytes, Nat.mul_comm]

/-- The state of the source after the last block. -/
def finalState (input : Bytes) : MD4State :=
  (List.range ((pad input).length / 64)).foldl
    (fun s i => md4Transform s (slice (pad input) (i * 64) ((i + 1) * 64)))
    ⟨0x67452301, 0xefcdab89, 0x98badcfe, 0x10325476⟩

theorem length_tail (input : Bytes) :
    (input.drop (input.length / 64 * 64)).length = input.length % 64 := by
  rw [List.length_drop]
  omega

theorem foldl_blocks (input : Bytes) (s : MD4State) :
    (List.range (input.length / 64)).foldl
        (fun s i => md4Transform s (slice (pad input) (i * 64) ((i + 1) * 64))) s =
      (List.range (input.length / 64)).foldl
        (fun s i => md4Transform s (slice input (i * 64) ((i + 1) * 64))) s :=
  List.foldl_ext _ _ _ fun s i hi => by rw [slice_pad_of_lt (List.mem_range.mp hi)]

theorem finalState_of_lt {input : Bytes} (h : input.length % 64 < 56) :
    finalState input = md4Transform
      ((List.range (input.length / 64)).foldl
        (fun s i => md4Transform s (slice input (i * 64) ((i + 1) * 64)))
        ⟨0x67452301, 0xefcdab89, 0x98badcfe, 0x10325476⟩)
      (input.drop (input.length / 64 * 64) ++ 0x80 :: List.replicate (55 - input.length % 64) 0 ++
        Rfc1320.leBytes 8 (8 * input.length)) := by
  have hzeros : zeros input.length = 55 - input.length % 64 := by unfold zeros; omega
  have hcount : (pad input).length / 64 = input.length / 64 + 1 := by
    rw [length_pad, hzeros]
    omega
  have hlast : slice (pad input) (input.length / 64 * 64) ((input.length / 64 + 1) * 64) =
      (pad input).drop (input.length / 64 * 64) := by
    rw [slice, List.take_of_length_le (by rw [length_pad, hzeros]; omega)]
  rw [finalState, hcount, List.range_succ, List.foldl_append, foldl_blocks, List.foldl_cons,
    List.foldl_nil, hlast, drop_pad, hzeros]

theorem finalState_of_ge {input : Bytes} (h : 56 ≤ input.length % 64) :
    finalState input = md4Transform (md4Transform
      ((List.range (input.length / 64)).foldl
        (fun s i => md4Transform s (slice input (i * 64) ((i + 1) * 64)))
        ⟨0x67452301, 0xefcdab89, 0x98badcfe, 0x10325476⟩)
      (input.drop (input.length / 64 * 64) ++ 0x80 :: List.replicate (63 - input.length % 64) 0))
      (List.replicate 56 0 ++ Rfc1320.leBytes 8 (8 * input.length)) := by
  have hzeros : zeros input.length = (63 - input.length % 64) + 56 := by unfold zeros; omega
  have hcount : (pad input).length / 64 = input.length / 64 + 1 + 1 := by
    rw [length_pad, hzeros]
    omega
  have hrest : (pad input).drop (input.length / 64 * 64) =
      (input.drop (input.length / 64 * 64) ++ 0x80 :: List.replicate (63 - input.length % 64) 0) ++
        (List.replicate 56 0 ++ Rfc1320.leBytes 8 (8 * input.length)) := by
    rw [drop_pad, hzeros, List.replicate_add]
    simp only [List.append_assoc, List.cons_append]
  have hfirst : (input.drop (input.length / 64 * 64) ++
      0x80 :: List.replicate (63 - input.length % 64) (0 : UInt8)).length = 64 := by
    rw [List.length_append, length_tail, List.length_cons, List.length_replicate]
    omega
  have hone : slice (pad input) (input.length / 64 * 64) ((input.length / 64 + 1) * 64) =
      input.drop (input.length / 64 * 64) ++ 0x80 :: List.replicate (63 - input.length % 64) 0 := by
    rw [slice, List.drop_take, hrest, show (input.length / 64 + 1) * 64 - input.length / 64 * 64 = 64 by
      omega, List.take_left' hfirst]
  have htwo : slice (pad input) ((input.length / 64 + 1) * 64) ((input.length / 64 + 1 + 1) * 64) =
      List.replicate 56 0 ++ Rfc1320.leBytes 8 (8 * input.length) := by
    rw [slice, List.take_of_length_le (by rw [length_pad, hzeros]; omega), Nat.succ_mul,
      ← List.drop_drop, hrest, List.drop_left' hfirst]
  rw [finalState, hcount, List.range_succ, List.foldl_append, List.range_succ, List.foldl_append,
    foldl_blocks]
  simp only [List.foldl_cons, List.foldl_nil, hone, htwo]

theorem md4_eq_finalState (input : Bytes) :
    md4 input = leBytes 4 (finalState input).a.toNat ++ leBytes 4 (finalState input).b.toNat ++
      leBytes 4 (finalState input).c.toNat ++ leBytes 4 (finalState input).d.toNat := by
  by_cases h : 56 ≤ input.length % 64
  · rw [finalState_of_ge h]
    simp only [md4, length_tail, if_pos h, leBytes_length, List.take_replicate]
    rfl
  · have hblock : (input.drop (input.length / 64 * 64) ++
        0x80 :: List.replicate (63 - input.length % 64) (0 : UInt8)).take 56 =
        input.drop (input.length / 64 * 64) ++ 0x80 :: List.replicate (55 - input.length % 64) 0 := by
      rw [show 63 - input.length % 64 = (55 - input.length % 64) + 8 by omega, List.replicate_add,
        ← List.cons_append, ← List.append_assoc]
      refine List.take_left' ?_
      rw [List.length_append, length_tail, List.length_cons, List.length_replicate]
      omega
    rw [finalState_of_lt (by omega)]
    simp only [md4, length_tail, if_neg h, leBytes_length, hblock]

/-- **The digest is the one of the standard**, for every input. -/
theorem md4_eq_digest (input : Bytes) : md4 input = digest input := by
  have hstart : Reads ⟨0x67452301, 0xefcdab89, 0x98badcfe, 0x10325476⟩ initial Places.start :=
    ⟨rfl, rfl, rfl, rfl⟩
  have hend : Reads (finalState input) _ Places.start := Reads.blocks (pad input) _ hstart
  rw [md4_eq_finalState, digest]
  simp only [leBytes_eq_beBytes, leBytes, ← UInt32.toNat_toBitVec, hend.a, hend.b, hend.c, hend.d,
    Places.start]

end Swan.Eap.MSCHAPv2
