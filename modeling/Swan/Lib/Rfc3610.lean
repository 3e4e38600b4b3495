import Swan.Lib.ByteString
import Swan.Lib.Reassembly

/-! # Counter mode with CBC-MAC as RFC 3610 states it

The mode is given by a block function, the number `M` of bytes of the authentication field and the number
`L` of bytes of the length field; the nonce has `15 - L` bytes. The authentication field is the CBC-MAC
over a first block that holds flags, nonce and length, the blocks of the additional data and those of
the message, masked with the first block of the key stream; the message is masked with the others. -/

namespace Swan.Lib.Rfc3610

def xor (a b : Bytes) : Bytes := List.zipWith (· ^^^ ·) a b

/-! ### Blocks -/

/-- Zeros up to a whole number of blocks. -/
def zeroPad (b : Bytes) : Bytes := b ++ List.replicate ((16 - b.length % 16) % 16) 0

def blocks (b : Bytes) : List Bytes := chunks 16 (zeroPad b)

theorem zeroPad_of_whole {b : Bytes} (h : b.length % 16 = 0) : zeroPad b = b := by
  simp [zeroPad, h]

theorem length_zeroPad_mod (b : Bytes) : (zeroPad b).length % 16 = 0 := by
  rw [zeroPad, List.length_append, List.length_replicate]
  omega

theorem blocks_zeroPad (b : Bytes) : blocks (zeroPad b) = blocks b := by
  rw [blocks, blocks, zeroPad_of_whole (length_zeroPad_mod b)]

theorem chunkCount_zeroPad (b : Bytes) : chunkCount 16 (zeroPad b).length = chunkCount 16 b.length := by
  rw [zeroPad, List.length_append, List.length_replicate, chunkCount, chunkCount]
  omega

theorem chunk_zeroPad {b : Bytes} {i : ℕ} (h : i < chunkCount 16 b.length) :
    chunk 16 (zeroPad b) i = chunk 16 b i ++ List.replicate (16 - (chunk 16 b i).length) 0 := by
  have hlt := mul_lt_of_lt_chunkCount h
  have hfull : i * 16 + 16 - i * 16 = 16 := by omega
  have hzeros : min (16 - (b.length - i * 16)) ((16 - b.length % 16) % 16) =
      16 - min 16 (b.length - i * 16) := by omega
  rw [chunk, chunk, List.drop_take, List.drop_take, hfull, zeroPad, List.drop_append_of_le_length hlt.le,
    List.take_append, List.take_replicate, List.length_take, List.length_drop, hzeros]

theorem blocks_eq_map_chunks (b : Bytes) :
    blocks b = (chunks 16 b).map fun c => c ++ List.replicate (16 - c.length) 0 := by
  rw [blocks, chunks, chunkCount_zeroPad, chunks, List.map_map]
  exact List.map_congr_left fun i hi => chunk_zeroPad (List.mem_range.mp hi)

/-! ### Counters -/

theorem beNat_append (a b : Bytes) : beNat (a ++ b) = beNat a * 256 ^ b.length + beNat b := by
  induction b using List.reverseRecOn with
  | nil => simp [beNat]
  | append_singleton b x ih =>
    rw [← List.append_assoc, beNat_append_singleton, ih, beNat_append_singleton, List.length_append,
      List.length_singleton, pow_succ]
    ring

theorem beNat_replicate_zero (k : ℕ) : beNat (List.replicate k 0) = 0 := by
  induction k with
  | zero => rfl
  | succ k ih => rw [List.replicate_succ', beNat_append_singleton, ih]; rfl

theorem beBytes_counter (a : Bytes) {k i : ℕ} (h : i < 256 ^ k) :
    beBytes (a.length + k) (beNat (a ++ List.replicate k 0) + i) = a ++ beBytes k i := by
  have hsum : beNat (a ++ List.replicate k 0) + i = beNat (a ++ beBytes k i) := by
    rw [beNat_append, beNat_append, beNat_replicate_zero, beNat_beBytes, Nat.mod_eq_of_lt h,
      List.length_replicate, length_beBytes, Nat.add_zero]
  have hlen : a.length + k = (a ++ beBytes k i).length := by rw [List.length_append, length_beBytes]
  rw [hsum, hlen, beBytes_beNat]

/-! ### Authentication -/

section

variable (E : Bytes → Bytes) (M L : ℕ) (nonce aad msg : Bytes)

/-- The flags of the first block: whether there are additional data, the encoded `M`, the encoded
`L`. -/
def flags : UInt8 := UInt8.ofNat (64 * (if aad = [] then 0 else 1) + 8 * ((M - 2) / 2) + (L - 1))

def B₀ : Bytes := flags M L aad :: nonce ++ beBytes L msg.length

def encodeLength (n : ℕ) : Bytes :=
  if n < 2 ^ 16 - 2 ^ 8 then beBytes 2 n
  else if n < 2 ^ 32 then [0xff, 0xfe] ++ beBytes 4 n
  else [0xff, 0xff] ++ beBytes 8 n

def aadBlocks : List Bytes := if aad = [] then [] else blocks (encodeLength aad.length ++ aad)

/-- The state of the CBC-MAC after some more blocks. -/
def cbcMAC (x : Bytes) (bs : List Bytes) : Bytes := bs.foldl (fun x b => E (xor x b)) x

def T : Bytes := (cbcMAC E (E (B₀ M L nonce aad msg)) (aadBlocks aad ++ blocks msg)).take M

/-! ### Encryption -/

/-- The counter block with number `i`. -/
def A (i : ℕ) : Bytes := UInt8.ofNat (L - 1) :: nonce ++ beBytes L i

/-- The block of the key stream with number `i`. -/
def S (i : ℕ) : Bytes := E (A L nonce i)

/-- The blocks `1` to `n` of the key stream. -/
def keyStream (n : ℕ) : Bytes := ((List.range n).map fun i => S E L nonce (i + 1)).flatten

/-- The encrypted message and the encrypted authentication value. -/
def encrypt : Bytes :=
  xor msg (keyStream E L nonce (chunkCount 16 msg.length)) ++
    xor (T E M L nonce aad msg) ((S E L nonce 0).take M)

end

end Swan.Lib.Rfc3610
