import Swan.Lib.ByteString
import Swan.Lib.Effect
import Mathlib.Data.List.GetD

/-! # Slices of a byte memory

A memory gives a byte to every address; the addresses from `next` on have not been handed out. A slice is
a range of addresses, its length, and the room after it that belongs to it as well.

`grow` makes a slice longer, in place if there is room and in a new range otherwise. `Grown` says what
it does: what is written to the new bytes comes after the old contents (`Grown.bytes_write`) and reaches
no other slice that keeps clear of the room (`Grown.bytes_other`). -/

namespace Swan.Lib

/-! ### Memory -/

structure Heap where
  byte : ℕ → UInt8
  /-- The first address that has not been handed out. -/
  next : ℕ

namespace Heap

/-- The `n` bytes from an address on. -/
def read (h : Heap) (start n : ℕ) : Bytes := (List.range n).map fun i => h.byte (start + i)

def write (h : Heap) (start : ℕ) (b : Bytes) : Heap :=
  { h with byte := fun a => if start ≤ a then b.getD (a - start) (h.byte a) else h.byte a }

@[simp] theorem length_read (h : Heap) (start n : ℕ) : (h.read start n).length = n := by
  simp [read]

@[simp] theorem next_write (h : Heap) (start : ℕ) (b : Bytes) : (h.write start b).next = h.next := rfl

theorem read_congr {h h' : Heap} {start n : ℕ} (heq : ∀ i < n, h'.byte (start + i) = h.byte (start + i)) :
    h'.read start n = h.read start n :=
  List.map_congr_left fun i hi => heq i (List.mem_range.mp hi)

theorem read_add (h : Heap) (start m n : ℕ) :
    h.read start (m + n) = h.read start m ++ h.read (start + m) n := by
  simp only [read, List.range_add, List.map_append, List.map_map]
  refine congrArg _ (List.map_congr_left fun i _ => ?_)
  simp [Nat.add_assoc]

theorem byte_write_of_outside {h : Heap} {start a : ℕ} {b : Bytes}
    (hout : a < start ∨ start + b.length ≤ a) : (h.write start b).byte a = h.byte a := by
  change (if start ≤ a then b.getD (a - start) (h.byte a) else h.byte a) = h.byte a
  by_cases hle : start ≤ a
  · have hlen : b.length ≤ a - start := by omega
    rw [if_pos hle, List.getD_eq_default _ _ hlen]
  · rw [if_neg hle]

theorem read_write_self (h : Heap) (start : ℕ) (b : Bytes) :
    (h.write start b).read start b.length = b := by
  refine List.ext_getElem (by simp) fun i hi hi' => ?_
  have hle : start ≤ start + i := Nat.le_add_right _ _
  simp only [read, write, List.getElem_map, List.getElem_range, if_pos hle, Nat.add_sub_cancel_left]
  exact List.getD_eq_getElem _ _ hi'

theorem write_append (h : Heap) (start : ℕ) (a b : Bytes) :
    (h.write start a).write (start + a.length) b = h.write start (a ++ b) := by
  refine congrArg (Heap.mk · h.next) (funext fun x => ?_)
  by_cases hb : start + a.length ≤ x
  · have hle : start ≤ x := by omega
    have hlen : a.length ≤ x - start := by omega
    simp only [write, if_pos hb, if_pos hle, List.getD_eq_default _ _ hlen,
      List.getD_append_right _ _ _ _ hlen, Nat.sub_sub]
  · by_cases hle : start ≤ x
    · simp only [write, if_neg hb, if_pos hle, List.getD_append _ _ _ _ (show x - start < a.length by omega)]
    · simp only [write, if_neg hb, if_neg hle]

end Heap

/-! ### Slices -/

structure Slice where
  start : ℕ
  len : ℕ
  cap : ℕ
  len_le : len ≤ cap

namespace Slice

def bytes (s : Slice) (h : Heap) : Bytes := h.read s.start s.len

def Live (s : Slice) (h : Heap) : Prop := s.start + s.cap ≤ h.next

/-- The contents of `s` keep clear of the room after `dst`. -/
def Clear (s dst : Slice) : Prop :=
  ∀ i < s.len, ∀ j, dst.len ≤ j → j < dst.cap → s.start + i ≠ dst.start + j

/-- The first `n` bytes. -/
def upTo (s : Slice) (n : ℕ) (hn : n ≤ s.len) : Slice := ⟨s.start, n, s.cap, hn.trans s.len_le⟩

/-- The bytes from `n` on. -/
def since (s : Slice) (n : ℕ) : Slice := ⟨s.start + n, s.len - n, s.cap - n, Nat.sub_le_sub_right s.len_le n⟩

theorem bytes_upTo (s : Slice) (h : Heap) {n : ℕ} (hn : n ≤ s.len) :
    (s.upTo n hn).bytes h = (s.bytes h).take n := by
  rw [bytes, bytes, upTo, Heap.read, Heap.read, ← List.map_take, List.take_range, min_eq_left hn]

theorem bytes_since (s : Slice) (h : Heap) {n : ℕ} (hn : n ≤ s.len) :
    (s.since n).bytes h = (s.bytes h).drop n := by
  have hsplit := h.read_add s.start n (s.len - n)
  rw [Nat.add_sub_cancel' hn] at hsplit
  rw [bytes, bytes, hsplit, List.drop_left' (h.length_read _ _)]
  rfl

@[simp] theorem length_bytes (s : Slice) (h : Heap) : (s.bytes h).length = s.len := Heap.length_read _ _ _

end Slice

def load (s : Slice) : Eff Heap Bytes := do
  let h ← Eff.get
  pure (s.bytes h)

def store (s : Slice) (b : Bytes) : Eff Heap Unit := Eff.modify fun h => h.write s.start b

theorem run_load_bind {α : Type} (s : Slice) (f : Bytes → Eff Heap α) (h : Heap) :
    (load s >>= f).run h = (f (s.bytes h)).run h :=
  Eff.run_bind_of_ok rfl

theorem run_store_bind {α : Type} (s : Slice) (b : Bytes) (f : Unit → Eff Heap α) (h : Heap) :
    (store s b >>= f).run h = (f ()).run (h.write s.start b) :=
  Eff.run_bind_of_ok rfl

/-- A new slice of `n` zeros. -/
def make (n : ℕ) : Eff Heap Slice := do
  let h ← Eff.get
  Eff.modify fun h => { h.write h.next (List.replicate n 0) with next := h.next + n }
  pure ⟨h.next, n, n, le_rfl⟩

/-- A slice that is longer by `n` bytes, with the same bytes before them. -/
def grow (dst : Slice) (n : ℕ) : Eff Heap Slice :=
  if hroom : dst.len + n ≤ dst.cap then pure ⟨dst.start, dst.len + n, dst.cap, hroom⟩ else do
  let out ← make (dst.len + n)
  let b ← load dst
  store out b
  pure out

/-- What growing `dst` by `n` bytes gives. -/
structure Grown (h : Heap) (dst : Slice) (n : ℕ) (out : Slice) (h' : Heap) : Prop where
  len : out.len = dst.len + n
  contents : h'.read out.start dst.len = dst.bytes h
  live : out.Live h'
  next_le : h.next ≤ h'.next
  /-- Nothing that was handed out before has changed. -/
  same : ∀ a < h.next, h'.byte a = h.byte a
  /-- The new bytes are in the room of `dst` or in a new range. -/
  place : (out.start = dst.start ∧ dst.len + n ≤ dst.cap) ∨ h.next ≤ out.start

theorem grown_grow (dst : Slice) (n : ℕ) {h : Heap} (hlive : dst.Live h) :
    ∃ out h', (grow dst n).run h = (.ok out, h') ∧ Grown h dst n out h' := by
  unfold grow
  by_cases hroom : dst.len + n ≤ dst.cap
  · rw [dif_pos hroom]
    exact ⟨_, h, rfl, rfl, rfl, hlive, le_rfl, fun _ _ => rfl, .inl ⟨rfl, hroom⟩⟩
  · rw [dif_neg hroom]
    set h₁ : Heap := { h.write h.next (List.replicate (dst.len + n) 0) with next := h.next + (dst.len + n) }
      with hh₁
    have hsame : ∀ a < h.next, h₁.byte a = h.byte a := fun a ha => Heap.byte_write_of_outside (.inl ha)
    have hread : dst.bytes h₁ = dst.bytes h := by
      have hle := dst.len_le
      have hl : dst.start + dst.cap ≤ h.next := hlive
      exact Heap.read_congr fun i hi => hsame _ (by omega)
    refine ⟨⟨h.next, dst.len + n, dst.len + n, le_rfl⟩, h₁.write h.next (dst.bytes h), ?_, rfl, ?_,
      le_rfl, Nat.le_add_right _ _, ?_, .inr le_rfl⟩
    · rw [← hread]
      rfl
    · have hself := h₁.read_write_self h.next (dst.bytes h)
      rwa [Slice.length_bytes] at hself
    · intro a ha
      rw [Heap.byte_write_of_outside (.inl ha), hsame a ha]

namespace Grown

variable {h h' : Heap} {dst out s : Slice} {n : ℕ}

theorem bytes_write (hg : Grown h dst n out h') {b : Bytes} (hb : b.length = n) :
    out.bytes (h'.write (out.start + dst.len) b) = dst.bytes h ++ b := by
  have hold : (h'.write (out.start + dst.len) b).read out.start dst.len = h'.read out.start dst.len :=
    Heap.read_congr fun i hi => Heap.byte_write_of_outside (.inl (by omega))
  rw [Slice.bytes, hg.len, Heap.read_add, hold, hg.contents, ← hb, Heap.read_write_self]

theorem bytes_other (hg : Grown h dst n out h') (hlive : s.Live h) (hclear : s.Clear dst) {b : Bytes}
    (hb : b.length ≤ n) : s.bytes (h'.write (out.start + dst.len) b) = s.bytes h := by
  have hle := s.len_le
  have hl : s.start + s.cap ≤ h.next := hlive
  refine Heap.read_congr fun i hi => ?_
  have hbefore : s.start + i < h.next := by omega
  rw [Heap.byte_write_of_outside ?_, hg.same _ hbefore]
  -- an address in the new bytes would be in the room of `dst`
  by_contra hin
  rw [not_or, not_lt, not_le] at hin
  obtain ⟨hfrom, hto⟩ := hin
  rcases hg.place with ⟨hstart, hroom⟩ | hnew
  · refine hclear i hi (s.start + i - dst.start) ?_ ?_ ?_ <;> omega
  · omega

theorem bytes_same (hg : Grown h dst n out h') (hlive : s.Live h) : s.bytes h' = s.bytes h := by
  have hle := s.len_le
  have hl : s.start + s.cap ≤ h.next := hlive
  exact Heap.read_congr fun i hi => hg.same _ (by omega)

end Grown

end Swan.Lib
