import Swan.Lib.ByteString

/-! # Computations with run-time checks

A computation that reads byte strings and loops over them, with the checks that a run-time system makes
(`Checked`): an index or a slice bound outside the byte string ends it without a result, and so does a
loop that goes on without having consumed anything. The iterations of its loops are counted, those that
end in an error too; which error it is does not matter here.

`Within left k c r` says that the checked computation `c` passes all its checks, that it returns what the
plain function returns (`r`) and fails where that fails, and that its iterations and the bytes that it
leaves unread (`left`) are no more than `k`: every byte pays for one iteration. The rules follow the
shape of a computation, so a checked parser is compared with the plain one clause by clause. -/

namespace Swan.Lib

variable {ε α β : Type}

/-- `none` if a check failed, and otherwise the number of loop iterations and the result, if there is
one. -/
def Checked (α : Type) : Type := Option (ℕ × Option α)

namespace Checked

def fault : Checked α := none

/-- The computation itself returns an error. -/
def fail : Checked α := some (0, none)

def bind (c : Checked α) (f : α → Checked β) : Checked β :=
  match c with
  | none => none
  | some (n, none) => some (n, none)
  | some (n, some a) => (f a).map fun r => (n + r.1, r.2)

instance : Monad Checked where
  pure a := some (0, some a)
  bind := bind

/-- A plain computation that reads no byte string. -/
def lift (r : Except ε α) : Checked α := some (0, r.toOption)

def index (b : Bytes) (i : ℕ) : Checked UInt8 := if i < b.length then pure (b.getD i 0) else fault

/-- The bytes from `i` to `j`. -/
def range (b : Bytes) (i j : ℕ) : Checked Bytes :=
  if i ≤ j ∧ j ≤ b.length then pure (slice b i j) else fault

/-- The bytes from `i` on. -/
def rangeFrom (b : Bytes) (i : ℕ) : Checked Bytes := if i ≤ b.length then pure (b.drop i) else fault

/-- A value that is read from the first `k` bytes. -/
def number (k : ℕ) (value : Bytes → β) (b : Bytes) : Checked β :=
  if k ≤ b.length then pure (value b) else fault

def uint16 (b : Bytes) : Checked UInt16 := number 2 beUint16 b

def uint32 (b : Bytes) : Checked UInt32 := number 4 beUint32 b

def uint64 (b : Bytes) : Checked UInt64 := number 8 beUint64 b

def iteration (c : Checked α) : Checked α := c.map fun r => (r.1 + 1, r.2)

/-- The next round of a loop, with `unread'` bytes unread where `unread` were before. -/
def next (unread unread' : ℕ) (c : Checked α) : Checked α := if unread' < unread then c else fault

/-! ### Agreement with a plain computation -/

def unread (left : α → ℕ) : Except ε α → ℕ
  | .ok a => left a
  | .error _ => 0

/-- All checks of `c` succeed, it returns what `r` says, and iterations and unread bytes together are at
most `k`. -/
def Within (left : α → ℕ) (k : ℕ) (c : Checked α) (r : Except ε α) : Prop :=
  ∃ n, c = some (n, r.toOption) ∧ n + unread left r ≤ k

variable {left : α → ℕ} {left' : β → ℕ} {k : ℕ} {c d : Checked α} {r s : Except ε α}

theorem within_pure {a : α} (h : left a ≤ k) : Within left k (pure a) (.ok a : Except ε α) :=
  ⟨0, rfl, by rw [Nat.zero_add]; exact h⟩

theorem within_fail (e : ε) : Within left k fail (.error e) := ⟨0, rfl, Nat.zero_le k⟩

theorem within_lift (k : ℕ) (r : Except ε α) : Within (fun _ => k) k (lift r) r := by
  refine ⟨0, rfl, ?_⟩
  cases r with
  | ok a => exact (Nat.zero_add k).le
  | error e => exact Nat.zero_le k

theorem Within.mono {l : ℕ} (h : Within left k c r) (hkl : k ≤ l) : Within left l c r := by
  obtain ⟨n, hc, hn⟩ := h
  exact ⟨n, hc, hn.trans hkl⟩

theorem Within.left_le {a : α} (h : Within left k c r) (hr : r = .ok a) : left a ≤ k := by
  obtain ⟨n, -, hn⟩ := h
  rw [hr] at hn
  exact (Nat.le_add_left (left a) n).trans hn

theorem Within.frame (m : ℕ) (h : Within left k c r) : Within (fun a => left a + m) (k + m) c r := by
  obtain ⟨n, hc, hn⟩ := h
  refine ⟨n, hc, ?_⟩
  cases r with
  | ok a => exact (Nat.add_assoc n (left a) m).symm.trans_le (Nat.add_le_add_right hn m)
  | error e => exact hn.trans (Nat.le_add_right k m)

theorem Within.bind {f : α → Checked β} {g : α → Except ε β} (h : Within left k c r)
    (hf : ∀ a, r = .ok a → Within left' (left a) (f a) (g a)) : Within left' k (c >>= f) (r >>= g) := by
  obtain ⟨n, rfl, hn⟩ := h
  cases r with
  | error e => exact ⟨n, rfl, hn⟩
  | ok a =>
    obtain ⟨m, hfa, hm⟩ := hf a rfl
    refine ⟨n + m, ?_, ?_⟩
    · show (f a).map _ = _
      rw [hfa]
      rfl
    · have hle : n + left a ≤ k := hn
      show n + m + unread left' (g a) ≤ k
      omega

theorem Within.ite {p : Prop} [Decidable p] (hp : p → Within left k c r) (hn : ¬p → Within left k d s) :
    Within left k (if p then c else d) (if p then r else s) := by
  by_cases h : p
  · rw [if_pos h, if_pos h]
    exact hp h
  · rw [if_neg h, if_neg h]
    exact hn h

theorem Within.guard {p : Prop} [Decidable p] {e : ε} (hn : ¬p → Within left k d s) :
    Within left k (if p then fail else d) (if p then .error e else s) :=
  Within.ite (fun _ => within_fail e) hn

theorem Within.guard_iff {p q : Prop} [Decidable p] [Decidable q] {e : ε} (hpq : p ↔ q)
    (hn : ¬q → Within left k d s) :
    Within left k (if p then fail else d) (if q then .error e else s) := by
  rw [if_congr hpq rfl rfl]
  exact Within.guard hn

theorem pure_bind (a : α) (f : α → Checked β) : (pure a : Checked α) >>= f = f a := by
  show (f a).map _ = f a
  cases f a with
  | none => rfl
  | some r => exact congrArg (fun n => some (n, r.2)) (Nat.zero_add r.1)

/-! ### Reads -/

section Reads

variable {b : Bytes} {q : Except ε β}

theorem Within.index {i : ℕ} {f : UInt8 → Checked β} (hi : i < b.length)
    (h : Within left' k (f (b.getD i 0)) q) : Within left' k (Checked.index b i >>= f) q := by
  rw [Checked.index, if_pos hi, pure_bind]
  exact h

theorem Within.range {i j : ℕ} {f : Bytes → Checked β} (hij : i ≤ j) (hj : j ≤ b.length)
    (h : Within left' k (f (slice b i j)) q) : Within left' k (Checked.range b i j >>= f) q := by
  rw [Checked.range, if_pos ⟨hij, hj⟩, pure_bind]
  exact h

theorem Within.rangeFrom {i : ℕ} {f : Bytes → Checked β} (hi : i ≤ b.length)
    (h : Within left' k (f (b.drop i)) q) : Within left' k (Checked.rangeFrom b i >>= f) q := by
  rw [Checked.rangeFrom, if_pos hi, pure_bind]
  exact h

theorem Within.numberAt {i j m : ℕ} {value : Bytes → α} {f : α → Checked β} (hij : i + m ≤ j)
    (hj : j ≤ b.length) (h : Within left' k (f (value (slice b i j))) q) :
    Within left' k (Checked.range b i j >>= fun s => number m value s >>= f) q := by
  refine Within.range (by omega) hj ?_
  rw [number, if_pos (by rw [length_slice]; omega), pure_bind]
  exact h

theorem Within.uint16At {i j : ℕ} {f : UInt16 → Checked β} (hij : i + 2 ≤ j) (hj : j ≤ b.length)
    (h : Within left' k (f (beUint16 (slice b i j))) q) :
    Within left' k (Checked.range b i j >>= fun s => uint16 s >>= f) q :=
  Within.numberAt hij hj h

theorem Within.uint32At {i j : ℕ} {f : UInt32 → Checked β} (hij : i + 4 ≤ j) (hj : j ≤ b.length)
    (h : Within left' k (f (beUint32 (slice b i j))) q) :
    Within left' k (Checked.range b i j >>= fun s => uint32 s >>= f) q :=
  Within.numberAt hij hj h

theorem Within.uint64At {i j : ℕ} {f : UInt64 → Checked β} (hij : i + 8 ≤ j) (hj : j ≤ b.length)
    (h : Within left' k (f (beUint64 (slice b i j))) q) :
    Within left' k (Checked.range b i j >>= fun s => uint64 s >>= f) q :=
  Within.numberAt hij hj h

end Reads

/-! ### Loops -/

theorem Within.iteration (h : Within left k c r) : Within left (k + 1) (Checked.iteration c) r := by
  obtain ⟨n, rfl, hn⟩ := h
  exact ⟨n + 1, rfl, by omega⟩

theorem Within.next {u u' : ℕ} (hu : u' < u) (h : Within left k c r) :
    Within left k (Checked.next u u' c) r := by
  rw [Checked.next, if_pos hu]
  exact h

end Checked

end Swan.Lib
