import Swan.Lib.ByteString

/-! # Text in byte strings

Go reads a byte string as text by decoding runes one after the other; a byte that starts no valid
sequence counts as the replacement rune, one byte wide. `runes` is this reading, each rune with its
bytes. `valid` says that no byte was replaced, `fields` splits the text at white space, and `utf16`
encodes runes as 16-bit units. -/

namespace Swan.Lib.Utf8

/-- The rune that stands for an invalid byte. -/
def runeError : ℕ := 0xFFFD

/-- The length of the sequence that a byte starts, and the range of its second byte. -/
def acceptRange (b : UInt8) : Option (ℕ × UInt8 × UInt8) :=
  if 0xC2 ≤ b ∧ b ≤ 0xDF then some (2, 0x80, 0xBF)
  else if b = 0xE0 then some (3, 0xA0, 0xBF)
  else if b = 0xED then some (3, 0x80, 0x9F)
  else if 0xE1 ≤ b ∧ b ≤ 0xEF then some (3, 0x80, 0xBF)
  else if b = 0xF0 then some (4, 0x90, 0xBF)
  else if b = 0xF4 then some (4, 0x80, 0x8F)
  else if 0xF1 ≤ b ∧ b ≤ 0xF3 then some (4, 0x80, 0xBF)
  else none

def isContinuation (b : UInt8) : Bool := 0x80 ≤ b ∧ b ≤ 0xBF

/-- The low six bits of a continuation byte. -/
def payloadBits (b : UInt8) : ℕ := b.toNat % 64

/-- The first rune of a byte string and its width. -/
def decodeRune : Bytes → ℕ × ℕ
  | [] => (runeError, 0)
  | b :: rest =>
    if b < 0x80 then (b.toNat, 1)
    else
      match acceptRange b, rest with
      | some (2, lo, hi), b₁ :: _ =>
        if lo ≤ b₁ ∧ b₁ ≤ hi then (b.toNat % 32 * 64 + payloadBits b₁, 2) else (runeError, 1)
      | some (3, lo, hi), b₁ :: b₂ :: _ =>
        if (lo ≤ b₁ ∧ b₁ ≤ hi) ∧ isContinuation b₂ then
          ((b.toNat % 16 * 64 + payloadBits b₁) * 64 + payloadBits b₂, 3)
        else (runeError, 1)
      | some (4, lo, hi), b₁ :: b₂ :: b₃ :: _ =>
        if (lo ≤ b₁ ∧ b₁ ≤ hi) ∧ isContinuation b₂ ∧ isContinuation b₃ then
          (((b.toNat % 8 * 64 + payloadBits b₁) * 64 + payloadBits b₂) * 64 + payloadBits b₃, 4)
        else (runeError, 1)
      | _, _ => (runeError, 1)

/-- The runes of a byte string, at most `n` of them, each with its bytes. -/
def runesUpTo : ℕ → Bytes → List (ℕ × Bytes)
  | 0, _ => []
  | _ + 1, [] => []
  | n + 1, b =>
    let (r, width) := decodeRune b
    (r, b.take width) :: runesUpTo n (b.drop width)

def runes (b : Bytes) : List (ℕ × Bytes) := runesUpTo b.length b

def valid (b : Bytes) : Bool := (runes b).all fun (r, bytes) => r ≠ runeError || bytes.length ≠ 1

def isSpace (r : ℕ) : Bool :=
  (9 ≤ r ∧ r ≤ 13) ∨ r = 0x20 ∨ r = 0x85 ∨ r = 0xA0 ∨ r = 0x1680 ∨ (0x2000 ≤ r ∧ r ≤ 0x200A) ∨
    r = 0x2028 ∨ r = 0x2029 ∨ r = 0x202F ∨ r = 0x205F ∨ r = 0x3000

/-- The parts of a text between white space. -/
def fields (b : Bytes) : List Bytes :=
  (((runes b).splitOnP fun (r, _) => isSpace r).filter fun part => !part.isEmpty).map fun part =>
    part.flatMap Prod.snd

def utf16Unit (r : ℕ) : List ℕ :=
  if r < 0xD800 ∨ (0xE000 ≤ r ∧ r < 0x10000) then [r]
  else if 0x10000 ≤ r ∧ r ≤ 0x10FFFF then
    [0xD800 + (r - 0x10000) / 1024, 0xDC00 + (r - 0x10000) % 1024]
  else [runeError]

def utf16 (b : Bytes) : List ℕ := (runes b).flatMap fun (r, _) => utf16Unit r

end Swan.Lib.Utf8
