import Mathlib.Data.List.TakeWhile
import Mathlib.Tactic
import Swan.Lib.ByteString

/-! # IP addresses as text

The textual forms of IP addresses: dotted decimal, and groups of hexadecimal digits with `::` for the
groups of zeros that are left out and possibly a dotted address at the end. `parseIP` returns the 16 bytes
of an address, with an IPv4 address in the last four of them.

A text is long: a byte of the address that has two hexadecimal digits takes two bytes of the text.
`parseIP_eq_some` says so for whole addresses, and so no text consists of the bytes of its own address. -/

namespace Swan.Lib.IPText

def dotByte : UInt8 := 0x2e
def colonByte : UInt8 := 0x3a
def percentByte : UInt8 := 0x25

def isDigit (c : UInt8) : Bool := 0x30 ≤ c && c ≤ 0x39

def isHexDigit (c : UInt8) : Bool := isDigit c || (0x61 ≤ c && c ≤ 0x66) || (0x41 ≤ c && c ≤ 0x46)

def hexDigit (c : UInt8) : ℕ :=
  if isDigit c then c.toNat - 0x30 else if 0x61 ≤ c then c.toNat - 0x61 + 10 else c.toNat - 0x41 + 10

def decimalValue (s : Bytes) : ℕ := s.foldl (fun v c => v * 10 + (c.toNat - 0x30)) 0

def hexValue (s : Bytes) : ℕ := s.foldl (fun v c => v * 16 + hexDigit c) 0

/-! ### Parsing -/

/-- A number below 256, without leading zeros. -/
def parseOctet (s : Bytes) : Option UInt8 :=
  if s ≠ [] ∧ s.all isDigit ∧ (s.length = 1 ∨ s.head? ≠ some 0x30) ∧ decimalValue s ≤ 255 then
    some (UInt8.ofNat (decimalValue s))
  else none

def parseIPv4 (s : Bytes) : Option Bytes :=
  match s.splitOn dotByte with
  | [a, b, c, d] =>
    match parseOctet a, parseOctet b, parseOctet c, parseOctet d with
    | some w, some x, some y, some z => some [w, x, y, z]
    | _, _, _, _ => none
  | _ => none

def groupBytes (digits : Bytes) : Bytes :=
  [UInt8.ofNat (hexValue digits / 256), UInt8.ofNat (hexValue digits % 256)]

/-- The groups of an IPv6 address, with room for `room` more behind the bytes `ip`; `gap` is where `::` stood
among the bytes. -/
def parseGroups : ℕ → Bytes → Option ℕ → Bytes → Option (Bytes × Option ℕ)
  | 0, ip, gap, s => if s = [] then some (ip, gap) else none
  | room + 1, ip, gap, s =>
    let digits := s.takeWhile isHexDigit
    if digits = [] ∨ 4 < digits.length then none else
    match s.dropWhile isHexDigit with
    | [] => some (ip ++ groupBytes digits, gap)
    | c :: more =>
      if c = dotByte then
        -- a dotted address stands for the last two groups
        if gap = none ∧ ip.length ≠ 12 ∨ 12 < ip.length then none
        else (parseIPv4 s).map fun a => (ip ++ a, gap)
      else if c ≠ colonByte then none
      else match more with
        | [] => none
        | d :: rest =>
          if d ≠ colonByte then parseGroups room (ip ++ groupBytes digits) gap (d :: rest)
          else if gap.isSome then none
          else if rest = [] then some (ip ++ groupBytes digits, some (ip.length + 2))
          else parseGroups room (ip ++ groupBytes digits) (some (ip.length + 2)) rest

/-- Put zeros into the gap; it stands for one group at least. -/
def fillGap (ip : Bytes) (gap : Option ℕ) : Option Bytes :=
  if ip.length < 16 then
    gap.map fun e => ip.take e ++ List.replicate (16 - ip.length) 0 ++ ip.drop e
  else if gap = none then some ip else none

def parseIPv6 (s : Bytes) : Option Bytes :=
  if s.take 2 = [colonByte, colonByte] then
    if s.drop 2 = [] then some (List.replicate 16 0)
    else (parseGroups 8 [] (some 0) (s.drop 2)).bind fun r => fillGap r.1 r.2
  else (parseGroups 8 [] none s).bind fun r => fillGap r.1 r.2

/-- What stands before the bytes of an IPv4 address. -/
def mapped : Bytes := List.replicate 10 0 ++ [0xff, 0xff]

def parseIP (s : Bytes) : Option Bytes :=
  match s.find? fun c => c = dotByte ∨ c = colonByte ∨ c = percentByte with
  | none => none
  | some c =>
    if c = dotByte then (parseIPv4 s).map fun a => mapped ++ a
    else if c = colonByte then parseIPv6 s
    else none

/-! ### The bytes of a text -/

def isAddressByte (c : UInt8) : Bool := isHexDigit c || c == dotByte || c == colonByte

/-- A byte with a first hexadecimal digit other than zero. -/
def isBig (c : UInt8) : Bool := 16 ≤ c

theorem isBig_of_isAddressByte {c : UInt8} (h : isAddressByte c) : isBig c := by
  simp only [isAddressByte, isHexDigit, isDigit, isBig, dotByte, colonByte, Bool.or_eq_true, Bool.and_eq_true,
    decide_eq_true_eq, beq_iff_eq, UInt8.le_iff_toNat_le, ← UInt8.toNat_inj] at h ⊢
  simp at h ⊢
  omega

theorem isAddressByte_of_isHexDigit {c : UInt8} (h : isHexDigit c) : isAddressByte c := by
  simp [isAddressByte, h]

theorem isAddressByte_of_isDigit {c : UInt8} (h : isDigit c) : isAddressByte c := by
  simp [isAddressByte, isHexDigit, h]

theorem hexDigit_lt {c : UInt8} (h : isHexDigit c) : hexDigit c < 16 := by
  unfold hexDigit
  simp only [isHexDigit, isDigit, Bool.or_eq_true, Bool.and_eq_true, decide_eq_true_eq,
    UInt8.le_iff_toNat_le] at h ⊢
  simp at h ⊢
  split_ifs <;> omega

theorem hexValue_lt {s : Bytes} (h : ∀ c ∈ s, isHexDigit c) : hexValue s < 16 ^ s.length := by
  induction s using List.reverseRecOn with
  | nil => simp [hexValue]
  | append_singleton s c ih =>
    have hs := ih fun x hx => h x (by simp [hx])
    have hc := hexDigit_lt (h c (by simp))
    have hval : hexValue (s ++ [c]) = hexValue s * 16 + hexDigit c := by simp [hexValue]
    rw [hval, List.length_append, List.length_singleton, pow_succ]
    omega

theorem two_mul_count_groupBytes_le {digits : Bytes} (h : ∀ c ∈ digits, isHexDigit c)
    (hne : digits ≠ []) :
    2 * (groupBytes digits).countP isBig ≤ digits.length := by
  have hlt := hexValue_lt h
  have hpos := List.length_pos_iff.mpr hne
  have hhigh : isBig (UInt8.ofNat (hexValue digits / 256)) → 4 ≤ digits.length := by
    intro hbig
    by_contra hlen
    have hle : 16 ^ digits.length ≤ 16 ^ 3 := Nat.pow_le_pow_right (by omega) (by omega)
    have hbig' : 16 ≤ hexValue digits / 256 % 256 := by
      simpa [isBig, UInt8.le_iff_toNat_le] using hbig
    omega
  have hlow : isBig (UInt8.ofNat (hexValue digits % 256)) → 2 ≤ digits.length := by
    intro hbig
    by_contra hlen
    have hle : 16 ^ digits.length ≤ 16 ^ 1 := Nat.pow_le_pow_right (by omega) (by omega)
    have hbig' : 16 ≤ hexValue digits % 256 % 256 := by
      simpa [isBig, UInt8.le_iff_toNat_le] using hbig
    omega
  rw [groupBytes, List.countP_cons, List.countP_cons, List.countP_nil]
  split_ifs with h₁ h₂ h₂
  · have := hlow h₁
    have := hhigh h₂
    omega
  · have := hlow h₁
    omega
  · have := hhigh h₂
    omega
  · omega

theorem parseOctet_eq_some {s : Bytes} {v : UInt8} (h : parseOctet s = some v) :
    1 ≤ s.length ∧ ∀ c ∈ s, isAddressByte c := by
  unfold parseOctet at h
  split at h
  · rename_i hs
    exact ⟨List.length_pos_iff.mpr hs.1, fun c hc =>
      isAddressByte_of_isDigit (List.all_eq_true.mp hs.2.1 c hc)⟩
  · cases h

theorem parseIPv4_eq_some {s a : Bytes} (h : parseIPv4 s = some a) :
    a.length = 4 ∧ 7 ≤ s.length ∧ ∀ c ∈ s, isAddressByte c := by
  unfold parseIPv4 at h
  split at h
  · rename_i f₁ f₂ f₃ f₄ hsplit
    split at h
    · rename_i w x y z h₁ h₂ h₃ h₄
      obtain ⟨hl₁, ha₁⟩ := parseOctet_eq_some h₁
      obtain ⟨hl₂, ha₂⟩ := parseOctet_eq_some h₂
      obtain ⟨hl₃, ha₃⟩ := parseOctet_eq_some h₃
      obtain ⟨hl₄, ha₄⟩ := parseOctet_eq_some h₄
      have hs : f₁ ++ dotByte :: (f₂ ++ dotByte :: (f₃ ++ dotByte :: f₄)) = s := by
        rw [← @List.intercalate_splitOn _ s _ _ dotByte, hsplit]
        simp [List.intercalate]
      have hdot : isAddressByte dotByte := by decide
      cases h
      subst hs
      refine ⟨rfl, ?_, ?_⟩
      · simp only [List.length_append, List.length_cons]
        omega
      · intro c hc
        simp only [List.mem_append, List.mem_cons] at hc
        rcases hc with hc | rfl | hc | rfl | hc | rfl | hc
        · exact ha₁ c hc
        · exact hdot
        · exact ha₂ c hc
        · exact hdot
        · exact ha₃ c hc
        · exact hdot
        · exact ha₄ c hc
    · cases h
  · cases h

/-- What the text `s` of the bytes `new` is: it has two bytes for each big one. -/
structure Spells (s new : Bytes) : Prop where
  bytes : ∀ c ∈ s, isAddressByte c
  long : 2 * new.countP isBig ≤ s.length + 1

theorem spells_group {digits s new : Bytes} (mid : Bytes) (hhex : ∀ c ∈ digits, isHexDigit c)
    (hne : digits ≠ []) (hmid : ∀ c ∈ mid, isAddressByte c) (hs : Spells s new) :
    Spells (digits ++ (mid ++ s)) (groupBytes digits ++ new) where
  bytes c hc := by
    simp only [List.mem_append] at hc
    rcases hc with hc | hc | hc
    · exact isAddressByte_of_isHexDigit (hhex c hc)
    · exact hmid c hc
    · exact hs.bytes c hc
  long := by
    have hgroup := two_mul_count_groupBytes_le hhex hne
    have hrest := hs.long
    simp only [List.countP_append, List.length_append]
    omega

theorem spells_nil : Spells [] [] := ⟨by simp, by simp⟩

theorem parseGroups_eq_some {room : ℕ} : ∀ {ip s ip' : Bytes} {gap gap' : Option ℕ},
    parseGroups room ip gap s = some (ip', gap') →
    ∃ new, ip' = ip ++ new ∧ Spells s new ∧ (ip.length + 2 * room ≤ 16 → ip'.length ≤ 16) := by
  induction room with
  | zero =>
    intro ip s ip' gap gap' h
    unfold parseGroups at h
    split at h
    · rename_i hs
      cases h
      exact ⟨[], by simp, hs ▸ spells_nil, by simp⟩
    · cases h
  | succ room ih =>
    intro ip s ip' gap gap' h
    have hs : s.takeWhile isHexDigit ++ s.dropWhile isHexDigit = s := List.takeWhile_append_dropWhile
    have hhex : ∀ c ∈ s.takeWhile isHexDigit, isHexDigit c := fun c hc => List.mem_takeWhile_imp hc
    have hcolon : isAddressByte colonByte := by decide
    unfold parseGroups at h
    dsimp only at h
    generalize s.takeWhile isHexDigit = digits at h hs hhex
    split at h
    · cases h
    · rename_i hdigits
      have hne : digits ≠ [] := fun h => hdigits (.inl h)
      have hlen (d : Bytes) : (groupBytes d).length = 2 := rfl
      split at h
      · -- the last group
        rename_i hdrop
        cases h
        rw [hdrop, List.append_nil] at hs
        subst hs
        have hspells := spells_group [] hhex hne (by simp) spells_nil
        rw [List.append_nil, List.append_nil, List.append_nil] at hspells
        refine ⟨_, rfl, hspells, ?_⟩
        rw [List.length_append, hlen]
        omega
      · rename_i c more hdrop
        split at h
        · -- a dotted address
          split at h
          · cases h
          · rename_i hroom
            obtain ⟨a, ha, heq⟩ := Option.map_eq_some_iff.mp h
            cases heq
            obtain ⟨hlen4, hlong, hbytes⟩ := parseIPv4_eq_some ha
            have hcount := List.countP_le_length (p := isBig) (l := a)
            refine ⟨a, rfl, ⟨hbytes, by omega⟩, fun _ => ?_⟩
            rw [List.length_append]
            omega
        · split at h
          · cases h
          · rename_i hc
            rw [not_not] at hc
            subst hc
            split at h
            · cases h
            · rename_i d rest
              split at h
              · -- the next group
                obtain ⟨new, rfl, hspells, hle⟩ := ih h
                have hall := spells_group [colonByte] hhex hne (by simp [hcolon]) hspells
                rw [List.singleton_append, ← hdrop, hs] at hall
                refine ⟨_, List.append_assoc _ _ _, hall, fun hroom => hle ?_⟩
                rw [List.length_append, hlen]
                omega
              · rename_i hd
                rw [not_not] at hd
                subst hd
                have hcolons : ∀ c ∈ [colonByte, colonByte], isAddressByte c := by simp [hcolon]
                split at h
                · cases h
                · split at h
                  · -- the gap is at the end
                    rename_i hrest
                    subst hrest
                    cases h
                    have hall := spells_group [colonByte, colonByte] hhex hne hcolons spells_nil
                    rw [List.append_nil, List.append_nil, ← hdrop, hs] at hall
                    refine ⟨_, rfl, hall, fun hroom => ?_⟩
                    rw [List.length_append, hlen]
                    omega
                  · obtain ⟨new, rfl, hspells, hle⟩ := ih h
                    have hall := spells_group [colonByte, colonByte] hhex hne hcolons hspells
                    rw [List.cons_append, List.singleton_append, ← hdrop, hs] at hall
                    refine ⟨_, List.append_assoc _ _ _, hall, fun hroom => hle ?_⟩
                    rw [List.length_append, hlen]
                    omega

theorem fillGap_eq_some {ip out : Bytes} {gap : Option ℕ} (hle : ip.length ≤ 16)
    (h : fillGap ip gap = some out) : out.length = 16 ∧ out.countP isBig = ip.countP isBig := by
  unfold fillGap at h
  split at h
  · obtain ⟨e, -, rfl⟩ := Option.map_eq_some_iff.mp h
    have hsplit := List.take_append_drop e ip
    have hlen := congrArg List.length hsplit
    have hcount := congrArg (List.countP isBig) hsplit
    have hzero : (List.replicate (16 - ip.length) (0 : UInt8)).countP isBig = 0 := by
      rw [List.countP_replicate]
      rfl
    simp only [List.length_append, List.countP_append, List.length_replicate] at hlen hcount ⊢
    omega
  · split at h
    · cases h
      exact ⟨by omega, rfl⟩
    · cases h

theorem parseIPv6_eq_some {s ip : Bytes} (h : parseIPv6 s = some ip) : ip.length = 16 ∧ Spells s ip := by
  have hgroups {t : Bytes} {gap : Option ℕ} {ip : Bytes}
      (h : ((parseGroups 8 [] gap t).bind fun r => fillGap r.1 r.2) = some ip) :
      ip.length = 16 ∧ Spells t ip := by
    obtain ⟨⟨front, gap'⟩, hparse, hfill⟩ := Option.bind_eq_some_iff.mp h
    obtain ⟨new, rfl, hspells, hle⟩ := parseGroups_eq_some hparse
    obtain ⟨hlen, hcount⟩ := fillGap_eq_some (hle (by simp)) hfill
    exact ⟨hlen, hspells.bytes, hcount ▸ hspells.long⟩
  have hcolon : isAddressByte colonByte := by decide
  unfold parseIPv6 at h
  split at h
  · rename_i htwo
    have hs : [colonByte, colonByte] ++ s.drop 2 = s := by rw [← htwo, List.take_append_drop]
    split at h
    · rename_i hnil
      cases h
      rw [← hs, hnil]
      exact ⟨rfl, by simpa using hcolon, by decide⟩
    · obtain ⟨hlen, hspells⟩ := hgroups h
      refine ⟨hlen, fun c hc => ?_, ?_⟩
      · rw [← hs, List.mem_append] at hc
        rcases hc with hc | hc
        · have heq : c = colonByte := by simpa using hc
          rwa [heq]
        · exact hspells.bytes c hc
      · have hlong := hspells.long
        have hdrop : (s.drop 2).length ≤ s.length := by simp
        omega
  · exact hgroups h

/-- **The text of an address is long**: an IPv4 address has seven bytes of text at least, an IPv6 address
two bytes for each byte with two digits. -/
theorem parseIP_eq_some {s ip : Bytes} (h : parseIP s = some ip) :
    (∀ c ∈ s, isAddressByte c) ∧
      ((∃ a, ip = mapped ++ a ∧ a.length = 4 ∧ 7 ≤ s.length) ∨
        ip.length = 16 ∧ 2 * ip.countP isBig ≤ s.length + 1) := by
  unfold parseIP at h
  split at h
  · cases h
  · split at h
    · obtain ⟨a, ha, rfl⟩ := Option.map_eq_some_iff.mp h
      obtain ⟨hlen, hlong, hbytes⟩ := parseIPv4_eq_some ha
      exact ⟨hbytes, .inl ⟨a, rfl, hlen, hlong⟩⟩
    · split at h
      · obtain ⟨hlen, hspells⟩ := parseIPv6_eq_some h
        exact ⟨hspells.bytes, .inr ⟨hlen, hspells.long⟩⟩
      · cases h

end Swan.Lib.IPText
