import Swan.Lib.IPText
import Swan.Payload.TrafficSelectors

/-! # Identities in a configuration

`ClassifyID` of `wire/payload/id.go` reads the text of an identity: a prefix names its kind, and without one
an address, a mail address or a domain name is told from the text. `classifyID_address` is what becomes of an
address, bare or behind its prefix. -/

namespace Swan.Payload

open Swan.Lib Swan.Lib.IPText

/-! ### White space -/

def spaces : List Bytes :=
  [[0x09], [0x0a], [0x0b], [0x0c], [0x0d], [0x20], [0xc2, 0x85], [0xc2, 0xa0], [0xe1, 0x9a, 0x80],
    [0xe2, 0x80, 0x80], [0xe2, 0x80, 0x81], [0xe2, 0x80, 0x82], [0xe2, 0x80, 0x83], [0xe2, 0x80, 0x84],
    [0xe2, 0x80, 0x85], [0xe2, 0x80, 0x86], [0xe2, 0x80, 0x87], [0xe2, 0x80, 0x88], [0xe2, 0x80, 0x89],
    [0xe2, 0x80, 0x8a], [0xe2, 0x80, 0xa8], [0xe2, 0x80, 0xa9], [0xe2, 0x80, 0xaf], [0xe2, 0x81, 0x9f],
    [0xe3, 0x80, 0x80]]

/-- Take the words of `ws` off the front, `fuel` of them at most. -/
def trimFront (ws : List Bytes) : ℕ → Bytes → Bytes
  | 0, s => s
  | fuel + 1, s =>
    match ws.find? (· <+: s) with
    | some w => trimFront ws fuel (s.drop w.length)
    | none => s

def trimSpace (s : Bytes) : Bytes :=
  (trimFront (spaces.map List.reverse) s.length (trimFront spaces s.length s).reverse).reverse

/-! ### The prefix table -/

/-- What follows the first of the prefixes that fits. -/
def trimPrefix (v : Bytes) (ps : List String) : Option Bytes :=
  ps.findSome? fun p => if ascii p <+: v then some (trimSpace (v.drop (ascii p).length)) else none

def idOf (type : UInt8) (v : Bytes) : Except Err ID :=
  if v = [] then .error (.errorf "identity value must not be empty") else .ok ⟨type, v⟩

/-- The kind of an identity without a prefix. -/
def classifyBare (value : Bytes) : Except Err ID :=
  if 0x40 ∈ value then idOf IDType.rfc822Addr value
  else match parseIP value with
    | some ip => idOf (if (to4 ip).isSome then IDType.ipv4Addr else IDType.ipv6Addr) value
    | none => idOf IDType.fqdn value

/-- An identity behind `ipv4:` or `ipv6:`, or without a prefix. -/
def classifyAddress (value : Bytes) : Except Err ID :=
  match trimPrefix value ["ipv4:"] with
  | some rest =>
    if (parseIP rest).bind to4 = none then
      .error (.errorf s!"identity {quoted value} is not a valid ipv4 address")
    else idOf IDType.ipv4Addr rest
  | none =>
  match trimPrefix value ["ipv6:"] with
  | some rest =>
    if parseIP rest = none ∨ (parseIP rest).bind to4 ≠ none then
      .error (.errorf s!"identity {quoted value} is not a valid ipv6 address")
    else idOf IDType.ipv6Addr rest
  | none => classifyBare value

/-- The identity that a text stands for. -/
def classifyID (s : Bytes) : Except Err ID :=
  let value := trimSpace s
  if value = [] then .error (.errorf "identity must not be empty") else
  match trimPrefix value ["keyid:"] with
  | some rest => idOf IDType.keyID rest
  | none =>
  match trimPrefix value ["@#"] with
  | some rest => idOf IDType.keyID rest
  | none =>
  match trimPrefix value ["#"] with
  | some rest => idOf IDType.keyID rest
  | none =>
  match trimPrefix value ["fqdn:", "dns:", "%"] with
  | some rest => idOf IDType.fqdn rest
  | none =>
  match trimPrefix value ["rfc822:", "email:", "userfqdn:", "@@"] with
  | some rest => idOf IDType.rfc822Addr rest
  | none =>
  match (if ascii "@@" <+: value then none else trimPrefix value ["@"]) with
  | some rest => idOf IDType.fqdn rest
  | none => classifyAddress value

/-! ### Addresses -/

def addressID (ip : Bytes) : ID :=
  match to4 ip with
  | some a => ⟨IDType.ipv4Addr, a⟩
  | none => ⟨IDType.ipv6Addr, ip⟩

/-- The texts of an identity that give an address: the text alone, or behind the prefix of its kind. -/
def addressTexts (t ip : Bytes) : List Bytes :=
  [t, ascii (if (to4 ip).isSome then "ipv4:" else "ipv6:") ++ t]

def isVisible (c : UInt8) : Bool := 0x21 ≤ c && c < 0x80

theorem isVisible_of_isAddressByte {c : UInt8} (h : isAddressByte c) : isVisible c := by
  simp only [isAddressByte, isHexDigit, isDigit, isVisible, dotByte, colonByte, Bool.or_eq_true,
    Bool.and_eq_true, decide_eq_true_eq, beq_iff_eq, UInt8.le_iff_toNat_le, UInt8.lt_iff_toNat_lt,
    ← UInt8.toNat_inj] at h ⊢
  simp at h ⊢
  omega

variable {s t ip : Bytes}

theorem trimFront_eq_self {ws : List Bytes} (hws : ∀ w ∈ ws, w.all isVisible = false)
    (hs : ∀ c ∈ s, isVisible c) : ∀ fuel, trimFront ws fuel s = s
  | 0 => rfl
  | fuel + 1 => by
    have hnone : ws.find? (· <+: s) = none := by
      rw [List.find?_eq_none]
      intro w hw hpre
      have hvisible : w.all isVisible = true :=
        List.all_eq_true.mpr fun c hc => hs c ((of_decide_eq_true hpre).subset hc)
      rw [hws w hw] at hvisible
      cases hvisible
    rw [trimFront, hnone]

theorem trimSpace_eq_self (hs : ∀ c ∈ s, isVisible c) : trimSpace s = s := by
  have hspaces : ∀ w ∈ spaces, w.all isVisible = false := by decide
  have hreverse : ∀ w ∈ spaces.map List.reverse, w.all isVisible = false := by decide
  rw [trimSpace, trimFront_eq_self hspaces hs, trimFront_eq_self hreverse (by simpa using hs),
    List.reverse_reverse]

theorem trimPrefix_eq_none {v : Bytes} {ps : List String} (h : ∀ p ∈ ps, ¬ ascii p <+: v) :
    trimPrefix v ps = none := by
  rw [trimPrefix, List.findSome?_eq_none_iff]
  intro p hp
  exact if_neg (h p hp)

theorem trimPrefix_append {p : String} (ht : ∀ c ∈ t, isVisible c) :
    trimPrefix (ascii p ++ t) [p] = some t := by
  simp [trimPrefix, trimSpace_eq_self ht]

def namePrefixes : List String :=
  ["keyid:", "@#", "#", "fqdn:", "dns:", "%", "rfc822:", "email:", "userfqdn:", "@@", "@"]

theorem classifyID_eq_classifyAddress (hs : ∀ c ∈ s, isVisible c) (hne : s ≠ [])
    (h : ∀ p ∈ namePrefixes, ¬ ascii p <+: s) : classifyID s = classifyAddress s := by
  have hnone (ps : List String) (hps : ∀ p ∈ ps, p ∈ namePrefixes) : trimPrefix s ps = none :=
    trimPrefix_eq_none fun p hp => h p (hps p hp)
  have h₁ := hnone ["keyid:"] (by decide)
  have h₂ := hnone ["@#"] (by decide)
  have h₃ := hnone ["#"] (by decide)
  have h₄ := hnone ["fqdn:", "dns:", "%"] (by decide)
  have h₅ := hnone ["rfc822:", "email:", "userfqdn:", "@@"] (by decide)
  have h₆ := hnone ["@"] (by decide)
  have h₇ := h "@@" (by decide)
  simp only [classifyID, trimSpace_eq_self hs, if_neg hne, h₁, h₂, h₃, h₄, h₅, if_neg h₇, h₆]

theorem classifyID_bare (h : parseIP t = some ip) :
    classifyID t = .ok ⟨(addressID ip).type, t⟩ := by
  have hbytes := (parseIP_eq_some h).1
  have hne : t ≠ [] := by
    rintro rfl
    cases h
  have hnot (p : String) (hp : (ascii p).all isAddressByte = false) : ¬ ascii p <+: t := by
    intro hpre
    have hall : (ascii p).all isAddressByte = true :=
      List.all_eq_true.mpr fun c hc => hbytes c (hpre.subset hc)
    rw [hp] at hall
    cases hall
  have hat : (0x40 : UInt8) ∉ t := fun hmem => absurd (hbytes _ hmem) (by decide)
  have hnames : ∀ p ∈ namePrefixes, (ascii p).all isAddressByte = false := by decide
  rw [classifyID_eq_classifyAddress (fun c hc => isVisible_of_isAddressByte (hbytes c hc)) hne
    fun p hp => hnot p (hnames p hp)]
  have h₄ : trimPrefix t ["ipv4:"] = none := trimPrefix_eq_none (by simpa using hnot "ipv4:" (by decide))
  have h₆ : trimPrefix t ["ipv6:"] = none := trimPrefix_eq_none (by simpa using hnot "ipv6:" (by decide))
  simp only [classifyAddress, h₄, h₆, classifyBare, if_neg hat, h, idOf, if_neg hne, addressID]
  cases to4 ip <;> rfl

theorem not_isPrefix_append {p q : Bytes} (h : ¬ q <+: p ∧ ¬ p <+: q) (rest : Bytes) : ¬ q <+: p ++ rest := by
  intro hpre
  rcases List.prefix_or_prefix_of_prefix hpre (List.prefix_append p rest) with hqp | hpq
  · exact h.1 hqp
  · exact h.2 hpq

theorem classifyID_append {p : String} (hp : p ∈ ["ipv4:", "ipv6:"]) (ht : ∀ c ∈ t, isVisible c) :
    classifyID (ascii p ++ t) = classifyAddress (ascii p ++ t) := by
  have hwords : ∀ p ∈ ["ipv4:", "ipv6:"], ascii p ≠ [] ∧ (ascii p).all isVisible ∧
      ∀ q ∈ namePrefixes, ¬ ascii q <+: ascii p ∧ ¬ ascii p <+: ascii q := by decide
  obtain ⟨hne, hvisible, hnames⟩ := hwords p hp
  refine classifyID_eq_classifyAddress (fun c hc => ?_) (by simp [hne]) fun q hq =>
    not_isPrefix_append (hnames q hq) t
  rcases List.mem_append.mp hc with hc | hc
  · exact List.all_eq_true.mp hvisible c hc
  · exact ht c hc

theorem classifyID_prefixed (h : parseIP t = some ip) :
    classifyID (ascii (if (to4 ip).isSome then "ipv4:" else "ipv6:") ++ t) =
      .ok ⟨(addressID ip).type, t⟩ := by
  have hbytes := (parseIP_eq_some h).1
  have hvisible : ∀ c ∈ t, isVisible c := fun c hc => isVisible_of_isAddressByte (hbytes c hc)
  have hne : t ≠ [] := by
    rintro rfl
    cases h
  rw [classifyID_append (by split <;> decide) hvisible]
  cases h4 : to4 ip with
  | some a => simp [classifyAddress, trimPrefix_append hvisible, h, h4, idOf, hne, addressID]
  | none =>
    have hnone : trimPrefix (ascii "ipv6:" ++ t) ["ipv4:"] = none := by
      refine trimPrefix_eq_none fun p hp => ?_
      rw [List.mem_singleton.mp hp]
      exact not_isPrefix_append (by decide) t
    simp [classifyAddress, hnone, trimPrefix_append hvisible, h, h4, idOf, hne, addressID]

/-- **The identity of an address is its text**, with the type of the address. -/
theorem classifyID_address (h : parseIP t = some ip) (hs : s ∈ addressTexts t ip) :
    classifyID s = .ok ⟨(addressID ip).type, t⟩ := by
  rcases List.mem_pair.mp hs with rfl | rfl
  · exact classifyID_bare h
  · exact classifyID_prefixed h

/-! ### The text is not the address -/

theorem length_of_parseIP (h : parseIP t = some ip) : ip.length = 16 := by
  obtain ⟨-, ⟨a, rfl, ha, -⟩ | ⟨hlen, -⟩⟩ := parseIP_eq_some h
  · rw [List.length_append, ha]
    rfl
  · exact hlen

theorem addressID_of_length (h : ip.length = 16) :
    ip.take 12 = v4InV6Prefix ∧ addressID ip = ⟨IDType.ipv4Addr, ip.drop 12⟩ ∨
      addressID ip = ⟨IDType.ipv6Addr, ip⟩ := by
  unfold addressID to4
  rw [if_neg (by omega)]
  by_cases hmapped : ip.take 12 = v4InV6Prefix
  · rw [if_pos ⟨h, hmapped⟩]
    exact .inl ⟨hmapped, rfl⟩
  · rw [if_neg fun hc => hmapped hc.2]
    exact .inr rfl

theorem length_addressID (h : parseIP t = some ip) :
    (addressID ip).type = IDType.ipv4Addr ∧ (addressID ip).data.length = 4 ∨
      (addressID ip).type = IDType.ipv6Addr ∧ (addressID ip).data.length = 16 := by
  have hlen := length_of_parseIP h
  rcases addressID_of_length hlen with ⟨-, heq⟩ | heq
  · rw [heq]
    exact .inl ⟨rfl, by simp [hlen]⟩
  · rw [heq]
    exact .inr ⟨rfl, hlen⟩

theorem ne_addressID (h : parseIP t = some ip) : t ≠ (addressID ip).data := by
  intro heq
  have hlen := length_of_parseIP h
  obtain ⟨hbytes, ⟨a, rfl, ha, hlong⟩ | ⟨-, hlong⟩⟩ := parseIP_eq_some h
  · -- four bytes are too few for a dotted text
    have htake : (mapped ++ a).take 12 = v4InV6Prefix := List.take_left' rfl
    rcases addressID_of_length hlen with ⟨-, haddr⟩ | haddr
    · rw [haddr] at heq
      have := congrArg List.length heq
      rw [List.length_drop, hlen] at this
      omega
    · rw [addressID, to4, if_neg (by omega), if_pos ⟨hlen, htake⟩] at haddr
      cases haddr
  · -- every byte of the text has two digits, so as an address it needs twice as many
    have hcount : t.countP isBig = t.length :=
      List.countP_eq_length.mpr fun c hc => isBig_of_isAddressByte (hbytes c hc)
    have hle : (addressID ip).data.countP isBig ≤ ip.countP isBig := by
      rcases addressID_of_length hlen with ⟨-, haddr⟩ | haddr
      · rw [haddr]
        exact (List.drop_sublist 12 ip).countP_le
      · rw [haddr]
    rw [← heq, hcount] at hle
    rcases length_addressID h with ⟨-, hl⟩ | ⟨-, hl⟩
    · rw [← heq] at hl
      omega
    · rw [← heq] at hl
      omega

end Swan.Payload
