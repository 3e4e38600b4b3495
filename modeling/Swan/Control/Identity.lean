import Swan.Lib.Glob
import Swan.Xcrypto.X509
import Mathlib.Data.List.TakeWhile

/-! # Identities of the responder

`rightIDMatches` compares the identity in an IDr payload with the configured one. Domain names and mail
addresses may be patterns: `wildcardMatch` walks over pattern and value with two indices and remembers
the last `*` to come back to. A state of the walk (`Matcher`) has a meaning (`Matcher.Goal`) that one
step keeps (`Matcher.step_spec`), so the whole walk decides it (`wildcardLoop_iff`).

The walk compares bytes before it looks for a `*`, so a `*` of the pattern that meets a `*` of the value
is used up by it. `wildcardMatch_iff`: it computes the literal reading of the pattern.
`wildcard_glob_semantics`: it is the glob semantics exactly where the two readings agree;
`star_in_value_missed` is a value that a lone `*` does not match.

An address is compared by its bytes, but the configured identity has the bytes of its text.
`address_never_works`: no configured address is met by the identity of that address. -/

namespace Swan.Control

open Swan.Lib Swan.Payload

def starByte : UInt8 := 0x2a
def anyByte : UInt8 := 0x3f

def asciiLower (b : UInt8) : UInt8 := if b ≥ 0x41 ∧ b ≤ 0x5a then b + (0x61 - 0x41) else b

/-- The indices of the walk; `starPi` is the position of the last `*`, `starVi` where the bytes after it
are being tried. -/
structure Matcher where
  pi : ℕ
  vi : ℕ
  starPi : Option ℕ
  starVi : ℕ
  deriving DecidableEq, Repr

/-- One iteration of the walk; `none` if it returns false. -/
def Matcher.step (pattern value : Bytes) (m : Matcher) : Option Matcher :=
  if m.pi < pattern.length ∧
      (pattern.getD m.pi 0 = anyByte ∨ pattern.getD m.pi 0 = value.getD m.vi 0) then
    some { m with pi := m.pi + 1, vi := m.vi + 1 }
  else if m.pi < pattern.length ∧ pattern.getD m.pi 0 = starByte then
    some { m with starPi := some m.pi, pi := m.pi + 1, starVi := m.vi }
  else
    match m.starPi with
    -- back to the last star, which consumes one more byte
    | some s => some { m with pi := s + 1, starVi := m.starVi + 1, vi := m.starVi + 1 }
    | none => none

/-- The position behind the stars at `pi`. -/
def skipStars (pattern : Bytes) (pi : ℕ) : ℕ := pi + ((pattern.drop pi).takeWhile (· = starByte)).length

def wildcardLoop (pattern value : Bytes) : ℕ → Matcher → Bool
  | 0, _ => false
  | fuel + 1, m =>
    if m.vi < value.length then
      match m.step pattern value with
      | some m' => wildcardLoop pattern value fuel m'
      | none => false
    else decide (skipStars pattern m.pi = pattern.length)

/-- A pattern and a value as the walk compares them. -/
def folded (fold : Bool) (b : Bytes) : Bytes := if fold then b.map asciiLower else b

def wildcardMatch (pattern value : Bytes) (fold : Bool) : Bool :=
  wildcardLoop (folded fold pattern) (folded fold value) ((value.length + 1) * (pattern.length + 1))
    { pi := 0, vi := 0, starPi := none, starVi := 0 }

def rightIDMatches (expected received : ID) : Bool :=
  if expected.type = 0 then true
  else if expected.type ≠ received.type then false
  else if expected.type = IDType.fqdn ∨ expected.type = IDType.rfc822Addr then
    wildcardMatch expected.data received.data true
  else decide (expected.data = received.data)

/-! ### The meaning of a state -/

section Walk

variable {pattern value : Bytes} {m m' : Matcher}

abbrev LiteralBytes (p v : Bytes) : Prop := LiteralGlob starByte anyByte (· = ·) p v

/-- What the walk has to find out: without a star, whether the rest of the pattern matches the rest of
the value; otherwise whether what follows the star matches a suffix. -/
def Matcher.Goal (pattern value : Bytes) (m : Matcher) : Prop :=
  match m.starPi with
  | none => LiteralBytes (pattern.drop m.pi) (value.drop m.vi)
  | some s => Reach starByte anyByte (· = ·) (pattern.drop (s + 1)) (value.drop m.starVi)

/-- Between the star and the indices the bytes fit one by one. -/
structure Matcher.Valid (pattern value : Bytes) (m : Matcher) : Prop where
  pi_le : m.pi ≤ pattern.length
  starVi_le : m.starVi ≤ m.vi
  segment : ∀ s, m.starPi = some s → s < pattern.length ∧ ∃ seg u,
    pattern.drop (s + 1) = seg ++ pattern.drop m.pi ∧ value.drop m.starVi = u ++ value.drop m.vi ∧
    List.Forall₂ (Fits anyByte (· = ·)) seg u

def Matcher.potential (pattern value : Bytes) (m : Matcher) : ℕ :=
  (value.length - m.starVi) * (pattern.length + 1) + (pattern.length - m.pi)

theorem drop_eq_getD_cons {b : Bytes} {i : ℕ} (h : i < b.length) :
    b.drop i = b.getD i 0 :: b.drop (i + 1) := by
  rw [List.drop_eq_getElem_cons h, List.getD_eq_getElem?_getD, List.getElem?_eq_getElem h,
    Option.getD_some]

theorem Matcher.Valid.fit (hm : m.Valid pattern value) (hvi : m.vi < value.length)
    (hpi : m.pi < pattern.length)
    (hfit : Fits anyByte (· = ·) (pattern.getD m.pi 0) (value.getD m.vi 0)) :
    Matcher.Valid pattern value { m with pi := m.pi + 1, vi := m.vi + 1 } ∧
      (m.Goal pattern value ↔ Matcher.Goal pattern value { m with pi := m.pi + 1, vi := m.vi + 1 }) := by
  have hp := drop_eq_getD_cons hpi
  have hv := drop_eq_getD_cons hvi
  refine ⟨⟨hpi, hm.starVi_le.trans (Nat.le_succ _), fun s hs => ?_⟩, ?_⟩
  · obtain ⟨hlt, seg, u, hseg, hu, hfits⟩ := hm.segment s hs
    refine ⟨hlt, seg ++ [pattern.getD m.pi 0], u ++ [value.getD m.vi 0], ?_, ?_, ?_⟩
    · rw [hseg, hp, List.append_assoc, List.singleton_append]
    · rw [hu, hv, List.append_assoc, List.singleton_append]
    · exact List.rel_append hfits (.cons hfit .nil)
  · rw [Matcher.Goal, Matcher.Goal]
    cases m.starPi with
    | none =>
      dsimp only
      rw [hp, hv]
      exact literalGlob_cons_of_fits hfit
    | some s => rfl

theorem Matcher.Valid.star (hm : m.Valid pattern value) (hvi : m.vi < value.length)
    (hpi : m.pi < pattern.length)
    (hfit : ¬Fits anyByte (· = ·) (pattern.getD m.pi 0) (value.getD m.vi 0))
    (hstar : pattern.getD m.pi 0 = starByte) :
    Matcher.Valid pattern value { m with starPi := some m.pi, pi := m.pi + 1, starVi := m.vi } ∧
      (m.Goal pattern value ↔
        Matcher.Goal pattern value { m with starPi := some m.pi, pi := m.pi + 1, starVi := m.vi }) := by
  have hp := drop_eq_getD_cons hpi
  have hv := drop_eq_getD_cons hvi
  rw [hstar] at hp hfit
  refine ⟨⟨hpi, le_rfl, fun s hs => ?_⟩, ?_⟩
  · obtain rfl := Option.some.inj hs
    exact ⟨hpi, [], [], rfl, rfl, .nil⟩
  · rw [Matcher.Goal, Matcher.Goal]
    cases hs : m.starPi with
    | none =>
      dsimp only
      rw [hp, hv]
      exact literalGlob_star_cons hfit
    | some s =>
      obtain ⟨-, seg, u, hseg, hu, hfits⟩ := hm.segment s hs
      dsimp only
      rw [hseg, hu, hp, hv]
      exact reach_commit hfits hfit

theorem not_literal_of_mismatch (hvi : m.vi < value.length)
    (hfit : ¬(m.pi < pattern.length ∧ Fits anyByte (· = ·) (pattern.getD m.pi 0) (value.getD m.vi 0)))
    (hstar : ¬(m.pi < pattern.length ∧ pattern.getD m.pi 0 = starByte)) :
    ¬LiteralBytes (pattern.drop m.pi) (value.drop m.vi) := by
  rw [drop_eq_getD_cons hvi]
  by_cases hpi : m.pi < pattern.length
  · rw [drop_eq_getD_cons hpi]
    exact not_literalGlob_cons (fun h => hfit ⟨hpi, h⟩) fun h => hstar ⟨hpi, h⟩
  · rw [List.drop_eq_nil_of_le (not_lt.mp hpi)]
    exact fun h => nomatch h

theorem Matcher.Valid.back {s : ℕ} (hm : m.Valid pattern value) (hvi : m.vi < value.length)
    (hs : m.starPi = some s) (hno : ¬LiteralBytes (pattern.drop m.pi) (value.drop m.vi)) :
    Matcher.Valid pattern value { m with pi := s + 1, starVi := m.starVi + 1, vi := m.starVi + 1 } ∧
      (m.Goal pattern value ↔ Matcher.Goal pattern value
        { m with pi := s + 1, starVi := m.starVi + 1, vi := m.starVi + 1 }) := by
  obtain ⟨hlt, seg, u, hseg, hu, hfits⟩ := hm.segment s hs
  refine ⟨⟨hlt, le_rfl, fun t ht => ?_⟩, ?_⟩
  · obtain rfl := Option.some.inj (hs.symm.trans ht)
    exact ⟨hlt, [], [], rfl, rfl, .nil⟩
  · rw [Matcher.Goal, Matcher.Goal]
    dsimp only
    rw [hs]
    dsimp only
    have hcons := drop_eq_getD_cons (hm.starVi_le.trans_lt hvi)
    rw [hu] at hcons
    rw [hseg, hu]
    exact reach_retry hfits hno hcons

/-- **One iteration keeps the meaning of the state.** -/
theorem Matcher.step_spec (hm : m.Valid pattern value) (hvi : m.vi < value.length) :
    (∀ m', m.step pattern value = some m' → m'.Valid pattern value ∧
      (m.Goal pattern value ↔ m'.Goal pattern value) ∧
      m'.potential pattern value < m.potential pattern value) ∧
    (m.step pattern value = none → ¬m.Goal pattern value) := by
  rw [Matcher.step]
  by_cases hfit : m.pi < pattern.length ∧
      (pattern.getD m.pi 0 = anyByte ∨ pattern.getD m.pi 0 = value.getD m.vi 0)
  · rw [if_pos hfit]
    refine ⟨fun m' h => ?_, fun h => nomatch h⟩
    obtain rfl := Option.some.inj h
    obtain ⟨hvalid, hgoal⟩ := hm.fit hvi hfit.1 hfit.2
    refine ⟨hvalid, hgoal, ?_⟩
    rw [Matcher.potential, Matcher.potential]
    dsimp only
    omega
  rw [if_neg hfit]
  by_cases hstar : m.pi < pattern.length ∧ pattern.getD m.pi 0 = starByte
  · rw [if_pos hstar]
    refine ⟨fun m' h => ?_, fun h => nomatch h⟩
    obtain rfl := Option.some.inj h
    obtain ⟨hvalid, hgoal⟩ := hm.star hvi hstar.1 (fun h => hfit ⟨hstar.1, h⟩) hstar.2
    refine ⟨hvalid, hgoal, ?_⟩
    rw [Matcher.potential, Matcher.potential]
    dsimp only
    have hle : (value.length - m.vi) * (pattern.length + 1) ≤
        (value.length - m.starVi) * (pattern.length + 1) :=
      Nat.mul_le_mul_right _ (Nat.sub_le_sub_left hm.starVi_le _)
    omega
  rw [if_neg hstar]
  have hno := not_literal_of_mismatch hvi hfit hstar
  cases hs : m.starPi with
  | none =>
    refine ⟨fun m' h => (nomatch h), fun _ => ?_⟩
    rw [Matcher.Goal, hs]
    exact hno
  | some s =>
    refine ⟨fun m' h => ?_, fun h => nomatch h⟩
    obtain rfl := Option.some.inj h
    obtain ⟨hvalid, hgoal⟩ := hm.back hvi hs hno
    rw [hs] at hvalid hgoal
    refine ⟨hvalid, hgoal, ?_⟩
    rw [Matcher.potential, Matcher.potential]
    dsimp only
    -- one byte less for the star is worth a whole pattern
    have hstarVi := hm.starVi_le
    obtain ⟨k, hk⟩ : ∃ k, value.length - m.starVi = k + 1 := ⟨value.length - m.starVi - 1, by omega⟩
    have hk' : value.length - (m.starVi + 1) = k := by omega
    rw [hk, hk', Nat.succ_mul]
    omega

theorem Matcher.Valid.end_iff (hm : m.Valid pattern value) (hvi : ¬m.vi < value.length) :
    m.Goal pattern value ↔ ∀ c ∈ pattern.drop m.pi, c = starByte := by
  have hnil := List.drop_eq_nil_of_le (not_lt.mp hvi)
  rw [Matcher.Goal]
  cases hs : m.starPi with
  | none =>
    dsimp only
    rw [hnil]
    exact literalGlob_nil_right
  | some s =>
    obtain ⟨-, seg, u, hseg, hu, hfits⟩ := hm.segment s hs
    dsimp only
    rw [hseg, hu, hnil]
    exact reach_end hfits

theorem skipStars_eq_iff (hpi : m.pi ≤ pattern.length) :
    skipStars pattern m.pi = pattern.length ↔ ∀ c ∈ pattern.drop m.pi, c = starByte := by
  have hlen : (pattern.drop m.pi).length = pattern.length - m.pi := List.length_drop
  have hpre := List.takeWhile_prefix (l := pattern.drop m.pi) fun c => decide (c = starByte)
  have hle := hpre.length_le
  have hall : (pattern.drop m.pi).takeWhile (· = starByte) = pattern.drop m.pi ↔
      ∀ c ∈ pattern.drop m.pi, c = starByte := by
    rw [List.takeWhile_eq_self_iff]
    exact forall₂_congr fun c _ => decide_eq_true_iff
  rw [← hall, skipStars]
  constructor
  · intro h
    exact hpre.eq_of_length (by omega)
  · intro h
    rw [h]
    omega

/-- **The walk decides what its state means.** -/
theorem wildcardLoop_iff : ∀ {fuel : ℕ} {m : Matcher}, m.Valid pattern value →
    m.potential pattern value < fuel → (wildcardLoop pattern value fuel m = true ↔ m.Goal pattern value)
  | 0, _, _, hf => absurd hf (Nat.not_lt_zero _)
  | fuel + 1, m, hm, hf => by
    rw [wildcardLoop]
    by_cases hvi : m.vi < value.length
    · rw [if_pos hvi]
      obtain ⟨hsome, hnone⟩ := Matcher.step_spec hm hvi
      cases hstep : m.step pattern value with
      | none => exact ⟨fun h => (nomatch h), fun h => absurd h (hnone hstep)⟩
      | some m' =>
        obtain ⟨hvalid, hgoal, hlt⟩ := hsome m' hstep
        rw [hgoal]
        exact wildcardLoop_iff hvalid (by omega)
    · rw [if_neg hvi, hm.end_iff hvi, decide_eq_true_iff]
      exact skipStars_eq_iff hm.pi_le

end Walk

/-! ### The whole match -/

/-- Whether a byte of the pattern stands for a byte of the value. -/
def SameByte (fold : Bool) (c x : UInt8) : Prop := if fold then asciiLower c = asciiLower x else c = x

theorem asciiLower_eq_iff {b : UInt8} (hb : b.toNat < 0x41) (c : UInt8) : asciiLower c = b ↔ c = b := by
  rw [asciiLower]
  split_ifs with h
  · have hlow : 0x41 ≤ c.toNat := UInt8.le_iff_toNat_le.mp h.1
    have hhigh : c.toNat ≤ 0x5a := UInt8.le_iff_toNat_le.mp h.2
    have hsum : (c + (0x61 - 0x41)).toNat = c.toNat + 0x20 := by
      rw [UInt8.toNat_add]
      exact Nat.mod_eq_of_lt (by show c.toNat + 0x20 < 256; omega)
    rw [← UInt8.toNat_inj, ← UInt8.toNat_inj, hsum]
    omega
  · rfl

theorem asciiLower_eq_star (c : UInt8) : asciiLower c = starByte ↔ c = starByte :=
  asciiLower_eq_iff (by decide) c

theorem asciiLower_eq_any (c : UInt8) : asciiLower c = anyByte ↔ c = anyByte :=
  asciiLower_eq_iff (by decide) c

theorem length_folded (fold : Bool) (b : Bytes) : (folded fold b).length = b.length := by
  cases fold with
  | false => rfl
  | true => exact List.length_map asciiLower

theorem literalBytes_folded (fold : Bool) (p v : Bytes) :
    LiteralBytes (folded fold p) (folded fold v) ↔ LiteralGlob starByte anyByte (SameByte fold) p v := by
  cases fold with
  | false => rfl
  | true => exact literalGlob_map asciiLower_eq_star asciiLower_eq_any

/-- **What `wildcardMatch` computes**, for every pattern and value. -/
theorem wildcardMatch_iff (pattern value : Bytes) (fold : Bool) :
    wildcardMatch pattern value fold = true ↔
      LiteralGlob starByte anyByte (SameByte fold) pattern value := by
  rw [wildcardMatch, wildcardLoop_iff, ← literalBytes_folded]
  · rfl
  · exact ⟨Nat.zero_le _, le_rfl, fun s hs => nomatch hs⟩
  · rw [Matcher.potential, length_folded, length_folded]
    dsimp only
    rw [Nat.sub_zero, Nat.succ_mul]
    omega

theorem wildcardMatch_of_no_star {pattern value : Bytes} (fold : Bool) (h : starByte ∉ value) :
    wildcardMatch pattern value fold = true ↔ Glob starByte anyByte (SameByte fold) pattern value := by
  rw [wildcardMatch_iff]
  refine ⟨LiteralGlob.glob, fun hglob => LiteralGlob.of_glob (by decide) hglob fun x hx hsame => ?_⟩
  have hstar : x = starByte := by
    cases fold with
    | false => exact (hsame : starByte = x).symm
    | true => exact (asciiLower_eq_star x).mp (hsame : asciiLower starByte = asciiLower x).symm
  exact h (hstar ▸ hx)

/-- A configured name without a type is met by every identity, a pattern by the names that it matches,
and anything else only by itself. -/
theorem rightIDMatches_iff {expected received : ID} (h : starByte ∉ received.data) :
    rightIDMatches expected received = true ↔ expected.type = 0 ∨ expected.type = received.type ∧
      if expected.type = IDType.fqdn ∨ expected.type = IDType.rfc822Addr then
        Glob starByte anyByte (SameByte true) expected.data received.data
      else expected.data = received.data := by
  rw [rightIDMatches]
  by_cases hzero : expected.type = 0
  · rw [if_pos hzero]
    exact ⟨fun _ => .inl hzero, fun _ => rfl⟩
  rw [if_neg hzero, or_iff_right hzero]
  by_cases htype : expected.type = received.type
  · rw [if_neg (not_not.mpr htype), and_iff_right htype]
    by_cases hname : expected.type = IDType.fqdn ∨ expected.type = IDType.rfc822Addr
    · rw [if_pos hname, if_pos hname]
      exact wildcardMatch_of_no_star true h
    · rw [if_neg hname, if_neg hname, decide_eq_true_iff]
  · rw [if_pos htype]
    exact ⟨fun h => (nomatch h), fun h => absurd h.1 htype⟩

theorem rightIDMatches_sample :
    Glob starByte anyByte (SameByte true) (ascii "*.GW") (ascii "a.gw") := by
  have h := (@rightIDMatches_iff ⟨IDType.fqdn, ascii "*.GW"⟩ ⟨IDType.fqdn, ascii "a.gw"⟩
    (by decide)).mp (by decide)
  rw [if_pos (.inl rfl)] at h
  exact (h.resolve_left (by decide)).2

/-- **Wildcards.** `wildcardMatch` answers as the glob semantics says exactly if a pattern that matches
the value also matches it with every `*` that meets a `*` of the value standing for that byte. -/
theorem wildcard_glob_semantics (pattern value : Bytes) (fold : Bool) :
    (wildcardMatch pattern value fold = true ↔ Glob starByte anyByte (SameByte fold) pattern value) ↔
      (Glob starByte anyByte (SameByte fold) pattern value →
        LiteralGlob starByte anyByte (SameByte fold) pattern value) := by
  rw [wildcardMatch_iff]
  exact ⟨fun h => h.mpr, fun h => ⟨LiteralGlob.glob, h⟩⟩

/-- The pattern `*` matches every value, but not the value `*a`. -/
theorem star_in_value_missed :
    Glob starByte anyByte (SameByte true) (ascii "*") (ascii "*a") ∧
      wildcardMatch (ascii "*") (ascii "*a") true = false :=
  ⟨.run (ascii "*a") .nil, by decide⟩

/-! ### Addresses -/

section Addresses

open Swan.Lib.IPText Swan.Xcrypto

/-- A peer with the address `ip` passes as the configured identity `s`: both have the same form, the one
matches the other, and its certificate decides the rest. -/
structure AddressWorks (s ip : Bytes) : Prop where
  form : classifyID s = .ok (addressID ip)
  matched : ∀ id, classifyID s = .ok id → rightIDMatches id (addressID ip) = true
  certified : ∀ ipString leaf, verifyCertIdentity ipString leaf (addressID ip).type (addressID ip).data =
    wrap "xcrypto: responder certificate does not match IDr IP address: "
      (leaf.verifyHostname (ipString (to16 (addressID ip).data)))

theorem rightIDMatches_address (id id' : ID) (htype : id.type = id'.type)
    (haddr : id.type = IDType.ipv4Addr ∨ id.type = IDType.ipv6Addr) :
    rightIDMatches id id' = decide (id.data = id'.data) := by
  have hother : id.type ≠ 0 ∧ ¬ (id.type = IDType.fqdn ∨ id.type = IDType.rfc822Addr) := by
    rcases haddr with h | h <;> rw [h] <;> decide
  rw [rightIDMatches, if_neg hother.1, if_neg (not_not.mpr htype), if_neg hother.2]

/-- **An address as the configured identity never works**: it is given the type of the address but the bytes
of the text, and no peer with that address matches it, although the certificate would decide about one. -/
theorem address_never_works (t ip s : Bytes) (h : parseIP t = some ip) (hs : s ∈ addressTexts t ip) :
    ¬ AddressWorks s ip ∧
      classifyID s = .ok ⟨(addressID ip).type, t⟩ ∧ t ≠ (addressID ip).data ∧
      rightIDMatches ⟨(addressID ip).type, t⟩ (addressID ip) = false ∧
      ∀ ipString leaf, verifyCertIdentity ipString leaf (addressID ip).type (addressID ip).data =
        wrap "xcrypto: responder certificate does not match IDr IP address: "
          (leaf.verifyHostname (ipString (to16 (addressID ip).data))) := by
  have hclass := classifyID_address h hs
  have hne := ne_addressID h
  have hform := length_addressID h
  have hmatch : rightIDMatches ⟨(addressID ip).type, t⟩ (addressID ip) = false := by
    have htype : (addressID ip).type = IDType.ipv4Addr ∨ (addressID ip).type = IDType.ipv6Addr :=
      hform.imp And.left And.left
    rw [rightIDMatches_address ⟨_, t⟩ (addressID ip) rfl htype]
    exact decide_eq_false hne
  refine ⟨fun hworks => ?_, hclass, hne, hmatch, fun ipString leaf =>
    verifyCertIdentity_address ipString leaf hform⟩
  have hyes := hworks.matched _ hclass
  rw [hmatch] at hyes
  cases hyes

/-- The identity of `192.0.2.1` on the wire is not met by `192.0.2.1` in the configuration. -/
theorem address_unmatched :
    parseIP (ascii "192.0.2.1") = some (mapped ++ [192, 0, 2, 1]) ∧
      addressID (mapped ++ [192, 0, 2, 1]) = ⟨IDType.ipv4Addr, [192, 0, 2, 1]⟩ ∧
      classifyID (ascii "192.0.2.1") = .ok ⟨IDType.ipv4Addr, ascii "192.0.2.1"⟩ ∧
      rightIDMatches ⟨IDType.ipv4Addr, ascii "192.0.2.1"⟩ ⟨IDType.ipv4Addr, [192, 0, 2, 1]⟩ = false := by
  decide

theorem sample_address_never_works :
    ¬ AddressWorks (ascii "ipv6:2001:db8::1") [0x20, 1, 0xd, 0xb8, 0, 0, 0, 0, 0, 0, 0, 0, 0, 0, 0, 1] :=
  (address_never_works (ascii "2001:db8::1") _ _ (by decide) (by decide)).1

end Addresses

end Swan.Control
