import Swan.Payload.Basic

/-! # The body of a TSi or TSr payload

A traffic selector is a range of addresses and ports. The parser takes the width of the addresses
from the selector type; the writer takes it from the addresses themselves, and an address of 16 bytes
that stands for an IPv4 address (`to4`) counts as one of 4 bytes there. `parseSelector_split` and
`parseSelector_bytes` are the two directions for one entry. `ts_codec`: an accepted body is written
again, and a list of selectors is read back, exactly when no IPv6 selector has such an address;
`mapped_selector_panics` is a body for which the writer panics. -/

namespace Swan.Payload

open Swan.Lib Swan.Wire

def tsSelectorFixedLen : ℕ := 4
def tsEntryFixedLen : ℕ := 8

def tsTypeIPv4AddrRange : UInt8 := 7
def tsTypeIPv6AddrRange : UInt8 := 8

/-! ### IP addresses

An address is a byte string of length 4 or 16, as a Go `net.IP` is; the nil address is empty. -/

/-- The first 12 bytes of an IPv4 address in its form of 16 bytes. -/
def v4InV6Prefix : Bytes := [0, 0, 0, 0, 0, 0, 0, 0, 0, 0, 0xff, 0xff]

/-- The 4 bytes of an IPv4 address, in either form. -/
def to4 (ip : Bytes) : Option Bytes :=
  if ip.length = 4 then some ip
  else if ip.length = 16 ∧ ip.take 12 = v4InV6Prefix then some (ip.drop 12)
  else none

def to16 (ip : Bytes) : Bytes :=
  if ip.length = 4 then v4InV6Prefix ++ ip else if ip.length = 16 then ip else []

def ipOctets (ip : Bytes) : Bytes := (to4 ip).getD (to16 ip)

def cloneIP (p : Bytes) : Bytes :=
  if p.length = 4 then v4InV6Prefix ++ p else if p.length = 16 then p else []

/-- The bytes of two addresses of the same length, compared from the left. -/
def compareOctets : Bytes → Bytes → ℤ
  | x :: a, y :: b => if x < y then -1 else if y < x then 1 else compareOctets a b
  | _, _ => 0

def compareIP (a b : Bytes) : ℤ :=
  if a.length ≠ b.length then if a.length < b.length then -1 else 1 else compareOctets a b

/-! ### Selectors -/

structure Selector where
  type : UInt8
  protocolID : UInt8
  startPort : UInt16
  endPort : UInt16
  startAddr : Bytes
  endAddr : Bytes
  deriving DecidableEq, Repr

structure TrafficSelectors where
  selectors : List Selector
  deriving DecidableEq, Repr

def addrLen (tsType : UInt8) : Except Err ℕ :=
  if tsType = tsTypeIPv4AddrRange then .ok 4
  else if tsType = tsTypeIPv6AddrRange then .ok 16
  else .error (.errorf s!"unsupported traffic selector type {tsType}")

def Selector.bytes (s : Selector) (width : ℕ) : Bytes :=
  [s.type, s.protocolID] ++ putUint16 (UInt16.ofNat (tsEntryFixedLen + 2 * width)) ++
    putUint16 s.startPort ++ putUint16 s.endPort ++ ipOctets s.startAddr ++ ipOctets s.endAddr

def appendTrafficSelector (s : Selector) : Except Err Bytes :=
  let startWidth := (ipOctets s.startAddr).length
  let endWidth := (ipOctets s.endAddr).length
  if startWidth = 0 ∨ endWidth = 0 ∨ startWidth ≠ endWidth then
    .error (.panicked (s!"github.com/wsm25/swan/payload: traffic selector address width " ++
      s!"mismatch {startWidth}/{endWidth}"))
  else .ok (s.bytes startWidth)

def appendSelectors : List Selector → Except Err Bytes
  | [] => .ok []
  | s :: ss => do
    let b ← appendTrafficSelector s
    let rest ← appendSelectors ss
    .ok (b ++ rest)

def appendTS (ts : TrafficSelectors) : Except Err Bytes :=
  if ts.selectors.length > 255 then
    .error (.panicked (s!"github.com/wsm25/swan/payload: {ts.selectors.length} traffic " ++
      "selectors exceed the wire limit 255"))
  else do
    let entries ← appendSelectors ts.selectors
    .ok ([UInt8.ofNat ts.selectors.length, 0, 0, 0] ++ entries)

def parseTrafficSelector (b : Bytes) : Except Err (Selector × Bytes) :=
  if b.length < tsEntryFixedLen then .error (.errorf s!"entry too short: {b.length} bytes")
  else do
    let width ← addrLen (b.getD 0 0)
    if b.getD 1 0 ≠ 0 then
      .error (.errorf s!"mvp traffic selector must use protocol 0, got {b.getD 1 0}")
    else
      let entryLen := (beUint16 (slice b 2 4)).toNat
      let want := tsEntryFixedLen + 2 * width
      if entryLen ≠ want then
        .error (.errorf s!"invalid entry length {entryLen} for address width {width}")
      else if entryLen > b.length then
        .error (.errorf s!"entry length {entryLen} exceeds remaining {b.length}")
      else
        let startPort := beUint16 (slice b 4 6)
        let endPort := beUint16 (slice b 6 8)
        if startPort > endPort then
          .error (.errorf s!"port range reversed: {startPort}-{endPort}")
        else
          let addrs := slice b tsEntryFixedLen entryLen
          let startAddr := cloneIP (addrs.take width)
          let endAddr := cloneIP (addrs.drop width)
          if startAddr.length ≠ 0 ∧ compareIP startAddr endAddr > 0 then
            .error (.errorf "address range reversed")
          else
            .ok ({ type := b.getD 0 0, protocolID := b.getD 1 0, startPort, endPort, startAddr,
                   endAddr },
              b.drop entryLen)

/-- The rounds of the selector loop of a body with `count` selectors, `left` of them unread. -/
def parseSelectors (count : ℕ) : ℕ → Bytes → Except Err (List Selector × Bytes)
  | 0, rest => .ok ([], rest)
  | left + 1, rest => do
    let (s, tail) ← wrap s!"traffic selector {count - (left + 1)}: " (parseTrafficSelector rest)
    let (ss, rest') ← parseSelectors count left tail
    .ok (s :: ss, rest')

def parseTS (b : Bytes) : Except Err TrafficSelectors :=
  if b.length < tsSelectorFixedLen then
    .error (.errorf s!"traffic selector payload too short: {b.length} bytes")
  else
    let count := (b.getD 0 0).toNat
    if (slice b 1 tsSelectorFixedLen).length = 0 ∨ b.getD 1 0 ≠ 0 ∨ b.getD 2 0 ≠ 0 ∨
        b.getD 3 0 ≠ 0 then
      .error (.errorf "traffic selector payload has non-zero reserved bytes")
    else do
      let (ss, rest) ← parseSelectors count count (b.drop tsSelectorFixedLen)
      if rest.length ≠ 0 then
        .error (.errorf s!"traffic selector payload has {rest.length} trailing bytes")
      else .ok ⟨ss⟩

/-! ### Addresses in both forms -/

variable {ip b tail : Bytes} {w : ℕ} {s : Selector}

theorem to16_of_length_four (h : ip.length = 4) : to16 ip = v4InV6Prefix ++ ip := if_pos h

theorem to16_of_length_sixteen (h : ip.length = 16) : to16 ip = ip := by
  rw [to16, if_neg (by omega), if_pos h]

theorem to4_mapped (h : ip.length = 4) : to4 (v4InV6Prefix ++ ip) = some ip := by
  have hlen : (v4InV6Prefix ++ ip).length = 16 := by rw [List.length_append, h]; rfl
  rw [to4, if_neg (by omega), if_pos ⟨hlen, List.take_left' rfl⟩]
  rfl

theorem to4_eq_some {v4 : Bytes} (h : to4 ip = some v4) :
    v4.length = 4 ∧ to16 ip = v4InV6Prefix ++ v4 := by
  unfold to4 at h
  split_ifs at h with h4 h16
  · obtain rfl := Option.some.inj h
    exact ⟨h4, to16_of_length_four h4⟩
  · obtain rfl := Option.some.inj h
    refine ⟨by rw [List.length_drop, h16.1], ?_⟩
    rw [to16_of_length_sixteen h16.1, ← h16.2, List.take_append_drop]

theorem ipOctets_of_some {v4 : Bytes} (h : to4 ip = some v4) : ipOctets ip = v4 := by
  rw [ipOctets, h]
  rfl

theorem ipOctets_of_none (h : to4 ip = none) (hlen : ip.length = 16) :
    ipOctets ip = ip := by
  rw [ipOctets, h, Option.getD_none, to16_of_length_sixteen hlen]

/-! ### What the selector type says of the addresses -/

/-- `ip` is an address of the width `w`: an IPv4 address in either form, or 16 bytes. -/
def HasWidth (w : ℕ) (ip : Bytes) : Prop := (w = 4 ∧ (to4 ip).isSome) ∨ (w = 16 ∧ ip.length = 16)

/-- No address of an IPv6 selector stands for an IPv4 address. -/
def Selector.NotMapped (s : Selector) : Prop :=
  s.type = tsTypeIPv6AddrRange → to4 s.startAddr = none ∧ to4 s.endAddr = none

/-- The selector with its addresses in the form of 16 bytes, the form the parser returns. -/
def Selector.canonical (s : Selector) : Selector :=
  { s with startAddr := to16 s.startAddr, endAddr := to16 s.endAddr }

/-- A selector whose addresses have the width of its type, with ordered ports and addresses and the
protocol 0. -/
structure Selector.WellFormed (s : Selector) : Prop where
  width : ∃ w, addrLen s.type = .ok w ∧ HasWidth w s.startAddr ∧ HasWidth w s.endAddr
  protocol : s.protocolID = 0
  ports : s.startPort ≤ s.endPort
  addrs : compareIP (to16 s.startAddr) (to16 s.endAddr) ≤ 0

theorem addrLen_eq_ok {t : UInt8} (h : addrLen t = .ok w) :
    (t = tsTypeIPv4AddrRange ∧ w = 4) ∨ (t = tsTypeIPv6AddrRange ∧ w = 16) := by
  unfold addrLen at h
  split_ifs at h with h4 h6
  · exact .inl ⟨h4, (Except.ok.inj h).symm⟩
  · exact .inr ⟨h6, (Except.ok.inj h).symm⟩

theorem type_of_addrLen {t : UInt8} (h : addrLen t = .ok w) (h16 : w = 16) :
    t = tsTypeIPv6AddrRange :=
  ((addrLen_eq_ok h).resolve_left fun h4 => by omega).1

theorem HasWidth.octets (h : HasWidth w ip) (hno : w = 16 → to4 ip = none) :
    (ipOctets ip).length = w ∧ cloneIP (ipOctets ip) = to16 ip := by
  rcases h with ⟨rfl, hsome⟩ | ⟨rfl, hlen⟩
  · obtain ⟨v4, hv4⟩ := Option.isSome_iff_exists.mp hsome
    obtain ⟨hlen, hto16⟩ := to4_eq_some hv4
    rw [ipOctets_of_some hv4, hto16]
    exact ⟨hlen, if_pos hlen⟩
  · rw [ipOctets_of_none (hno rfl) hlen, to16_of_length_sixteen hlen]
    exact ⟨hlen, by rw [cloneIP, if_neg (by omega), if_pos hlen]⟩

theorem HasWidth.octets_le (h : HasWidth w ip) :
    0 < (ipOctets ip).length ∧ (ipOctets ip).length ≤ w ∧
      ((ipOctets ip).length = w → w = 16 → to4 ip = none) := by
  rcases h with ⟨rfl, hsome⟩ | ⟨rfl, hlen⟩
  · obtain ⟨v4, hv4⟩ := Option.isSome_iff_exists.mp hsome
    have h4 := (to4_eq_some hv4).1
    rw [ipOctets_of_some hv4, h4]
    exact ⟨by omega, le_refl _, fun _ h => absurd h (by omega)⟩
  · cases hto4 : to4 ip with
    | none =>
      rw [ipOctets_of_none hto4 hlen, hlen]
      exact ⟨by omega, le_refl _, fun _ _ => rfl⟩
    | some v4 =>
      have h4 := (to4_eq_some hto4).1
      rw [ipOctets_of_some hto4, h4]
      exact ⟨by omega, by omega, fun h => absurd h (by omega)⟩

/-! ### One entry -/

theorem length_selector_bytes (s : Selector) (w : ℕ) : (s.bytes w).length =
    tsEntryFixedLen + ((ipOctets s.startAddr).length + (ipOctets s.endAddr).length) := by
  simp only [Selector.bytes, List.length_append, length_putUint16, List.length_cons, List.length_nil,
    tsEntryFixedLen]
  omega

theorem hasWidth_cloneIP {p : Bytes} (hw : w = 4 ∨ w = 16) (h : p.length = w) :
    HasWidth w (cloneIP p) ∧ (cloneIP p).length = 16 ∧
      ((w = 16 → to4 (cloneIP p) = none) → ipOctets (cloneIP p) = p) := by
  rcases hw with rfl | rfl
  · have hclone : cloneIP p = v4InV6Prefix ++ p := if_pos h
    have hto4 := to4_mapped h
    rw [hclone]
    exact ⟨.inl ⟨rfl, by rw [hto4]; rfl⟩, by rw [List.length_append, h]; rfl,
      fun _ => ipOctets_of_some hto4⟩
  · have hclone : cloneIP p = p := by rw [cloneIP, if_neg (by omega), if_pos h]
    rw [hclone]
    exact ⟨.inr ⟨rfl, h⟩, h, fun hno => ipOctets_of_none (hno rfl) h⟩

theorem parseSelector_split (h : parseTrafficSelector b = .ok (s, tail)) :
    ∃ w bs, addrLen s.type = .ok w ∧ HasWidth w s.startAddr ∧ HasWidth w s.endAddr ∧
      b = bs ++ tail ∧ bs.length = tsEntryFixedLen + 2 * w ∧ (s.NotMapped → s.bytes w = bs) := by
  unfold parseTrafficSelector at h
  by_cases hshort : b.length < tsEntryFixedLen
  · rw [if_pos hshort] at h
    cases h
  rw [if_neg hshort] at h
  obtain ⟨w, hw, h⟩ := bind_eq_ok.mp h
  obtain ⟨x0, x1, x2, x3, x4, x5, x6, x7, rest, rfl⟩ := exists_eight (not_lt.mp hshort)
  set b := x0 :: x1 :: x2 :: x3 :: x4 :: x5 :: x6 :: x7 :: rest with hb
  have hfield : slice b 2 4 = [x2, x3] := rfl
  rw [hfield] at h
  set entryLen := (beUint16 [x2, x3]).toNat with hentry
  dsimp only at h
  split_ifs at h with hproto hwant hlong hports haddrs
  obtain ⟨rfl, rfl⟩ := Prod.mk.inj (Except.ok.inj h)
  rw [not_not] at hproto hwant
  have h8 : tsEntryFixedLen = 8 := rfl
  have hw416 : w = 4 ∨ w = 16 := (addrLen_eq_ok hw).imp And.right And.right
  have hle : 2 * w ≤ rest.length := by
    rw [hwant, h8, hb] at hlong
    simp only [List.length_cons] at hlong
    omega
  have haddrsEq : slice b tsEntryFixedLen entryLen = rest.take (2 * w) := by
    rw [h8, slice, hwant, h8, Nat.add_comm]
    rfl
  rw [haddrsEq]
  set addrs := rest.take (2 * w) with haddrsDef
  have haddrsLen : addrs.length = 2 * w := by rw [haddrsDef, List.length_take, min_eq_left hle]
  have hstart : (addrs.take w).length = w := by rw [List.length_take, haddrsLen]; omega
  have hend : (addrs.drop w).length = w := by rw [List.length_drop, haddrsLen]; omega
  obtain ⟨hsw, -, hsoct⟩ := hasWidth_cloneIP hw416 hstart
  obtain ⟨hew, -, heoct⟩ := hasWidth_cloneIP hw416 hend
  refine ⟨w, x0 :: x1 :: x2 :: x3 :: x4 :: x5 :: x6 :: x7 :: addrs, hw, hsw, hew, ?_, ?_, fun hno => ?_⟩
  · rw [hwant, h8, Nat.add_comm, hb, haddrsDef]
    simp
  · simp only [List.length_cons, haddrsLen, h8]
    omega
  · have htype : w = 16 → x0 = tsTypeIPv6AddrRange := type_of_addrLen hw
    rw [Selector.bytes]
    dsimp only
    rw [hsoct fun h16 => (hno (htype h16)).1, heoct fun h16 => (hno (htype h16)).2, List.append_assoc,
      List.take_append_drop, ← hwant, putUint16_ofNat_toNat hentry.symm, putUint16_pair,
      show slice b 4 6 = [x4, x5] from rfl, show slice b 6 8 = [x6, x7] from rfl, putUint16_pair,
      putUint16_pair]
    rfl

/-- A selector with addresses of the width of its type that are not mapped ones has its entry, and
without a mapped address there is no shorter one. -/
theorem appendSelector_of_hasWidth (hw : addrLen s.type = .ok w) (hstart : HasWidth w s.startAddr)
    (hend : HasWidth w s.endAddr) :
    (s.NotMapped → appendTrafficSelector s = .ok (s.bytes w) ∧
      (s.bytes w).length = tsEntryFixedLen + 2 * w) ∧
    ∀ bs, appendTrafficSelector s = .ok bs → bs.length ≤ tsEntryFixedLen + 2 * w ∧
      (bs.length = tsEntryFixedLen + 2 * w → s.NotMapped) := by
  have hw416 : w = 4 ∨ w = 16 := (addrLen_eq_ok hw).imp And.right And.right
  refine ⟨fun hno => ?_, fun bs hbs => ?_⟩
  · have htype : w = 16 → s.type = tsTypeIPv6AddrRange := type_of_addrLen hw
    have hs := (hstart.octets fun h16 => (hno (htype h16)).1).1
    have he := (hend.octets fun h16 => (hno (htype h16)).2).1
    refine ⟨?_, by rw [length_selector_bytes, hs, he]; omega⟩
    rw [appendTrafficSelector, hs, he, if_neg (by omega)]
  · unfold appendTrafficSelector at hbs
    dsimp only at hbs
    split_ifs at hbs with hbad
    obtain rfl := Except.ok.inj hbs
    rw [not_or, not_or, not_not] at hbad
    obtain ⟨-, hsle, hsno⟩ := hstart.octets_le
    obtain ⟨-, hele, heno⟩ := hend.octets_le
    rw [length_selector_bytes]
    refine ⟨by omega, fun hlen htype => ?_⟩
    have h16 : w = 16 := by
      rcases addrLen_eq_ok hw with ⟨h4, -⟩ | ⟨-, h16⟩
      · rw [htype] at h4
        cases h4
      · exact h16
    exact ⟨hsno (by omega) h16, heno (by omega) h16⟩

theorem parseSelector_bytes (h : s.WellFormed) (hw : addrLen s.type = .ok w) (hno : s.NotMapped)
    (tail : Bytes) :
    parseTrafficSelector (s.bytes w ++ tail) = .ok (s.canonical, tail) := by
  obtain ⟨w', hw', hstart, hend⟩ := h.width
  obtain rfl := Except.ok.inj (hw'.symm.trans hw)
  have htype : w' = 16 → s.type = tsTypeIPv6AddrRange := type_of_addrLen hw
  obtain ⟨hslen, hsclone⟩ := hstart.octets fun h16 => (hno (htype h16)).1
  obtain ⟨helen, heclone⟩ := hend.octets fun h16 => (hno (htype h16)).2
  have hw416 : w' = 4 ∨ w' = 16 := (addrLen_eq_ok hw).imp And.right And.right
  have hlen := ((appendSelector_of_hasWidth hw hstart hend).1 hno).2
  set hd := [s.type, s.protocolID] ++ putUint16 (UInt16.ofNat (tsEntryFixedLen + 2 * w')) ++
    putUint16 s.startPort ++ putUint16 s.endPort with hhd
  have hhdlen : hd.length = tsEntryFixedLen := by simp [hhd, tsEntryFixedLen]
  have hbytes : s.bytes w' = hd ++ (ipOctets s.startAddr ++ ipOctets s.endAddr) := by
    rw [Selector.bytes, ← hhd, List.append_assoc]
  set b := s.bytes w' ++ tail with hb
  have e0 : b.getD 0 0 = s.type := rfl
  have e1 : b.getD 1 0 = 0 := h.protocol
  have e2 : (beUint16 (slice b 2 4)).toNat = tsEntryFixedLen + 2 * w' := by
    have : slice b 2 4 = putUint16 (UInt16.ofNat (tsEntryFixedLen + 2 * w')) := by
      simp [slice, hb, Selector.bytes]
    rw [this, beUint16_putUint16, tsEntryFixedLen]
    exact Nat.mod_eq_of_lt (by omega)
  have e4 : beUint16 (slice b 4 6) = s.startPort := by
    have : slice b 4 6 = putUint16 s.startPort := by
      simp [slice, hb, Selector.bytes, List.take_append, List.take_of_length_le]
    rw [this, beUint16_putUint16]
  have e6 : beUint16 (slice b 6 8) = s.endPort := by
    have : slice b 6 8 = putUint16 s.endPort := by
      simp [slice, hb, Selector.bytes, List.take_append, List.drop_append, List.take_of_length_le,
        List.drop_eq_nil_of_le]
    rw [this, beUint16_putUint16]
  have e8 : slice b tsEntryFixedLen (tsEntryFixedLen + 2 * w') =
      ipOctets s.startAddr ++ ipOctets s.endAddr := by
    rw [slice, hb, List.take_left' hlen, hbytes]
    exact List.drop_left' hhdlen
  have etail : b.drop (tsEntryFixedLen + 2 * w') = tail := List.drop_left' hlen
  have hblen : b.length = tsEntryFixedLen + 2 * w' + tail.length := by
    rw [hb, List.length_append, hlen]
  have hnotrev : ¬((to16 s.startAddr).length ≠ 0 ∧ compareIP (to16 s.startAddr) (to16 s.endAddr) > 0) :=
    fun hrev => absurd h.addrs (not_le.mpr hrev.2)
  rw [parseTrafficSelector, hblen, if_neg (by omega), e0, hw, ok_bind, e1, if_neg (by decide)]
  dsimp only
  rw [e2, if_neg (by simp), if_neg (by omega), e4, e6, if_neg (UInt16.not_lt.mpr h.ports), e8,
    List.take_left' hslen, List.drop_left' hslen, hsclone, heclone, if_neg hnotrev, etail, ← h.protocol]
  rfl

theorem notMapped_of_parse {s' : Selector} {bs tail' : Bytes} (h : s.WellFormed)
    (hbs : appendTrafficSelector s = .ok bs)
    (hparse : parseTrafficSelector (bs ++ tail) = .ok (s', tail')) : s.NotMapped := by
  obtain ⟨w, hw, hstart, hend⟩ := h.width
  have hshape : bs = s.bytes (ipOctets s.startAddr).length ∧
      (ipOctets s.startAddr).length = (ipOctets s.endAddr).length := by
    unfold appendTrafficSelector at hbs
    dsimp only at hbs
    split_ifs at hbs with hbad
    rw [not_or, not_or, not_not] at hbad
    exact ⟨(Except.ok.inj hbs).symm, hbad.2.2⟩
  obtain ⟨hbytes, hsame⟩ := hshape
  have hle := hstart.octets_le.2.1
  have hw416 : w = 4 ∨ w = 16 := (addrLen_eq_ok hw).imp And.right And.right
  -- the length field tells the width that was written, and the type the one that is expected
  have hfield : (beUint16 (slice (bs ++ tail) 2 4)).toNat =
      tsEntryFixedLen + 2 * (ipOctets s.startAddr).length := by
    have : slice (bs ++ tail) 2 4 =
        putUint16 (UInt16.ofNat (tsEntryFixedLen + 2 * (ipOctets s.startAddr).length)) := by
      simp [slice, hbytes, Selector.bytes]
    rw [this, beUint16_putUint16, tsEntryFixedLen]
    exact Nat.mod_eq_of_lt (by omega)
  have hwidth : tsEntryFixedLen + 2 * (ipOctets s.startAddr).length = tsEntryFixedLen + 2 * w := by
    unfold parseTrafficSelector at hparse
    by_cases hshort : (bs ++ tail).length < tsEntryFixedLen
    · rw [if_pos hshort] at hparse
      cases hparse
    rw [if_neg hshort, show (bs ++ tail).getD 0 0 = s.type by rw [hbytes]; rfl, hw, ok_bind,
      hfield] at hparse
    by_contra hne
    rw [if_pos hne] at hparse
    split_ifs at hparse
  refine ((appendSelector_of_hasWidth hw hstart hend).2 bs hbs).2 ?_
  rw [hbytes, length_selector_bytes]
  omega

/-! ### The list of entries -/

theorem parseSelectors_succ_eq_ok {count left : ℕ} {ss : List Selector}
    (h : parseSelectors count (left + 1) b = .ok (ss, tail)) :
    ∃ s ss' rest, parseTrafficSelector b = .ok (s, rest) ∧
      parseSelectors count left rest = .ok (ss', tail) ∧ ss = s :: ss' := by
  rw [parseSelectors] at h
  obtain ⟨⟨s, rest⟩, hs, h⟩ := bind_eq_ok.mp h
  obtain ⟨⟨ss', tail'⟩, hss, h⟩ := bind_eq_ok.mp h
  obtain ⟨rfl, rfl⟩ := Prod.mk.inj (Except.ok.inj h)
  exact ⟨s, ss', rest, wrap_eq_ok.mp hs, hss, rfl⟩

/-- What the entries of an accepted body say: without mapped addresses they are written again, and
otherwise nothing as long is written. -/
theorem parseSelectors_eq_ok (count : ℕ) : ∀ {left : ℕ} {b tail : Bytes} {ss : List Selector},
    parseSelectors count left b = .ok (ss, tail) → ss.length = left ∧ ∃ bs, b = bs ++ tail ∧
      ((∀ s ∈ ss, s.NotMapped) → appendSelectors ss = .ok bs) ∧
      ∀ bs', appendSelectors ss = .ok bs' →
        bs'.length ≤ bs.length ∧ (bs'.length = bs.length → ∀ s ∈ ss, s.NotMapped) := by
  intro left
  induction left with
  | zero =>
    intro b tail ss h
    obtain ⟨rfl, rfl⟩ := Prod.mk.inj (Except.ok.inj h)
    refine ⟨rfl, [], rfl, fun _ => rfl, fun bs' hbs' => ?_⟩
    rw [← Except.ok.inj hbs']
    exact ⟨le_refl _, fun _ => by simp⟩
  | succ left ih =>
    intro b tail ss h
    obtain ⟨s, ss, rest, hs, hss, rfl⟩ := parseSelectors_succ_eq_ok h
    obtain ⟨hlen, bs, rfl, hok, hle⟩ := ih hss
    obtain ⟨w, e, hw, hstart, hend, rfl, helen, hbytes⟩ := parseSelector_split hs
    obtain ⟨hsok, hsle⟩ := appendSelector_of_hasWidth hw hstart hend
    refine ⟨by rw [List.length_cons, hlen], e ++ bs, by rw [List.append_assoc], fun hno => ?_,
      fun bs' hbs' => ?_⟩
    · have hno' := List.forall_mem_cons.mp hno
      rw [appendSelectors, (hsok hno'.1).1, hok hno'.2, hbytes hno'.1]
      rfl
    · obtain ⟨e', he', hbs'⟩ := bind_eq_ok.mp hbs'
      obtain ⟨bs'', hbs'', hbs'⟩ := bind_eq_ok.mp hbs'
      obtain rfl := Except.ok.inj hbs'
      obtain ⟨hle1, heq1⟩ := hsle e' he'
      obtain ⟨hle2, heq2⟩ := hle bs'' hbs''
      rw [List.length_append, List.length_append]
      exact ⟨by omega, fun heq => List.forall_mem_cons.mpr ⟨heq1 (by omega), heq2 (by omega)⟩⟩

theorem parseSelectors_append (count : ℕ) : ∀ {ss : List Selector} (tail : Bytes),
    (∀ s ∈ ss, s.WellFormed) → (∀ s ∈ ss, s.NotMapped) →
    ∃ bs, appendSelectors ss = .ok bs ∧
      parseSelectors count ss.length (bs ++ tail) = .ok (ss.map Selector.canonical, tail)
  | [], _, _, _ => ⟨[], rfl, rfl⟩
  | s :: ss, tail, hwf, hno => by
    obtain ⟨hwf1, hwf⟩ := List.forall_mem_cons.mp hwf
    obtain ⟨hno1, hno⟩ := List.forall_mem_cons.mp hno
    obtain ⟨bs, hbs, hparse⟩ := parseSelectors_append count tail hwf hno
    obtain ⟨w, hw, hstart, hend⟩ := hwf1.width
    refine ⟨s.bytes w ++ bs, ?_, ?_⟩
    · rw [appendSelectors, ((appendSelector_of_hasWidth hw hstart hend).1 hno1).1, hbs]
      rfl
    · rw [List.length_cons, parseSelectors, List.append_assoc, parseSelector_bytes hwf1 hw hno1, wrap,
        ok_bind]
      dsimp only
      rw [hparse]
      rfl

theorem notMapped_of_parseSelectors (count : ℕ) : ∀ {ss ss' : List Selector} {bs tail tail' : Bytes},
    (∀ s ∈ ss, s.WellFormed) → appendSelectors ss = .ok bs →
    parseSelectors count ss.length (bs ++ tail) = .ok (ss', tail') → ∀ s ∈ ss, s.NotMapped
  | [], _, _, _, _, _, _, _ => by simp
  | s :: ss, ss', bs, tail, tail', hwf, hbs, hparse => by
    obtain ⟨hwf1, hwf⟩ := List.forall_mem_cons.mp hwf
    obtain ⟨e, he, hbs⟩ := bind_eq_ok.mp hbs
    obtain ⟨bs', hbs', hbs⟩ := bind_eq_ok.mp hbs
    obtain rfl := Except.ok.inj hbs
    rw [List.length_cons, List.append_assoc] at hparse
    obtain ⟨s', ss'', rest, hs, hss, -⟩ := parseSelectors_succ_eq_ok hparse
    have hno := notMapped_of_parse hwf1 he hs
    obtain ⟨w, hw, hstart, hend⟩ := hwf1.width
    have hbytes := Except.ok.inj (he.symm.trans ((appendSelector_of_hasWidth hw hstart hend).1 hno).1)
    rw [hbytes, parseSelector_bytes hwf1 hw hno] at hs
    obtain ⟨-, rfl⟩ := Prod.mk.inj (Except.ok.inj hs)
    exact List.forall_mem_cons.mpr ⟨hno, notMapped_of_parseSelectors count hwf hbs' hss⟩

/-! ### The body -/

def TrafficSelectors.NotMapped (ts : TrafficSelectors) : Prop := ∀ s ∈ ts.selectors, s.NotMapped

def TrafficSelectors.canonical (ts : TrafficSelectors) : TrafficSelectors :=
  ⟨ts.selectors.map Selector.canonical⟩

structure TrafficSelectors.WellFormed (ts : TrafficSelectors) : Prop where
  count : ts.selectors.length ≤ 255
  selectors : ∀ s ∈ ts.selectors, s.WellFormed

theorem parseTS_header {n : ℕ} (hn : n ≤ 255) (bs : Bytes) (ts : TrafficSelectors) :
    parseTS ([UInt8.ofNat n, 0, 0, 0] ++ bs) = .ok ts ↔ parseSelectors n n bs = .ok (ts.selectors, []) := by
  have hcount : (([UInt8.ofNat n, 0, 0, 0] ++ bs).getD 0 0).toNat = n := by
    change n % 256 = n
    exact Nat.mod_eq_of_lt (by omega)
  rw [parseTS, if_neg (by simp [tsSelectorFixedLen]), hcount]
  dsimp only
  rw [if_neg (by simp [slice, tsSelectorFixedLen]),
    show ([UInt8.ofNat n, 0, 0, 0] ++ bs).drop tsSelectorFixedLen = bs from rfl]
  constructor
  · intro h
    obtain ⟨⟨ss, rest⟩, hss, h⟩ := bind_eq_ok.mp h
    dsimp only at h
    split_ifs at h with hrest
    obtain rfl := Except.ok.inj h
    obtain rfl := List.eq_nil_of_length_eq_zero (not_not.mp hrest)
    exact hss
  · intro h
    rw [h]
    rfl

theorem exists_header_of_parseTS {ts : TrafficSelectors} (h : parseTS b = .ok ts) :
    ∃ n ≤ 255, ∃ bs, b = [UInt8.ofNat n, 0, 0, 0] ++ bs := by
  unfold parseTS at h
  by_cases hshort : b.length < tsSelectorFixedLen
  · rw [if_pos hshort] at h
    cases h
  rw [if_neg hshort] at h
  dsimp only at h
  split_ifs at h with hres
  obtain ⟨x0, x1, x2, x3, rest, rfl⟩ := exists_four (not_lt.mp hshort)
  rw [not_or, not_or, not_or, not_not, not_not, not_not] at hres
  obtain ⟨-, h1, h2, h3⟩ := hres
  obtain rfl : x1 = 0 := h1
  obtain rfl : x2 = 0 := h2
  obtain rfl : x3 = 0 := h3
  have hlt := x0.toNat_lt
  exact ⟨x0.toNat, by omega, rest, by rw [UInt8.ofNat_toNat]; rfl⟩

/-- **The traffic selector codec.** An accepted body is written again exactly if no IPv6 selector has
an address that stands for an IPv4 address; and under the same condition a well-formed list of
selectors is read back. -/
theorem ts_codec (ts : TrafficSelectors) :
    (∀ b, parseTS b = .ok ts → (appendTS ts = .ok b ↔ ts.NotMapped)) ∧
    (ts.WellFormed → ((∃ b, appendTS ts = .ok b ∧ parseTS b = .ok ts.canonical) ↔ ts.NotMapped)) := by
  refine ⟨fun b h => ?_, fun hwf => ⟨?_, fun hno => ?_⟩⟩
  · obtain ⟨n, hn, bs, rfl⟩ := exists_header_of_parseTS h
    obtain ⟨hlen, bs', hsplit, hok, hle⟩ := parseSelectors_eq_ok n ((parseTS_header hn bs ts).mp h)
    rw [List.append_nil] at hsplit
    obtain rfl := hsplit
    have happend : appendTS ts = appendSelectors ts.selectors >>= fun entries =>
        .ok ([UInt8.ofNat n, 0, 0, 0] ++ entries) := by
      rw [appendTS, if_neg (by omega), hlen]
    rw [happend]
    constructor
    · intro h
      obtain ⟨entries, hentries, h⟩ := bind_eq_ok.mp h
      have hsame : entries = bs := List.append_cancel_left (Except.ok.inj h)
      exact (hle entries hentries).2 (by rw [hsame])
    · intro hno
      rw [hok hno]
      rfl
  · rintro ⟨b, hb, hparse⟩
    rw [appendTS, if_neg (not_lt.mpr hwf.count)] at hb
    obtain ⟨bs, hbs, hb⟩ := bind_eq_ok.mp hb
    obtain rfl := Except.ok.inj hb
    have hread := (parseTS_header hwf.count bs _).mp hparse
    rw [← List.append_nil bs] at hread
    exact notMapped_of_parseSelectors _ hwf.selectors hbs hread
  · obtain ⟨bs, hbs, hparse⟩ := parseSelectors_append ts.selectors.length [] hwf.selectors hno
    rw [List.append_nil] at hparse
    refine ⟨[UInt8.ofNat ts.selectors.length, 0, 0, 0] ++ bs, ?_,
      (parseTS_header hwf.count bs _).mpr hparse⟩
    rw [appendTS, if_neg (not_lt.mpr hwf.count), hbs]
    rfl

section Sample

/-- A selector for all IPv4 addresses, and one for the IPv6 addresses up to `ffff::`. -/
def sampleSelectors : TrafficSelectors :=
  ⟨[⟨7, 0, 0, 0xffff, [0, 0, 0, 0], [255, 255, 255, 255]⟩,
    ⟨8, 0, 0, 0xffff, List.replicate 16 0, [255, 255] ++ List.replicate 14 0⟩]⟩

theorem sample_ts_codec :
    ∃ b, appendTS sampleSelectors = .ok b ∧ parseTS b = .ok sampleSelectors.canonical := by
  refine ((ts_codec sampleSelectors).2 ⟨by decide, ?_⟩).mpr ?_
  · have h4 : Selector.WellFormed ⟨7, 0, 0, 0xffff, [0, 0, 0, 0], [255, 255, 255, 255]⟩ :=
      ⟨⟨4, rfl, .inl ⟨rfl, rfl⟩, .inl ⟨rfl, rfl⟩⟩, rfl, by decide, by decide⟩
    have h6 : Selector.WellFormed
        ⟨8, 0, 0, 0xffff, List.replicate 16 0, [255, 255] ++ List.replicate 14 0⟩ :=
      ⟨⟨16, rfl, .inr ⟨rfl, rfl⟩, .inr ⟨rfl, rfl⟩⟩, rfl, by decide, by decide⟩
    exact List.forall_mem_cons.mpr ⟨h4, List.forall_mem_cons.mpr ⟨h6, by simp⟩⟩
  · have h4 : Selector.NotMapped ⟨7, 0, 0, 0xffff, [0, 0, 0, 0], [255, 255, 255, 255]⟩ :=
      fun h => absurd h (by decide)
    have h6 : Selector.NotMapped
        ⟨8, 0, 0, 0xffff, List.replicate 16 0, [255, 255] ++ List.replicate 14 0⟩ :=
      fun _ => ⟨by decide, by decide⟩
    exact List.forall_mem_cons.mpr ⟨h4, List.forall_mem_cons.mpr ⟨h6, by simp⟩⟩

/-- A body with one IPv6 selector from `::` to `::ffff:10.0.0.1`. -/
def mappedEnd : Bytes :=
  [1, 0, 0, 0, 8, 0, 0, 40, 0, 0, 255, 255] ++ List.replicate 16 0 ++ (v4InV6Prefix ++ [10, 0, 0, 1])

/-- The body is accepted, and the writer panics on what was read. -/
theorem mapped_selector_panics : ∃ ts, parseTS mappedEnd = .ok ts ∧
    appendTS ts = .error (.panicked
      "github.com/wsm25/swan/payload: traffic selector address width mismatch 16/4") :=
  ⟨⟨[⟨8, 0, 0, 0xffff, List.replicate 16 0, v4InV6Prefix ++ [10, 0, 0, 1]⟩]⟩, by decide, by decide⟩

end Sample

end Swan.Payload
