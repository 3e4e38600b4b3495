import Swan.Wire.Message

/-! # Building a cleartext message

The builder appends payloads to a buffer and writes the type of each into the next-payload field of
the one before it, first into that of the IKE header. `Builds h parts b` says what the buffer holds
after `parts` were pushed: whatever type is written into the open field, the buffer is the header
followed by the chain of `parts` that ends in this type. `builds_push` keeps it, and `finish_eq` reads
off the finished packet.

In the other direction, `Tiles` says that payload headers and bodies, and the encrypted payload at
the end, follow one another in a byte string with nothing between or behind them; `tiles_parseChain`
shows it of whatever the payload walk accepts. `message_codec` has both directions. -/

namespace Swan.Wire

open Swan.Lib

/-! ### The builder -/

structure Builder where
  buf : Bytes
  first : PayloadType
  firstSet : Bool
  /-- The position of the next-payload field that the next push fills in. -/
  lastNextOffset : ℕ
  deriving DecidableEq, Repr

def errPayloadNone : Err :=
  .errorf s!"payload type {PayloadType.none}: cannot push None as a payload"

def errPayloadTooLarge (t : PayloadType) (n : ℕ) : Err :=
  .errorf s!"payload type {t} too long: {n} bytes"

def errPacketTooLarge (n : ℕ) : Err := .errorf s!"ike packet too long: {n} bytes"

def newBuilder (h : Header) : Builder :=
  { buf := h.marshalTo [], first := PayloadType.none, firstSet := false, lastNextOffset := 16 }

namespace Builder

def push (b : Builder) (t : PayloadType) (critical : Bool) (body : Bytes) : Except Err Builder :=
  if t = PayloadType.none then .error errPayloadNone
  else
    let total := payloadHeaderLen + body.length
    if total > 0xffff then .error (errPayloadTooLarge t total)
    else if b.buf.length + total > 0xffff + headerLen then
      .error (errPacketTooLarge (b.buf.length + total))
    else
      let start := b.buf.length
      let buf := b.buf ++ payloadHeader PayloadType.none critical total
      .ok { buf := buf.set b.lastNextOffset t ++ body
            first := if b.firstSet then b.first else t
            firstSet := true
            lastNextOffset := start }

def firstPayload (b : Builder) : PayloadType := if b.firstSet then b.first else PayloadType.none

/-- Write the length of the buffer into the length field of the header. -/
def patchLength (b : Builder) : Builder :=
  { b with buf := b.buf.take 24 ++ putUint32 (UInt32.ofNat b.buf.length) ++ b.buf.drop 28 }

def finish (b : Builder) : Bytes :=
  (patchLength { b with buf := b.buf.set 16 b.firstPayload }).buf

end Builder

/-- What one push adds. -/
structure Part where
  type : PayloadType
  critical : Bool
  body : Bytes
  deriving DecidableEq, Repr

def Builder.pushAll : Builder → List Part → Except Err Builder
  | b, [] => .ok b
  | b, p :: ps => do
    let b ← b.push p.type p.critical p.body
    b.pushAll ps

/-! ### Linked parts -/

/-- The type of the first part, `t` if there is none. -/
def firstOr (t : PayloadType) : List Part → PayloadType
  | [] => t
  | p :: _ => p.type

/-- The parts as payloads, each announcing the next one and the last one announcing `t`. -/
def linkTo (t : PayloadType) : List Part → List Payload
  | [] => []
  | p :: ps => { type := p.type, critical := p.critical, next := firstOr t ps, body := p.body } ::
      linkTo t ps

theorem firstOr_append (t : PayloadType) (p : Part) : ∀ ps : List Part,
    firstOr t (ps ++ [p]) = firstOr p.type ps
  | [] => rfl
  | _ :: _ => rfl

theorem chainBytes_append : ∀ ps qs : List Payload, chainBytes (ps ++ qs) = chainBytes ps ++ chainBytes qs
  | [], _ => rfl
  | p :: ps, qs => by
    rw [List.cons_append, chainBytes, chainBytes, chainBytes_append ps qs]
    simp only [List.append_assoc]

theorem linkTo_append (t : PayloadType) (p : Part) : ∀ ps : List Part, linkTo t (ps ++ [p]) =
    linkTo p.type ps ++ [{ type := p.type, critical := p.critical, next := t, body := p.body }]
  | [] => rfl
  | q :: ps => by rw [List.cons_append, linkTo, linkTo_append t p ps, firstOr_append]; rfl

theorem map_linkTo (t : PayloadType) : ∀ ps : List Part,
    (linkTo t ps).map (fun p => Part.mk p.type p.critical p.body) = ps
  | [] => rfl
  | p :: ps => by rw [linkTo, List.map_cons, map_linkTo t ps]

/-- A part that the payload walk reads as such: its type is not none and not that of an encrypted
payload. -/
def Part.Clear (p : Part) : Prop := p.type ≠ PayloadType.none ∧ ¬IsEncrypted p.type

theorem linkedFrom_linkTo : ∀ {ps : List Part}, (∀ p ∈ ps, p.Clear) →
    (∀ p ∈ ps, payloadHeaderLen + p.body.length ≤ 0xffff) →
    LinkedFrom (firstOr PayloadType.none ps) (linkTo PayloadType.none ps)
  | [], _, _ => rfl
  | p :: ps, hclear, hlen => by
    obtain ⟨⟨hnone, henc⟩, hclear⟩ := List.forall_mem_cons.mp hclear
    obtain ⟨hp, hlen⟩ := List.forall_mem_cons.mp hlen
    exact ⟨rfl, hnone, henc, hp, linkedFrom_linkTo hclear hlen⟩

/-! ### What the buffer holds -/

theorem set_nextPayload (h : Header) (t : PayloadType) (rest : Bytes) :
    (h.marshalTo [] ++ rest).set 16 t = { h with nextPayload := t }.marshalTo [] ++ rest := by
  have hfront : (putUint64 h.initiatorSPI ++ putUint64 h.responderSPI).length = 16 := by simp
  have hsplit : ∀ h' : Header, h'.initiatorSPI = h.initiatorSPI → h'.responderSPI = h.responderSPI →
      h'.marshalTo [] ++ rest = (putUint64 h.initiatorSPI ++ putUint64 h.responderSPI) ++
        (h'.nextPayload :: (h'.version :: h'.exchangeType :: h'.flags ::
          (putUint32 h'.messageID ++ (putUint32 h'.length ++ rest)))) := by
    intro h' hi hr
    simp [Header.marshalTo, hi, hr]
  rw [hsplit h rfl rfl, hsplit { h with nextPayload := t } rfl rfl, List.set_append_right _ _ hfront.le,
    hfront]
  rfl

theorem patch_length (h : Header) (n : UInt32) (rest : Bytes) :
    (h.marshalTo [] ++ rest).take 24 ++ putUint32 n ++ (h.marshalTo [] ++ rest).drop 28 =
      { h with length := n }.marshalTo [] ++ rest := by
  have hsplit : ∀ h' : Header, h'.marshalTo [] ++ rest =
      (putUint64 h'.initiatorSPI ++ putUint64 h'.responderSPI ++
        [h'.nextPayload, h'.version, h'.exchangeType, h'.flags] ++ putUint32 h'.messageID) ++
          (putUint32 h'.length ++ rest) := by
    intro h'
    simp [Header.marshalTo]
  have htake : (h.marshalTo [] ++ rest).take 24 = putUint64 h.initiatorSPI ++ putUint64 h.responderSPI ++
      [h.nextPayload, h.version, h.exchangeType, h.flags] ++ putUint32 h.messageID := by
    rw [hsplit]
    exact List.take_left' (by simp)
  have hdrop : (h.marshalTo [] ++ rest).drop 28 = rest := List.drop_left' (by simp [headerLen])
  rw [htake, hdrop, hsplit]
  simp

/-- After pushing `parts` on a builder for the header `h`: the buffer, what it is once a type is
written into the open next-payload field, and the type of the first payload. -/
structure Builds (h : Header) (parts : List Part) (b : Builder) : Prop where
  open_lt : b.lastNextOffset < b.buf.length
  filled : ∀ t, b.buf.set b.lastNextOffset t =
    { h with nextPayload := firstOr t parts }.marshalTo [] ++ chainBytes (linkTo t parts)
  buf : b.buf = { h with nextPayload := firstOr h.nextPayload parts }.marshalTo [] ++
    chainBytes (linkTo PayloadType.none parts)
  first : ∀ t, (if b.firstSet then b.first else t) = firstOr t parts
  lengths : ∀ p ∈ parts, payloadHeaderLen + p.body.length ≤ 0xffff
  length : b.buf.length ≤ 0xffff + headerLen

theorem builds_new (h : Header) : Builds h [] (newBuilder h) := by
  have hlen : (newBuilder h).buf.length = 28 := length_marshalTo h []
  have hnil : ∀ h' : Header, h'.marshalTo [] ++ [] = h'.marshalTo [] := fun h' => List.append_nil _
  refine ⟨?_, fun t => ?_, (hnil h).symm, fun t => rfl, by simp, ?_⟩
  · rw [hlen]
    exact (by decide : 16 < 28)
  · have hset := set_nextPayload h t []
    rw [hnil] at hset
    exact hset
  · rw [hlen]
    decide

variable {b : Builder} {h : Header} {parts : List Part} {next : PayloadType}

theorem push_eq_ok {b' : Builder} {p : Part} (h : b.push p.type p.critical p.body = .ok b') :
    payloadHeaderLen + p.body.length ≤ 0xffff ∧
    b.buf.length + (payloadHeaderLen + p.body.length) ≤ 0xffff + headerLen ∧
    b' = { buf := (b.buf ++ payloadHeader PayloadType.none p.critical
              (payloadHeaderLen + p.body.length)).set b.lastNextOffset p.type ++ p.body
           first := if b.firstSet then b.first else p.type
           firstSet := true
           lastNextOffset := b.buf.length } := by
  unfold Builder.push at h
  by_cases hnone : p.type = PayloadType.none
  · rw [if_pos hnone] at h
    cases h
  by_cases hlong : payloadHeaderLen + p.body.length > 0xffff
  · rw [if_neg hnone, if_pos hlong] at h
    cases h
  by_cases htotal : b.buf.length + (payloadHeaderLen + p.body.length) > 0xffff + headerLen
  · rw [if_neg hnone, if_neg hlong, if_pos htotal] at h
    cases h
  rw [if_neg hnone, if_neg hlong, if_neg htotal] at h
  exact ⟨not_lt.mp hlong, not_lt.mp htotal, (Except.ok.inj h).symm⟩

theorem builds_push {b' : Builder} (hb : Builds h parts b) {p : Part}
    (hpush : b.push p.type p.critical p.body = .ok b') : Builds h (parts ++ [p]) b' := by
  obtain ⟨hlong, htotal, rfl⟩ := push_eq_ok hpush
  set hd := payloadHeader PayloadType.none p.critical (payloadHeaderLen + p.body.length) with hhd
  have hhdlen : hd.length = payloadHeaderLen := length_payloadHeader _ _ _
  -- the field that was open is in the old part of the buffer
  have hbuf : (b.buf ++ hd).set b.lastNextOffset p.type ++ p.body =
      b.buf.set b.lastNextOffset p.type ++ (hd ++ p.body) := by
    rw [List.set_append_left _ _ hb.open_lt, List.append_assoc]
  have hlen : (b.buf.set b.lastNextOffset p.type).length = b.buf.length := List.length_set
  have hchain : ∀ t, chainBytes (linkTo t (parts ++ [p])) = chainBytes (linkTo p.type parts) ++
      (payloadHeader t p.critical (payloadHeaderLen + p.body.length) ++ p.body) := by
    intro t
    rw [linkTo_append, chainBytes_append]
    simp [chainBytes]
  rw [hbuf]
  refine ⟨?_, fun t => ?_, ?_, fun t => ?_, ?_, ?_⟩
  · change b.buf.length < _
    rw [List.length_append, List.length_append, hlen, hhdlen, payloadHeaderLen]
    omega
  · change (b.buf.set b.lastNextOffset p.type ++ (hd ++ p.body)).set b.buf.length t = _
    rw [List.set_append_right _ _ hlen.le, hlen, Nat.sub_self, hb.filled, firstOr_append, hchain,
      List.append_assoc]
    rfl
  · change b.buf.set b.lastNextOffset p.type ++ (hd ++ p.body) = _
    rw [hb.filled, firstOr_append, hchain, List.append_assoc]
  · change (if b.firstSet then b.first else p.type) = _
    rw [hb.first, firstOr_append]
  · intro q hq
    rcases List.mem_append.mp hq with hq | hq
    · exact hb.lengths q hq
    · rw [List.mem_singleton.mp hq]
      exact hlong
  · change (b.buf.set b.lastNextOffset p.type ++ (hd ++ p.body)).length ≤ _
    rw [List.length_append, List.length_append, hlen, hhdlen]
    exact htotal

theorem builds_pushAll : ∀ {ps parts : List Part} {b b' : Builder}, Builds h parts b →
    b.pushAll ps = .ok b' → Builds h (parts ++ ps) b'
  | [], parts, b, b', hb, hpush => by
    rw [← Except.ok.inj hpush, List.append_nil]
    exact hb
  | p :: ps, parts, b, b', hb, hpush => by
    obtain ⟨b₁, hp, hpush⟩ := bind_eq_ok.mp hpush
    have := builds_pushAll (builds_push hb hp) hpush
    rwa [List.append_assoc] at this

theorem finish_eq (hb : Builds h parts b) :
    b.finish = { h with nextPayload := firstOr PayloadType.none parts
                        length := UInt32.ofNat b.finish.length }.marshalTo [] ++
      chainBytes (linkTo PayloadType.none parts) ∧ b.finish.length = b.buf.length := by
  have hset : b.buf.set 16 b.firstPayload =
      { h with nextPayload := firstOr PayloadType.none parts }.marshalTo [] ++
        chainBytes (linkTo PayloadType.none parts) := by
    rw [hb.buf, set_nextPayload, show b.firstPayload = _ from hb.first PayloadType.none]
  have hfinish : ∀ n : ℕ, (b.buf.set 16 b.firstPayload).length = n → b.finish =
      { h with nextPayload := firstOr PayloadType.none parts
               length := UInt32.ofNat n }.marshalTo [] ++ chainBytes (linkTo PayloadType.none parts) := by
    rintro n rfl
    rw [Builder.finish, Builder.patchLength]
    dsimp only
    rw [hset, patch_length]
  have hlen : b.finish.length = b.buf.length := by
    rw [hfinish _ rfl, List.length_append, length_marshalTo]
    have := congrArg List.length hset
    rw [List.length_set, List.length_append, length_marshalTo] at this
    exact this.symm
  exact ⟨hfinish _ (by rw [hlen, List.length_set]), hlen⟩

/-- **A built message is read back.** -/
theorem parseMessage_finish (hv : h.version = ikeDefaultVersion) (hf : h.flags &&& ~~~flagsMask = 0)
    (hclear : ∀ p ∈ parts, p.Clear) (hpush : (newBuilder h).pushAll parts = .ok b) :
    parseMessage b.finish = .ok
      { header := { h with nextPayload := firstOr PayloadType.none parts
                           length := UInt32.ofNat b.finish.length }
        payloads := linkTo PayloadType.none parts
        encrypted := none } := by
  have hb : Builds h parts b := builds_pushAll (builds_new h) hpush
  obtain ⟨hfinish, hlen⟩ := finish_eq hb
  have hmax : b.finish.length < 2 ^ 32 := by
    have := hb.length
    rw [hlen]
    rw [headerLen] at this
    omega
  have hfield : (UInt32.ofNat b.finish.length).toNat =
      headerLen + (chainBytes (linkTo PayloadType.none parts)).length := by
    have hall := congrArg List.length hfinish
    rw [List.length_append, length_marshalTo] at hall
    rw [UInt32.toNat_ofNat', Nat.mod_eq_of_lt hmax]
    simpa using hall
  have hread := parseHeader_marshalTo
    { h with nextPayload := firstOr PayloadType.none parts
             length := UInt32.ofNat b.finish.length } _ hv hf hfield
  rw [← hfinish] at hread
  rw [parseMessage, hread, ok_bind]
  dsimp only
  rw [parsePayloads_chainBytes true _ _ (linkedFrom_linkTo hclear hb.lengths)]
  rfl

/-! ### Accepted headers and chains -/

theorem parseHeader_eq_ok {raw rest : Bytes} (hparse : parseHeader raw = .ok (h, rest)) :
    ∃ trail, raw = h.marshalTo [] ++ (rest ++ trail) := by
  unfold parseHeader at hparse
  by_cases hshort : raw.length < headerLen
  · rw [if_pos hshort] at hparse
    cases hparse
  rw [if_neg hshort] at hparse
  have h28 : headerLen = 28 := rfl
  obtain ⟨a0, a1, a2, a3, a4, a5, a6, a7, t, rfl⟩ := exists_eight (b := raw) (by omega)
  obtain ⟨b0, b1, b2, b3, b4, b5, b6, b7, t, rfl⟩ := exists_eight (b := t)
    (by simp only [List.length_cons] at hshort; omega)
  obtain ⟨c0, c1, c2, c3, c4, c5, c6, c7, t, rfl⟩ := exists_eight (b := t)
    (by simp only [List.length_cons] at hshort; omega)
  obtain ⟨d0, d1, d2, d3, t, rfl⟩ := exists_four (b := t)
    (by simp only [List.length_cons] at hshort; omega)
  dsimp only at hparse
  split_ifs at hparse with hlow hhigh hversion hflags
  obtain ⟨rfl, rfl⟩ := Prod.mk.inj (Except.ok.inj hparse)
  set raw := a0 :: a1 :: a2 :: a3 :: a4 :: a5 :: a6 :: a7 :: b0 :: b1 :: b2 :: b3 :: b4 :: b5 :: b6 ::
    b7 :: c0 :: c1 :: c2 :: c3 :: c4 :: c5 :: c6 :: c7 :: d0 :: d1 :: d2 :: d3 :: t with hraw
  set n := (beUint32 (slice raw 24 28)).toNat with hn
  have hi : putUint64 (beUint64 (slice raw 0 8)) = [a0, a1, a2, a3, a4, a5, a6, a7] :=
    putUint64_beUint64 rfl
  have hr : putUint64 (beUint64 (slice raw 8 16)) = [b0, b1, b2, b3, b4, b5, b6, b7] :=
    putUint64_beUint64 rfl
  have hm : putUint32 (beUint32 (slice raw 20 24)) = [c4, c5, c6, c7] := putUint32_beUint32 rfl
  have hl : putUint32 (UInt32.ofNat n) = [d0, d1, d2, d3] := by
    rw [hn, UInt32.ofNat_toNat]
    exact putUint32_beUint32 rfl
  have hrest : slice raw headerLen n = t.take (n - 28) := by
    obtain ⟨k, hk⟩ : ∃ k, n = k + 28 := ⟨n - 28, by omega⟩
    rw [h28, slice, hk, Nat.add_sub_cancel]
    rfl
  refine ⟨t.drop (n - 28), ?_⟩
  rw [hrest, List.take_append_drop, Header.marshalTo]
  dsimp only
  rw [hi, hr, hm, hl]
  rfl

/-- `hd` is the generic header of a payload with a body of `n` bytes. -/
structure IsHeader (hd : Bytes) (next : PayloadType) (critical : Bool) (n : ℕ) : Prop where
  length : hd.length = payloadHeaderLen
  next : hd.getD 0 0 = next
  critical : decide (hd.getD 1 0 &&& 0x80 ≠ 0) = critical
  total : (beUint16 (slice hd 2 4)).toNat = payloadHeaderLen + n

theorem IsHeader.eq_iff {hd : Bytes} {critical critical' : Bool} {n : ℕ}
    (h : IsHeader hd next critical n) : hd = payloadHeader next critical' (payloadHeaderLen + n) ↔
      hd.getD 1 0 = if critical' then 0x80 else 0 := by
  obtain ⟨hlen, hnext, -, htotal⟩ := h
  obtain ⟨x0, x1, x2, x3, t, rfl⟩ := exists_four hlen.ge
  obtain rfl : t = [] := List.eq_nil_of_length_eq_zero (by simpa [payloadHeaderLen] using hlen)
  have hwritten : payloadHeader next critical' (payloadHeaderLen + n) =
      [x0, if critical' then 0x80 else 0, x2, x3] := by
    obtain rfl : x0 = next := hnext
    rw [payloadHeader, putUint16_ofNat_toNat htotal, show slice [x0, x1, x2, x3] 2 4 = [x2, x3] from rfl,
      putUint16_pair]
    rfl
  rw [hwritten]
  simp

theorem IsHeader.total_le {hd : Bytes} {critical : Bool} {n : ℕ} (h : IsHeader hd next critical n) :
    payloadHeaderLen + n ≤ 0xffff := by
  have := (beUint16 (slice hd 2 4)).toNat_lt
  rw [h.total] at this
  omega

/-- The bytes of an encrypted payload between its generic header and its body. -/
def EncryptedPayload.fragBytes (e : EncryptedPayload) : Bytes :=
  if e.fragmented then e.frag.bytes else []

/-- `Tiles first ps e b`: the byte string `b` is the header and the body of each payload of `ps`, the
first one of the type `first`, followed by the header, the fragment header and the body of the
encrypted payload `e`, if there is one. -/
def Tiles : PayloadType → List Payload → Option EncryptedPayload → Bytes → Prop
  | first, [], none, b => first = PayloadType.none ∧ b = []
  | first, [], some e, b => e.type = first ∧ IsEncrypted first ∧
      (e.fragmented = true ↔ first = PayloadType.skf) ∧ ∃ hd critical,
        IsHeader hd e.innerNext critical (e.fragBytes.length + e.body.length) ∧
        b = hd ++ (e.fragBytes ++ e.body)
  | first, p :: ps, e, b => p.type = first ∧ first ≠ PayloadType.none ∧ ¬IsEncrypted first ∧
      ∃ hd rest, IsHeader hd p.next p.critical p.body.length ∧ b = hd ++ (p.body ++ rest) ∧
        Tiles p.next ps e rest

theorem parseSkfHeader_eq_ok {b tail : Bytes} {f : SkfHeader} (h : parseSkfHeader b = .ok (f, tail)) :
    b = f.bytes ++ tail ∧ ¬f.Invalid := by
  unfold parseSkfHeader at h
  split_ifs at h with hshort
  dsimp only at h
  split_ifs at h with hinvalid
  obtain ⟨rfl, rfl⟩ := Prod.mk.inj (Except.ok.inj h)
  obtain ⟨x0, x1, x2, x3, t, rfl⟩ := exists_four (not_lt.mp hshort)
  refine ⟨?_, hinvalid⟩
  rw [SkfHeader.bytes]
  dsimp only
  rw [show slice (x0 :: x1 :: x2 :: x3 :: t) 0 2 = [x0, x1] from rfl,
    show slice (x0 :: x1 :: x2 :: x3 :: t) 2 4 = [x2, x3] from rfl, putUint16_pair, putUint16_pair]
  rfl

theorem parseEnvelope_eq_ok {t : PayloadType} {body : Bytes} {e : EncryptedPayload}
    (h : parseEnvelope t next body = .ok e) : e.type = t ∧ e.innerNext = next ∧
      (e.fragmented = true ↔ t = PayloadType.skf) ∧ body = e.fragBytes ++ e.body := by
  unfold parseEnvelope at h
  split_ifs at h with hskf
  · obtain ⟨⟨f, tail⟩, hf, h⟩ := bind_eq_ok.mp h
    obtain rfl := Except.ok.inj h
    exact ⟨rfl, rfl, ⟨fun _ => hskf, fun _ => rfl⟩, (parseSkfHeader_eq_ok hf).1⟩
  · obtain rfl := Except.ok.inj h
    exact ⟨rfl, rfl, ⟨fun h => absurd h Bool.false_ne_true, fun h => absurd h hskf⟩, rfl⟩

theorem parseChain_succ_eq_ok {stop : Bool} {fuel : ℕ} {b : Bytes} {first : PayloadType}
    {ps : List Payload} {e : Option EncryptedPayload}
    (h : parseChain stop (fuel + 1) b first = .ok (ps, e)) :
    (first = PayloadType.none ∧ b = [] ∧ ps = [] ∧ e = none) ∨
    (first ≠ PayloadType.none ∧ ∃ x0 x1 x2 x3 t, b = x0 :: x1 :: x2 :: x3 :: t ∧
      ∃ n ≤ t.length, (beUint16 [x2, x3]).toNat = payloadHeaderLen + n ∧
        ((IsEncrypted first ∧ stop = true ∧ n = t.length ∧ ps = [] ∧
            ∃ e', parseEnvelope first x0 t = .ok e' ∧ e = some e') ∨
          (¬IsEncrypted first ∧ ∃ ps', parseChain stop fuel (t.drop n) x0 = .ok (ps', e) ∧
            ps = { type := first, critical := decide (x1 &&& 0x80 ≠ 0), next := x0
                   body := t.take n } :: ps'))) := by
  rw [parseChain] at h
  by_cases hnone : first = PayloadType.none
  · rw [if_pos hnone] at h
    split_ifs at h with hempty
    obtain ⟨rfl, rfl⟩ := Prod.mk.inj (Except.ok.inj h)
    exact .inl ⟨hnone, List.eq_nil_of_length_eq_zero (not_not.mp hempty), rfl, rfl⟩
  rw [if_neg hnone] at h
  by_cases hshort : b.length < payloadHeaderLen
  · rw [if_pos hshort] at h
    cases h
  rw [if_neg hshort] at h
  obtain ⟨x0, x1, x2, x3, t, rfl⟩ := exists_four (not_lt.mp hshort)
  refine .inr ⟨hnone, x0, x1, x2, x3, t, rfl, ?_⟩
  have h4 : payloadHeaderLen = 4 := rfl
  rw [show slice (x0 :: x1 :: x2 :: x3 :: t) 2 4 = [x2, x3] from rfl] at h
  set length := (beUint16 [x2, x3]).toNat with hlength
  dsimp only at h
  by_cases hlow : length < payloadHeaderLen
  · rw [if_pos hlow] at h
    cases h
  rw [if_neg hlow] at h
  by_cases hhigh : length > (x0 :: x1 :: x2 :: x3 :: t).length
  · rw [if_pos hhigh] at h
    cases h
  rw [if_neg hhigh] at h
  simp only [List.length_cons] at hhigh
  obtain ⟨n, hn⟩ : ∃ n, length = payloadHeaderLen + n := ⟨length - 4, by omega⟩
  refine ⟨n, by omega, hn, ?_⟩
  have hbody : slice (x0 :: x1 :: x2 :: x3 :: t) payloadHeaderLen length = t.take n := by
    rw [hn, h4, slice, Nat.add_comm]
    rfl
  have hdrop : (x0 :: x1 :: x2 :: x3 :: t).drop length = t.drop n := by
    rw [hn, h4, Nat.add_comm]
    rfl
  rw [hbody, hdrop] at h
  by_cases henc : IsEncrypted first
  · rw [if_pos henc] at h
    split_ifs at h with hstop hend
    obtain ⟨e', he', h⟩ := bind_eq_ok.mp h
    obtain ⟨rfl, rfl⟩ := Prod.mk.inj (Except.ok.inj h)
    have hnt : n = t.length := by
      rw [not_not, List.length_cons, List.length_cons, List.length_cons, List.length_cons] at hend
      omega
    rw [hnt, List.take_length] at he'
    exact .inl ⟨henc, by simpa using hstop, hnt, rfl, e', he', rfl⟩
  · rw [if_neg henc] at h
    obtain ⟨⟨ps', e'⟩, hps, h⟩ := bind_eq_ok.mp h
    obtain ⟨rfl, rfl⟩ := Prod.mk.inj (Except.ok.inj h)
    exact .inr ⟨henc, ps', hps, rfl⟩

/-- **An accepted chain is tiled by its payloads.** -/
theorem tiles_parseChain {stop : Bool} : ∀ {fuel : ℕ} {b : Bytes} {first : PayloadType}
    {ps : List Payload} {e : Option EncryptedPayload},
    parseChain stop fuel b first = .ok (ps, e) → Tiles first ps e b := by
  intro fuel
  induction fuel with
  | zero =>
    intro b first ps e h
    cases h
  | succ fuel ih =>
    intro b first ps e h
    rcases parseChain_succ_eq_ok h with ⟨rfl, rfl, rfl, rfl⟩ |
      ⟨hnone, x0, x1, x2, x3, t, rfl, n, hle, hn, hround⟩
    · exact ⟨rfl, rfl⟩
    rcases hround with ⟨henc, -, rfl, rfl, e', he', rfl⟩ | ⟨henc, ps', hps, rfl⟩
    · obtain ⟨htype, hnext, hfrag, hbody⟩ := parseEnvelope_eq_ok he'
      refine ⟨htype, henc, hfrag, [x0, x1, x2, x3], _, ⟨rfl, hnext.symm, rfl, ?_⟩, ?_⟩
      · rw [← List.length_append, ← hbody]
        exact hn
      · rw [← hbody]
        rfl
    · have hlen : (t.take n).length = n := by rw [List.length_take, min_eq_left hle]
      refine ⟨rfl, hnone, henc, [x0, x1, x2, x3], t.drop n, ⟨rfl, rfl, rfl, ?_⟩, ?_, ih hps⟩
      · rw [hlen]
        exact hn
      · rw [List.take_append_drop]
        rfl

/-! ### Both directions -/

/-- **The message codec.** A message built from a header that passes the checks of the parser and
from payloads that can be pushed is read back; and an accepted payload chain is tiled by the headers
and bodies of the payloads that are returned, with the encrypted payload at its end. -/
theorem message_codec :
    (∀ (h : Header) (parts : List Part) (b : Builder), h.version = ikeDefaultVersion →
      h.flags &&& ~~~flagsMask = 0 → (∀ p ∈ parts, p.Clear) →
      (newBuilder h).pushAll parts = .ok b →
      ∃ msg, parseMessage b.finish = .ok msg ∧
        msg.header = { h with nextPayload := firstOr PayloadType.none parts
                              length := UInt32.ofNat b.finish.length } ∧
        msg.payloads.map (fun p => Part.mk p.type p.critical p.body) = parts ∧
        msg.encrypted = none) ∧
    ∀ (b : Bytes) (first : PayloadType) (stop : Bool) (ps : List Payload)
      (e : Option EncryptedPayload), parsePayloads b first stop = .ok (ps, e) → Tiles first ps e b :=
  ⟨fun _ _ _ hv hf hclear hpush => ⟨_, parseMessage_finish hv hf hclear hpush, rfl, map_linkTo _ _, rfl⟩,
    fun _ _ _ _ _ h => tiles_parseChain h⟩

section Sample

/-- The header of an IKE_SA_INIT request. -/
def sampleHeader : Header :=
  { initiatorSPI := 7, responderSPI := 0, nextPayload := 0, version := ikeDefaultVersion
    exchangeType := ExchangeType.ikeSAInit, flags := flagInitiator, messageID := 0, length := 0 }

def sampleParts : List Part := [⟨PayloadType.sa, false, [1, 2]⟩, ⟨PayloadType.nonce, true, []⟩]

theorem sample_message_codec : ∃ b msg, (newBuilder sampleHeader).pushAll sampleParts = .ok b ∧
    parseMessage b.finish = .ok msg ∧
    msg.payloads.map (fun p => Part.mk p.type p.critical p.body) = sampleParts := by
  obtain ⟨b, hb⟩ : ∃ b, (newBuilder sampleHeader).pushAll sampleParts = .ok b := ⟨_, rfl⟩
  have hclear : ∀ p ∈ sampleParts, p.Clear := by
    refine List.forall_mem_cons.mpr ⟨⟨by decide, by decide⟩, List.forall_mem_cons.mpr ⟨?_, by simp⟩⟩
    exact ⟨by decide, by decide⟩
  obtain ⟨msg, hmsg, -, hparts, -⟩ := message_codec.1 sampleHeader sampleParts b rfl rfl hclear hb
  exact ⟨b, msg, hb, hmsg, hparts⟩

end Sample

end Swan.Wire
