import Swan.Wire.Bounds
import Swan.Wire.Builder
import Swan.Payload.Bounds
import Swan.Control.Protected

/-! # Bounds of the parsers

The walk over the raw bytes of a protected packet, up to the ranges that are passed to decryption
(`outerWalk`, the first part of `openRaw`), and the removal of the padding, with run-time checks.
`parsers_in_bounds` gathers what holds of all parsers: on every byte string every index and slice is
inside the input, every loop iteration that is followed by another one has consumed a byte, and there are
no more iterations than bytes. -/

namespace Swan.Control

open Swan.Lib Swan.Wire Swan.Xcrypto

/-- What the walk over the outer chain passes on: the ranges to authenticate and to decrypt. -/
structure OuterWalk where
  header : Header
  innerNext : PayloadType
  frag : Option SkfHeader
  aad : Bytes
  body : Bytes

def outerWalk (raw : Bytes) : Except Err OuterWalk := do
  let (header, rest) ← parseHeader raw
  let loc ← findEncrypted rest (rest.length + 1) header.nextPayload 0
  let (frag, ivStart) ← locateBody raw loc
  .ok { header, innerNext := loc.innerNext, frag, aad := raw.take ivStart
        body := slice raw ivStart loc.payloadEnd }

theorem openRaw_eq [Crypto] (role : Bool) (sel : Selection) (keys : IKEKeys) (raw : Bytes) :
    openRaw role sel keys raw = outerWalk raw >>= fun w =>
      openEncryptedBody sel (inboundKeyHalves role keys).1 (inboundKeyHalves role keys).2 w.aad w.body >>=
        fun plain => .ok
          { header := w.header, innerNext := w.innerNext, frag := w.frag, body := w.body, plain } := by
  rw [openRaw, outerWalk]
  cases parseHeader raw with
  | error e => rfl
  | ok hr =>
    obtain ⟨header, rest⟩ := hr
    rw [ok_bind, ok_bind]
    dsimp only
    cases findEncrypted rest (rest.length + 1) header.nextPayload 0 with
    | error e => rfl
    | ok loc =>
      rw [ok_bind, ok_bind]
      cases locateBody raw loc with
      | error e => rfl
      | ok r => rfl

theorem findEncrypted_bounds {rest : Bytes} : ∀ {fuel : ℕ} {type : PayloadType} {off : ℕ} {loc : EncLocation},
    findEncrypted rest fuel type off = .ok loc →
    loc.payloadStart + payloadHeaderLen ≤ loc.payloadEnd ∧ loc.payloadEnd = headerLen + rest.length
  | 0, _, _, _, h => nomatch h
  | fuel + 1, type, off, loc, h => by
    rw [findEncrypted] at h
    by_cases hnone : type = PayloadType.none
    · rw [if_pos hnone] at h
      cases h
    rw [if_neg hnone] at h
    by_cases hshort : rest.length - off < payloadHeaderLen
    · rw [if_pos hshort] at h
      cases h
    rw [if_neg hshort] at h
    dsimp only at h
    set length := (beUint16 (slice rest (off + 2) (off + 4))).toNat
    by_cases hlength : length < payloadHeaderLen ∨ off + length > rest.length
    · rw [if_pos hlength] at h
      cases h
    rw [if_neg hlength] at h
    rw [not_or] at hlength
    by_cases henc : IsEncrypted type
    · rw [if_pos henc] at h
      by_cases hend : off + length ≠ rest.length
      · rw [if_pos hend] at h
        cases h
      rw [if_neg hend] at h
      obtain rfl := Except.ok.inj h
      exact ⟨by dsimp only; omega, by dsimp only; omega⟩
    · rw [if_neg henc] at h
      exact findEncrypted_bounds h

theorem locateBody_le {raw : Bytes} {loc : EncLocation} {frag : Option SkfHeader} {ivStart : ℕ}
    (hstart : loc.payloadStart + payloadHeaderLen ≤ loc.payloadEnd)
    (h : locateBody raw loc = .ok (frag, ivStart)) : ivStart ≤ loc.payloadEnd := by
  rw [locateBody] at h
  dsimp only at h
  by_cases hskf : loc.encType = PayloadType.skf
  · rw [if_pos hskf] at h
    by_cases hshort : loc.payloadStart + payloadHeaderLen + skfHeaderLen > loc.payloadEnd
    · rw [if_pos hshort] at h
      cases h
    rw [if_neg hshort] at h
    obtain ⟨r, -, hr⟩ := bind_eq_ok.mp h
    obtain ⟨-, rfl⟩ := Prod.mk.inj (Except.ok.inj hr)
    omega
  · rw [if_neg hskf] at h
    obtain ⟨-, rfl⟩ := Prod.mk.inj (Except.ok.inj h)
    exact hstart

namespace Checked

open Swan.Lib.Checked

def findEncrypted (raw rest : Bytes) : ℕ → PayloadType → ℕ → Checked EncLocation
  | 0, _, _ => fault
  | fuel + 1, type, off =>
    if type = PayloadType.none then fail
    else iteration (
      if rest.length - off < payloadHeaderLen then fail
      else do
        let lengthField ← range rest (off + 2) (off + 4)
        let length ← uint16 lengthField
        if length.toNat < payloadHeaderLen ∨ off + length.toNat > rest.length then fail
        else do
          let innerNext ← index raw (headerLen + off)
          if IsEncrypted type then
            if off + length.toNat ≠ rest.length then fail
            else pure { encType := type, innerNext, payloadStart := headerLen + off
                        payloadEnd := headerLen + off + length.toNat }
          else
            next (rest.length - off) (rest.length - (off + length.toNat))
              (findEncrypted raw rest fuel innerNext (off + length.toNat)))

def locateBody (raw : Bytes) (loc : EncLocation) : Checked (Option SkfHeader × ℕ) :=
  if loc.encType = PayloadType.skf then
    if loc.payloadStart + payloadHeaderLen + skfHeaderLen > loc.payloadEnd then fail
    else do
      let fragField ← range raw (loc.payloadStart + payloadHeaderLen)
        (loc.payloadStart + payloadHeaderLen + skfHeaderLen)
      let (frag, _) ← Wire.Checked.parseSkfHeader fragField
      pure (some frag, loc.payloadStart + payloadHeaderLen + skfHeaderLen)
  else pure (none, loc.payloadStart + payloadHeaderLen)

def outerWalk (raw : Bytes) : Checked OuterWalk := do
  let (header, rest) ← Wire.Checked.parseHeader raw
  let loc ← findEncrypted raw rest (rest.length + 1) header.nextPayload 0
  let (frag, ivStart) ← locateBody raw loc
  let aad ← range raw 0 ivStart
  let body ← range raw ivStart loc.payloadEnd
  pure { header, innerNext := loc.innerNext, frag, aad, body }

def stripIKEPlaintext (plain : Bytes) : Checked Bytes :=
  if plain.length = 0 then fail
  else do
    let padLen ← index plain (plain.length - 1)
    if padLen.toNat ≥ plain.length then fail
    else range plain 0 (plain.length - 1 - padLen.toNat)

theorem within_findEncrypted {raw hd rest trail : Bytes} (hraw : raw = hd ++ (rest ++ trail))
    (hhd : hd.length = headerLen) : ∀ (fuel : ℕ) (type : PayloadType) (off : ℕ),
    rest.length - off < fuel → off ≤ rest.length →
    Within (fun _ => 0) (rest.length - off + 1) (findEncrypted raw rest fuel type off)
      (Control.findEncrypted rest fuel type off)
  | 0, _, _, hf, _ => absurd hf (Nat.not_lt_zero _)
  | fuel + 1, type, off, hf, hoff => by
    refine Within.guard fun _ => Within.iteration (Within.guard fun hshort => ?_)
    have h4 : payloadHeaderLen = 4 := rfl
    refine Within.uint16At (by omega) (by omega) (Within.guard fun hlength => ?_)
    rw [not_or] at hlength
    have hlen : raw.length = headerLen + (rest.length + trail.length) := by
      rw [hraw, List.length_append, hhd, List.length_append]
    refine Within.index (by omega) ?_
    have hget : raw.getD (headerLen + off) 0 = rest.getD off 0 := by
      rw [hraw, List.getD_eq_getElem?_getD, List.getElem?_append_right (by omega), hhd,
        Nat.add_sub_cancel_left, List.getElem?_append_left (by omega), List.getD_eq_getElem?_getD]
    rw [hget]
    refine Within.ite (fun _ => Within.guard fun _ => within_pure (Nat.zero_le _)) fun _ => ?_
    refine Within.next (by omega) ?_
    exact (within_findEncrypted hraw hhd fuel _ _ (by omega) (by omega)).mono (by omega)

theorem within_locateBody {raw : Bytes} {loc : EncLocation} (hend : loc.payloadEnd ≤ raw.length) :
    Within (fun _ => 0) 0 (locateBody raw loc) (Control.locateBody raw loc) := by
  refine Within.ite (fun _ => Within.guard fun hshort => ?_) fun _ => within_pure le_rfl
  refine Within.range (Nat.le_add_right _ _) (by omega) ?_
  exact (Wire.Checked.within_parseSkfHeader _).bind fun _ _ => within_pure le_rfl

theorem within_outerWalk (raw : Bytes) :
    Within (fun _ => 0) raw.length (outerWalk raw) (Control.outerWalk raw) := by
  refine (Wire.Checked.within_parseHeader raw).bind fun r hhdr => ?_
  obtain ⟨header, rest⟩ := r
  obtain ⟨trail, hraw⟩ := parseHeader_eq_ok hhdr
  have hhd : (header.marshalTo []).length = headerLen := by simp
  have hlen : raw.length = headerLen + (rest.length + trail.length) := by
    rw [hraw, List.length_append, hhd, List.length_append]
  have hpay : rest.length - 0 + 1 ≤ headerLen + rest.length := by rw [headerLen]; omega
  refine ((within_findEncrypted hraw hhd _ header.nextPayload 0 (by omega) (Nat.zero_le _)).mono
    hpay).bind fun loc hloc => ?_
  obtain ⟨hstart, hend⟩ := findEncrypted_bounds hloc
  refine (within_locateBody (by omega)).bind fun r hbody => ?_
  obtain ⟨frag, ivStart⟩ := r
  have hiv := locateBody_le hstart hbody
  refine Within.range (Nat.zero_le _) (by omega) (Within.range hiv (by omega) ?_)
  exact within_pure le_rfl

theorem within_stripIKEPlaintext (plain : Bytes) :
    Within (fun _ => 0) plain.length (stripIKEPlaintext plain) (Control.stripIKEPlaintext plain) := by
  refine Within.guard fun hempty => Within.index (by omega) (Within.guard fun _ => ?_)
  rw [range, if_pos ⟨Nat.zero_le _, by omega⟩]
  exact within_pure (Nat.zero_le _)

end Checked

open Swan.Lib.Checked in
/-- **The parsers stay in bounds.** On every byte string each parser passes its checks, returns what the
plain parser returns, and makes no more loop iterations than there are bytes. -/
theorem parsers_in_bounds (b : Bytes) :
    Within (fun _ => 0) b.length (Wire.Checked.parseMessage b) (parseMessage b) ∧
    Within (fun _ => 0) b.length (Checked.outerWalk b) (outerWalk b) ∧
    Within (fun _ => 0) b.length (Checked.stripIKEPlaintext b) (stripIKEPlaintext b) ∧
    Within (fun _ => 0) b.length (Payload.Checked.parseSA b) (Payload.parseSA b) ∧
    Within (fun _ => 0) b.length (Payload.Checked.parseTS b) (Payload.parseTS b) ∧
    Within (fun _ => 0) b.length (Payload.Checked.parseConfigPayload b) (Payload.parseConfigPayload b) ∧
    Within (fun _ => 0) b.length (Payload.Checked.parseDelete b) (Payload.parseDelete b) ∧
    Within (fun _ => 0) b.length (Payload.Checked.parseNotify b) (Payload.parseNotify b) :=
  ⟨Wire.Checked.within_parseMessage b, Checked.within_outerWalk b, Checked.within_stripIKEPlaintext b,
    Payload.Checked.within_parseSA b, Payload.Checked.within_parseTS b,
    Payload.Checked.within_parseConfigPayload b, Payload.Checked.within_parseDelete b,
    Payload.Checked.within_parseNotify b⟩

end Swan.Control
