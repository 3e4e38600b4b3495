import Swan.Wire.Header

/-! # Payload chains and messages

`parsePayloads` walks a chain of payloads, each announcing the type of the one after it. The walk
consumes at least a payload header per round, so its fuel, the length of the input, never runs out:
`parseChain_fuel` says that more fuel changes nothing. `parsePayloads_chainBytes` reads back a chain
that was written payload by payload. -/

namespace Swan.Wire

open Swan.Lib

/-- One payload of a chain: the fields of its generic header and its body. -/
structure Payload where
  type : PayloadType
  critical : Bool
  next : PayloadType
  body : Bytes
  deriving DecidableEq, Repr

/-- The terminal SK payload or SKF fragment, still encrypted. -/
structure EncryptedPayload where
  type : PayloadType
  /-- The first payload type of the plaintext; for SKF only fragment 1 carries it. -/
  innerNext : PayloadType
  fragmented : Bool
  frag : SkfHeader
  /-- IV, ciphertext and ICV. -/
  body : Bytes
  deriving DecidableEq, Repr

/-- One parsed IKE packet. -/
structure Message where
  header : Header
  payloads : List Payload
  encrypted : Option EncryptedPayload
  deriving DecidableEq, Repr

/-! ### Errors of the payload walk -/

def errPayloadHeader (t : PayloadType) (remaining : ℕ) : Err :=
  .errorf s!"payload type {t} too short for its header: {remaining} bytes remaining"

def errPayloadLength (t : PayloadType) (declared : ℕ) : Err :=
  .errorf s!"payload type {t} length out of bounds: declared {declared} bytes"

def errNotTerminal (t : PayloadType) (trailing : ℕ) : Err :=
  .errorf s!"payload type {t} must terminate the outer payload chain: {trailing} trailing bytes"

def errUnexpectedEncrypted (t : PayloadType) : Err :=
  .errorf s!"payload type {t} is only valid as a terminal outer payload"

def errTrailingBytes (n : ℕ) : Err :=
  .errorf s!"invalid payload chain: {n} trailing bytes after next-payload end"

/-! ### The payload walk -/

def IsEncrypted (t : PayloadType) : Prop := t = PayloadType.sk ∨ t = PayloadType.skf

instance (t : PayloadType) : Decidable (IsEncrypted t) := inferInstanceAs (Decidable (_ ∨ _))

/-- The envelope of an encrypted payload of type `t` with the given next-payload field and body. -/
def parseEnvelope (t payloadNext : PayloadType) (body : Bytes) : Except Err EncryptedPayload :=
  if t = PayloadType.skf then do
    let (frag, tail) ← parseSkfHeader body
    .ok { type := t, innerNext := payloadNext, fragmented := true, frag := frag, body := tail }
  else
    .ok { type := t, innerNext := payloadNext, fragmented := false, frag := ⟨0, 0⟩, body := body }

/-- The rounds of the payload walk. -/
def parseChain (stopAtEncrypted : Bool) :
    ℕ → Bytes → PayloadType → Except Err (List Payload × Option EncryptedPayload)
  | 0, rest, _ => .error (errTrailingBytes rest.length)
  | fuel + 1, rest, next =>
    if next = PayloadType.none then
      -- the chain ended with Next Payload = None
      if rest.length ≠ 0 then .error (errTrailingBytes rest.length) else .ok ([], none)
    else if rest.length < payloadHeaderLen then .error (errPayloadHeader next rest.length)
    else
      let payloadNext := rest.getD 0 0
      let critical := decide (rest.getD 1 0 &&& 0x80 ≠ 0)
      let length := (beUint16 (slice rest 2 4)).toNat
      if length < payloadHeaderLen then .error (errPayloadLength next length)
      else if length > rest.length then .error (errPayloadLength next length)
      else
        let body := slice rest payloadHeaderLen length
        if IsEncrypted next then
          if !stopAtEncrypted then .error (errUnexpectedEncrypted next)
          else if length ≠ rest.length then .error (errNotTerminal next (rest.length - length))
          else do
            let envelope ← parseEnvelope next payloadNext body
            .ok ([], some envelope)
        else do
          let (payloads, encrypted) ← parseChain stopAtEncrypted fuel (rest.drop length) payloadNext
          .ok ({ type := next, critical, next := payloadNext, body } :: payloads, encrypted)

/-- The payloads of a chain whose first one has type `first`, and the terminal encrypted payload. -/
def parsePayloads (buf : Bytes) (first : PayloadType) (stopAtEncrypted : Bool) :
    Except Err (List Payload × Option EncryptedPayload) :=
  parseChain stopAtEncrypted (buf.length + 1) buf first

def parseMessage (b : Bytes) : Except Err Message := do
  let (hdr, rest) ← parseHeader b
  let (payloads, encrypted) ← parsePayloads rest hdr.nextPayload true
  .ok { header := hdr, payloads, encrypted }

theorem parseChain_fuel (stop : Bool) : ∀ (f g : ℕ) (rest : Bytes) (next : PayloadType),
    rest.length < f → rest.length < g → parseChain stop f rest next = parseChain stop g rest next
  | 0, _, _, _, hf, _ => absurd hf (Nat.not_lt_zero _)
  | _ + 1, 0, _, _, _, hg => absurd hg (Nat.not_lt_zero _)
  | f + 1, g + 1, rest, next, hf, hg => by
    set length := (beUint16 (slice rest 2 4)).toNat with hlength
    by_cases hlow : length < payloadHeaderLen
    · simp [parseChain, ← hlength, hlow]
    by_cases hlen : rest.length < payloadHeaderLen
    · simp [parseChain, hlen]
    have hdrop : (rest.drop length).length < rest.length := by
      rw [payloadHeaderLen] at hlow hlen
      rw [List.length_drop]
      omega
    simp only [parseChain, ← hlength, parseChain_fuel stop f g (rest.drop length) (rest.getD 0 0)
      (by omega) (by omega)]

/-! ### Chains written payload by payload -/

def payloadHeader (next : PayloadType) (critical : Bool) (total : ℕ) : Bytes :=
  [next, if critical then 0x80 else 0] ++ putUint16 (UInt16.ofNat total)

@[simp] theorem length_payloadHeader (next : PayloadType) (critical : Bool) (total : ℕ) :
    (payloadHeader next critical total).length = payloadHeaderLen := by
  simp [payloadHeader, payloadHeaderLen]

/-- The bytes of a list of payloads, each behind its generic header. -/
def chainBytes : List Payload → Bytes
  | [] => []
  | p :: ps =>
    payloadHeader p.next p.critical (payloadHeaderLen + p.body.length) ++ (p.body ++ chainBytes ps)

/-- `LinkedFrom first ps`: the payloads `ps` announce one another, the first one by `first`, the
last one announces none, none of them is encrypted and each fits its length field. -/
def LinkedFrom : PayloadType → List Payload → Prop
  | first, [] => first = PayloadType.none
  | first, p :: ps => p.type = first ∧ first ≠ PayloadType.none ∧ ¬IsEncrypted first ∧
      payloadHeaderLen + p.body.length ≤ 0xffff ∧ LinkedFrom p.next ps

theorem parseChain_step (stop : Bool) (fuel : ℕ) (p : Payload) (tail : Bytes)
    (h0 : p.type ≠ PayloadType.none) (hs : ¬IsEncrypted p.type)
    (hl : payloadHeaderLen + p.body.length ≤ 0xffff) :
    parseChain stop (fuel + 1)
        (payloadHeader p.next p.critical (payloadHeaderLen + p.body.length) ++ (p.body ++ tail))
        p.type
      = (parseChain stop fuel tail p.next).map fun r => (p :: r.1, r.2) := by
  set hd := payloadHeader p.next p.critical (payloadHeaderLen + p.body.length) with hhd
  have hlen : hd.length = payloadHeaderLen := length_payloadHeader _ _ _
  have e0 : (hd ++ (p.body ++ tail)).getD 0 0 = p.next := by simp [hhd, payloadHeader]
  have e1 : decide ((hd ++ (p.body ++ tail)).getD 1 0 &&& 0x80 ≠ 0) = p.critical := by
    cases hc : p.critical <;> simp [hhd, payloadHeader, hc]
  have e2 : (beUint16 (slice (hd ++ (p.body ++ tail)) 2 4)).toNat
      = payloadHeaderLen + p.body.length := by
    have : slice (hd ++ (p.body ++ tail)) 2 4
        = putUint16 (UInt16.ofNat (payloadHeaderLen + p.body.length)) := by
      simp [slice, hhd, payloadHeader]
    rw [this, beUint16_putUint16]
    exact Nat.mod_eq_of_lt (by omega)
  have e3 : slice (hd ++ (p.body ++ tail)) payloadHeaderLen (payloadHeaderLen + p.body.length)
      = p.body := by
    rw [← hlen]; exact slice_middle _ _ _
  have e4 : (hd ++ (p.body ++ tail)).drop (payloadHeaderLen + p.body.length) = tail := by
    rw [← List.append_assoc, List.drop_left' (by simp [hlen])]
  have e5 : (hd ++ (p.body ++ tail)).length
      = payloadHeaderLen + p.body.length + tail.length := by
    simp [hlen, Nat.add_assoc]
  rw [parseChain]
  simp only [e0, e1, e2, e3, e4, e5]
  rw [if_neg h0, if_neg (by omega), if_neg (by omega), if_neg (by omega), if_neg hs]
  cases parseChain stop fuel tail p.next <;> rfl

/-- **A chain written payload by payload is read back.** -/
theorem parseChain_chainBytes (stop : Bool) : ∀ (ps : List Payload) (first : PayloadType)
    (fuel : ℕ), LinkedFrom first ps → ps.length < fuel →
    parseChain stop fuel (chainBytes ps) first = .ok (ps, none)
  | [], first, fuel + 1, h, _ => by
    rw [LinkedFrom] at h
    simp [parseChain, chainBytes, h]
  | p :: ps, first, fuel + 1, h, hf => by
    obtain ⟨rfl, h0, hs, hl, hps⟩ := h
    rw [chainBytes, parseChain_step stop fuel p _ h0 hs hl,
      parseChain_chainBytes stop ps p.next fuel hps (by simpa using hf)]
    rfl

theorem length_le_length_chainBytes : ∀ ps : List Payload, ps.length ≤ (chainBytes ps).length
  | [] => le_refl _
  | p :: ps => by
    have := length_le_length_chainBytes ps
    simp only [chainBytes, List.length_cons, List.length_append, length_payloadHeader,
      payloadHeaderLen]
    omega

theorem parsePayloads_chainBytes (stop : Bool) (ps : List Payload) (first : PayloadType)
    (h : LinkedFrom first ps) : parsePayloads (chainBytes ps) first stop = .ok (ps, none) :=
  parseChain_chainBytes stop ps first _ h (Nat.lt_succ_of_le (length_le_length_chainBytes ps))

end Swan.Wire
