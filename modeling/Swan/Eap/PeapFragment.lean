import Swan.Lib.ByteString
import Swan.Lib.Effect

/-! # PEAP fragments

A TLS message that is longer than the fragment size is sent in fragments, one per packet, each asked for
by an empty packet of the server. The first fragment carries the length of the message, all but the last
one a flag that more follow. `OutboundFragmenter` cuts a message, `InboundFragmenter` puts one together.

`Sends` says where the sender is in its message and `Holds` what the receiver has of it.
`fragment_round_trip`: the receiver of the packets of a message has nothing complete before the last one,
and then the message; the sender has nothing pending. -/

namespace Swan.Eap.Peap

open Swan.Lib

def flagLengthIncluded : UInt8 := 0x80
def flagMoreFragments : UInt8 := 0x40
def flagStart : UInt8 := 0x20
def flagVersionMask : UInt8 := 0x07
def supportedVersion : UInt8 := 0

/-! ### The sender -/

structure OutboundFragmenter where
  /-- The message that is being sent. -/
  payload : Option Bytes
  offset : ℕ
  chunk : ℕ
  includeLength : Bool
  deriving DecidableEq, Repr

def newOutboundFragmenter (chunk : ℤ) (includeLength : Bool) : Option OutboundFragmenter :=
  if chunk ≤ 0 then none else some ⟨none, 0, chunk.toNat, includeLength⟩

namespace OutboundFragmenter

def Pending (f : OutboundFragmenter) : Prop := ∃ p, f.payload = some p ∧ f.offset < p.length

instance (f : OutboundFragmenter) : Decidable f.Pending :=
  match h : f.payload with
  | none => .isFalse fun ⟨_, hp, _⟩ => nomatch h.symm.trans hp
  | some p =>
    if hlt : f.offset < p.length then .isTrue ⟨p, h, hlt⟩
    else .isFalse fun ⟨_, hq, hlt'⟩ => hlt (Option.some.inj (h.symm.trans hq) ▸ hlt')

def firstPacket (f : OutboundFragmenter) (payload : Bytes) (baseFlags : UInt8) : Bytes :=
  let more := payload.length > f.chunk
  let flags := if more ∨ f.includeLength then baseFlags ||| flagLengthIncluded else baseFlags
  let flags := if more then flags ||| flagMoreFragments else flags
  flags :: (if more ∨ f.includeLength then putUint32 (UInt32.ofNat payload.length) else []) ++
    payload.take f.chunk

/-- Load a message: its first packet, and whether it is the only one. -/
def start (payload : Bytes) (baseFlags : UInt8) : Eff OutboundFragmenter (Bytes × Bool) := do
  let f ← Eff.get
  if f.Pending then
    Eff.fail (.errorf "github.com/wsm25/swan/eap/peap: outbound fragmenter already active")
  else if f.chunk = 0 then
    Eff.fail (.errorf "github.com/wsm25/swan/eap/peap: fragment chunk size must be > 0")
  else if payload.length > f.chunk then do
    Eff.modify fun f => { f with payload := some payload, offset := f.chunk }
    pure (f.firstPacket payload baseFlags, false)
  else do
    Eff.modify fun f => { f with payload := none, offset := 0 }
    pure (f.firstPacket payload baseFlags, true)

def next : Eff OutboundFragmenter (Bytes × Bool) := do
  let f ← Eff.get
  match f.payload with
  | none => Eff.fail (.errorf "github.com/wsm25/swan/eap/peap: no outbound peap fragments pending")
  | some payload =>
    if ¬f.Pending then
      Eff.fail (.errorf "github.com/wsm25/swan/eap/peap: no outbound peap fragments pending")
    else
      let stop := min payload.length (f.offset + f.chunk)
      let chunk := slice payload f.offset stop
      if stop < payload.length then do
        Eff.modify fun f => { f with offset := stop }
        pure (flagMoreFragments :: chunk, false)
      else do
        Eff.modify fun f => { f with payload := none, offset := 0 }
        pure (0 :: chunk, true)

/-- Take packets until nothing is pending. -/
def drain : ℕ → OutboundFragmenter → List Bytes × OutboundFragmenter
  | 0, f => ([], f)
  | fuel + 1, f =>
    if f.Pending then
      match next.run f with
      | (.ok (packet, _), f') => (packet :: (drain fuel f').1, (drain fuel f').2)
      | (.error _, f') => ([], f')
    else ([], f)

end OutboundFragmenter

/-! ### Requests -/

structure PeapRequest where
  identifier : UInt8
  flags : UInt8
  hasLength : Bool
  lengthIncluded : UInt32
  data : Bytes
  deriving DecidableEq, Repr

def parsePeapRequest (identifier : UInt8) : Bytes → Except Err PeapRequest
  | [] => .error (.errorf "peap request missing flags")
  | flags :: rest =>
    if flags &&& flagVersionMask ≠ supportedVersion then
      .error (.errorf s!"unsupported peap version {flags &&& flagVersionMask}")
    else if flags &&& flagLengthIncluded ≠ 0 then
      if rest.length < 4 then .error (.errorf "peap request missing TLS message length")
      else .ok ⟨identifier, flags, true, beUint32 (rest.take 4), rest.drop 4⟩
    else .ok ⟨identifier, flags, false, 0, rest⟩

/-- An empty packet, which asks for the next fragment. -/
def isAckRequest (req : PeapRequest) : Bool :=
  req.data.length = 0 ∧ req.hasLength = false ∧
    req.flags &&& (flagStart ||| flagMoreFragments ||| flagLengthIncluded) = 0

/-! ### The receiver -/

structure InboundFragmenter where
  parts : List Bytes
  total : ℕ
  /-- The declared length, once the first fragment has arrived. -/
  expected : Option ℕ
  deriving DecidableEq, Repr

def newInboundFragmenter : InboundFragmenter := ⟨[], 0, none⟩

namespace InboundFragmenter

/-- Add the bytes of a fragment; the message once the last one is there. -/
def add (flags : UInt8) (data : Bytes) (expected : ℕ) : Eff InboundFragmenter (Option Bytes) := do
  Eff.modify fun f => { f with parts := f.parts ++ [data], total := f.total + data.length }
  let f ← Eff.get
  if f.total > expected then
    Eff.fail (.errorf (s!"github.com/wsm25/swan/eap/peap: fragment total {f.total} exceeds " ++
      s!"declared length {expected}"))
  else if flags &&& flagMoreFragments ≠ 0 then pure none
  else if f.total ≠ expected then
    Eff.fail (.errorf (s!"github.com/wsm25/swan/eap/peap: fragment total {f.total} != " ++
      s!"declared length {expected}"))
  else do
    Eff.modify fun _ => newInboundFragmenter
    pure (some f.parts.flatten)

/-- Take one fragment; the message once it is complete. -/
def push (flags : UInt8) (lengthIncluded : UInt32) (data : Bytes) :
    Eff InboundFragmenter (Option Bytes) := do
  let f ← Eff.get
  if flags &&& flagLengthIncluded ≠ 0 then
    -- only the first fragment may carry the length
    if f.expected ≠ none then
      Eff.fail (.errorf
        "github.com/wsm25/swan/eap/peap: unexpected L flag on continuation fragment")
    else if lengthIncluded = 0 then
      Eff.fail (.errorf "github.com/wsm25/swan/eap/peap: L flag set but total length is zero")
    else do
      Eff.modify fun _ => ⟨[], 0, some lengthIncluded.toNat⟩
      add flags data lengthIncluded.toNat
  else
    match f.expected with
    | none =>
      if flags &&& flagMoreFragments ≠ 0 then
        Eff.fail (.errorf
          "github.com/wsm25/swan/eap/peap: fragmented packet missing L on first fragment")
      else pure (some data)
    | some expected => add flags data expected

end InboundFragmenter

/-- Hand a request to the receiver; the message once it is complete. -/
def collectTLSRecord (req : PeapRequest) : Eff InboundFragmenter (Option Bytes) :=
  InboundFragmenter.push req.flags
    (if req.flags &&& flagLengthIncluded ≠ 0 then req.lengthIncluded else 0) req.data

def receive (identifier : UInt8) (packet : Bytes) : Eff InboundFragmenter (Option Bytes) := do
  let req ← Eff.lift (parsePeapRequest identifier packet)
  collectTLSRecord req

/-! ### The round trip -/

/-- The sender has sent the first `o` bytes of the message. -/
structure OutboundFragmenter.Sends (f : OutboundFragmenter) (p : Bytes) (o : ℕ) : Prop where
  payload : f.payload = some p
  offset : f.offset = o
  chunk : 0 < f.chunk

/-- The receiver has the bytes `got` of a message of length `n`. -/
structure InboundFragmenter.Holds (f : InboundFragmenter) (got : Bytes) (n : ℕ) : Prop where
  parts : f.parts.flatten = got
  total : f.total = got.length
  expected : f.expected = some n

section RoundTrip

variable {f : OutboundFragmenter} {g : InboundFragmenter} {p got data : Bytes} {o n : ℕ} {flags : UInt8}

theorem more_set : flagMoreFragments &&& flagMoreFragments ≠ 0 := by decide

theorem OutboundFragmenter.Sends.pending_iff (hf : f.Sends p o) : f.Pending ↔ o < p.length := by
  constructor
  · rintro ⟨q, hq, hlt⟩
    obtain rfl := Option.some.inj (hf.payload.symm.trans hq)
    exact hf.offset ▸ hlt
  · exact fun h => ⟨p, hf.payload, hf.offset.symm ▸ h⟩

theorem InboundFragmenter.Holds.add_more (hg : g.Holds got n) (hmore : flags &&& flagMoreFragments ≠ 0)
    (hfits : got.length + data.length ≤ n) :
    ∃ g', (InboundFragmenter.add flags data n).run g = (.ok none, g') ∧ g'.Holds (got ++ data) n := by
  refine ⟨{ g with parts := g.parts ++ [data], total := g.total + data.length }, ?_, ?_, ?_, hg.expected⟩
  · rw [InboundFragmenter.add, Eff.run_bind_of_ok (Eff.run_modify _ _), Eff.run_bind_of_ok (Eff.run_get _)]
    dsimp only
    rw [if_neg (by rw [hg.total]; omega), if_pos hmore]
    rfl
  · rw [List.flatten_append, hg.parts, List.flatten_singleton]
  · rw [List.length_append, ← hg.total]

theorem InboundFragmenter.Holds.add_last (hg : g.Holds got n) (hlast : flags &&& flagMoreFragments = 0)
    (hend : got.length + data.length = n) :
    (InboundFragmenter.add flags data n).run g = (.ok (some (got ++ data)), newInboundFragmenter) := by
  rw [InboundFragmenter.add, Eff.run_bind_of_ok (Eff.run_modify _ _), Eff.run_bind_of_ok (Eff.run_get _)]
  dsimp only
  rw [if_neg (by rw [hg.total]; omega), if_neg (not_not.mpr hlast), if_neg (by rw [hg.total]; omega),
    Eff.run_bind_of_ok (Eff.run_modify _ _), List.flatten_append, hg.parts, List.flatten_singleton]
  rfl

theorem InboundFragmenter.Holds.receive (hg : g.Holds got n) (identifier : UInt8)
    (hversion : flags &&& flagVersionMask = supportedVersion) (hlength : flags &&& flagLengthIncluded = 0) :
    (Peap.receive identifier (flags :: data)).run g = (InboundFragmenter.add flags data n).run g := by
  have hparse : parsePeapRequest identifier (flags :: data) = .ok ⟨identifier, flags, false, 0, data⟩ := by
    rw [parsePeapRequest, if_neg (not_not.mpr hversion), if_neg (not_not.mpr hlength)]
  rw [Peap.receive, hparse, Eff.run_bind_of_ok (Eff.run_lift _ _), collectTLSRecord, InboundFragmenter.push,
    Eff.run_bind_of_ok (Eff.run_get _)]
  dsimp only
  rw [if_neg (not_not.mpr hlength), hg.expected]

/-- One fragment behind the first one: either more follow, and both sides are `chunk` bytes further, or
the message is complete and the sender is done. -/
theorem OutboundFragmenter.Sends.next_received (hf : f.Sends p o) (ho : o < p.length)
    (hg : g.Holds (p.take o) p.length) (identifier : UInt8) :
    ∃ packet done f', OutboundFragmenter.next.run f = (.ok (packet, done), f') ∧
      ((∃ g', (Peap.receive identifier packet).run g = (.ok none, g') ∧ o + f.chunk < p.length ∧
          f'.Sends p (o + f.chunk) ∧ g'.Holds (p.take (o + f.chunk)) p.length) ∨
        ((Peap.receive identifier packet).run g = (.ok (some p), newInboundFragmenter) ∧
          ¬f'.Pending)) := by
  have hstep : OutboundFragmenter.next.run f =
      (if min p.length (o + f.chunk) < p.length then
        (.ok (flagMoreFragments :: slice p o (min p.length (o + f.chunk)), false),
          { f with payload := some p, offset := min p.length (o + f.chunk) })
      else (.ok (0 :: slice p o (min p.length (o + f.chunk)), true),
        { f with payload := none, offset := 0 })) := by
    rw [OutboundFragmenter.next, Eff.run_bind_of_ok (Eff.run_get _)]
    simp only [hf.payload, hf.offset, if_neg (not_not.mpr (hf.pending_iff.mpr ho))]
    by_cases hmore : min p.length (o + f.chunk) < p.length
    · rw [if_pos hmore, if_pos hmore, Eff.run_bind_of_ok (Eff.run_modify _ _), ← hf.payload]
      rfl
    · rw [if_neg hmore, if_neg hmore]
      rfl
  by_cases hmore : o + f.chunk < p.length
  · have hmin : min p.length (o + f.chunk) = o + f.chunk := Nat.min_eq_right hmore.le
    have hsplit : p.take o ++ slice p o (o + f.chunk) = p.take (o + f.chunk) := by
      have h := List.take_append_drop o (p.take (o + f.chunk))
      rwa [List.take_take, Nat.min_eq_left (Nat.le_add_right _ _)] at h
    have hfits : (p.take o).length + (slice p o (o + f.chunk)).length ≤ p.length := by
      rw [← List.length_append, hsplit]
      exact List.length_take_le' _ _
    rw [hmin, if_pos hmore] at hstep
    obtain ⟨g', hrun, hg'⟩ := hg.add_more more_set hfits
    exact ⟨_, _, _, hstep, .inl ⟨g', (hg.receive identifier (by decide) (by decide)).trans hrun, hmore,
      ⟨rfl, rfl, hf.chunk⟩, hsplit ▸ hg'⟩⟩
  · have hmin : min p.length (o + f.chunk) = p.length := Nat.min_eq_left (not_lt.mp hmore)
    have hsplit : p.take o ++ slice p o p.length = p := by
      rw [slice, List.take_length, List.take_append_drop]
    have hend : (p.take o).length + (slice p o p.length).length = p.length := by
      rw [← List.length_append, hsplit]
    rw [hmin, if_neg (lt_irrefl _)] at hstep
    refine ⟨_, _, _, hstep, .inr ⟨?_, ?_⟩⟩
    · rw [hg.receive identifier (by decide) (by decide), hg.add_last (by decide) hend, hsplit]
    · rintro ⟨q, hq, -⟩
      cases hq

theorem drain_idle (h : ¬f.Pending) (fuel : ℕ) : f.drain fuel = ([], f) := by
  cases fuel with
  | zero => rfl
  | succ fuel => rw [OutboundFragmenter.drain, if_neg h]

theorem drain_received (identifier : UInt8) : ∀ (fuel o : ℕ) {f : OutboundFragmenter} {g : InboundFragmenter},
    f.Sends p o → o < p.length → p.length ≤ o + fuel → g.Holds (p.take o) p.length →
      ∃ n, (f.drain fuel).1.length = n + 1 ∧
        Eff.trace ((f.drain fuel).1.map (receive identifier)) g =
          (List.replicate n (.ok none) ++ [.ok (some p)], newInboundFragmenter) ∧
        ¬(f.drain fuel).2.Pending
  | 0, o, _, _, _, ho, hfuel, _ => absurd hfuel (by omega)
  | fuel + 1, o, f, g, hf, ho, hfuel, hg => by
    have hchunk := hf.chunk
    obtain ⟨packet, done, f', hnext, hcase⟩ := hf.next_received ho hg identifier
    have hdrain : f.drain (fuel + 1) = (packet :: (f'.drain fuel).1, (f'.drain fuel).2) := by
      rw [OutboundFragmenter.drain, if_pos (hf.pending_iff.mpr ho), hnext]
    rw [hdrain, List.map_cons, List.length_cons]
    obtain ⟨g', hrun, hlt, hf', hg'⟩ | ⟨hrun, hdone⟩ := hcase
    · obtain ⟨n, hlength, htrace, hidle⟩ :=
        drain_received identifier fuel (o + f.chunk) hf' hlt (by omega) hg'
      refine ⟨n + 1, congrArg (· + 1) hlength, ?_, hidle⟩
      rw [Eff.trace_cons_of_run _ hrun, htrace]
      rfl
    · rw [drain_idle hdone]
      refine ⟨0, rfl, ?_, hdone⟩
      rw [List.map_nil, Eff.trace_cons_of_run _ hrun]
      rfl

/-! ### The first fragment -/

/-- The flags of a message that the fragmenter itself does not set: no length, no further fragments and
version 0. -/
def PlainFlags (flags : UInt8) : Prop :=
  flags &&& (flagLengthIncluded ||| flagMoreFragments ||| flagVersionMask) = 0

instance (flags : UInt8) : Decidable (PlainFlags flags) := inferInstanceAs (Decidable (_ = _))

/-- What the receiver reads from the flags of a packet. -/
structure ReadAs (flags : UInt8) (declared more : Prop) : Prop where
  version : flags &&& flagVersionMask = supportedVersion
  declared : flags &&& flagLengthIncluded ≠ 0 ↔ declared
  more : flags &&& flagMoreFragments ≠ 0 ↔ more

instance (flags : UInt8) (declared more : Prop) [Decidable declared] [Decidable more] :
    Decidable (ReadAs flags declared more) :=
  decidable_of_iff (_ ∧ _ ∧ _) ⟨fun h => ⟨h.1, h.2.1, h.2.2⟩, fun h => ⟨h.1, h.2, h.3⟩⟩

theorem PlainFlags.readAs (h : PlainFlags flags) : ReadAs flags False False ∧
    ReadAs (flags ||| flagLengthIncluded) True False ∧
    ReadAs (flags ||| flagLengthIncluded ||| flagMoreFragments) True True := by
  -- a byte has 256 values
  have hall : ∀ n : Fin 256, PlainFlags (UInt8.ofFin n) → ReadAs (UInt8.ofFin n) False False ∧
      ReadAs (UInt8.ofFin n ||| flagLengthIncluded) True False ∧
      ReadAs (UInt8.ofFin n ||| flagLengthIncluded ||| flagMoreFragments) True True := by
    decide +kernel
  have hflags : UInt8.ofFin flags.toFin = flags := rfl
  exact hflags ▸ hall flags.toFin (hflags.symm ▸ h)

theorem receive_single (hread : ReadAs flags False False) (identifier : UInt8) (data : Bytes) :
    (receive identifier (flags :: data)).run newInboundFragmenter =
      (.ok (some data), newInboundFragmenter) := by
  have hlength := hread.declared.not.mpr not_false
  have hparse : parsePeapRequest identifier (flags :: data) = .ok ⟨identifier, flags, false, 0, data⟩ := by
    rw [parsePeapRequest, if_neg (not_not.mpr hread.version), if_neg hlength]
  rw [receive, hparse, Eff.run_bind_of_ok (Eff.run_lift _ _), collectTLSRecord, InboundFragmenter.push,
    Eff.run_bind_of_ok (Eff.run_get _)]
  dsimp only
  rw [if_neg hlength]
  dsimp only [newInboundFragmenter]
  rw [if_neg (hread.more.not.mpr not_false)]
  rfl

theorem receive_declared {more : Prop} (hread : ReadAs flags True more) (identifier : UInt8) (data : Bytes)
    {total : UInt32} (htotal : total ≠ 0) :
    ∃ g : InboundFragmenter, g.Holds [] total.toNat ∧
      (receive identifier (flags :: (putUint32 total ++ data))).run newInboundFragmenter =
        (InboundFragmenter.add flags data total.toNat).run g := by
  refine ⟨⟨[], 0, some total.toNat⟩, ⟨rfl, rfl, rfl⟩, ?_⟩
  have hlength := hread.declared.mpr trivial
  have hfresh : newInboundFragmenter.expected = none := rfl
  have hparse : parsePeapRequest identifier (flags :: (putUint32 total ++ data)) =
      .ok ⟨identifier, flags, true, total, data⟩ := by
    have htake : (putUint32 total ++ data).take 4 = putUint32 total :=
      List.take_left' (length_putUint32 total)
    have hdrop : (putUint32 total ++ data).drop 4 = data := List.drop_left' (length_putUint32 total)
    have hfour : ¬(putUint32 total ++ data).length < 4 := by
      rw [List.length_append, length_putUint32]
      omega
    rw [parsePeapRequest, if_neg (not_not.mpr hread.version), if_pos hlength, if_neg hfour, htake, hdrop,
      beUint32_putUint32]
  rw [receive, hparse, Eff.run_bind_of_ok (Eff.run_lift _ _), collectTLSRecord, InboundFragmenter.push,
    Eff.run_bind_of_ok (Eff.run_get _)]
  dsimp only
  rw [if_pos hlength, if_pos hlength, if_neg (not_not.mpr hfresh), if_neg htotal,
    Eff.run_bind_of_ok (Eff.run_modify _ _)]

theorem start_ok {f' : OutboundFragmenter} {first : Bytes} {done : Bool}
    (h : (OutboundFragmenter.start p flags).run f = (.ok (first, done), f')) :
    first = f.firstPacket p flags ∧
      ((f.chunk < p.length ∧ done = false ∧ f'.Sends p f.chunk) ∨
        (p.length ≤ f.chunk ∧ done = true ∧ ¬f'.Pending)) := by
  rw [OutboundFragmenter.start, Eff.run_bind_of_ok (Eff.run_get _)] at h
  by_cases hpending : f.Pending
  · rw [if_pos hpending] at h
    cases h
  by_cases hchunk : f.chunk = 0
  · rw [if_neg hpending, if_pos hchunk] at h
    cases h
  rw [if_neg hpending, if_neg hchunk] at h
  by_cases hmore : p.length > f.chunk
  · rw [if_pos hmore] at h
    cases h
    exact ⟨rfl, .inl ⟨hmore, rfl, ⟨rfl, rfl, Nat.pos_of_ne_zero hchunk⟩⟩⟩
  · rw [if_neg hmore] at h
    cases h
    exact ⟨rfl, .inr ⟨not_lt.mp hmore, rfl, fun ⟨_, hq, _⟩ => nomatch hq⟩⟩

theorem ofNat_length_ne_zero (hne : p ≠ []) (hlen : p.length < 2 ^ 32) : UInt32.ofNat p.length ≠ 0 := by
  intro h
  have hzero := congrArg UInt32.toNat h
  rw [UInt32.toNat_ofNat_of_lt' hlen] at hzero
  exact hne (List.length_eq_zero_iff.mp hzero)

/-- The packets of a message, from the one of `start` on until nothing is pending, give the receiver the
message with the last one and nothing before. -/
theorem fragment_round_trip (f f' : OutboundFragmenter) (payload first : Bytes) (baseFlags identifier : UInt8)
    (done : Bool) (fuel : ℕ) (hne : payload ≠ []) (hlen : payload.length < 2 ^ 32)
    (hflags : PlainFlags baseFlags) (hfuel : payload.length ≤ fuel)
    (hstart : (OutboundFragmenter.start payload baseFlags).run f = (.ok (first, done), f')) :
    Eff.trace ((first :: (f'.drain fuel).1).map (receive identifier)) newInboundFragmenter =
        (List.replicate (f'.drain fuel).1.length (.ok none) ++ [.ok (some payload)],
          newInboundFragmenter) ∧
      ¬(f'.drain fuel).2.Pending ∧ (done ↔ (f'.drain fuel).1 = []) := by
  obtain ⟨hsingle, hdeclared, hmoreflags⟩ := hflags.readAs
  have htotal : (UInt32.ofNat payload.length).toNat = payload.length := UInt32.toNat_ofNat_of_lt' hlen
  have hzero := ofNat_length_ne_zero hne hlen
  obtain ⟨rfl, ⟨hmore, rfl, hsends⟩ | ⟨hfits, rfl, hidle⟩⟩ := start_ok hstart
  · -- the first fragment does not end the message
    have hfirst : f.firstPacket payload baseFlags =
        (baseFlags ||| flagLengthIncluded ||| flagMoreFragments) ::
          (putUint32 (UInt32.ofNat payload.length) ++ payload.take f.chunk) := by
      simp [OutboundFragmenter.firstPacket, hmore]
    obtain ⟨g, hg, hrun⟩ := receive_declared hmoreflags identifier (payload.take f.chunk) hzero
    rw [htotal] at hg hrun
    have hroom : ([] : Bytes).length + (payload.take f.chunk).length ≤ payload.length := by simp
    obtain ⟨g', hadd, hg'⟩ := hg.add_more (hmoreflags.more.mpr trivial) hroom
    obtain ⟨n, hlength, htrace, hdone⟩ :=
      drain_received identifier fuel f.chunk hsends hmore (by omega) hg'
    refine ⟨?_, hdone, ?_⟩
    · rw [hfirst, List.map_cons, Eff.trace_cons_of_run _ (hrun.trans hadd), htrace, hlength]
      rfl
    · have hcons : (f'.drain fuel).1 ≠ [] := List.ne_nil_of_length_eq_add_one hlength
      simp [hcons]
  · have htake : payload.take f.chunk = payload := List.take_of_length_le hfits
    rw [drain_idle hidle]
    refine ⟨?_, hidle, by simp⟩
    by_cases hinclude : f.includeLength
    · have hfirst : f.firstPacket payload baseFlags = (baseFlags ||| flagLengthIncluded) ::
          (putUint32 (UInt32.ofNat payload.length) ++ payload) := by
        simp [OutboundFragmenter.firstPacket, hinclude, not_lt.mpr hfits, htake]
      obtain ⟨g, hg, hrun⟩ := receive_declared hdeclared identifier payload hzero
      rw [htotal] at hg hrun
      rw [hg.add_last (not_not.mp (hdeclared.more.not.mpr not_false)) (Nat.zero_add _)] at hrun
      rw [hfirst, List.map_cons, Eff.trace_cons_of_run _ hrun]
      rfl
    · have hfirst : f.firstPacket payload baseFlags = baseFlags :: payload := by
        simp [OutboundFragmenter.firstPacket, hinclude, not_lt.mpr hfits, htake]
      rw [hfirst, List.map_cons, Eff.trace_cons_of_run _ (receive_single hsingle identifier payload)]
      rfl

end RoundTrip

/-- A message of ten bytes in fragments of four. -/
theorem sample_fragment_round_trip :
    Eff.trace (([0xc0, 0, 0, 0, 10, 0, 1, 2, 3] :: [[0x40, 4, 5, 6, 7], [0, 8, 9]]).map (receive 7))
        newInboundFragmenter =
      ([.ok none, .ok none, .ok (some [0, 1, 2, 3, 4, 5, 6, 7, 8, 9])], newInboundFragmenter) :=
  (fragment_round_trip ⟨none, 0, 4, false⟩ ⟨some [0, 1, 2, 3, 4, 5, 6, 7, 8, 9], 4, 4, false⟩
    [0, 1, 2, 3, 4, 5, 6, 7, 8, 9] [0xc0, 0, 0, 0, 10, 0, 1, 2, 3] 0 7 false 10 (by decide) (by decide)
    (by decide) (by decide) (by decide)).1

end Swan.Eap.Peap
