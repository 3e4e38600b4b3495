import Swan.Control.Steps

/-! # Packets that do not authenticate

`State.Verifies` and `OldIKEContext.Verifies` say that the tag or the ICV of a packet is right under
the keys of the current and of the retained IKE SA. A packet that is malformed, carries no encrypted
payload or does not verify under the IKE SA it is addressed to changes nothing
(`unauthenticated_packet_inert`). -/

namespace Swan.Control

open Swan.Lib Swan.Wire Swan.Payload Swan.Xcrypto

section Packets

variable [Crypto]

/-- The tag of an AEAD mode, or the ICV, of an encrypted body is right. -/
def BodyVerifies (sel : Selection) (encKey icvKey aad body : Bytes) : Prop :=
  let iv := body.take sel.encryption.ivLen
  let rest := body.drop sel.encryption.ivLen
  if sel.encryption.aead then ∃ plain, sel.encryption.open' encKey iv aad rest = .ok plain
  else sel.integrity.verify icvKey
    (aad ++ (iv ++ rest.take (rest.length - sel.integrity.outputLen)))
    (rest.drop (rest.length - sel.integrity.outputLen)) = true

instance (sel : Selection) (encKey icvKey aad body : Bytes) :
    Decidable (BodyVerifies sel encKey icvKey aad body) := by
  unfold BodyVerifies
  have : Decidable (∃ plain, sel.encryption.open' encKey (body.take sel.encryption.ivLen) aad
      (body.drop sel.encryption.ivLen) = .ok plain) :=
    match sel.encryption.open' encKey (body.take sel.encryption.ivLen) aad
        (body.drop sel.encryption.ivLen) with
    | .ok plain => isTrue ⟨plain, rfl⟩
    | .error e => isFalse fun ⟨_, h⟩ => by cases h
  infer_instance

theorem bodyVerifies_of_open {sel : Selection} {encKey icvKey aad body plain : Bytes}
    (h : openEncryptedBody sel encKey icvKey aad body = .ok plain) :
    BodyVerifies sel encKey icvKey aad body := by
  unfold openEncryptedBody at h
  unfold BodyVerifies
  dsimp only at h ⊢
  split_ifs at h ⊢ with _ _ _ _ _ hverify
  · obtain ⟨padded, hopen, -⟩ := bind_eq_ok.mp h
    exact ⟨padded, wrap_eq_ok.mp hopen⟩
  · simpa using hverify

/-- The packet verifies under the keys of the current IKE SA. The additional data are the bytes of
the packet. -/
def State.Verifies (s : State) (raw : Bytes) : Prop :=
  ∃ sel keys hdr rest loc frag ivStart, s.selectedIKE = some sel ∧ s.ikeKeys = some keys ∧
    parseHeader raw = .ok (hdr, rest) ∧
    findEncrypted rest (rest.length + 1) hdr.nextPayload 0 = .ok loc ∧
    locateBody raw loc = .ok (frag, ivStart) ∧
    BodyVerifies sel (inboundKeyHalves s.isOriginalInitiator keys).1
      (inboundKeyHalves s.isOriginalInitiator keys).2 (raw.take ivStart)
      (slice raw ivStart loc.payloadEnd)

/-- The packet verifies under the keys of a retained IKE SA. The additional data are rebuilt from
the parsed message, as the code does on this path. -/
def OldIKEContext.Verifies (old : OldIKEContext) (raw : Bytes) : Prop :=
  ∃ sel keys msg enc aad, old.selectedIKE = some sel ∧ old.ikeKeys = some keys ∧
    parseMessage raw = .ok msg ∧ msg.encrypted = some enc ∧ rebuildPrefix msg = .ok aad ∧
    BodyVerifies sel (inboundKeyHalves old.isOriginalInitiator keys).1
      (inboundKeyHalves old.isOriginalInitiator keys).2 aad enc.body

/-- A packet that is malformed, carries no encrypted payload, or does not verify under the IKE SA it
is addressed to. -/
def State.Unauthenticated (s : State) (raw : Bytes) : Prop :=
  ∀ msg, parseMessage raw = .ok msg → msg.encrypted.isSome →
    match s.oldIKEFor msg.header with
    | some old => ¬old.Verifies raw
    | none => ¬s.Verifies raw

theorem run_open_of_not_verifies {s : State} {raw : Bytes} (h : ¬s.Verifies raw)
    (cfg : Option Config) (now : Time) :
    ∃ e, (openProtectedRawState cfg now raw).run s = (.error e, s) := by
  rw [openProtectedRawState, Eff.run_bind_of_ok (Eff.run_get s)]
  split
  · next sel keys hsel hkeys =>
    cases hopen : openRaw s.isOriginalInitiator sel keys raw with
    | error e => exact ⟨e, Eff.run_bind_of_error (Eff.run_lift _ _)⟩
    | ok o =>
      refine absurd ?_ h
      obtain ⟨⟨hdr, rest⟩, hhdr, hopen⟩ := bind_eq_ok.mp hopen
      obtain ⟨loc, hloc, hopen⟩ := bind_eq_ok.mp hopen
      obtain ⟨⟨frag, ivStart⟩, hbody, hopen⟩ := bind_eq_ok.mp hopen
      obtain ⟨plain, hplain, -⟩ := bind_eq_ok.mp hopen
      exact ⟨sel, keys, hdr, rest, loc, frag, ivStart, hsel, hkeys, hhdr, hloc, hbody,
        bodyVerifies_of_open hplain⟩
  · exact ⟨_, rfl⟩

theorem open_of_not_verifies {old : OldIKEContext} {raw : Bytes} (h : ¬old.Verifies raw)
    {msg : Message} (hmsg : parseMessage raw = .ok msg) (henc : msg.encrypted.isSome) :
    ∃ e, openProtectedMessageEnvelope (oldIKEEnvelope old) raw = .error e := by
  cases hopen : openProtectedMessageEnvelope (oldIKEEnvelope old) raw with
  | error e => exact ⟨e, rfl⟩
  | ok plds =>
    refine absurd ?_ h
    obtain ⟨enc, henc⟩ := Option.isSome_iff_exists.mp henc
    rw [openProtectedMessageEnvelope, hmsg, ok_bind, henc] at hopen
    dsimp only at hopen
    split_ifs at hopen
    obtain ⟨aad, haad, hopen⟩ := bind_eq_ok.mp hopen
    split at hopen
    · next sel keys hsel hkeys =>
      obtain ⟨plain, hplain, -⟩ := bind_eq_ok.mp hopen
      exact ⟨sel, keys, msg, enc, aad, hsel, hkeys, hmsg, henc, haad, bodyVerifies_of_open hplain⟩
    · cases hopen

omit [Crypto] in
theorem bind_false_inert {a : Running} {x : Eff Running Unit} {r : Except Err Unit}
    (h : x.run a = (r, a)) : ∃ r, (x >>= fun _ => pure false).run a = (r, a) ∧ r ≠ .ok true := by
  cases r with
  | ok u => exact ⟨.ok false, Eff.run_bind_of_ok h, by simp⟩
  | error e => exact ⟨.error e, Eff.run_bind_of_error h, by simp⟩

theorem run_processOldIKEPacket_of_error (cfg : Config) {a : Running} {old : OldIKEContext}
    {raw : Bytes} (hdr : Header) {e : Err}
    (he : openProtectedMessageEnvelope (oldIKEEnvelope old) raw = .error e) :
    ∃ r, (processOldIKEPacket cfg old hdr raw).run a = (r, a) := by
  have hfail : ∀ {α : Type} (f : List Payload → Eff Running α), ∃ r,
      (Eff.lift (openProtectedMessageEnvelope (oldIKEEnvelope old) raw) >>= f).run a = (r, a) :=
    fun f => ⟨.error e, Eff.run_bind_of_error (by rw [he]; exact Eff.run_lift _ _)⟩
  unfold processOldIKEPacket
  split
  · unfold processOldIKEResponse
    split
    · exact ⟨_, rfl⟩
    · split
      · exact ⟨_, rfl⟩
      · exact hfail _
  · exact hfail _

theorem run_processResponse_of_error (cfg : Config) {now : Time} {a : Running} {raw : Bytes}
    (hdr : Header) {e : Err} (he : (openProtectedRawState none now raw).run a.state = (.error e, a.state)) :
    ∃ r, (processResponse cfg now hdr raw).run a = (r, a) := by
  rw [processResponse, Eff.run_bind_of_ok (Eff.run_get a)]
  split
  · exact ⟨_, rfl⟩
  · split_ifs
    · exact ⟨_, rfl⟩
    · exact ⟨_, rfl⟩
    · exact ⟨_, rfl⟩
    · exact ⟨.error e, Eff.run_bind_of_error (by rw [onState, Eff.run_zoom, he])⟩

/-- **A packet that does not authenticate is inert**: the actor is what it was before, with nothing
sent and nothing handed to the data plane, and no shutdown is asked for. -/
theorem unauthenticated_packet_inert (cfg : Config) (now : Time) (a : Running) (pkt : Packet)
    (h : a.state.Unauthenticated pkt.payload) :
    ∃ r, (processPacket cfg now pkt).run a = (r, a) ∧ r ≠ .ok true := by
  unfold processPacket
  split_ifs
  · exact ⟨.ok false, rfl, by simp⟩
  cases hmsg : parseMessage pkt.payload with
  | error e => exact ⟨.error e, rfl, by simp⟩
  | ok msg =>
    cases henc : msg.encrypted with
    | none =>
      refine ⟨.error (.errorf "control: cleartext packet rejected in running state"), ?_, by simp⟩
      rw [Eff.run_bind_of_ok (Eff.run_lift _ _), henc]
      rfl
    | some enc =>
      have h := h msg hmsg (by rw [henc]; rfl)
      rw [Eff.run_bind_of_ok (Eff.run_lift _ _), henc]
      dsimp only
      rw [Eff.run_bind_of_ok (Eff.run_get a)]
      split
      · next old hold =>
        rw [hold] at h
        obtain ⟨e, he⟩ := open_of_not_verifies h hmsg (by rw [henc]; rfl)
        obtain ⟨r, hr⟩ := run_processOldIKEPacket_of_error cfg (a := a) msg.header he
        exact bind_false_inert hr
      · next hnone =>
        rw [hnone] at h
        obtain ⟨e, he⟩ := run_open_of_not_verifies h none now
        split_ifs
        · obtain ⟨r, hr⟩ := run_processResponse_of_error cfg msg.header he
          exact bind_false_inert hr
        · exact ⟨.error e, Eff.run_bind_of_error (by rw [onState, Eff.run_zoom, he]), by simp⟩

end Packets

/-! ### A packet with a changed byte -/

section Sample

attribute [local instance] plainCrypto

/-- An empty INFORMATIONAL request of the peer whose last byte, in the ICV, was changed. -/
def tamperedPing : Packet :=
  let pkt := sampleSession.peerPacket ExchangeType.informational 0 requestFlags none
  { pkt with payload := pkt.payload.dropLast ++ [pkt.payload.getLastD 0 + 1] }

theorem unauthenticated_tamperedPing : sampleSession.Unauthenticated tamperedPing.payload := by
  rintro msg - -
  have hdec : ((parseHeader tamperedPing.payload).toOption.all fun x =>
      (findEncrypted x.2 (x.2.length + 1) x.1.nextPayload 0).toOption.all fun loc =>
        (locateBody tamperedPing.payload loc).toOption.all fun y =>
          !decide (BodyVerifies cbcSelection (inboundKeyHalves true cbcKeys).1
            (inboundKeyHalves true cbcKeys).2 (tamperedPing.payload.take y.2)
            (slice tamperedPing.payload y.2 loc.payloadEnd))) = true := by decide +kernel
  rw [show sampleSession.oldIKEFor msg.header = none from rfl]
  rintro ⟨sel, keys, hdr, rest, loc, frag, ivStart, hsel, hkeys, hhdr, hloc, hbody, hv⟩
  cases hsel
  cases hkeys
  rw [hhdr] at hdec
  simp only [Except.toOption, Option.all_some] at hdec
  rw [hloc] at hdec
  simp only [Option.all_some] at hdec
  rw [hbody] at hdec
  simp only [Option.all_some, Bool.not_eq_true', decide_eq_false_iff_not] at hdec
  exact hdec hv

/-- The packet is dropped. -/
theorem tamperedPing_inert : ∃ r, (processPacket sampleConfig 0 tamperedPing).run sampleStart.actor =
    (r, sampleStart.actor) ∧ r ≠ .ok true :=
  unauthenticated_packet_inert sampleConfig 0 sampleStart.actor tamperedPing (by
    rw [show sampleStart.actor.state = sampleSession from Loop.state_actor_start _ _ _ _]
    exact unauthenticated_tamperedPing)

end Sample

end Swan.Control
