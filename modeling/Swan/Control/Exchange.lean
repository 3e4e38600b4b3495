import Swan.Control.RoundTrip
import Swan.Control.Acts

/-! # What one end sends

The packets that an end of an IKE SA builds for a message (`Built`), and the key pair behind the KE
payload of a rekey (`IsKeyPair`). -/

namespace Swan.Control

open Swan.Lib Swan.Wire Swan.Payload Swan.Xcrypto

variable [Crypto]

/-! ### Messages -/

/-- The packets that an end of an IKE SA built for a message. -/
def Built (env : IkeEnvelope) (msgID : UInt32) (parts : List CesPayloadPart) (frames : List Frame) :
    Prop :=
  ∃ cfg exchange flags rng rng', flags &&& ~~~flagsMask = 0 ∧
    (buildProtectedEnvelopeAs cfg env exchange msgID (firstType parts) (cesBuildChain parts)
      flags).run rng = (.ok frames, rng')

/-! ### Ends -/

omit [Crypto] in
theorem responseFlags_mask (env : IkeEnvelope) : responseFlags env &&& ~~~flagsMask = 0 := by
  unfold responseFlags requestFlags
  split_ifs <;> decide

theorem built_of_sealCurrent {cfg : Option Config} {exchange : ExchangeType} {msgID : UInt32}
    {parts : List CesPayloadPart} {flags : IkeEnvelope → Flags} {a b : Running}
    {frames : List Frame} (hflags : ∀ env, flags env &&& ~~~flagsMask = 0)
    (h : (sealCurrent cfg exchange msgID (firstType parts) (cesBuildChain parts) flags).run a =
      (.ok frames, b)) : Built (stateIKEEnvelope a.state) msgID parts frames := by
  obtain ⟨r, a', hget, h⟩ := Eff.run_bind_ok h
  obtain ⟨rfl, rfl⟩ := Prod.mk.inj hget |>.imp Except.ok.inj id
  rw [onRng, Eff.run_zoom] at h
  have hrun := congrArg Prod.fst h
  exact ⟨cfg, exchange, _, a.world.rng, _, hflags _, Prod.ext hrun rfl⟩

/-! ### Secrets -/

def IsKeyPair (dh : DHKey) (ke : KeyExchange) : Prop :=
  ∃ key, dh.key = some key ∧ ke = ⟨transformDHCurve25519, Crypto.x25519Public key⟩

theorem isKeyPair_of_generateRekeyDH {rng rng' : Rng} {dh : DHKey} {ke : KeyExchange}
    (h : generateRekeyDH.run rng = (.ok (dh, ke), rng')) : IsKeyPair dh ke := by
  obtain ⟨r, rng₁, hdh, h⟩ := Eff.run_bind_ok h
  cases r with
  | error e => cases h
  | ok dh' =>
    obtain ⟨pub, rng₂, hpub, h⟩ := Eff.run_bind_ok h
    obtain ⟨⟨rfl, rfl⟩, rfl⟩ := Prod.mk.inj h |>.imp (fun h => Prod.mk.inj (Except.ok.inj h)) id
    have hpub' := congrArg Prod.fst hpub
    rw [Eff.run_lift] at hpub'
    unfold DHKey.publicBytes at hpub'
    cases hkey : dh'.key with
    | none =>
      rw [hkey] at hpub'
      cases hpub'
    | some key =>
      rw [hkey] at hpub'
      obtain rfl := Except.ok.inj hpub'
      exact ⟨key, hkey, rfl⟩

end Swan.Control
