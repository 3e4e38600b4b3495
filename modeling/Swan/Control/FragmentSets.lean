import Swan.Control.RoundTrip

/-! # Fragments of several messages

A receiver has one place for the fragments of an unfinished message. Fragments are told apart by the
exchange, the message id and the number of fragments, but not by the direction flag, and the type of
the inner chain is read before an expired set is dropped. So fragments of a request and of a response
with the same message id can be joined (`fragments_mixed`).

`fragments_of_one_message`: what is handed over comes from one message, in every run in which the set
that a fragment joins was begun by a fragment of the same direction (`Receiver.Apart`). The proof
keeps the invariant `Receiver.Collects`: the stored set is a view of one message, as in
`Swan.Control.Fragments`. -/

namespace Swan.Control

open Swan.Lib Swan.Wire Swan.Xcrypto

/-- A fragmented message as its sender built it. -/
structure SentMessage where
  response : Bool
  exchange : ExchangeType
  msgID : UInt32
  nextPayload : PayloadType
  pieces : List Bytes

def Opened.response (o : Opened) : Bool := o.header.flags &&& flagResponse ≠ 0

/-- A packet is the `i`-th fragment of a message. -/
structure Opened.IsFragment (o : Opened) (frag : SkfHeader) (m : SentMessage) (i : ℕ) : Prop where
  response : o.response = m.response
  exchange : o.header.exchangeType = m.exchange
  msgID : o.header.messageID = m.msgID
  number : frag.fragmentNumber.toNat = i + 1
  total : frag.totalFragments.toNat = m.pieces.length
  next : o.innerNext = fragmentNext m.nextPayload i
  plain : m.pieces[i]? = some o.plain

/-- A fragment begins a new set in place of the stored one. -/
def Opened.Begins (o : Opened) (frag : SkfHeader) (now : Time) : Option FragmentReassembly → Prop
  | none => True
  | some f => f.expiresAt < now ∨ f.exchangeType = o.header.exchangeType ∧
      f.messageID = o.header.messageID ∧ f.fragments.length < frag.totalFragments.toNat

instance (o : Opened) (frag : SkfHeader) (now : Time) (f : Option FragmentReassembly) :
    Decidable (o.Begins frag now f) := by
  cases f <;> unfold Opened.Begins <;> infer_instance

def Opened.envelope (o : Opened) (frag : SkfHeader) : EncryptedPayload :=
  { type := PayloadType.skf, innerNext := o.innerNext, fragmented := true, frag, body := o.body }

theorem Opened.IsFragment.isPiece {o : Opened} {frag : SkfHeader} {m : SentMessage} {i : ℕ}
    (h : o.IsFragment frag m i) : IsPiece (o.envelope frag) m.nextPayload m.pieces.length i :=
  ⟨rfl, rfl, h.number, h.total, h.next⟩

/-! ### Collecting over a stored set -/

section Collect

variable {enc : EncryptedPayload} {plain : Bytes} {msgID : UInt32} {exchange : ExchangeType}
  {timeout : Duration} {now : Time} {f : FragmentReassembly}

theorem run_addFragment (s s' : Option FragmentReassembly) :
    (addFragment enc plain f).run s = (addFragment enc plain f).run s' := by
  unfold addFragment
  rw [Eff.run_bind_of_ok (Eff.run_modify _ _), Eff.run_bind_of_ok (Eff.run_modify _ _)]

variable {nextPayload : PayloadType} {total i : ℕ} (hp : IsPiece enc nextPayload total i)
  (hi : i < total)
include hp hi

theorem run_collectSKFragment (stored : Option FragmentReassembly) :
    (collectSKFragment enc plain msgID exchange timeout now).run stored =
      match stored.filter fun existing => ¬existing.expiresAt < now with
      | none => (addFragment enc plain ⟨exchange, msgID, skfFirstPayloadUnset,
          Table.empty enc.frag.totalFragments.toNat, now + timeout⟩).run none
      | some existing =>
        if existing.exchangeType ≠ exchange then
          (.error (.errorf "control: SKF exchange mismatch"), some existing)
        else if existing.messageID ≠ msgID then
          (.error (.errorf "control: SKF message-id mismatch"), some existing)
        else if enc.frag.totalFragments.toNat > existing.fragments.length then
          (addFragment enc plain ⟨exchange, msgID, skfFirstPayloadUnset,
            Table.empty enc.frag.totalFragments.toNat, now + timeout⟩).run none
        else (addFragment enc plain { existing with expiresAt := now + timeout }).run none := by
  rw [collectSKFragment, if_neg (by simp [hp.type, hp.fragmented]), if_neg (hp.valid hi),
    Eff.run_bind_of_ok (Eff.run_modify _ _), Eff.run_bind_of_ok (Eff.run_get _)]
  cases stored.filter fun existing => ¬existing.expiresAt < now with
  | none => rfl
  | some existing =>
    dsimp only
    split_ifs
    · rfl
    · rfl
    · exact run_addFragment _ _
    · exact run_addFragment _ _

theorem collectSKFragment_of_expired (h : f.expiresAt < now) :
    (collectSKFragment enc plain msgID exchange timeout now).run (some f) =
      (collectSKFragment enc plain msgID exchange timeout now).run none := by
  rw [run_collectSKFragment hp hi, run_collectSKFragment hp hi, Option.filter_some,
    if_neg (by simpa using h)]
  rfl

theorem collectSKFragment_of_ne (h : ¬f.expiresAt < now)
    (hne : f.exchangeType ≠ exchange ∨ f.messageID ≠ msgID) :
    ∃ e, (collectSKFragment enc plain msgID exchange timeout now).run (some f) =
      (.error e, some f) := by
  rw [run_collectSKFragment hp hi, Option.filter_some, if_pos (by simpa using h)]
  by_cases hex : f.exchangeType = exchange
  · exact ⟨_, by simp only [hex, ne_eq, not_true, if_false, hne.resolve_left (not_not.mpr hex),
      not_false_eq_true, if_true]; rfl⟩
  · exact ⟨_, by simp only [ne_eq, hex, not_false_eq_true, if_true]; rfl⟩

variable (h : ¬f.expiresAt < now) (hexchange : f.exchangeType = exchange) (hid : f.messageID = msgID)
include h hexchange hid

theorem collectSKFragment_of_gt (hgt : f.fragments.length < total) :
    (collectSKFragment enc plain msgID exchange timeout now).run (some f) =
      (collectSKFragment enc plain msgID exchange timeout now).run none := by
  rw [run_collectSKFragment hp hi, run_collectSKFragment hp hi, Option.filter_some,
    if_pos (by simpa using h)]
  simp only [hexchange, hid, ne_eq, not_true, if_false, hp.total, hgt, if_true,
    Option.filter_none]

theorem collectSKFragment_of_lt (hlt : total < f.fragments.length) :
    (collectSKFragment enc plain msgID exchange timeout now).run (some f) =
      (.ok none, some { f with expiresAt := now + timeout }) := by
  rw [run_collectSKFragment hp hi, Option.filter_some, if_pos (by simpa using h)]
  simp only [hexchange, hid, ne_eq, not_true, if_false, hp.total, gt_iff_lt, not_lt.mpr hlt.le]
  unfold addFragment
  rw [Eff.run_bind_of_ok (Eff.run_modify _ _), if_pos (by rw [hp.total]; exact hlt)]
  rfl

end Collect

/-! ### Receivers -/

/-- A state that opens packets, with the direction flag of the fragment that began the stored
set. -/
structure Receiver where
  state : State
  response : Bool

/-- The messages of the sender: no two of them have the same direction and message id, and the type
of the inner chain is not the mark for a type that is not known yet. -/
structure Distinct (M : Set SentMessage) : Prop where
  eq_of_id : ∀ m ∈ M, ∀ m' ∈ M, m.response = m'.response → m.msgID = m'.msgID → m = m'
  next : ∀ m ∈ M, m.nextPayload ≠ skfFirstPayloadUnset

def handOver (innerNext : PayloadType) :
    Except Err (Option Bytes) → Except Err (Option (List Payload))
  | .error e => .error e
  | .ok none => .ok none
  | .ok (some joined) => (parsePayloads joined innerNext false).map fun r => some r.1

/-- The stored set holds fragments of one message, and not all of them. -/
def Receiver.Collects (M : Set SentMessage) (r : Receiver) : Prop :=
  ∀ f, r.state.inboundFragments = some f → ∃ m ∈ M, ∃ S e, S.Nonempty ∧
    (∃ k < m.pieces.length, k ∉ S) ∧ r.response = m.response ∧
    f = reassembled m.exchange m.msgID m.nextPayload m.pieces S e

/-- What collecting a fragment may return: nothing yet, or the message of the fragment. -/
def Returns (M : Set SentMessage) (o : Opened) (frag : SkfHeader)
    (r : Except Err (Option (List Payload))) : Prop :=
  ∀ payloads, r = .ok (some payloads) → ∃ m ∈ M, (∃ i, o.IsFragment frag m i) ∧
    ∃ enc, parsePayloads m.pieces.flatten m.nextPayload false = .ok (payloads, enc)

theorem returns_map_parsePayloads {M : Set SentMessage} {m : SentMessage} {o : Opened}
    {frag : SkfHeader} {i : ℕ} (hm : m ∈ M) (hi : o.IsFragment frag m i) :
    Returns M o frag ((parsePayloads m.pieces.flatten m.nextPayload false).map fun r => some r.1) := by
  intro payloads h
  cases hparse : parsePayloads m.pieces.flatten m.nextPayload false with
  | error e =>
    rw [hparse] at h
    cases h
  | ok r =>
    rw [hparse] at h
    obtain rfl := Option.some.inj (Except.ok.inj h)
    exact ⟨m, hm, ⟨i, hi⟩, r.2, hparse⟩

section Receivers

variable [Crypto]

/-- What an authenticated packet says, under the keys of a state. -/
def State.authenticated (s : State) (raw : Bytes) : Option Opened :=
  match s.selectedIKE, s.ikeKeys with
  | some sel, some keys => (openRaw s.isOriginalInitiator sel keys raw).toOption
  | _, _ => none

def Receiver.receive (cfg : Option Config) (now : Time) (raw : Bytes) (r : Receiver) : Receiver where
  state := ((openProtectedRawState cfg now raw).run r.state).2
  response :=
    match r.state.authenticated raw with
    | none => r.response
    | some o =>
      match o.frag with
      | none => r.response
      | some frag =>
        if o.Begins frag now r.state.inboundFragments then o.response else r.response

/-- The fragment in a packet does not join a set that was begun by a fragment of the other
direction, and it is not a whole message that finds an expired set with a first fragment. -/
def Receiver.Apart (r : Receiver) (now : Time) (raw : Bytes) : Prop :=
  ∀ o frag f, r.state.authenticated raw = some o → o.frag = some frag →
    r.state.inboundFragments = some f →
    (¬f.expiresAt < now → f.exchangeType = o.header.exchangeType →
      f.messageID = o.header.messageID → f.fragments.length = frag.totalFragments.toNat →
      o.response = r.response) ∧
    (f.expiresAt < now → frag.totalFragments = 1 → f.firstInnerPayload = skfFirstPayloadUnset)

/-- The packet, if it is an authenticated fragment, is one of a message of the sender. -/
def State.Genuine (s : State) (M : Set SentMessage) (raw : Bytes) : Prop :=
  ∀ o frag, s.authenticated raw = some o → o.frag = some frag → ∃ m ∈ M, ∃ i, o.IsFragment frag m i

/-- The receivers after any genuine packets that are apart. -/
inductive Receiver.Receives (cfg : Option Config) (M : Set SentMessage) (r₀ : Receiver) :
    Receiver → Prop
  | refl : Receives cfg M r₀ r₀
  | tail {r : Receiver} {now : Time} {raw : Bytes} (h : Receives cfg M r₀ r)
      (hgenuine : r.state.Genuine M raw) (hapart : r.Apart now raw) :
      Receives cfg M r₀ (r.receive cfg now raw)

theorem openRaw_of_authenticated {s : State} {raw : Bytes} {o : Opened}
    (h : s.authenticated raw = some o) : ∃ sel keys, s.selectedIKE = some sel ∧
    s.ikeKeys = some keys ∧ openRaw s.isOriginalInitiator sel keys raw = .ok o := by
  unfold State.authenticated at h
  split at h
  · next sel keys hsel hkeys =>
    refine ⟨sel, keys, hsel, hkeys, ?_⟩
    cases hopen : openRaw s.isOriginalInitiator sel keys raw with
    | error e =>
      rw [hopen] at h
      cases h
    | ok o' =>
      rw [hopen] at h
      exact congrArg Except.ok (Option.some.inj h)
  · cases h

theorem run_openProtectedRawState_of_not_authenticated {s : State} {raw : Bytes}
    (h : s.authenticated raw = none) (cfg : Option Config) (now : Time) :
    ∃ e, (openProtectedRawState cfg now raw).run s = (.error e, s) := by
  rw [openProtectedRawState, Eff.run_bind_of_ok (Eff.run_get s)]
  unfold State.authenticated at h
  cases hsel : s.selectedIKE with
  | none => exact ⟨_, rfl⟩
  | some sel =>
    cases hkeys : s.ikeKeys with
    | none => exact ⟨_, rfl⟩
    | some keys =>
      rw [hsel, hkeys] at h
      dsimp only at h ⊢
      cases hopen : openRaw s.isOriginalInitiator sel keys raw with
      | error e => exact ⟨e, Eff.run_bind_of_error (Eff.run_lift _ _)⟩
      | ok o =>
        rw [hopen] at h
        cases h

theorem run_openProtectedRawState_of_whole {s : State} {raw : Bytes} {o : Opened}
    (h : s.authenticated raw = some o) (hfrag : o.frag = none) (cfg : Option Config) (now : Time) :
    ((openProtectedRawState cfg now raw).run s).2 = s := by
  obtain ⟨sel, keys, hsel, hkeys, hopen⟩ := openRaw_of_authenticated h
  rw [run_openProtectedRawState hsel hkeys hopen, finishOpened, Eff.run_bind_of_ok (Eff.run_get _),
    hfrag]
  dsimp only
  rw [Eff.run_bind, Eff.run_lift]
  cases parsePayloads o.plain o.innerNext false <;> rfl

theorem run_openProtectedRawState_fragment {cfg : Option Config} {now : Time} {raw : Bytes} {s : State}
    {o : Opened} {frag : SkfHeader} (hauth : s.authenticated raw = some o) (hfrag : o.frag = some frag)
    {stored f : Option FragmentReassembly} (hstored : s.inboundFragments = stored)
    {res : Except Err (Option Bytes)}
    (hcollect : (collectSKFragment (o.envelope frag) o.plain o.header.messageID
      o.header.exchangeType (skfTimeout cfg) now).run stored = (res, f)) :
    (openProtectedRawState cfg now raw).run s =
      (handOver (if fragFirst stored ≠ skfFirstPayloadUnset then fragFirst stored else o.innerNext)
        res, s.withFragments f) := by
  subst hstored
  obtain ⟨sel, keys, hsel, hkeys, hopen⟩ := openRaw_of_authenticated hauth
  have hrun : (onFragments (collectSKFragment (o.envelope frag) o.plain o.header.messageID
      o.header.exchangeType (skfTimeout cfg) now)).run s = (res, s.withFragments f) := by
    rw [onFragments, Eff.run_zoom, hcollect]
  rw [run_openProtectedRawState hsel hkeys hopen, finishOpened,
    Eff.run_bind_of_ok (Eff.run_get _), hfrag]
  dsimp only
  rw [Eff.run_bind]
  unfold Opened.envelope at hrun
  rw [hrun]
  cases res with
  | error e => rfl
  | ok joined =>
    cases joined with
    | none => rfl
    | some joined =>
      dsimp only
      rw [Eff.run_bind, Eff.run_lift, handOver]
      generalize parsePayloads joined _ false = parsed
      cases parsed <;> rfl

section Step

variable {cfg : Option Config} {now : Time} {raw : Bytes} {r : Receiver} {M : Set SentMessage}
  {o : Opened} {frag : SkfHeader} {m : SentMessage} {i : ℕ}

theorem receive_piece (hauth : r.state.authenticated raw = some o) (hfrag : o.frag = some frag)
    (hm : m ∈ M) (hi : o.IsFragment frag m i) {S : Finset ℕ}
    (hcollect : (collectSKFragment (o.envelope frag) o.plain o.header.messageID
      o.header.exchangeType (skfTimeout cfg) now).run r.state.inboundFragments =
      if ∀ k < m.pieces.length, k ∈ insert i S then (.ok (some m.pieces.flatten), none)
      else (.ok none, stored m.exchange m.msgID m.nextPayload m.pieces (insert i S)
        (now + skfTimeout cfg)))
    (hfirst : (∀ k < m.pieces.length, k ∈ insert i S) →
      (if fragFirst r.state.inboundFragments ≠ skfFirstPayloadUnset then
        fragFirst r.state.inboundFragments else o.innerNext) = m.nextPayload)
    (hresponse : (r.receive cfg now raw).response = m.response) :
    (r.receive cfg now raw).Collects M ∧
      Returns M o frag ((openProtectedRawState cfg now raw).run r.state).1 := by
  by_cases hall : ∀ k < m.pieces.length, k ∈ insert i S
  · rw [if_pos hall] at hcollect
    have hrun := run_openProtectedRawState_fragment hauth hfrag rfl hcollect
    rw [hfirst hall] at hrun
    refine ⟨fun f hf => ?_, ?_⟩
    · rw [Receiver.receive, hrun] at hf
      cases hf
    · rw [hrun]
      exact returns_map_parsePayloads hm hi
  · rw [if_neg hall] at hcollect
    have hrun := run_openProtectedRawState_fragment hauth hfrag rfl hcollect
    refine ⟨fun f hf => ?_, ?_⟩
    · rw [Receiver.receive, hrun] at hf
      change stored m.exchange m.msgID m.nextPayload m.pieces (insert i S) _ = some f at hf
      rw [stored, if_neg (Finset.insert_ne_empty _ _)] at hf
      refine ⟨m, hm, insert i S, _, Finset.insert_nonempty _ _, ?_, hresponse,
        (Option.some.inj hf).symm⟩
      simpa using hall
    · intro payloads h
      rw [hrun] at h
      cases h

theorem receive_response (hauth : r.state.authenticated raw = some o) (hfrag : o.frag = some frag) :
    (r.receive cfg now raw).response =
      if o.Begins frag now r.state.inboundFragments then o.response else r.response := by
  simp only [Receiver.receive, hauth, hfrag]

theorem receive_fresh (hauth : r.state.authenticated raw = some o) (hfrag : o.frag = some frag)
    (hm : m ∈ M) (hu : m.nextPayload ≠ skfFirstPayloadUnset) (hi : o.IsFragment frag m i)
    (hbegins : o.Begins frag now r.state.inboundFragments)
    (hfirst : m.pieces.length = 1 → fragFirst r.state.inboundFragments = skfFirstPayloadUnset) :
    (r.receive cfg now raw).Collects M ∧
      Returns M o frag ((openProtectedRawState cfg now raw).run r.state).1 := by
  have hilt : i < m.pieces.length := (List.getElem?_eq_some_iff.mp hi.plain).1
  have hnone : (collectSKFragment (o.envelope frag) o.plain o.header.messageID
      o.header.exchangeType (skfTimeout cfg) now).run r.state.inboundFragments =
      (collectSKFragment (o.envelope frag) o.plain o.header.messageID o.header.exchangeType
        (skfTimeout cfg) now).run none := by
    cases hf : r.state.inboundFragments with
    | none => rfl
    | some f =>
      rw [hf] at hbegins
      rcases hbegins with hexp | ⟨hex, hid, hlt⟩
      · exact collectSKFragment_of_expired hi.isPiece hilt hexp
      · by_cases hexp : f.expiresAt < now
        · exact collectSKFragment_of_expired hi.isPiece hilt hexp
        · exact collectSKFragment_of_gt hi.isPiece hilt hexp hex hid (hi.total ▸ hlt)
  refine receive_piece hauth hfrag hm hi (S := ∅) ?_ (fun hall => ?_) ?_
  · rw [hnone, hi.msgID, hi.exchange]
    exact collectSKFragment_stored (e := 0) hi.isPiece hi.plain hu (.inl rfl)
  · have hzero : i = 0 := by simpa [eq_comm] using hall 0 (by omega)
    have hone : m.pieces.length = 1 := by
      by_contra hne
      have := hall 1 (by omega)
      simp [hzero] at this
    rw [hfirst hone, if_neg (not_not.mpr rfl), hi.next, hzero]
    rfl
  · rw [receive_response hauth hfrag, if_pos hbegins, hi.response]

theorem receive_live (hdistinct : Distinct M) (hcollects : r.Collects M) (hapart : r.Apart now raw)
    (hauth : r.state.authenticated raw = some o) (hfrag : o.frag = some frag) (hm : m ∈ M)
    (hi : o.IsFragment frag m i) {f : FragmentReassembly} (hf : r.state.inboundFragments = some f)
    (hbegins : ¬o.Begins frag now r.state.inboundFragments) :
    (r.receive cfg now raw).Collects M ∧
      Returns M o frag ((openProtectedRawState cfg now raw).run r.state).1 := by
  have hilt : i < m.pieces.length := (List.getElem?_eq_some_iff.mp hi.plain).1
  have hresponse : (r.receive cfg now raw).response = r.response := by
    rw [receive_response hauth hfrag, if_neg hbegins]
  have hlive : ¬f.expiresAt < now := fun h => hbegins (hf ▸ .inl h)
  by_cases hne : f.exchangeType ≠ o.header.exchangeType ∨ f.messageID ≠ o.header.messageID
  · have hcollect : ∃ e, (collectSKFragment (o.envelope frag) o.plain o.header.messageID
        o.header.exchangeType (skfTimeout cfg) now).run (some f) = (.error e, some f) :=
      collectSKFragment_of_ne hi.isPiece hilt hlive hne
    obtain ⟨e, he⟩ := hcollect
    have hrun := run_openProtectedRawState_fragment hauth hfrag hf he
    refine ⟨fun f' hf' => ?_, fun payloads h => by rw [hrun] at h; cases h⟩
    rw [Receiver.receive, hrun] at hf'
    obtain rfl := Option.some.inj hf'
    rw [hresponse]
    exact hcollects f hf
  obtain ⟨hex, hid⟩ := not_or.mp hne
  rw [not_not] at hex hid
  obtain ⟨m', hm', S, e, hS, hmiss, hdir, hset⟩ := hcollects f hf
  have hlen : f.fragments.length = m'.pieces.length := by rw [hset]; exact Table.length_view _ _
  rcases lt_trichotomy f.fragments.length m.pieces.length with hlt | heq | hgt
  · exact absurd (hf ▸ .inr ⟨hex, hid, hi.total ▸ hlt⟩) hbegins
  · -- the set is one of the same direction and the same message id, so of the same message
    have hsame : o.response = r.response :=
      (hapart o frag f hauth hfrag hf).1 hlive hex hid (heq.trans hi.total.symm)
    have hmsg : m'.msgID = m.msgID := by rw [← hi.msgID, ← hid, hset]; rfl
    obtain rfl : m' = m := hdistinct.eq_of_id m' hm' m hm
      (hdir.symm.trans (hsame.symm.trans hi.response)) hmsg
    have hstored : r.state.inboundFragments =
        stored m'.exchange m'.msgID m'.nextPayload m'.pieces S e := by
      rw [hf, hset, stored, if_neg hS.ne_empty]
    refine receive_piece hauth hfrag hm hi (S := S) ?_ (fun hall => ?_) (hresponse.trans hdir)
    · rw [hstored, hi.msgID, hi.exchange]
      exact collectSKFragment_stored hi.isPiece hi.plain (hdistinct.next m' hm)
        (.inr (not_lt.mp (by rw [hset] at hlive; exact hlive)))
    · rw [hi.next]
      obtain ⟨k, hk, hkS⟩ := hmiss
      have hki : k = i := (Finset.mem_insert.mp (hall k hk)).resolve_right hkS
      exact fragFirst_lastPiece (hdistinct.next m' hm) hstored hilt hall (hki ▸ hkS)
  · have hcollect : (collectSKFragment (o.envelope frag) o.plain o.header.messageID
        o.header.exchangeType (skfTimeout cfg) now).run (some f) =
        (.ok none, some { f with expiresAt := now + skfTimeout cfg }) :=
      collectSKFragment_of_lt hi.isPiece hilt hlive hex hid hgt
    have hrun := run_openProtectedRawState_fragment hauth hfrag hf hcollect
    refine ⟨fun f' hf' => ?_, fun payloads h => by rw [hrun] at h; cases h⟩
    rw [Receiver.receive, hrun] at hf'
    obtain rfl := Option.some.inj hf'
    rw [hresponse, hset]
    exact ⟨m', hm', S, now + skfTimeout cfg, hS, hmiss, hdir, rfl⟩

theorem receive_fragment (hdistinct : Distinct M) (hgenuine : r.state.Genuine M raw)
    (hcollects : r.Collects M) (hapart : r.Apart now raw)
    (hauth : r.state.authenticated raw = some o) (hfrag : o.frag = some frag) :
    (r.receive cfg now raw).Collects M ∧
      Returns M o frag ((openProtectedRawState cfg now raw).run r.state).1 := by
  obtain ⟨m, hm, i, hi⟩ := hgenuine o frag hauth hfrag
  by_cases hbegins : o.Begins frag now r.state.inboundFragments
  · refine receive_fresh hauth hfrag hm (hdistinct.next m hm) hi hbegins fun hone => ?_
    cases hf : r.state.inboundFragments with
    | none => rfl
    | some f =>
      rw [hf] at hbegins
      rcases hbegins with hexp | ⟨-, -, hlt⟩
      · exact (hapart o frag f hauth hfrag hf).2 hexp
          (UInt16.toNat_inj.mp (hi.total.trans hone))
      · -- a stored set has a place for a fragment
        obtain ⟨m', -, S, e, -, ⟨k, hk, -⟩, -, hset⟩ := hcollects f hf
        have hlen : f.fragments.length = m'.pieces.length := by
          rw [hset]; exact Table.length_view _ _
        rw [hi.total, hone] at hlt
        omega
  · cases hf : r.state.inboundFragments with
    | none => exact absurd (hf ▸ trivial) hbegins
    | some f => exact receive_live hdistinct hcollects hapart hauth hfrag hm hi hf hbegins

end Step

theorem Receiver.Receives.collects {cfg : Option Config} {r₀ r : Receiver} {M : Set SentMessage}
    (h : r₀.Receives cfg M r) (hdistinct : Distinct M) (hfresh : r₀.state.inboundFragments = none) :
    r.Collects M := by
  induction h with
  | refl =>
    intro f hf
    rw [hfresh] at hf
    cases hf
  | @tail r now raw _ hgenuine hapart hcollects =>
    have hkeep : (r.receive cfg now raw).state = r.state → (r.receive cfg now raw).response =
        r.response → (r.receive cfg now raw).Collects M := by
      intro hstate hresponse f hf
      rw [hresponse]
      exact hcollects f (hstate ▸ hf)
    cases hauth : r.state.authenticated raw with
    | none =>
      obtain ⟨e, he⟩ := run_openProtectedRawState_of_not_authenticated hauth cfg now
      exact hkeep (by rw [Receiver.receive, he]) (by simp only [Receiver.receive, hauth])
    | some o =>
      cases hfrag : o.frag with
      | none =>
        exact hkeep (run_openProtectedRawState_of_whole hauth hfrag cfg now)
          (by simp only [Receiver.receive, hauth, hfrag])
      | some frag => exact (receive_fragment hdistinct hgenuine hcollects hapart hauth hfrag).1

/-- **The fragments of one message**: in every run that keeps the directions apart, what a fragment
hands over is the message of that fragment, parsed from the type that its first fragment carries. -/
theorem fragments_of_one_message {cfg : Option Config} {r₀ r : Receiver} {M : Set SentMessage}
    (hdistinct : Distinct M) (hfresh : r₀.state.inboundFragments = none) (h : r₀.Receives cfg M r)
    {now : Time} {raw : Bytes} (hgenuine : r.state.Genuine M raw) (hapart : r.Apart now raw)
    {o : Opened} {frag : SkfHeader} (hauth : r.state.authenticated raw = some o)
    (hfrag : o.frag = some frag) {payloads : List Payload} {s : State}
    (hrun : (openProtectedRawState cfg now raw).run r.state = (.ok (some payloads), s)) :
    ∃ m ∈ M, (∃ i, o.IsFragment frag m i) ∧
      ∃ enc, parsePayloads m.pieces.flatten m.nextPayload false = .ok (payloads, enc) := by
  have hcollects := h.collects hdistinct hfresh
  have hreturns : Returns M o frag ((openProtectedRawState cfg now raw).run r.state).1 :=
    (receive_fragment hdistinct hgenuine hcollects hapart hauth hfrag).2
  exact hreturns payloads (by rw [hrun])

theorem authenticated_receive (cfg : Option Config) (now : Time) (raw : Bytes) (r : Receiver) :
    (r.receive cfg now raw).state.authenticated = r.state.authenticated := by
  rw [Receiver.receive, (within_openProtectedRawState cfg now raw r.state : OnlyFragments _ _)]
  rfl

end Receivers

section Sample

attribute [local instance] plainCrypto

/-- A response with the message id of `sampleBuild`. -/
def answerParts : List CesPayloadPart :=
  [⟨PayloadType.nonce, List.replicate 30 5⟩, ⟨PayloadType.notify, List.replicate 10 4⟩]

def answerFrames : List Frame :=
  match ((buildProtectedEnvelopeAs (some shortFragments) sampleSender ExchangeType.informational 3
    (firstType answerParts) (cesBuildChain answerParts) (flagInitiator ||| flagResponse)).run
      zeroRng).1 with
  | .ok frames => frames
  | .error _ => []

/-- The `i`-th packet of a message. -/
def packetOf (frames : List Frame) (i : ℕ) : Bytes := ((frames[i]?).map Frame.payload).getD []

/-- What a request and its answer with fragments of one another become. -/
def mixedParts : List CesPayloadPart :=
  [⟨PayloadType.nonce, List.replicate 16 9 ++ List.replicate 14 5⟩,
    ⟨PayloadType.notify, List.replicate 2 4 ++ List.replicate 8 8⟩]

/-- A message in a single fragment: one notify payload. -/
def wholeParts : List CesPayloadPart := [⟨PayloadType.notify, [7, 7, 7, 7]⟩]

def wholePacket : Bytes :=
  match ((sealProtectedEnvelope sampleSender cbcSelection cbcKeys ExchangeType.informational 4
    (firstType wholeParts) PayloadType.skf (some ⟨1, 1⟩) (cesBuildChain wholeParts)
      flagInitiator).run zeroRng).1 with
  | .ok frame => frame.payload
  | .error _ => []

/-- The second fragment of a response joins the first and the third fragment of a request; and a
message in one fragment is parsed from the type of an expired set, here as a nonce. -/
theorem fragments_mixed :
    Eff.trace [openProtectedRawState none 0 (packetOf sampleFrames 0),
      openProtectedRawState none 0 (packetOf answerFrames 1),
      openProtectedRawState none 0 (packetOf sampleFrames 2)] sampleReceiver =
      ([.ok none, .ok none, .ok (some (chainPayloads mixedParts))], sampleReceiver) ∧
    chainPayloads mixedParts ≠ chainPayloads sampleParts ∧
    chainPayloads mixedParts ≠ chainPayloads answerParts ∧
    (Eff.trace [openProtectedRawState none 0 (packetOf sampleFrames 0),
      openProtectedRawState none (16 * second) wholePacket] sampleReceiver).1 =
      [.ok none, .ok (some (chainPayloads [⟨PayloadType.nonce, [7, 7, 7, 7]⟩]))] := by
  refine ⟨?_, by decide, by decide, ?_⟩ <;> decide +kernel

/-- The message of `sampleFrames`. -/
def sampleMessage : SentMessage :=
  ⟨false, ExchangeType.informational, 3, firstType sampleParts, chunks 20 (cesBuildChain sampleParts)⟩

def Opened.fragmentOf (o : Opened) :
    (Bool × ExchangeType × UInt32) × Option SkfHeader × PayloadType × Bytes :=
  ((o.response, o.header.exchangeType, o.header.messageID), o.frag, o.innerNext, o.plain)

theorem fragmentOf_sampleFrames (i : Fin 3) :
    (sampleReceiver.authenticated (packetOf sampleFrames i)).map Opened.fragmentOf =
      some ((false, ExchangeType.informational, 3), some ⟨UInt16.ofNat (i + 1), 3⟩,
        fragmentNext (firstType sampleParts) i, sampleMessage.pieces.getD i []) := by
  fin_cases i <;> decide +kernel

theorem isFragment_sampleFrames (i : Fin 3) {o : Opened} {frag : SkfHeader}
    (h : sampleReceiver.authenticated (packetOf sampleFrames i) = some o)
    (hfrag : o.frag = some frag) : o.IsFragment frag sampleMessage i := by
  have hall := fragmentOf_sampleFrames i
  rw [h, Option.map_some, Opened.fragmentOf, hfrag] at hall
  simp only [Option.some.injEq, Prod.mk.injEq] at hall
  obtain ⟨⟨hresp, hex, hid⟩, rfl, hnext, hplain⟩ := hall
  refine ⟨hresp, hex, hid, ?_, ?_, hnext, ?_⟩
  · fin_cases i <;> rfl
  · exact show 3 = sampleMessage.pieces.length by decide +kernel
  · rw [hplain]
    fin_cases i <;> decide +kernel

theorem apart_sampleFrames {r : Receiver} (hkeys : r.state.authenticated = sampleReceiver.authenticated)
    (hresponse : r.response = false) (now : Time) (i : Fin 3) :
    r.state.Genuine {sampleMessage} (packetOf sampleFrames i) ∧
      r.Apart now (packetOf sampleFrames i) := by
  refine ⟨fun o frag hauth hfrag => ?_, fun o frag f hauth hfrag _ => ?_⟩
  · rw [hkeys] at hauth
    exact ⟨_, rfl, i, isFragment_sampleFrames i hauth hfrag⟩
  · rw [hkeys] at hauth
    have hi := isFragment_sampleFrames i hauth hfrag
    refine ⟨fun _ _ _ _ => hi.response.trans hresponse.symm, fun _ hone => ?_⟩
    have htotal := hi.total
    rw [hone] at htotal
    exact absurd htotal (by decide +kernel)

theorem sample_fragments_of_one_message :
    ∃ r, Receiver.Receives none {sampleMessage} ⟨sampleReceiver, false⟩ r ∧
    ∃ m ∈ ({sampleMessage} : Set SentMessage), ∃ enc,
      parsePayloads m.pieces.flatten m.nextPayload false = .ok (chainPayloads sampleParts, enc) := by
  let r₁ := (⟨sampleReceiver, false⟩ : Receiver).receive none 0 (packetOf sampleFrames 2)
  let r₂ := r₁.receive none 0 (packetOf sampleFrames 0)
  have hkeys₁ : r₁.state.authenticated = sampleReceiver.authenticated := authenticated_receive _ _ _ _
  have hkeys₂ : r₂.state.authenticated = sampleReceiver.authenticated :=
    (authenticated_receive _ _ _ _).trans hkeys₁
  have hresp₁ : r₁.response = false := by decide +kernel
  have hresp₂ : r₂.response = false := by decide +kernel
  obtain ⟨hgen₀, hapart₀⟩ := apart_sampleFrames (r := ⟨sampleReceiver, false⟩) rfl rfl 0 2
  obtain ⟨hgen₁, hapart₁⟩ := apart_sampleFrames hkeys₁ hresp₁ 0 0
  obtain ⟨hgen₂, hapart₂⟩ := apart_sampleFrames hkeys₂ hresp₂ 0 1
  have hruns : Receiver.Receives none {sampleMessage} ⟨sampleReceiver, false⟩ r₂ :=
    (Receiver.Receives.refl.tail hgen₀ hapart₀).tail hgen₁ hapart₁
  have hdistinct : Distinct {sampleMessage} :=
    ⟨by rintro m rfl m' rfl - -; rfl, by rintro m rfl; decide⟩
  obtain ⟨o, hauth⟩ : ∃ o, r₂.state.authenticated (packetOf sampleFrames 1) = some o :=
    Option.isSome_iff_exists.mp (by decide +kernel)
  obtain ⟨frag, hfrag⟩ : ∃ frag, o.frag = some frag := by
    have hall := fragmentOf_sampleFrames 1
    rw [← hkeys₂] at hall
    have heq := hall.symm.trans (congrArg (Option.map Opened.fragmentOf) hauth)
    exact ⟨_, (congrArg (·.2.1) (Option.some.inj heq)).symm⟩
  have hrun : (openProtectedRawState none 0 (packetOf sampleFrames 1)).run r₂.state =
      (.ok (some (chainPayloads sampleParts)), sampleReceiver) := by decide +kernel
  obtain ⟨m, hm, -, hparse⟩ := fragments_of_one_message hdistinct rfl hruns hgen₂ hapart₂ hauth hfrag
    hrun
  exact ⟨r₂, hruns, m, hm, hparse⟩

end Sample

end Swan.Control
