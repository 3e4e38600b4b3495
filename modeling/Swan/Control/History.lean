import Swan.Control.Invariant
import Swan.Lib.Log

/-! # Answered requests of the peer

The responses to requests of the peer are kept for replay in the order of their message ids, at most
four of them (`ordered_of_runs`). A request with an id up to that of the last stored response is
not handled again: it is answered with the stored frames, or with nothing if its response is no
longer stored (`answered_request_not_repeated`). -/

namespace Swan.Control

open Swan.Lib Swan.Wire Swan.Payload Swan.Xcrypto

/-! ### The stored responses -/

/-- The ids of stored responses grow, and there are at most four of them. -/
structure Ordered (history : List CachedResponse) : Prop where
  increasing : (history.map CachedResponse.messageID).Pairwise (· < ·)
  length : history.length ≤ maxInboundResponseHistory

/-- The id is at most that of the last stored response. -/
def Covers (history : List CachedResponse) (m : UInt32) : Prop :=
  ∃ last ∈ history.getLast?, m ≤ last.messageID

theorem ordered_nil : Ordered [] := ⟨List.Pairwise.nil, Nat.zero_le _⟩

theorem Ordered.covers {history : List CachedResponse} (h : Ordered history) {e : CachedResponse}
    (he : e ∈ history) : Covers history e.messageID := by
  rcases List.eq_nil_or_concat history with rfl | ⟨init, last, rfl⟩
  · cases he
  · rw [List.concat_eq_append] at he h ⊢
    refine ⟨last, by simp, ?_⟩
    rcases List.mem_append.mp he with he | he
    · have hinc := h.increasing
      rw [List.map_append, List.pairwise_append] at hinc
      exact UInt32.le_of_lt (hinc.2.2 _ (List.mem_map_of_mem he) _ (List.mem_singleton_self _))
    · rw [List.mem_singleton.mp he]
      exact UInt32.le_refl _

variable {s : State} {msgID : UInt32} {G : Guard} {a a' : Running}

theorem Ordered.remember (h : Ordered s.inboundHistory)
    (hfresh : ∀ last ∈ s.inboundHistory.getLast?, last.messageID < msgID) (frames : List Frame) :
    Ordered (s.rememberResponse msgID frames).inboundHistory := by
  have hinc : ((s.inboundHistory ++ [CachedResponse.mk msgID frames]).map CachedResponse.messageID).Pairwise
      (· < ·) := by
    rw [List.map_append, List.pairwise_append]
    refine ⟨h.increasing, List.pairwise_singleton _ _, fun x hx y hy => ?_⟩
    obtain ⟨e, he, rfl⟩ := List.mem_map.mp hx
    obtain rfl := List.mem_singleton.mp hy
    obtain ⟨last, hlast, hle⟩ := h.covers he
    exact UInt32.lt_of_le_of_lt hle (hfresh last hlast)
  refine ⟨?_, ?_⟩
  · unfold State.rememberResponse
    dsimp only
    rw [List.map_drop]
    exact hinc.sublist (List.drop_sublist _ _)
  · unfold State.rememberResponse
    dsimp only
    rw [List.length_drop]
    omega

theorem covers_rememberResponse {m : UInt32} (h : Covers s.inboundHistory m)
    (hfresh : ∀ last ∈ s.inboundHistory.getLast?, last.messageID < msgID) (frames : List Frame) :
    Covers (s.rememberResponse msgID frames).inboundHistory m := by
  obtain ⟨last, hlast, hle⟩ := h
  refine ⟨⟨msgID, frames⟩, ?_, UInt32.le_trans hle (UInt32.le_of_lt (hfresh last hlast))⟩
  unfold State.rememberResponse
  dsimp only
  rw [List.getLast?_drop, if_neg (by simp [maxInboundResponseHistory]), List.getLast?_concat]
  rfl

theorem Ordered.replayCachedFrames (h : Ordered s.inboundHistory) {e : CachedResponse}
    (he : e ∈ s.inboundHistory) : s.replayCachedFrames e.messageID = some e.responsePackets := by
  have hnodup : (s.inboundHistory.map CachedResponse.messageID).Nodup :=
    List.Pairwise.imp UInt32.ne_of_lt h.increasing
  unfold State.replayCachedFrames
  cases hfind : s.inboundHistory.reverse.find? fun entry => entry.messageID = e.messageID with
  | none =>
    have := List.find?_eq_none.mp hfind e (List.mem_reverse.mpr he)
    simp at this
  | some e' =>
    have hid : e'.messageID = e.messageID := by simpa using List.find?_some hfind
    have hmem := List.mem_reverse.mp (List.mem_of_find?_eq_some hfind)
    rw [List.inj_on_of_nodup_map hnodup hmem he hid]
    rfl

theorem replayCachedFrames_eq_none (h : ∀ e ∈ s.inboundHistory, e.messageID ≠ msgID) :
    s.replayCachedFrames msgID = none := by
  unfold State.replayCachedFrames
  rw [List.find?_eq_none.mpr fun e he => by simpa using h e (List.mem_reverse.mp he)]
  rfl

/-! ### Acts -/

theorem inboundHistory_mapOldIKE (f : OldIKEContext → OldIKEContext) (s : State) :
    (s.mapOldIKE f).inboundHistory = s.inboundHistory := by
  unfold State.mapOldIKE
  split <;> rfl

theorem inboundHistory_act (h : Act G a a') :
    (a'.sa = a.sa ∧ (a'.state.inboundHistory = a.state.inboundHistory ∨ ∃ msgID frames,
      a.Fresh msgID ∧
        a'.state.inboundHistory = (a.state.rememberResponse msgID frames).inboundHistory)) ∨
      (a'.sa = a.sa + 1 ∧ a'.state.inboundHistory = []) := by
  cases h with
  | remember msgID frames hfresh => exact .inl ⟨rfl, .inr ⟨msgID, frames, hfresh, rfl⟩⟩
  | replaceIKE | replaceIKEUnsealed | peerIKE =>
    exact .inr ⟨rfl, inboundHistory_mapOldIKE _ _⟩
  | finishDelete _ through =>
    rw [Running.offeredDeletion_eq]
    exact .inl ⟨rfl, .inl rfl⟩
  | dropOldChild through | dropActiveChild through | assign _ _ _ through =>
    cases through <;> exact .inl ⟨rfl, .inl rfl⟩
  | oldRemember | oldGiveUp => exact .inl ⟨rfl, .inl (inboundHistory_mapOldIKE _ _)⟩
  | _ => exact .inl ⟨rfl, .inl rfl⟩

theorem ordered_act (h : Act G a a') (ho : Ordered a.state.inboundHistory) :
    Ordered a'.state.inboundHistory := by
  rcases inboundHistory_act h with ⟨-, heq | ⟨msgID, frames, hfresh, heq⟩⟩ | ⟨-, heq⟩ <;> rw [heq]
  · exact ho
  · exact ho.remember hfresh frames
  · exact ordered_nil

/-- On the IKE SA with the number `n` the stored responses reach the message id `m`. -/
def Running.Reaches (n : ℕ) (m : UInt32) (a : Running) : Prop :=
  n ≤ a.sa ∧ (a.sa = n → Covers a.state.inboundHistory m)

theorem reaches_act {n : ℕ} {m : UInt32} (h : Act G a a') (hr : a.Reaches n m) :
    a'.Reaches n m := by
  obtain ⟨hle, hcov⟩ := hr
  rcases inboundHistory_act h with ⟨hsa, heq | ⟨msgID, frames, hfresh, heq⟩⟩ | ⟨hsa, -⟩
  · exact ⟨by omega, fun hn => by rw [heq]; exact hcov (by omega)⟩
  · exact ⟨by omega, fun hn => by
      rw [heq]; exact covers_rememberResponse (hcov (by omega)) hfresh frames⟩
  · exact ⟨by omega, fun hn => by omega⟩

/-! ### Requests that were answered -/

theorem run_sendFrames (sa : ℕ) (purpose : Purpose) (msgID : UInt32) : ∀ (frames : List Frame)
    {a : Running}, (∀ k, a.world.cancel k = false) →
    (sendFrames sa purpose msgID frames).run a = (.ok (), { a with world := { a.world with
      cancel := fun k => a.world.cancel (k + frames.length)
      log := a.world.log ++ frames.map (.frame sa purpose msgID) } })
  | [], a, _ => by simp [sendFrames, Eff.forEach]
  | f :: fs, a, hc => by
    have hone : (do if ← drawCancel then Eff.fail .canceled else record (.frame sa purpose msgID f) :
        Eff Running Unit).run a = (.ok (), { a with world := { a.world with
          cancel := fun k => a.world.cancel (k + 1)
          log := a.world.log ++ [.frame sa purpose msgID f] } }) := by
      rw [Eff.run_bind_of_ok (show drawCancel.run a = (.ok (a.world.cancel 0), _) from rfl), hc 0]
      rfl
    rw [sendFrames, Eff.forEach, Eff.run_bind_of_ok hone]
    refine (run_sendFrames sa purpose msgID fs fun k => hc (k + 1)).trans ?_
    simp [Nat.add_assoc]

/-- The actor after a packet that has changed its stored fragments at most, and made it send the
frames of a stored response. -/
def Running.replayed (a : Running) (f : Option FragmentReassembly) (msgID : UInt32)
    (frames : List Frame) : Running :=
  { a.mapState (State.withFragments f) with world := { a.world with
      cancel := fun k => a.world.cancel (k + frames.length)
      log := a.world.log ++ frames.map (.frame a.sa .replay msgID) } }

section Requests

variable [Crypto] (cfg : Config) (now : Time) {pkt : Packet} {hdr : Header}

theorem Running.CurrentRequest.run (h : a.CurrentRequest pkt hdr) :
    (processPacket cfg now pkt).run a =
      (onState (openProtectedRawState none now pkt.payload) >>= fun
        | none => Eff.fail errMoreFragments
        | some inner => processRequest cfg now hdr inner).run a := by
  obtain ⟨msg, hmsg, rfl, henc⟩ := h.parsed
  obtain ⟨enc, henc⟩ := Option.isSome_iff_exists.mp henc
  rw [processPacket, if_neg (by simp [h.kind]), hmsg]
  refine (Eff.run_bind_of_ok (Eff.run_lift _ _)).trans ?_
  rw [henc]
  refine (Eff.run_bind_of_ok (Eff.run_get a)).trans ?_
  rw [h.current]
  exact congrArg (Eff.run · a) (if_neg (by simp [h.request]))

theorem run_processRequest_answered (hdr : Header) (hcancel : ∀ k, a.world.cancel k = false)
    (hcov : Covers a.state.inboundHistory hdr.messageID) (inner : List Payload) :
    ∃ r, (processRequest cfg now hdr inner).run a = (r, a.replayed a.state.inboundFragments
      hdr.messageID ((a.state.replayCachedFrames hdr.messageID).getD [])) ∧ r ≠ .ok true := by
  obtain ⟨last, hlast, hle⟩ := hcov
  rw [processRequest, Eff.run_bind_of_ok (Eff.run_get a)]
  cases hfind : a.state.replayCachedFrames hdr.messageID with
  | some frames =>
    refine ⟨.ok false, ?_, by simp⟩
    dsimp only
    rw [Eff.run_bind_of_ok (run_sendFrames _ _ _ _ hcancel)]
    rfl
  | none =>
    dsimp only
    rw [Option.mem_def.mp hlast, Option.filter_some, if_pos (by simpa using hle)]
    refine ⟨.error (.errorf
      s!"control: stale inbound running request {hdr.messageID} after {last.messageID}"), ?_, by simp⟩
    simp [Running.replayed, Running.mapState, State.withFragments]

theorem run_processPacket_answered (h : a.CurrentRequest pkt hdr)
    (hcancel : ∀ k, a.world.cancel k = false) (hcov : Covers a.state.inboundHistory hdr.messageID) :
    ∃ r f frames, (processPacket cfg now pkt).run a = (r, a.replayed f hdr.messageID frames) ∧
      r ≠ .ok true ∧
      ((openProtectedRawState none now pkt.payload).run a.state).2 = a.state.withFragments f ∧
      (∀ inner, a.Opens now pkt.payload inner →
        frames = (a.state.replayCachedFrames hdr.messageID).getD []) ∧
      ((∀ inner, ¬a.Opens now pkt.payload inner) → frames = []) := by
  have hnone : ∀ f, a.mapState (State.withFragments f) = a.replayed f hdr.messageID [] := by
    intro f
    simp [Running.replayed, Running.mapState]
  rw [h.run cfg now]
  obtain ⟨r, f, hopen, hrun⟩ := run_onState_open now pkt.payload a
  rcases r with e | _ | inner
  · refine ⟨.error e, f, [], ?_, by simp, by rw [hopen], fun inner hin => ?_, fun _ => rfl⟩
    · rw [Eff.run_bind_of_error hrun, hnone]
    · rw [Running.Opens, hopen] at hin; cases hin
  · refine ⟨.error errMoreFragments, f, [], ?_, by simp, by rw [hopen], fun inner hin => ?_,
      fun _ => rfl⟩
    · rw [Eff.run_bind_of_ok hrun, ← hnone]; rfl
    · rw [Running.Opens, hopen] at hin; cases hin
  · obtain ⟨r, hr, hne⟩ := run_processRequest_answered cfg now hdr
      (a := a.mapState (State.withFragments f)) hcancel hcov inner
    refine ⟨r, f, _, ?_, hne, by rw [hopen], fun _ _ => rfl, fun hno => absurd ?_ (hno inner)⟩
    · rw [Eff.run_bind_of_ok hrun]
      exact hr
    · rw [Running.Opens, hopen]

end Requests

/-! ### Runs -/

section Runs

variable [Crypto] {cfg : Config} {t₀ : Time} {w : World} {l l₁ : Loop}

theorem ordered_of_runs (hs : s.HandedOff)
    (h : Loop.Runs cfg (fun _ _ _ => True) (Loop.start cfg t₀ s w) l) :
    Ordered l.actor.state.inboundHistory ∧ l.actor.Tidy :=
  h.actor_invariant (G := Guard.any) (I := fun a => Ordered a.state.inboundHistory)
    (by rw [Loop.state_actor_start, hs.inboundHistory]; exact ordered_nil) (tidy_start hs)
    (fun ev h => by simpa using h) (fun hact _ => ordered_act hact)
    fun _ _ => Guard.any_allows _ _ _ _

/-- **Answered requests are not handled again**: once the response to a request of the peer was
stored, and while its IKE SA is current, a request with an id up to that one changes nothing but the
stored fragments. If it is complete and its response is still stored, the frames of that response
are sent again; otherwise nothing is sent. The stored responses are in the order of their ids, and
there are at most four. -/
theorem answered_request_not_repeated (hs : s.HandedOff)
    (h₁ : Loop.Runs cfg (fun _ _ _ => True) (Loop.start cfg t₀ s w) l₁) {e : CachedResponse}
    (he : e ∈ l₁.actor.state.inboundHistory) (h : Loop.Runs cfg (fun _ _ _ => True) l₁ l)
    (hsa : l.actor.sa = l₁.actor.sa) (hcancel : ∀ k, l.actor.world.cancel k = false) :
    Ordered l.actor.state.inboundHistory ∧
      ∀ now pkt hdr, l.actor.CurrentRequest pkt hdr → hdr.messageID ≤ e.messageID →
        ∃ r f frames,
          (processPacket cfg now pkt).run l.actor = (r, l.actor.replayed f hdr.messageID frames) ∧
          r ≠ .ok true ∧
          ((openProtectedRawState none now pkt.payload).run l.actor.state).2 =
            l.actor.state.withFragments f ∧
          (∀ inner, l.actor.Opens now pkt.payload inner →
            (∀ c ∈ l.actor.state.inboundHistory, c.messageID = hdr.messageID →
              frames = c.responsePackets) ∧
            ((∀ c ∈ l.actor.state.inboundHistory, c.messageID ≠ hdr.messageID) → frames = [])) ∧
          ((∀ inner, ¬l.actor.Opens now pkt.payload inner) → frames = []) := by
  have ho₁ := ordered_of_runs hs h₁
  have ho := ordered_of_runs hs (h₁.trans h)
  have hreach : l.actor.Reaches l₁.actor.sa e.messageID ∧ l.actor.Tidy :=
    h.actor_invariant (G := Guard.any) (I := fun a => a.Reaches l₁.actor.sa e.messageID)
      ⟨le_rfl, fun _ => ho₁.1.covers he⟩ ho₁.2 (fun ev h => by simpa [Running.Reaches] using h)
      (fun hact _ => reaches_act hact) fun _ _ => Guard.any_allows _ _ _ _
  obtain ⟨last, hlast, hle⟩ := hreach.1.2 hsa
  refine ⟨ho.1, fun now pkt hdr hreq hid => ?_⟩
  obtain ⟨r, f, frames, hrun, hr, hf, hopens, hclosed⟩ := run_processPacket_answered cfg now hreq
    hcancel ⟨last, hlast, UInt32.le_trans hid hle⟩
  refine ⟨r, f, frames, hrun, hr, hf, fun inner hin => ⟨fun c hc hcid => ?_, fun hnone => ?_⟩, hclosed⟩
  · rw [hopens inner hin, ← hcid, ho.1.replayCachedFrames hc]
    rfl
  · rw [hopens inner hin, replayCachedFrames_eq_none hnone]
    rfl

end Runs

section Sample

attribute [local instance] plainCrypto

/-- An empty INFORMATIONAL request of the peer. -/
def samplePing : Packet :=
  sampleSession.peerPacket ExchangeType.informational 0 requestFlags none

/-- The state after the request was answered, and its packet again. -/
def PingAnswered (l : Loop) : Prop :=
  match parseMessage samplePing.payload, l.actor.state.inboundHistory with
  | .ok msg, [c] => msg.encrypted.isSome ∧ msg.header.flags &&& flagResponse = 0 ∧
      l.actor.state.oldIKEFor msg.header = none ∧ c.messageID = msg.header.messageID ∧
      c.responsePackets.length = 1 ∧
      ((openProtectedRawState none (20 * second) samplePing.payload).run l.actor.state).1 =
        .ok (some [])
  | _, _ => False

instance (l : Loop) : Decidable (PingAnswered l) := by
  unfold PingAnswered
  split <;> infer_instance

/-- The response to the repeated request is the stored one. -/
theorem replayed_samplePing : ∃ l : Loop, ∃ c ∈ l.actor.state.inboundHistory,
    c.responsePackets.length = 1 ∧ ∃ r f, (processPacket sampleConfig (20 * second) samplePing).run
      l.actor = (r, l.actor.replayed f c.messageID c.responsePackets) := by
  obtain ⟨l, hl, hping⟩ := Loop.exists_of_follow sampleConfig sampleStart
    [(10 * second, .packet (some samplePing))] (P := PingAnswered) (by decide +kernel)
  have hruns := Loop.runs_of_follow hl
  have hsmooth := hruns.invariant (smooth_start handedOff_sampleSession smooth_sampleWorld)
    fun _ hgo h => hgo.smooth h
  unfold PingAnswered at hping
  split at hping
  · next msg c hmsg hhist =>
    obtain ⟨henc, hflags, hcur, hid, hlen, hopen⟩ := hping
    have hc : c ∈ l.actor.state.inboundHistory := by simp [hhist]
    obtain ⟨-, hall⟩ := answered_request_not_repeated handedOff_sampleSession hruns hc .refl rfl
      hsmooth.1.cancel
    obtain ⟨r, f, frames, hrun, -, -, hopens, -⟩ := hall (20 * second) samplePing msg.header
      ⟨⟨rfl, ⟨msg, hmsg, rfl, henc⟩, hcur⟩, hflags⟩ (by rw [hid]; exact UInt32.le_refl _)
    refine ⟨l, c, hc, hlen, r, f, ?_⟩
    rw [hrun, (hopens [] hopen).1 c hc hid, hid]
  · exact absurd hping id

end Sample

end Swan.Control
