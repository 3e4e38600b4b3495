import Swan.Control.Routing

/-! # One request at a time

`InWindow D` says when a request goes out: every request that went out earlier on the same IKE SA
under another message id has ended, in the sense of `D`. In every run each of them was answered or
given up (`Disciplined`); if no IKE rekey of the peer meets a renewal of the lease, what was given up
was a rekey or a renewal (`resolved_of_runs`). An answer alone is not what the actor waits for:
`request_without_answer` is a run in which a rekey runs out of retries and a keepalive with the
next message id follows. -/

namespace Swan.Control

open Swan.Lib Swan.Wire Swan.Payload Swan.Xcrypto

/-- A frame of a new request goes out when the earlier ones have ended. -/
def InWindow (D : List Entry → ℕ → UInt32 → Prop) (past : List Entry) : Entry → Prop
  | .frame sa .request m _ =>
    ∀ k f, .frame sa .request k f ∈ past → k ≠ m → D past sa k
  | _ => True

/-- Every frame of a new request of a log goes out when the earlier ones are answered or given up. -/
abbrev Disciplined (log : List Entry) : Prop := Justified (InWindow Done) log

/-- The request was answered, or it is a rekey or a renewal of the lease that was given up. -/
def Resolved (log : List Entry) (sa : ℕ) (msgID : UInt32) : Prop :=
  .accepted sa msgID ∈ log ∨ .gaveUp sa msgID ∈ log ∧
    (.asked sa msgID .lease ∈ log ∨ ∃ kind, .asked sa msgID (.rekey kind) ∈ log)

/-- A way for requests to end: an answer is one, and an end is final. -/
structure Ending (D : List Entry → ℕ → UInt32 → Prop) : Prop where
  accepted : ∀ {log sa k}, .accepted sa k ∈ log → D log sa k
  mono : ∀ {log log' sa k}, D log sa k → log ⊆ log' → D log' sa k

theorem ending_done : Ending Done := ⟨.inl, fun h hlog => h.imp (hlog ·) (hlog ·)⟩

theorem ending_resolved : Ending Resolved :=
  ⟨.inl, fun h hlog => h.imp (hlog ·) fun ⟨hgave, hasked⟩ =>
    ⟨hlog hgave, hasked.imp (hlog ·) fun ⟨kind, h⟩ => ⟨kind, hlog h⟩⟩⟩

section Window

variable {D : List Entry → ℕ → UInt32 → Prop}

/-- The requests on an IKE SA have ended, up to the one with the message id `waiting`. -/
def EndedBut (D : List Entry → ℕ → UInt32 → Prop) (log : List Entry) (sa : ℕ)
    (waiting : Option UInt32) : Prop :=
  ∀ k f, .frame sa .request k f ∈ log → D log sa k ∨ some k = waiting

/-- The id of the request in flight. -/
def State.waiting (s : State) : Option UInt32 :=
  if s.hasExpectedResponse then some s.expectedResponseMessageID else none

/-- What the actor knows of the requests in its log. -/
structure Running.Windowed (D : List Entry → ℕ → UInt32 → Prop) (a : Running) : Prop where
  justified : Justified (InWindow D) a.world.log
  numbered : ∀ sa k f, .frame sa .request k f ∈ a.world.log → sa ≤ a.sa
  current : EndedBut D a.world.log a.sa a.state.waiting
  old : ∀ old rest, a.state.oldIKE = old :: rest → old.hasExpectedResponse = true →
    EndedBut D a.world.log a.oldSA (some old.expectedResponseMessageID)
  length : a.state.oldIKE.length ≤ a.sa

def Entry.NoRequest (e : Entry) : Prop := ∀ sa k f, e ≠ .frame sa .request k f

theorem Entry.Plain.noRequest {e : Entry} (h : e.Plain) : e.NoRequest := by
  rintro sa k f rfl
  exact h

theorem Entry.NoRequest.update {u : DataplaneUpdate} : Entry.NoRequest (.update u) :=
  fun _ _ _ h => by cases h

theorem mem_append_noRequest {log es : List Entry} (hes : ∀ e ∈ es, e.NoRequest) {sa : ℕ}
    {k : UInt32} {f : Frame} : .frame sa .request k f ∈ log ++ es ↔ .frame sa .request k f ∈ log := by
  rw [List.mem_append, or_iff_left]
  exact fun h => hes _ h sa k f rfl

theorem InWindow.of_noRequest {e : Entry} (he : e.NoRequest) (past : List Entry) :
    InWindow D past e := by
  unfold InWindow
  split
  · exact absurd rfl (he _ _ _)
  · trivial

/-- The retained IKE SA of `s'`, while its DELETE is in flight, is that of `s`. -/
def SameOld (s s' : State) : Prop :=
  ∀ old' rest', s'.oldIKE = old' :: rest' → old'.hasExpectedResponse = true →
    ∃ old rest, s.oldIKE = old :: rest ∧ old.hasExpectedResponse = true ∧
      old.expectedResponseMessageID = old'.expectedResponseMessageID ∧ rest.length = rest'.length

theorem sameOld_of_eq {s s' : State} (h : s'.oldIKE = s.oldIKE) : SameOld s s' :=
  fun old' rest' hold hexp => ⟨old', rest', by rw [← h, hold], hexp, rfl, rfl⟩

theorem sameOld_of_nil {s s' : State} (h : s'.oldIKE = []) : SameOld s s' := by
  intro old' rest' hold
  rw [h] at hold
  cases hold

theorem sameOld_mapOldIKE {s : State} {f : OldIKEContext → OldIKEContext}
    (hf : ∀ o, (f o).hasExpectedResponse = true → o.hasExpectedResponse = true ∧
      o.expectedResponseMessageID = (f o).expectedResponseMessageID) : SameOld s (s.mapOldIKE f) := by
  intro old' rest' hold hexp
  rcases ho : s.oldIKE with _ | ⟨old, rest⟩
  · rw [State.mapOldIKE, ho] at hold
    rw [ho] at hold
    cases hold
  · rw [State.oldIKE_mapOldIKE ho] at hold
    obtain ⟨rfl, rfl⟩ := List.cons.inj hold
    exact ⟨old, rest, rfl, (hf old hexp).1, (hf old hexp).2, rfl⟩

theorem length_mapOldIKE (f : OldIKEContext → OldIKEContext) (s : State) :
    (s.mapOldIKE f).oldIKE.length = s.oldIKE.length := by
  unfold State.mapOldIKE
  split
  · rfl
  · next h => simp [h]

theorem waiting_mapOldIKE (f : OldIKEContext → OldIKEContext) (s : State) :
    (s.mapOldIKE f).waiting = s.waiting := by
  unfold State.mapOldIKE
  split <;> rfl

namespace Running

variable {a a' : Running}

/-- The request in flight, if there is one, has ended. -/
def CurrentEnded (D : List Entry → ℕ → UInt32 → Prop) (a : Running) : Prop :=
  a.state.hasExpectedResponse = true → D a.world.log a.sa a.state.expectedResponseMessageID

theorem Accepted.currentEnded (hD : Ending D) (h : a.Accepted) : a.CurrentEnded D := fun _ =>
  hD.accepted h.mem

theorem Windowed.endedBut (h : a.Windowed D) (hs : a.CurrentEnded D) (w : Option UInt32) :
    EndedBut D a.world.log a.sa w := by
  intro k f hk
  rcases h.current k f hk with hd | hw
  · exact .inl hd
  · unfold State.waiting at hw
    split_ifs at hw with hexp
    obtain rfl := Option.some.inj hw
    exact .inl (hs hexp)

theorem Windowed.next (hD : Ending D) (h : a.Windowed D) {es : List Entry} (hlog : a'.world.log = a.world.log ++ es)
    (hes : ∀ e ∈ es, e.NoRequest) (hsa : a'.sa = a.sa)
    (hcur : a.CurrentEnded D ∨ a'.state.waiting = a.state.waiting) (hold : SameOld a.state a'.state)
    (hlen : a'.state.oldIKE.length ≤ a.state.oldIKE.length) : a'.Windowed D where
  justified := by
    rw [hlog]
    exact h.justified.append_of_forall fun e he past => .of_noRequest (hes e he) past
  numbered sa k f hk := by
    rw [hlog, mem_append_noRequest hes] at hk
    rw [hsa]
    exact h.numbered sa k f hk
  current k f hk := by
    rw [hlog, hsa, mem_append_noRequest hes] at hk
    rw [hlog, hsa]
    refine Or.imp_left (hD.mono · (List.subset_append_left _ _)) ?_
    rcases hcur with hended | hwait
    · exact h.endedBut hended _ k f hk
    · rw [hwait]
      exact h.current k f hk
  old old' rest' ho' hexp' := by
    obtain ⟨old, rest, ho, hexp, hid, hrest⟩ := hold old' rest' ho' hexp'
    have hsa' : a'.oldSA = a.oldSA := by rw [Running.oldSA, Running.oldSA, hsa, ho, ho']; simp [hrest]
    intro k f hk
    rw [hlog, hsa', mem_append_noRequest hes] at hk
    rw [hlog, hsa', ← hid]
    exact (h.old old rest ho hexp k f hk).imp_left (hD.mono · (List.subset_append_left _ _))
  length := by
    rw [hsa]
    exact hlen.trans h.length

theorem Windowed.next_of_log_eq (hD : Ending D) (h : a.Windowed D) (hlog : a'.world.log = a.world.log)
    (hsa : a'.sa = a.sa) (hcur : a.CurrentEnded D ∨ a'.state.waiting = a.state.waiting)
    (hold : SameOld a.state a'.state)
    (hlen : a'.state.oldIKE.length ≤ a.state.oldIKE.length) : a'.Windowed D :=
  h.next hD (hlog.trans (List.append_nil _).symm) (by simp) hsa hcur hold hlen

theorem Windowed.replaceIKE (h : a.Windowed D) (old : OldIKEContext)
    (hlog : a'.world.log = a.world.log) (hsa : a'.sa = a.sa + 1) (hold : a'.state.oldIKE = [old])
    (hdone : old.hasExpectedResponse = true → a.CurrentEnded D) : a'.Windowed D where
  justified := by rw [hlog]; exact h.justified
  numbered sa k f hk := by
    rw [hlog] at hk
    rw [hsa]
    exact Nat.le_succ_of_le (h.numbered sa k f hk)
  current k f hk := by
    rw [hlog, hsa] at hk
    exact absurd (h.numbered _ k f hk) (by omega)
  old old' rest' ho hexp := by
    rw [hold] at ho
    obtain ⟨rfl, rfl⟩ := List.cons.inj ho
    have hsa' : a'.oldSA = a.sa := by rw [Running.oldSA, hsa, hold]; rfl
    intro k f hk
    rw [hlog, hsa'] at hk ⊢
    exact h.endedBut (hdone hexp) _ k f hk
  length := by rw [hold, hsa]; simp

theorem Windowed.send (hD : Ending D) (h : a.Windowed D) {sa : ℕ} {m : UInt32} (f : Frame)
    (hdone : EndedBut D a.world.log sa (some m)) (hsa : sa ≤ a.sa)
    (hcur : sa = a.sa → a.state.waiting = some m)
    (hold : ∀ old rest, a.state.oldIKE = old :: rest → old.hasExpectedResponse = true → sa = a.oldSA →
      old.expectedResponseMessageID = m) :
    (a.logged (.frame sa .request m f)).Windowed D := by
  have hkeep : ∀ {sa' : ℕ} {w : Option UInt32}, EndedBut D a.world.log sa' w →
      (sa = sa' → w = some m) → EndedBut D (a.world.log ++ [.frame sa .request m f]) sa' w := by
    intro sa' w hd hw k f' hk
    rcases List.mem_append.mp hk with hk | hk
    · exact (hd k f' hk).imp_left (hD.mono · (List.subset_append_left _ _))
    · obtain ⟨rfl, rfl, -⟩ := by simpa using hk
      exact .inr (hw rfl).symm
  refine ⟨justified_concat.mpr ⟨h.justified, fun k f' hk hne => ?_⟩, fun sa' k f' hk => ?_,
    hkeep h.current hcur, fun old rest ho hexp => hkeep (h.old old rest ho hexp) fun hs => ?_,
    h.length⟩
  · exact (hdone k f' hk).resolve_right fun h => hne (Option.some.inj h)
  · rcases List.mem_append.mp hk with hk | hk
    · exact h.numbered sa' k f' hk
    · obtain ⟨rfl, -⟩ := by simpa using hk
      exact hsa
  · rw [hold old rest ho hexp hs]

end Running

/-- **Every act keeps the window**, if a rekey or a renewal of the lease that is settled has
ended. -/
theorem windowed_act (hD : Ending D) {G : Guard} {a a' : Running} (h : Act G a a')
    (hsettled : a.state.rekey.isSome ∨ a.leasePending = true → a.Settled → a.CurrentEnded D)
    (hw : a.Windowed D) : a'.Windowed D := by
  have hquiet : a.state.hasExpectedResponse = false → a.CurrentEnded D := fun hexp h =>
    absurd (hexp.symm.trans h) Bool.false_ne_true
  have hidle : a.state.safeToRekey = true → a.CurrentEnded D := fun hsafe =>
    hquiet (State.safeToRekey_iff.mp hsafe).2.1
  have hnil : ∀ {s : State}, s.oldIKE = [] → s.oldIKE.length ≤ a.state.oldIKE.length := by
    intro s hs
    rw [hs]
    exact Nat.zero_le _
  cases h with
  | calm h =>
    obtain ⟨es, hes, hd⟩ := h
    exact hw.next hD hd.log (fun e he => (hes e he).noRequest) rfl (.inr rfl) (sameOld_of_eq rfl) le_rfl
  | fragments | remember => exact hw.next_of_log_eq hD rfl rfl (.inr rfl) (sameOld_of_eq rfl) le_rfl
  | sendRequest f h =>
    refine hw.send hD f ?_ le_rfl (fun _ => if_pos h) fun old rest ho hexp hs => ?_
    · have hcur := hw.current
      rwa [State.waiting, if_pos h] at hcur
    · have := hw.length
      rw [Running.oldSA, ho, List.length_cons] at hs
      rw [ho, List.length_cons] at this
      omega
  | keepalive frames h =>
    exact hw.next hD rfl (by simp [Entry.NoRequest]) rfl (.inl (hquiet h)) (sameOld_of_eq rfl)
      le_rfl
  | answered msgID h hrekey hp hphase =>
    exact hw.next_of_log_eq hD rfl rfl (.inl (h.currentEnded hD)) (sameOld_of_eq rfl) le_rfl
  | startRekey _ _ hsafe | lease _ hsafe | leaseFailed _ _ hsafe =>
    exact hw.next hD rfl (by simp [Entry.NoRequest]) rfl (.inl (hidle hsafe)) (sameOld_of_eq rfl) le_rfl
  | startFailed t hsafe g =>
    exact hw.next hD rfl (by simp [Entry.NoRequest]) rfl (.inl (hidle hsafe)) (sameOld_of_nil rfl)
      (hnil rfl)
  | abandon hs hrekey g =>
    exact hw.next_of_log_eq hD rfl rfl (.inl (hsettled (.inl hrekey) hs)) (sameOld_of_nil rfl)
      (hnil rfl)
  | abandonRetry t hs h g =>
    have hended := h.elim (fun hrekey => hsettled (.inl hrekey) hs) hidle
    exact hw.next_of_log_eq hD rfl rfl (.inl hended) (sameOld_of_nil rfl) (hnil rfl)
  | replaceChild child keys selection t frames h hrekey hkind hactive =>
    exact hw.next hD (List.append_assoc _ _ _) (by simp [Entry.NoRequest]) rfl
      (.inl (h.currentEnded hD)) (sameOld_of_eq rfl) le_rfl
  | replaceChildUnsealed child keys selection t h hrekey hkind hactive gi g =>
    exact hw.next hD rfl (by simp [Entry.NoRequest]) rfl (.inl (h.currentEnded hD))
      (sameOld_of_eq rfl) le_rfl
  | ackFailed | peerChild =>
    exact hw.next hD rfl (by simp [Entry.NoRequest]) rfl (.inr rfl) (sameOld_of_eq rfl) le_rfl
  | finishDelete msgID through h hrekey hp hphase g =>
    obtain ⟨es, hes, heq⟩ := Running.exists_offeredDeletion a.state.oldChild through a
    rw [heq]
    refine hw.next hD rfl (fun e he => ?_) rfl (.inl (h.currentEnded hD)) (sameOld_of_eq rfl)
      le_rfl
    obtain ⟨c, -, rfl⟩ := hes e he
    exact .update
  | replaceIKE spiI spiR ni nr keys selection t frames h hrekey hkind hold g =>
    refine hw.replaceIKE (a.state.toOldIKE.begin.deleting
      a.state.toOldIKE.nextRequestMessageID frames) rfl rfl ?_ fun _ => h.currentEnded hD
    simp [Running.ikeInstalled, State.mapOldIKE, State.installIKE, hold]
  | replaceIKEUnsealed spiI spiR ni nr keys selection t h hrekey hkind hold g =>
    refine hw.replaceIKE a.state.toOldIKE.begin rfl rfl ?_ fun _ =>
      h.currentEnded hD
    simp [Running.ikeInstalled, State.mapOldIKE, State.installIKE, hold]
  | peerIKE spiI spiR ni nr keys selection t msgID frames hrekey hold h g =>
    refine hw.replaceIKE (a.state.toOldIKE.remember msgID frames) rfl rfl ?_ fun h => by cases h
    simp [Running.ikeInstalled, State.mapOldIKE, State.installIKE, hold]
  | dropOldChild through hold g | dropActiveChild through hactive g =>
    obtain ⟨es, hes, heq⟩ := Running.exists_offered (.childDeleted _) through
      (a.logged (.peerDeleted _ _))
    rw [heq]
    refine hw.next hD (List.append_assoc _ _ _) (fun e he => ?_) rfl (.inr rfl) (sameOld_of_eq rfl) le_rfl
    rcases List.mem_append.mp he with he | he
    · rw [List.mem_singleton.mp he]
      exact fun _ _ _ h => by cases h
    · rw [(hes e he).1]
      exact .update
  | dropLease timer ht hrekey hp hs =>
    exact hw.next_of_log_eq hD rfl rfl (.inl (hsettled (.inr hp) hs)) (sameOld_of_eq rfl) le_rfl
  | assign config deadline timer through ht g hnew =>
    obtain ⟨es, hes, heq⟩ := Running.exists_offered (.assigned config) through a
    rw [heq]
    exact hw.next hD rfl (fun e he => (hes e he).1 ▸ .update) rfl (.inr rfl) (sameOld_of_eq rfl) le_rfl
  | oldSend f hold h =>
    refine hw.send hD f (hw.old _ _ hold h) (Nat.sub_le _ _) (fun hs => ?_) fun old' rest' ho _ _ => ?_
    · have := hw.length
      rw [Running.oldSA, hold, List.length_cons] at hs
      rw [hold, List.length_cons] at this
      omega
    · rw [hold] at ho
      rw [(List.cons.inj ho).1]
  | oldRemember msgID frames hold hnew =>
    exact hw.next_of_log_eq hD rfl rfl (.inr (waiting_mapOldIKE _ _)) (sameOld_mapOldIKE fun o h => ⟨h, rfl⟩)
      (length_mapOldIKE _ _).le
  | oldGiveUp hold g =>
    exact hw.next hD rfl (by simp [Entry.NoRequest]) rfl (.inr (waiting_mapOldIKE _ _))
      (sameOld_mapOldIKE fun o h => by cases h) (length_mapOldIKE _ _).le
  | finishOld hold => exact hw.next_of_log_eq hD rfl rfl (.inr rfl) (sameOld_of_nil rfl) (hnil rfl)

theorem windowed_disarm {a : Running} (ev : Event) (h : a.Windowed D) : (ev.disarm a).Windowed D := by
  cases ev <;> exact ⟨h.justified, h.numbered, h.current, h.old, h.length⟩

section Runs

variable [Crypto] {cfg : Config} {now : Time} {s : State} {w : World} {l : Loop}

omit [Crypto] in
theorem windowed_start (hs : s.HandedOff) (hw : w.log = []) :
    (Loop.start cfg now s w).actor.Windowed D := by
  refine ⟨?_, ?_, ?_, ?_, ?_⟩
  · rw [Loop.log_actor_start, hw]; exact justified_nil
  · rw [Loop.log_actor_start, hw]; simp
  · rw [Loop.log_actor_start, hw, EndedBut]; simp
  · rw [Loop.state_actor_start, hs.oldIKE]; simp
  · rw [Loop.state_actor_start, hs.oldIKE]; exact Nat.zero_le _

/-- In every run a request goes out when the earlier ones on its IKE SA are answered or given up. -/
theorem disciplined_of_runs (hs : s.HandedOff) (hw : w.log = [])
    (h : Loop.Runs cfg (fun _ _ _ => True) (Loop.start cfg now s w) l) :
    Disciplined l.actor.world.log :=
  (h.actor_invariant (G := Guard.any) (I := Running.Windowed Done) (windowed_start hs hw)
    (tidy_start hs) windowed_disarm (fun hact _ => windowed_act ending_done hact fun _ hs => hs)
    fun _ _ => Guard.any_allows _ _ _ _).1.justified

omit [Crypto] in
/-- The request in flight, while a rekey or a renewal of the lease is pending, is one. -/
theorem Running.Routed.currentEnded {a : Running} (hr : a.Routed)
    (h : a.state.rekey.isSome ∨ a.leasePending = true) (hs : a.Settled) :
    a.CurrentEnded Resolved := by
  intro hexp
  refine (hs hexp).imp_right fun hgave => ⟨hgave, ?_⟩
  rcases h with hrekey | hp
  · obtain ⟨rc, hrc⟩ := Option.isSome_iff_exists.mp hrekey
    exact .inr ⟨_, mem_of_latest (hr.rekey rc hrc).1.asked⟩
  · exact .inl (mem_of_latest (hr.lease hp).asked)

/-- **One request at a time**: in every run in which the peer does not rekey the IKE SA while a
renewal of the lease is in flight, also in its last round, a frame of a new request goes out on an
IKE SA only when every request that went out earlier on that SA under another message id was answered
or is a rekey or a renewal that was given up. -/
theorem resolved_of_runs (hs : s.HandedOff) (hw : w.log = [])
    (h : Loop.Runs cfg (fun t ev l => l.NoRekeyInRenewal t ev) (Loop.start cfg now s w) l) :
    Justified (InWindow Resolved) l.actor.world.log ∧ ∀ t ev, l.NoRekeyInRenewal t ev →
      Justified (InWindow Resolved) ((Loop.step cfg t ev).run l).2.actor.world.log := by
  let I : Running → Prop := fun a => a.Windowed Resolved ∧ a.Routed
  have hdisarm : ∀ {a : Running} (ev : Event), I a → I (ev.disarm a) := fun ev h =>
    ⟨windowed_disarm ev h.1, h.2.disarm ev⟩
  have hact : ∀ {a a' : Running}, Act Guard.routing a a' → a.Tidy → I a → I a' := fun hact ht h =>
    ⟨windowed_act ending_resolved hact h.2.currentEnded h.1, routed_act (fun _ h => h) hact ht h.2⟩
  have hinv : I l.actor ∧ l.actor.Tidy := h.actor_invariant (G := Guard.routing)
    ⟨windowed_start hs hw, routed_start hs⟩ (tidy_start hs) hdisarm hact
    fun hc _ => Guard.routing_allows hc
  exact ⟨hinv.1.1.justified, fun t ev hc => Loop.log_step (Guard.routing_allows hc) trivial hinv
    hdisarm hact fun h => h.1.justified⟩

end Runs

end Window

/-! ### Requests that are given up -/

/-- The stricter rule: a request goes out when the one before it was answered. -/
def AfterAnswer (past : List Entry) : Entry → Prop
  | .frame sa .request m _ =>
    ∀ k f, .frame sa .request k f ∈ past → m = k + 1 → .accepted sa k ∈ past
  | _ => True

/-- The IKE SA and the id of a frame of a new request. -/
def Entry.request : Entry → Option (ℕ × UInt32)
  | .frame sa .request m _ => some (sa, m)
  | _ => none

theorem Entry.request_eq_some {e : Entry} {sa : ℕ} {m : UInt32} (h : e.request = some (sa, m)) :
    ∃ f, e = .frame sa .request m f := by
  unfold Entry.request at h
  split at h
  · obtain ⟨rfl, rfl⟩ := by simpa using h
    exact ⟨_, rfl⟩
  · cases h

section Sample

attribute [local instance] plainCrypto

/-- A child rekey with id 5 runs out of retries; the keepalive that follows has id 6. -/
def abandonedRekey : List (Time × Event) :=
  [(1000 * second, .childSoft), (1001 * second, .rto), (1003 * second, .rto), (1020 * second, .tick)]

/-- A run in which a request goes out although the one before it was never answered. -/
theorem request_without_answer :
    ∃ l, Loop.Runs sampleConfig (fun _ _ _ => True) sampleStart l ∧
      ¬Justified AfterAnswer l.actor.world.log := by
  obtain ⟨l, hl, hpast, hnext, haccepted⟩ := Loop.exists_of_follow sampleConfig
    sampleStart abandonedRekey (P := fun l =>
      (l.actor.world.log.take 5).filterMap Entry.request = [(0, 5)] ∧
        l.actor.world.log[5]?.bind Entry.request = some (0, 6) ∧
        .accepted 0 5 ∉ l.actor.world.log.take 5) (by decide +kernel)
  refine ⟨l, Loop.runs_of_follow hl, fun h => ?_⟩
  obtain ⟨e, he, hreq⟩ := Option.bind_eq_some_iff.mp hnext
  obtain ⟨e', he', hreq'⟩ := List.mem_filterMap.mp
    (show (0, 5) ∈ (l.actor.world.log.take 5).filterMap Entry.request by simp [hpast])
  obtain ⟨f, rfl⟩ := Entry.request_eq_some hreq
  obtain ⟨f', rfl⟩ := Entry.request_eq_some hreq'
  exact haccepted (h.take he 5 f' he' rfl)

/-- In that run the keepalive goes out after the rekey was given up. -/
theorem resolved_abandonedRekey :
    ∃ l : Loop, l.actor.world.log.filterMap Entry.request = [(0, 5), (0, 6)] ∧
      Justified (InWindow Resolved) l.actor.world.log := by
  obtain ⟨l, hl, heq⟩ := Loop.exists_of_follow sampleConfig sampleStart abandonedRekey
    (P := fun l => l.actor.world.log.filterMap Entry.request = [(0, 5), (0, 6)]) (by decide +kernel)
  have hruns : Loop.Runs sampleConfig (fun t ev l => l.NoRekeyInRenewal t ev) sampleStart l := by
    refine runs_of_follow hl fun e he => fun h => ⟨fun pkt _ hev => ?_, Loop.goes_of_next h⟩
    have hnone : ∀ e ∈ abandonedRekey, e.2 ≠ .packet (some pkt) := by simp [abandonedRekey]
    exact absurd hev (hnone e he)
  exact ⟨l, heq, (resolved_of_runs handedOff_sampleSession rfl hruns).1⟩

end Sample

end Swan.Control
