import Mathlib.Data.List.DropRight
import Mathlib.Tactic

/-! # The event hub

`events/hub.go`: one goroutine takes requests off its mailbox and offers every event to every subscriber
in turn; an event that does not fit into a subscriber's channel is dropped for that subscriber. The
subscribers take events from their channels and close their streams between any two steps, also in the
middle of a dispatch, and a stream that is found closed is removed then.

A stream remembers what was replayed to it, when, and what it was offered since, with the number of
events that its channel held at the time. `hub_streams` says what that is in every run. -/

namespace Swan.Events

variable {α : Type}

/-- An event that was dispatched to a stream. -/
structure Offer (α : Type) where
  event : α
  /-- How many events the channel held. -/
  held : ℕ
  deriving DecidableEq, Repr

structure Stream (α : Type) where
  /-- What is in the channel. -/
  c : List α
  closed : Bool
  /-- The hub has processed a request to remove the stream. -/
  unsubscribed : Bool
  replayed : List α
  /-- How many events had been dispatched before the subscription. -/
  since : ℕ
  offers : List (Offer α)
  /-- What the subscriber has taken from the channel. -/
  taken : List α
  deriving DecidableEq, Repr

def Stream.sent (queue : ℕ) (s : Stream α) : List α :=
  s.replayed ++ (s.offers.filter fun o => decide (o.held < queue)).map Offer.event

/-- Send an event unless the channel is full. -/
def Stream.offer (queue : ℕ) (ev : α) (s : Stream α) : Stream α :=
  { s with c := if s.c.length < queue then s.c ++ [ev] else s.c
           offers := s.offers ++ [⟨ev, s.c.length⟩] }

/-- The subscriber takes the next event. -/
def Stream.take (s : Stream α) : Stream α :=
  match s.c with
  | [] => s
  | ev :: c => { s with c := c, taken := s.taken ++ [ev] }

structure Hub (α : Type) where
  /-- The capacity of a subscriber's channel. -/
  queue : ℕ
  /-- The capacity of the replay buffer. -/
  replay : ℕ
  retained : List α
  /-- The live subscribers. -/
  subs : List ℕ
  stream : ℕ → Stream α
  /-- The number of streams so far. -/
  created : ℕ
  /-- The event that is being dispatched, and the number of the subscriber that is next. -/
  dispatching : Option (α × ℕ)
  /-- All events dispatched so far. -/
  dispatched : List α
  replay_le : replay ≤ queue
  queue_pos : 0 < queue

/-- A request to the hub, or a step of the hub or of a subscriber. -/
inductive Action (α : Type) where
  | emit (ev : α)
  | subscribe
  | unsubscribe (id : ℕ)
  | turn
  | take (id : ℕ)
  | close (id : ℕ)
  deriving DecidableEq, Repr

namespace Hub

def update (h : Hub α) (id : ℕ) (f : Stream α → Stream α) : Hub α :=
  { h with stream := Function.update h.stream id (f (h.stream id)) }

/-- Keep the last events. -/
def retain (h : Hub α) (ev : α) : List α :=
  if h.replay = 0 then h.retained
  else if h.retained.length = h.replay then h.retained.tail ++ [ev]
  else h.retained ++ [ev]

def removeSub (h : Hub α) (id : ℕ) : Hub α := { h with subs := h.subs.erase id }

def dispatch (h : Hub α) (ev : α) : Hub α :=
  { h with retained := h.retain ev, dispatching := some (ev, 0), dispatched := h.dispatched ++ [ev] }

/-- One round of the loop of a dispatch. -/
def turn (h : Hub α) : Hub α :=
  match h.dispatching with
  | none => h
  | some (ev, i) =>
    match h.subs[i]? with
    | none => { h with dispatching := none }
    | some id =>
      if (h.stream id).closed then h.removeSub id
      else { h with dispatching := some (ev, i + 1) }.update id (Stream.offer h.queue ev)

/-- A new stream with the replay in its channel. -/
def subscribe (h : Hub α) : Hub α :=
  { h with subs := h.subs ++ [h.created]
           stream := Function.update h.stream h.created
            ⟨h.retained, false, false, h.retained, h.dispatched.length, [], []⟩
           created := h.created + 1 }

/-- A request is processed when no dispatch is going on. -/
def step (h : Hub α) : Action α → Hub α
  | .emit ev => if h.dispatching.isNone then h.dispatch ev else h
  | .subscribe => if h.dispatching.isNone then h.subscribe else h
  | .unsubscribe id =>
    if h.dispatching.isNone then (h.removeSub id).update id fun s => { s with unsubscribed := true } else h
  | .turn => h.turn
  | .take id => h.update id Stream.take
  | .close id => h.update id fun s => { s with closed := true }

end Hub

/-- The capacity of the channels for a wanted one: the replay fits. -/
def queueFor (queue : ℤ) (replay : ℕ) : ℕ :=
  let queue := if queue < replay then (replay : ℤ) else queue
  if queue ≤ 0 then 1 else queue.toNat

theorem replay_le_queueFor (queue : ℤ) (replay : ℕ) : replay ≤ queueFor queue replay := by
  simp only [queueFor]
  split_ifs <;> omega

theorem queueFor_pos (queue : ℤ) (replay : ℕ) : 0 < queueFor queue replay := by
  simp only [queueFor]
  split_ifs <;> omega

/-- The hub as `NewHub` makes it. -/
def newHub (queue replay : ℤ) : Hub α where
  queue := queueFor queue replay.toNat
  replay := replay.toNat
  retained := []
  subs := []
  stream := fun _ => ⟨[], false, false, [], 0, [], []⟩
  created := 0
  dispatching := none
  dispatched := []
  replay_le := replay_le_queueFor queue _
  queue_pos := queueFor_pos queue _

/-! ### The replay buffer -/

theorem rtake_of_length_le {l : List α} {n : ℕ} (h : l.length ≤ n) : l.rtake n = l := by
  rw [List.rtake, Nat.sub_eq_zero_of_le h, List.drop_zero]

theorem retain_eq (h : Hub α) (ev : α) (hr : h.retained = h.dispatched.rtake h.replay) :
    h.retain ev = (h.dispatched ++ [ev]).rtake h.replay := by
  rw [Hub.retain]
  cases hcap : h.replay with
  | zero => rw [if_pos rfl, hr, hcap, List.rtake_zero, List.rtake_zero]
  | succ n =>
    rw [if_neg (Nat.succ_ne_zero n), List.rtake_concat_succ]
    rw [hcap] at hr
    by_cases hfull : h.retained.length = n + 1
    · have hlen : n + 1 ≤ h.dispatched.length := by
        rw [hr, List.rtake, List.length_drop] at hfull
        omega
      rw [if_pos hfull, hr, List.rtake, List.rtake, List.tail_drop]
      congr 2
      omega
    · have hlen : h.dispatched.length ≤ n := by
        rw [hr, List.rtake, List.length_drop] at hfull
        omega
      rw [if_neg hfull, hr, rtake_of_length_le (hlen.trans n.le_succ), rtake_of_length_le hlen]

/-! ### What every step keeps -/

/-- The event in progress has not reached the subscriber yet. -/
def Behind (h : Hub α) (id : ℕ) : Prop := ∃ ev i, h.dispatching = some (ev, i) ∧ id ∉ h.subs.take i

/-- What holds of the stream `s` of the subscriber `id`. -/
structure StreamInv (h : Hub α) (id : ℕ) (s : Stream α) : Prop where
  since_le : s.since ≤ h.dispatched.length
  replayed : s.replayed = (h.dispatched.take s.since).rtake h.replay
  /-- It was offered the events in the order of their dispatch. -/
  events : s.offers.map Offer.event <+: h.dispatched.drop s.since
  flow : s.taken ++ s.c = s.sent h.queue
  cap : s.c.length ≤ h.queue
  held : ∀ o ∈ s.offers, o.held ≤ h.queue
  /-- A live subscriber was offered all of them, but for the one in progress. -/
  reached : id ∈ h.subs → ¬Behind h id → s.since + s.offers.length = h.dispatched.length
  behind : id ∈ h.subs → Behind h id → s.since + s.offers.length + 1 = h.dispatched.length
  left : id ∉ h.subs → s.closed = true ∨ s.unsubscribed = true

structure Inv (h : Hub α) : Prop where
  retained : h.retained = h.dispatched.rtake h.replay
  nodup : h.subs.Nodup
  created : ∀ id ∈ h.subs, id < h.created
  last : ∀ ev i, h.dispatching = some (ev, i) → ∃ before, h.dispatched = before ++ [ev]
  streams : ∀ id < h.created, StreamInv h id (h.stream id)

theorem inv_newHub (queue replay : ℤ) : Inv (newHub queue replay : Hub α) where
  retained := (List.rtake_nil _).symm
  nodup := List.nodup_nil
  created := by simp [newHub]
  last := by simp [newHub]
  streams := by simp [newHub]

section

variable {h : Hub α} {id : ℕ} {s : Stream α}

theorem StreamInv.of_hub {h' : Hub α} (hs : StreamInv h id s) (hdispatched : h'.dispatched = h.dispatched)
    (hreplay : h'.replay = h.replay) (hqueue : h'.queue = h.queue) (hsubs : id ∈ h'.subs → id ∈ h.subs)
    (hbehind : id ∈ h'.subs → (Behind h' id ↔ Behind h id))
    (hleft : id ∉ h'.subs → id ∉ h.subs ∨ s.closed = true ∨ s.unsubscribed = true) : StreamInv h' id s where
  since_le := by rw [hdispatched]; exact hs.since_le
  replayed := by rw [hdispatched, hreplay]; exact hs.replayed
  events := by rw [hdispatched]; exact hs.events
  flow := by rw [hqueue]; exact hs.flow
  cap := by rw [hqueue]; exact hs.cap
  held := by rw [hqueue]; exact hs.held
  reached := fun hid hb => by
    rw [hdispatched]
    exact hs.reached (hsubs hid) (mt (hbehind hid).mpr hb)
  behind := fun hid hb => by
    rw [hdispatched]
    exact hs.behind (hsubs hid) ((hbehind hid).mp hb)
  left := fun hid => (hleft hid).elim hs.left fun h => h

theorem Inv.update (hi : Inv h) (f : Stream α → Stream α)
    (hf : id < h.created → StreamInv h id (f (h.stream id))) : Inv (h.update id f) := by
  refine ⟨hi.retained, hi.nodup, hi.created, hi.last, fun k hk => ?_⟩
  have hk' : k < h.created := hk
  change StreamInv (h.update id f) k (Function.update h.stream id (f (h.stream id)) k)
  by_cases heq : k = id
  · subst heq
    rw [Function.update_self]
    exact (hf hk').of_hub rfl rfl rfl (fun h => h) (fun _ => Iff.rfl) .inl
  · rw [Function.update_of_ne heq]
    exact (hi.streams k hk').of_hub rfl rfl rfl (fun h => h) (fun _ => Iff.rfl) .inl

theorem StreamInv.take (hs : StreamInv h id s) : StreamInv h id s.take := by
  unfold Stream.take
  split
  · exact hs
  · rename_i ev c hc
    have hflow := hs.flow
    have hcap := hs.cap
    rw [hc] at hflow hcap
    refine ⟨hs.since_le, hs.replayed, hs.events, ?_, ?_, hs.held, hs.reached, hs.behind, hs.left⟩
    · change s.taken ++ [ev] ++ c = s.sent h.queue
      rw [List.append_assoc]
      exact hflow
    · exact (Nat.le_succ _).trans hcap

theorem StreamInv.close (hs : StreamInv h id s) : StreamInv h id { s with closed := true } :=
  ⟨hs.since_le, hs.replayed, hs.events, hs.flow, hs.cap, hs.held, hs.reached, hs.behind, fun _ => .inl rfl⟩

theorem behind_iff {ev : α} {i : ℕ} (hd : h.dispatching = some (ev, i)) :
    Behind h id ↔ id ∉ h.subs.take i := by
  constructor
  · rintro ⟨ev', i', hd', hnot⟩
    rw [hd] at hd'
    obtain ⟨-, rfl⟩ := Prod.mk.inj (Option.some.inj hd')
    exact hnot
  · exact fun hnot => ⟨ev, i, hd, hnot⟩

theorem not_behind (hidle : h.dispatching = none) (id : ℕ) : ¬Behind h id := by
  rintro ⟨ev, i, hd, -⟩
  rw [hidle] at hd
  cases hd

theorem StreamInv.dispatch (hs : StreamInv h id s) (hidle : h.dispatching = none) (ev : α) :
    StreamInv (h.dispatch ev) id s := by
  have hbehind : Behind (h.dispatch ev) id := ⟨ev, 0, rfl, List.not_mem_nil⟩
  have hlen : (h.dispatch ev).dispatched.length = h.dispatched.length + 1 := List.length_append
  refine ⟨?_, ?_, ?_, hs.flow, hs.cap, hs.held, fun _ hb => absurd hbehind hb, fun hid _ => ?_, hs.left⟩
  · rw [hlen]
    exact hs.since_le.trans (Nat.le_succ _)
  · change _ = ((h.dispatched ++ [ev]).take _).rtake _
    rw [List.take_append_of_le_length hs.since_le]
    exact hs.replayed
  · change _ <+: (h.dispatched ++ [ev]).drop _
    rw [List.drop_append_of_le_length hs.since_le]
    exact hs.events.trans (List.prefix_append _ _)
  · rw [hlen, hs.reached hid (not_behind hidle id)]

theorem inv_dispatch (hi : Inv h) (hidle : h.dispatching = none) (ev : α) : Inv (h.dispatch ev) := by
  refine ⟨retain_eq h ev hi.retained, hi.nodup, hi.created, ?_,
    fun id hid => (hi.streams id hid).dispatch hidle ev⟩
  rintro e i hd
  obtain ⟨rfl, -⟩ := Prod.mk.inj (Option.some.inj hd)
  exact ⟨h.dispatched, rfl⟩

theorem inv_subscribe (hi : Inv h) (hidle : h.dispatching = none) : Inv h.subscribe := by
  have hfresh : h.created ∉ h.subs := fun hmem => lt_irrefl _ (hi.created _ hmem)
  refine ⟨hi.retained, ?_, ?_, hi.last, fun id hid => ?_⟩
  · exact hi.nodup.append (List.nodup_singleton _) (by simpa using hfresh)
  · intro id hid
    rcases List.mem_append.mp hid with hid | hid
    · exact (hi.created id hid).trans (Nat.lt_succ_self _)
    · rw [List.mem_singleton.mp hid]
      exact Nat.lt_succ_self _
  have hnot : ∀ k, ¬Behind h.subscribe k := not_behind hidle
  change StreamInv h.subscribe id (Function.update h.stream h.created _ id)
  by_cases heq : id = h.created
  · subst heq
    rw [Function.update_self]
    refine ⟨le_rfl, ?_, List.nil_prefix, ?_, ?_, by simp, fun _ _ => rfl, fun _ hb => absurd hb (hnot _), ?_⟩
    · change h.retained = (h.dispatched.take h.dispatched.length).rtake h.replay
      rw [List.take_length]
      exact hi.retained
    · simp [Stream.sent]
    · -- the replay fits into the channel
      change h.retained.length ≤ h.queue
      rw [hi.retained, List.rtake, List.length_drop]
      have := h.replay_le
      omega
    · exact fun hid => absurd (List.mem_append_right _ (List.mem_singleton_self _)) hid
  · rw [Function.update_of_ne heq]
    have hlt : id < h.created := lt_of_le_of_ne (Nat.lt_succ_iff.mp hid) heq
    have hmem : id ∈ h.subscribe.subs ↔ id ∈ h.subs := by
      change id ∈ h.subs ++ [h.created] ↔ id ∈ h.subs
      simp [heq]
    exact (hi.streams id hlt).of_hub rfl rfl rfl hmem.mp
      (fun _ => iff_of_false (hnot id) (not_behind hidle id)) fun hid => .inl (mt hmem.mpr hid)

theorem inv_unsubscribe (hi : Inv h) (hidle : h.dispatching = none) (id : ℕ) :
    Inv ((h.removeSub id).update id fun s => { s with unsubscribed := true }) := by
  have hkeep : ∀ k ∈ (h.removeSub id).subs, k ∈ h.subs := fun k => List.mem_of_mem_erase
  have hothers : ∀ k ≠ id, k ∉ (h.removeSub id).subs → k ∉ h.subs :=
    fun k hk hnot hmem => hnot ((List.mem_erase_of_ne hk).mpr hmem)
  refine ⟨hi.retained, hi.nodup.erase id, fun k hk => hi.created k (hkeep k hk), hi.last, fun k hk => ?_⟩
  have hs := hi.streams k hk
  have hnot : ¬Behind (h.removeSub id) k := not_behind (h := h.removeSub id) hidle k
  change StreamInv _ k (Function.update h.stream id _ k)
  by_cases heq : k = id
  · subst heq
    rw [Function.update_self]
    refine ⟨hs.since_le, hs.replayed, hs.events, hs.flow, hs.cap, hs.held, ?_, ?_, fun _ => .inr rfl⟩
    · exact fun hid _ => hs.reached (hkeep k hid) (not_behind hidle k)
    · exact fun _ hb => absurd hb hnot
  · rw [Function.update_of_ne heq]
    exact hs.of_hub rfl rfl rfl (hkeep k) (fun _ => iff_of_false hnot (not_behind hidle k))
      fun hk => .inl (hothers k heq hk)

theorem erase_eq {subs : List ℕ} (hnodup : subs.Nodup) {i : ℕ} (hi : subs[i]? = some id) :
    subs.erase id = subs.take i ++ subs.drop (i + 1) := by
  obtain ⟨hlt, rfl⟩ := List.getElem?_eq_some_iff.mp hi
  rw [hnodup.erase_getElem i hlt, List.eraseIdx_eq_take_drop_succ]

theorem not_mem_take {subs : List ℕ} (hnodup : subs.Nodup) {i : ℕ} (hi : subs[i]? = some id) :
    id ∉ subs.take i := by
  obtain ⟨hlt, rfl⟩ := List.getElem?_eq_some_iff.mp hi
  intro hmem
  obtain ⟨j, hj, heq⟩ := List.getElem_of_mem hmem
  rw [List.getElem_take] at heq
  rw [List.length_take] at hj
  have := (hnodup.getElem_inj_iff).mp heq
  omega

theorem StreamInv.offer {ev : α} {i : ℕ} (hs : StreamInv h id s) (hnodup : h.subs.Nodup)
    (hd : h.dispatching = some (ev, i)) (hid : h.subs[i]? = some id)
    (hlast : ∃ before, h.dispatched = before ++ [ev]) :
    StreamInv { h with dispatching := some (ev, i + 1) } id (s.offer h.queue ev) := by
  have hmem : id ∈ h.subs := List.mem_of_getElem? hid
  have hbehind : Behind h id := (behind_iff hd).mpr (not_mem_take hnodup hid)
  have hcount := hs.behind hmem hbehind
  obtain ⟨before, hbefore⟩ := hlast
  have hlen : h.dispatched.length = before.length + 1 := by
    rw [hbefore, List.length_append, List.length_singleton]
  have hreached : ¬Behind { h with dispatching := some (ev, i + 1) } id := by
    rw [behind_iff (h := { h with dispatching := some (ev, i + 1) }) rfl, not_not]
    change id ∈ h.subs.take (i + 1)
    rw [List.take_add_one, hid]
    exact List.mem_append_right _ (List.mem_singleton_self id)
  have hsince : s.since ≤ before.length := by omega
  -- so far it was offered all events but this one
  have hdrop : h.dispatched.drop s.since = before.drop s.since ++ [ev] := by
    rw [hbefore, List.drop_append_of_le_length hsince]
  have hall : s.offers.map Offer.event = before.drop s.since := by
    have hprefix := hs.events
    rw [hdrop] at hprefix
    refine (List.prefix_of_prefix_length_le hprefix (List.prefix_append _ _) ?_).eq_of_length ?_
    · rw [List.length_map, List.length_drop]
      omega
    · rw [List.length_map, List.length_drop]
      omega
  refine ⟨hs.since_le, hs.replayed, ?_, ?_, ?_, ?_, fun _ _ => ?_, fun _ hb => absurd hb hreached, ?_⟩
  · change (s.offers ++ [(⟨ev, s.c.length⟩ : Offer α)]).map Offer.event <+: h.dispatched.drop s.since
    rw [List.map_append, hall, hdrop]
    exact List.prefix_rfl
  · have hflow := hs.flow
    change s.taken ++ (if s.c.length < h.queue then s.c ++ [ev] else s.c) =
      s.replayed ++ ((s.offers ++ [(⟨ev, s.c.length⟩ : Offer α)]).filter fun o =>
        decide (o.held < h.queue)).map
        Offer.event
    rw [List.filter_append, List.map_append, ← List.append_assoc]
    by_cases hroom : s.c.length < h.queue
    · simp only [if_pos hroom, List.filter_cons, List.filter_nil, decide_eq_true hroom, if_true,
        List.map_cons, List.map_nil]
      rw [← List.append_assoc, hflow]
      rfl
    · simp only [if_neg hroom, List.filter_cons, List.filter_nil, decide_eq_false hroom,
        Bool.false_eq_true, if_false, List.map_nil, List.append_nil]
      exact hflow
  · change (if s.c.length < h.queue then s.c ++ [ev] else s.c).length ≤ h.queue
    split_ifs with hroom
    · rw [List.length_append, List.length_singleton]
      exact hroom
    · exact hs.cap
  · intro o ho
    rcases List.mem_append.mp ho with ho | ho
    · exact hs.held o ho
    · rw [List.mem_singleton.mp ho]
      exact hs.cap
  · change s.since + (s.offers ++ [(⟨ev, s.c.length⟩ : Offer α)]).length = h.dispatched.length
    rw [List.length_append, List.length_singleton, ← hcount, Nat.add_assoc]
  · exact fun hnot => absurd hmem hnot

theorem inv_turn (hi : Inv h) : Inv h.turn := by
  unfold Hub.turn
  split
  · exact hi
  rename_i ev i hd
  split
  · -- the end of the loop
    rename_i hend
    have htake : h.subs.take i = h.subs := List.take_of_length_le (List.getElem?_eq_none_iff.mp hend)
    refine ⟨hi.retained, hi.nodup, hi.created, by simp, fun k hk => ?_⟩
    refine (hi.streams k hk).of_hub rfl rfl rfl (fun h => h) (fun hid => ?_) .inl
    refine iff_of_false (not_behind rfl k) ?_
    rw [behind_iff hd, htake, not_not]
    exact hid
  rename_i id hid
  split_ifs with hclosed
  · -- a closed stream is removed, and the one after it is next
    have herase : (h.removeSub id).subs = h.subs.take i ++ h.subs.drop (i + 1) := erase_eq hi.nodup hid
    have hlt : i < h.subs.length := (List.getElem?_eq_some_iff.mp hid).1
    have htake : (h.removeSub id).subs.take i = h.subs.take i := by
      rw [herase, List.take_left' (by rw [List.length_take, min_eq_left hlt.le])]
    have hkeep : ∀ k ∈ (h.removeSub id).subs, k ∈ h.subs := fun k => List.mem_of_mem_erase
    refine ⟨hi.retained, hi.nodup.erase id, fun k hk => hi.created k (hkeep k hk), hi.last, fun k hk => ?_⟩
    refine (hi.streams k hk).of_hub rfl rfl rfl (hkeep k) (fun _ => ?_) fun hnot => ?_
    · rw [behind_iff (h := h.removeSub id) hd, behind_iff hd, htake]
    · by_cases heq : k = id
      · subst heq
        exact .inr (.inl hclosed)
      · exact .inl fun hmem => hnot ((List.mem_erase_of_ne heq).mpr hmem)
  · -- the event is offered
    have hothers : ∀ k ≠ id, Behind { h with dispatching := some (ev, i + 1) } k ↔ Behind h k := by
      intro k hk
      have hmem : k ∈ h.subs.take (i + 1) ↔ k ∈ h.subs.take i := by
        rw [List.take_add_one, hid]
        simp [hk]
      rw [behind_iff (h := { h with dispatching := some (ev, i + 1) }) rfl, behind_iff hd]
      exact not_congr hmem
    refine ⟨hi.retained, hi.nodup, hi.created, ?_, fun k hk => ?_⟩
    · intro e j hd'
      obtain ⟨rfl, -⟩ := Prod.mk.inj (Option.some.inj hd')
      exact hi.last ev i hd
    change StreamInv _ k (Function.update h.stream id _ k)
    by_cases heq : k = id
    · subst heq
      rw [Function.update_self]
      exact ((hi.streams k hk).offer hi.nodup hd hid (hi.last ev i hd)).of_hub rfl rfl rfl (fun h => h)
        (fun _ => Iff.rfl) .inl
    · rw [Function.update_of_ne heq]
      exact (hi.streams k hk).of_hub rfl rfl rfl (fun h => h) (fun _ => hothers k heq) .inl

/-- **One step.** -/
theorem inv_step (hi : Inv h) (a : Action α) : Inv (h.step a) := by
  cases a with
  | emit ev =>
    simp only [Hub.step]
    split_ifs with hidle
    · exact inv_dispatch hi (Option.isNone_iff_eq_none.mp hidle) ev
    · exact hi
  | subscribe =>
    simp only [Hub.step]
    split_ifs with hidle
    · exact inv_subscribe hi (Option.isNone_iff_eq_none.mp hidle)
    · exact hi
  | unsubscribe id =>
    simp only [Hub.step]
    split_ifs with hidle
    · exact inv_unsubscribe hi (Option.isNone_iff_eq_none.mp hidle) id
    · exact hi
  | turn => exact inv_turn hi
  | take id => exact hi.update _ fun hid => (hi.streams id hid).take
  | close id => exact hi.update (fun s => { s with closed := true }) fun hid => (hi.streams id hid).close

end

def run (queue replay : ℤ) (actions : List (Action α)) : Hub α := actions.foldl Hub.step (newHub queue replay)

/-- **Any number of steps.** -/
theorem inv_run (queue replay : ℤ) (actions : List (Action α)) : Inv (run queue replay actions) :=
  List.foldlRecOn actions Hub.step (inv_newHub queue replay) fun _ hi a _ => inv_step hi a

/-- What the subscriber `id` with the stream `s` has got. -/
structure Receives (h : Hub α) (id : ℕ) (s : Stream α) : Prop where
  /-- Its channel received the replay and then the offers for which there was room, in order. -/
  channel : s.taken ++ s.c =
    s.replayed ++ (s.offers.filter fun o => decide (o.held < h.queue)).map Offer.event
  /-- The replay is the last events before its subscription. -/
  replay : s.replayed = (h.dispatched.take s.since).rtake h.replay
  /-- The offers are the events since, in the order of their dispatch. -/
  order : s.offers.map Offer.event <+: h.dispatched.drop s.since
  /-- An event is missing only if the channel was full. -/
  missing : ∀ o ∈ s.offers, ¬o.held < h.queue → o.held = h.queue
  /-- As long as it is subscribed it is offered every event, but for one that is on its way. -/
  complete : id ∈ h.subs → ¬Behind h id → s.offers.map Offer.event = h.dispatched.drop s.since
  underway : id ∈ h.subs → Behind h id → ∃ ev, h.dispatched.drop s.since = s.offers.map Offer.event ++ [ev]
  /-- It is removed on its own request only. -/
  removed : id ∉ h.subs → s.closed = true ∨ s.unsubscribed = true

/-- **The streams of the subscribers**, in every run. -/
theorem hub_streams (queue replay : ℤ) (actions : List (Action α)) {id : ℕ}
    (hid : id < (run queue replay actions).created) :
    Receives (run queue replay actions) id ((run queue replay actions).stream id) := by
  have hs := (inv_run queue replay actions).streams id hid
  refine ⟨hs.flow, hs.replayed, hs.events, fun o ho hfull => ?_, fun hsub hb => ?_, fun hsub hb => ?_,
    hs.left⟩
  · exact le_antisymm (hs.held o ho) (not_lt.mp hfull)
  · have hcount := hs.reached hsub hb
    refine hs.events.eq_of_length ?_
    rw [List.length_map, List.length_drop]
    omega
  · have hcount := hs.behind hsub hb
    obtain ⟨rest, hrest⟩ := hs.events
    have hone : rest.length = 1 := by
      have hlen := congrArg List.length hrest
      rw [List.length_append, List.length_map, List.length_drop] at hlen
      omega
    obtain ⟨ev, rfl⟩ := List.length_eq_one_iff.mp hone
    exact ⟨ev, hrest.symm⟩

/-- Two subscribers with channels for two events and a replay of one; the first closes its stream while
the third event is dispatched, the second takes one event. -/
def sampleActions : List (Action ℕ) :=
  [.subscribe, .emit 1, .turn, .turn, .emit 2, .turn, .turn, .subscribe, .emit 3, .close 0, .turn, .turn, .turn,
   .emit 4, .turn, .turn, .take 1, .emit 5, .turn, .turn]

theorem sample_hub_streams :
    (1 : ℕ) < (run 2 1 sampleActions).created ∧
      Receives (run 2 1 sampleActions) 1 ((run 2 1 sampleActions).stream 1) ∧
      (((run 2 1 sampleActions).stream 1).taken, ((run 2 1 sampleActions).stream 1).c) = ([2], [3, 5]) ∧
      (run 2 1 sampleActions).subs = [1] :=
  ⟨by decide, hub_streams 2 1 sampleActions (by decide), by decide, by decide⟩

end Swan.Events
