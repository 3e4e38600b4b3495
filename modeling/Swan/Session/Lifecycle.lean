import Mathlib.Tactic
import Swan.Lib.Run

/-! # The end of a session

The watchers of a started session call `fail`, its users `Stop`, in any number and from any
goroutine. Each mutex section and each emit is one step. `terminal_order`: `Broken`, `Stopping` and
`Stopped` are emitted in this order, each at most once, as long as teardown does not begin while a
`fail` stands between its check of the flag and its emit. Such a `fail` emits `Broken` after
`Stopping` (`broken_after_stopping`). -/

namespace Swan.Session

open Swan.Lib

/-- The events that end a session. -/
inductive TerminalEvent where
  | broken
  | stopping
  | stopped
  deriving DecidableEq, Repr

/-- Where a goroutine of a watcher or of a user is. -/
inductive Thread where
  /-- `monitorTransport` before its section, after a transport worker has ended. -/
  | monitorTransport
  /-- `watchRunning` before its section, after the end of the context. -/
  | watchCanceled
  /-- `fail` before its section. -/
  | fail
  /-- `fail` after its section, before `brokenOnce`. -/
  | broken
  /-- Before `stopOnce`. -/
  | stop
  | done
  deriving DecidableEq, Repr

/-- How far `stop` is; `stopOnce` lets it run once. -/
inductive Teardown where
  | notCalled
  | called
  /-- The flag is set and the actors are snapped. -/
  | flagged
  /-- `Stopping` is out. -/
  | closing
  | finished
  deriving DecidableEq, Repr

/-- A started session. -/
structure Lifecycle where
  stopping : Bool
  /-- Whether `brokenOnce` has run. -/
  brokenOnce : Bool
  teardown : Teardown
  events : List TerminalEvent
  threads : List Thread
  deriving DecidableEq, Repr

namespace Lifecycle

/-- A session after a successful `Start`. -/
def started : Lifecycle := ⟨false, false, .notCalled, [], []⟩

/-- What can happen next. -/
inductive Move where
  /-- A watcher or a user enters at one of the first points. -/
  | spawn (t : Thread)
  | thread (i : ℕ)
  | teardown
  deriving DecidableEq, Repr

/-- The next step of a goroutine. -/
def advance (x : Lifecycle) : Thread → Lifecycle × Thread
  | .monitorTransport => (x, if x.stopping then .done else .fail)
  | .watchCanceled => (x, if x.stopping then .done else .stop)
  | .fail => (x, if x.stopping then .done else .broken)
  | .broken =>
    (if x.brokenOnce then x else { x with brokenOnce := true, events := x.events ++ [.broken] }, .stop)
  | .stop => (if x.teardown = .notCalled then { x with teardown := .called } else x, .done)
  | .done => (x, .done)

/-- The next step of `stop`. -/
def tearDown (x : Lifecycle) : Lifecycle :=
  match x.teardown with
  | .notCalled => x
  | .called => { x with stopping := true, teardown := .flagged }
  | .flagged => { x with teardown := .closing, events := x.events ++ [.stopping] }
  | .closing => { x with teardown := .finished, events := x.events ++ [.stopped] }
  | .finished => x

def move (x : Lifecycle) : Move → Lifecycle
  | .spawn t => if t = .broken then x else { x with threads := x.threads ++ [t] }
  | .thread i =>
    match x.threads[i]? with
    | none => x
    | some t => { (x.advance t).1 with threads := x.threads.set i (x.advance t).2 }
  | .teardown => x.tearDown

/-- Teardown does not begin while a `fail` that will emit `Broken` has seen the flag unset. -/
def Orderly (m : Move) (x : Lifecycle) : Prop :=
  m = .teardown → x.teardown = .called → x.brokenOnce = false → .broken ∉ x.threads

/-- A sequence of steps, each of which meets the condition. -/
def Runs (C : Move → Lifecycle → Prop) : Lifecycle → Lifecycle → Prop :=
  Lib.Runs (fun m x x' => x.move m = x') C

/-- The events so far, by the state of the flags. -/
def emitted (x : Lifecycle) : List TerminalEvent :=
  (if x.brokenOnce then [.broken] else []) ++
    match x.teardown with
    | .closing => [.stopping]
    | .finished => [.stopping, .stopped]
    | _ => []

/-- What an orderly run keeps. -/
structure Ordered (x : Lifecycle) : Prop where
  events : x.events = x.emitted
  flag : x.stopping = true ↔ x.teardown ≠ .notCalled ∧ x.teardown ≠ .called
  settled : x.stopping = true → .broken ∈ x.threads → x.brokenOnce = true

variable {x x' : Lifecycle}

theorem ordered_started : started.Ordered := ⟨rfl, by decide, fun h => by cases h⟩

theorem Ordered.withThreads (h : x.Ordered) (ts : List Thread)
    (hts : .broken ∈ ts → .broken ∈ x.threads ∨ x.stopping = false) :
    ({ x with threads := ts } : Lifecycle).Ordered := by
  refine ⟨h.events, h.flag, fun hstop hmem => ?_⟩
  rcases hts hmem with hmem | hfalse
  · exact h.settled hstop hmem
  · exact absurd hstop (by rw [hfalse]; decide)

theorem Ordered.advance (h : x.Ordered) {i : ℕ} {t : Thread} (ht : x.threads[i]? = some t) :
    ({ (x.advance t).1 with threads := x.threads.set i (x.advance t).2 } : Lifecycle).Ordered := by
  have hset : ∀ t', t' ≠ .broken →
      ({ x with threads := x.threads.set i t' } : Lifecycle).Ordered := fun t' hne =>
    h.withThreads _ fun hmem =>
      .inl ((List.mem_or_eq_of_mem_set hmem).resolve_right fun h => hne h.symm)
  cases t with
  | monitorTransport | watchCanceled =>
    refine hset _ ?_
    dsimp only [Lifecycle.advance]
    split_ifs <;> decide
  | done => exact hset .done (by decide)
  | fail =>
    cases hstop : x.stopping with
    | true =>
      simp only [Lifecycle.advance, hstop, if_true]
      have := hset .done (by decide)
      rwa [hstop] at this
    | false =>
      simp only [Lifecycle.advance, hstop]
      have := h.withThreads (x.threads.set i .broken) fun _ => .inr hstop
      rwa [hstop] at this
  | broken =>
    have hmem : Thread.broken ∈ x.threads := List.mem_of_getElem? ht
    cases hbroken : x.brokenOnce with
    | true =>
      simp only [Lifecycle.advance, hbroken, if_true]
      have := hset .stop (by decide)
      rwa [hbroken] at this
    | false =>
      -- the flag is not set, so nothing was emitted
      have hstop : x.stopping = false := by
        by_contra hne
        have := h.settled (eq_true_of_ne_false hne) hmem
        rw [hbroken] at this
        cases this
      have hphase : x.teardown = .notCalled ∨ x.teardown = .called := by
        by_contra hne
        rw [not_or] at hne
        rw [h.flag.mpr hne] at hstop
        cases hstop
      have hnil : x.events = [] := by
        rw [h.events, emitted, hbroken]
        rcases hphase with hp | hp <;> rw [hp] <;> rfl
      simp only [Lifecycle.advance, hbroken]
      refine ⟨?_, h.flag, fun _ _ => rfl⟩
      dsimp only [emitted]
      rw [hnil]
      rcases hphase with hp | hp <;> rw [hp] <;> rfl
  | stop =>
    by_cases hphase : x.teardown = .notCalled
    · simp only [Lifecycle.advance, hphase, if_true]
      refine ⟨?_, ?_, fun hstop hmem => ?_⟩
      · rw [h.events]
        dsimp only [emitted]
        rw [hphase]
      · dsimp only
        rw [h.flag, hphase]
        decide
      · exact absurd hstop (by
          dsimp only
          rw [h.flag, hphase]
          decide)
    · simp only [Lifecycle.advance, if_neg hphase]
      exact hset .done (by decide)

theorem Ordered.tearDown (h : x.Ordered) (hC : Orderly .teardown x) : x.tearDown.Ordered := by
  unfold Lifecycle.tearDown
  cases hphase : x.teardown with
  | notCalled => exact h
  | called =>
    refine ⟨?_, by simp, fun _ hmem => ?_⟩
    · rw [h.events, emitted, hphase]
      rfl
    · by_contra hne
      exact hC rfl hphase (Bool.eq_false_iff.mpr hne) hmem
  | flagged =>
    refine ⟨?_, ?_, h.settled⟩
    · rw [h.events, emitted, hphase]
      simp [emitted]
    · dsimp only
      rw [h.flag, hphase]
      decide
  | closing =>
    refine ⟨?_, ?_, h.settled⟩
    · rw [h.events, emitted, hphase]
      simp [emitted]
    · dsimp only
      rw [h.flag, hphase]
      decide
  | finished => exact h

theorem ordered_move {m : Move} (h : x.Ordered) (hC : Orderly m x) : (x.move m).Ordered := by
  cases m with
  | spawn t =>
    unfold move
    dsimp only
    split_ifs with ht
    · exact h
    · refine h.withThreads _ fun hmem => .inl ?_
      rcases List.mem_append.mp hmem with hmem | hmem
      · exact hmem
      · exact absurd (List.mem_singleton.mp hmem).symm ht
  | thread i =>
    simp only [move]
    cases hi : x.threads[i]? with
    | none => exact h
    | some t => exact h.advance hi
  | teardown => exact h.tearDown hC

theorem ordered_runs (h : Runs Orderly started x) : x.Ordered :=
  h.invariant ordered_started fun hC hmove hx => hmove ▸ ordered_move hx hC

/-- **The terminal events are in order**: in every orderly run each is emitted at most once, `Broken`
before `Stopping` and `Stopping` before `Stopped`. -/
theorem terminal_order (h : Runs Orderly started x) :
    x.events <+: [.broken, .stopping, .stopped] ∨ x.events <+: [.stopping, .stopped] := by
  rw [(ordered_runs h).events, emitted]
  cases x.brokenOnce <;> cases x.teardown <;> decide

/-! ### A failure during a stop -/

instance (m : Move) (x : Lifecycle) : Decidable (Orderly m x) := by
  unfold Orderly
  infer_instance

theorem exists_runs (C : Move → Lifecycle → Prop) [∀ m x, Decidable (C m x)] (ms : List Move)
    (events : List TerminalEvent)
    (h : (follow (onlyIf C fun m x => some (x.move m)) ms started).map Lifecycle.events = some events) :
    ∃ x, Runs C started x ∧ x.events = events := by
  obtain ⟨x, hx, hevents⟩ := Option.map_eq_some_iff.mp h
  exact ⟨x, runs_of_follow hx fun _ _ => fun h => by simpa [onlyIf_eq_some] using h, hevents⟩

/-- A watcher has seen the flag unset when a user stops the session; it emits `Broken` between
`Stopping` and `Stopped`. -/
theorem broken_after_stopping : ∃ x, Runs (fun _ _ => True) started x ∧
    x.events = [.stopping, .broken, .stopped] :=
  exists_runs _ [.spawn .fail, .thread 0, .spawn .stop, .thread 1, .teardown, .teardown, .thread 0,
    .teardown] _ (by decide)

/-- A failure that is over before the teardown begins. -/
theorem sample_terminal_order : ∃ x : Lifecycle, x.events = [.broken, .stopping, .stopped] ∧
    (x.events <+: [.broken, .stopping, .stopped] ∨ x.events <+: [.stopping, .stopped]) := by
  obtain ⟨x, hx, hevents⟩ := exists_runs Orderly
    [.spawn .fail, .thread 0, .thread 0, .thread 0, .teardown, .teardown, .teardown]
    [.broken, .stopping, .stopped] (by decide)
  exact ⟨x, hevents, terminal_order hx⟩

end Lifecycle

end Swan.Session
