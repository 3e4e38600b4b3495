import Mathlib.Data.List.Basic
import Mathlib.Logic.Relation

/-! # A log and its consumer

A producer appends to a log and a consumer applies the entries one by one, in order and at its own
pace. `sink_eq_replay`: the consumer holds the replay of what it has consumed. `sink_of_queue_nil`:
with nothing left to consume, it holds the replay of the whole log. `exists_drained`: the consumer
can always catch up. -/

namespace Swan.Lib

variable {σ ε δ : Type}

/-- The result of applying the entries of a log in order. -/
def replay (apply : ε → δ → δ) (init : δ) (log : List ε) : δ :=
  log.foldl (fun d e => apply e d) init

@[simp] theorem replay_nil (apply : ε → δ → δ) (init : δ) : replay apply init [] = init := rfl

theorem replay_append (apply : ε → δ → δ) (init : δ) (log es : List ε) :
    replay apply init (log ++ es) = replay apply (replay apply init log) es := List.foldl_append

@[simp] theorem replay_concat (apply : ε → δ → δ) (init : δ) (log : List ε) (e : ε) :
    replay apply init (log ++ [e]) = apply e (replay apply init log) := by
  rw [replay_append]
  rfl

/-- A producer, and a consumer of its log. -/
structure Feed (σ δ : Type) where
  source : σ
  /-- How many entries of the log the consumer has applied. -/
  consumed : ℕ
  sink : δ

namespace Feed

def queue (log : σ → List ε) (f : Feed σ δ) : List ε := (log f.source).drop f.consumed

/-- A move of the producer or of the consumer. -/
inductive Step (log : σ → List ε) (apply : ε → δ → δ) (R : σ → σ → Prop) :
    Feed σ δ → Feed σ δ → Prop
  | produce {s s' : σ} {n : ℕ} {d : δ} (h : R s s') : Step log apply R ⟨s, n, d⟩ ⟨s', n, d⟩
  | consume {f : Feed σ δ} {e : ε} {rest : List ε} (h : f.queue log = e :: rest) :
      Step log apply R f ⟨f.source, f.consumed + 1, apply e f.sink⟩

abbrev Runs (log : σ → List ε) (apply : ε → δ → δ) (R : σ → σ → Prop) :
    Feed σ δ → Feed σ δ → Prop := Relation.ReflTransGen (Step log apply R)

variable {log : σ → List ε} {apply : ε → δ → δ} {R : σ → σ → Prop} {f f' : Feed σ δ}

/-- What the consumer holds. -/
structure Replayed (log : σ → List ε) (apply : ε → δ → δ) (init : δ) (f : Feed σ δ) : Prop where
  le : f.consumed ≤ (log f.source).length
  sink : f.sink = replay apply init ((log f.source).take f.consumed)

theorem replayed_step {init : δ} (hlog : ∀ s', R f.source s' → log f.source <+: log s')
    (h : Step log apply R f f') (hf : f.Replayed log apply init) : f'.Replayed log apply init := by
  cases h with
  | @produce s s' n d h =>
    obtain ⟨es, hes⟩ : log s <+: log s' := hlog s' h
    have hle : n ≤ (log s).length := hf.le
    refine ⟨?_, ?_⟩
    · change n ≤ (log s').length
      rw [← hes, List.length_append]
      omega
    · change d = replay apply init ((log s').take n)
      rw [← hes, List.take_append_of_le_length hle]
      exact hf.sink
  | @consume f e rest h =>
    have hget : (log f.source)[f.consumed]? = some e := by
      rw [← Nat.add_zero f.consumed, ← List.getElem?_drop]
      exact congrArg (·[0]?) h
    obtain ⟨hlt, -⟩ := List.getElem?_eq_some_iff.mp hget
    refine ⟨hlt, ?_⟩
    change apply e f.sink = _
    rw [List.take_add_one, hget, Option.toList_some, replay_concat, ← hf.sink]

theorem source_invariant {I : σ → Prop} (hI : ∀ s s', R s s' → I s → I s') (hf : I f.source)
    (h : Runs log apply R f f') : I f'.source := by
  induction h with
  | refl => exact hf
  | tail _ hstep ih =>
    cases hstep with
    | produce h => exact hI _ _ h ih
    | consume h => exact ih

/-- **The consumer holds the replay of what it has consumed.** The log grows in the states that keep
an invariant of the producer. -/
theorem sink_eq_replay {I : σ → Prop} {s : σ} {init : δ} (hI : ∀ s s', R s s' → I s → I s')
    (hlog : ∀ s s', R s s' → I s → log s <+: log s') (hs : I s) (hnil : log s = [])
    (h : Runs log apply R ⟨s, 0, init⟩ f) : f.Replayed log apply init := by
  induction h with
  | refl => exact ⟨Nat.zero_le _, by rw [hnil]; rfl⟩
  | tail hrun hstep ih =>
    have hinv := source_invariant hI hs hrun
    exact replayed_step (fun s' h => hlog _ s' h hinv) hstep ih

theorem sink_of_queue_nil {init : δ} (hf : f.Replayed log apply init) (hq : f.queue log = []) :
    f.sink = replay apply init (log f.source) := by
  rw [hf.sink, List.take_of_length_le (List.drop_eq_nil_iff.mp hq)]

variable (log apply R) in
theorem exists_drained (f : Feed σ δ) :
    ∃ f', Runs log apply R f f' ∧ f'.source = f.source ∧ f'.queue log = [] := by
  generalize hn : (f.queue log).length = n
  induction n generalizing f with
  | zero => exact ⟨f, .refl, rfl, List.length_eq_zero_iff.mp hn⟩
  | succ n ih =>
    obtain ⟨e, rest, hq⟩ := List.exists_cons_of_length_eq_add_one hn
    have hrest : (Feed.mk f.source (f.consumed + 1) (apply e f.sink)).queue log = rest := by
      change (log f.source).drop (f.consumed + 1) = rest
      rw [← List.drop_drop, show (log f.source).drop f.consumed = e :: rest from hq]
      rfl
    obtain ⟨f', hrun, hsrc, hnil⟩ := ih ⟨f.source, f.consumed + 1, apply e f.sink⟩ (by
      rw [hrest]
      rw [hq, List.length_cons] at hn
      omega)
    exact ⟨f', .head (.consume hq) hrun, hsrc, hnil⟩

theorem runs_of_source {s s' : σ} (h : Relation.ReflTransGen R s s') (n : ℕ) (d : δ) :
    Runs log apply R ⟨s, n, d⟩ ⟨s', n, d⟩ := by
  induction h with
  | refl => exact .refl
  | tail _ hstep ih => exact ih.tail (.produce hstep)

end Feed

end Swan.Lib
