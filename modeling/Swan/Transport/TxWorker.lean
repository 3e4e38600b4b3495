import Mathlib.Data.List.ReduceOption
import Swan.Lib.Log
import Swan.Transport.Frame

/-! # The transmit worker

`TxWorker` of `transport/workers.go`, the only writer of the wire. It takes a frame off the queue and up to
`writeBatch` more that are already there, and gives their datagrams to the wire, all in one list or one after
the other; after `Close` it writes what is left in the queue one by one. The wire may take a part of a list or
of a datagram, and fail; frames are queued and the worker and the queue are closed between any two steps.

`Conserved` is what the worker is for: datagrams go out whole and in the order of the queue, and every frame
is released once. The path that writes frames one by one does not always do that: it cuts a datagram in two
after a short write, it leaves an empty datagram out, and a failure in the middle of a burst leaves the rest
of the burst unreleased. `Clean` names these steps, and `tx_conserves_iff` says that there are no others. -/

namespace Swan.Transport

open Swan.Lib

def writeBatch : ℕ := 32

structure Frame where
  /-- Which frame of the queue it is. -/
  no : ℕ
  kind : Kind
  payload : Bytes
  deriving DecidableEq, Repr

def shapedPayload (f : Frame) : Except Err Bytes :=
  match f.kind with
  | .keepalive => .ok [0xff]
  | .ike =>
    if maxWireDatagram < nonESPMarkerLen + f.payload.length then
      .error (.errorf s!"github.com/wsm25/swan/transport: ike frame payload {
        nonESPMarkerLen + f.payload.length} exceeds limit {maxWireDatagram}")
    else .ok (List.replicate nonESPMarkerLen 0 ++ f.payload)
  | .esp =>
    if maxWireDatagram < f.payload.length then
      .error (.errorf s!"github.com/wsm25/swan/transport: esp frame payload {f.payload.length
        } exceeds limit {maxWireDatagram}")
    else .ok f.payload

/-- The datagrams of a burst, or the first error. -/
def shapeAll : List Frame → Except Err (List Bytes)
  | [] => .ok []
  | f :: frames =>
    match shapedPayload f, shapeAll frames with
    | .error e, _ => .error e
    | .ok _, .error e => .error e
    | .ok body, .ok bodies => .ok (body :: bodies)

namespace TxWorker

inductive Phase where
  | select
  /-- It takes more frames from the queue, `left` at most. -/
  | burst (frames : List Frame) (left : ℕ)
  /-- It writes these frames one by one; `closing` in the drain after `Close`. -/
  | single (frames : List Frame) (closing : Bool)
  /-- In `writeAll` for the frame `f`, with the bytes `b` left. -/
  | writing (b : Bytes) (f : Frame) (rest : List Frame) (closing : Bool)
  /-- In `writeBatch`, with the bodies that the wire has not taken. -/
  | batch (frames : List Frame) (bodies : List Bytes)
  | draining
  | stopped (err : Option Err)
  deriving DecidableEq, Repr

end TxWorker

structure TxWorker where
  /-- The queue, with its nil frames. -/
  frames : List (Option Frame)
  framesClosed : Bool
  closed : Bool
  phase : TxWorker.Phase
  /-- All frames that were queued, and those that the worker took. -/
  queued : List Frame
  taken : List Frame
  /-- The frames whose `Release` was called. -/
  released : List Frame
  /-- The datagrams that the wire has taken; a `Write` that fails does not count. -/
  handed : List Bytes
  deriving DecidableEq, Repr

namespace TxWorker

inductive Action where
  | enqueue (kind : Kind) (payload : Bytes)
  | enqueueNil
  | close
  | closeFrames
  /-- The `select` of `Run` receives from the queue. -/
  | receive
  /-- The `select` of `Run` finds the worker closed. -/
  | observeClose
  /-- The worker goes on where it does not wait. -/
  | turn
  /-- `Write` returns. -/
  | write (n : ℤ) (err : Option Err)
  /-- `WriteBatch` returns. -/
  | writeBatch (n : ℤ) (err : Option Err)
  deriving DecidableEq, Repr

def start : TxWorker := ⟨[], false, false, .select, [], [], [], []⟩

def goTo (w : TxWorker) (p : Phase) : TxWorker := { w with phase := p }

def release (w : TxWorker) (fs : List Frame) : TxWorker := { w with released := w.released ++ fs }

def hand (w : TxWorker) (ds : List Bytes) : TxWorker := { w with handed := w.handed ++ ds }

@[simp] theorem release_nil (w : TxWorker) : w.release [] = w := by simp [release]

@[simp] theorem hand_nil (w : TxWorker) : w.hand [] = w := by simp [hand]

/-- Receive the next frame of the queue: `took` is where the worker goes with a frame, `nil` where it goes
with none in it, and `empty` what it does when the queue is empty. -/
def next (w : TxWorker) (took : Frame → Phase) (nil : Phase) (empty : TxWorker) : TxWorker :=
  match w.frames with
  | some f :: q => { w with frames := q, taken := w.taken ++ [f] }.goTo (took f)
  | none :: q => { w with frames := q }.goTo nil
  | [] => empty

def writeBurst (batched : Bool) (w : TxWorker) (frames : List Frame) : TxWorker :=
  if batched then
    match shapeAll frames with
    | .ok bodies => w.goTo (.batch frames bodies)
    | .error e => (w.release frames).goTo (.stopped (some e))
  else w.goTo (.single frames false)

/-- The worker goes on to its next call of the wire or to a `select`. -/
def turn (batched : Bool) (w : TxWorker) : TxWorker :=
  match w.phase with
  | .burst frames 0 => w.writeBurst batched frames
  | .burst frames (left + 1) =>
    w.next (fun f => .burst (frames ++ [f]) left) (.burst frames left) (w.writeBurst batched frames)
  | .single [] closing => w.goTo (if closing then .draining else .select)
  | .single (f :: rest) closing =>
    match shapedPayload f with
    | .ok b => w.goTo (.writing b f rest closing)
    | .error e => (w.release [f]).goTo (.stopped (some e))
  | .writing [] f rest closing => (w.release [f]).goTo (.single rest closing)
  | .batch frames [] => (w.release frames).goTo .select
  | .draining => w.next (fun f => .single [f] true) .draining (w.goTo (.stopped none))
  | .select | .writing (_ :: _) _ _ _ | .batch _ (_ :: _) | .stopped _ => w

/-- `Write` has taken `n` of the bytes `b`. -/
def wrote (w : TxWorker) (b : Bytes) (f : Frame) (rest : List Frame) (closing : Bool) (n : ℤ)
    (err : Option Err) : TxWorker :=
  if n < 0 ∨ (b.length : ℤ) < n then
    (w.release [f]).goTo
      (.stopped (some (.errorf s!"github.com/wsm25/swan/transport: invalid write count {n}")))
  else match err with
    | some e => (w.release [f]).goTo (.stopped (some e))
    | none =>
      if n = 0 then (w.release [f]).goTo (.stopped (some ioErrShortWrite))
      else (w.hand [b.take n.toNat]).goTo (.writing (b.drop n.toNat) f rest closing)

/-- `WriteBatch` has taken `n` of the bodies. -/
def wroteBatch (w : TxWorker) (frames : List Frame) (bodies : List Bytes) (n : ℤ) (err : Option Err) :
    TxWorker :=
  if n < 0 ∨ (bodies.length : ℤ) < n then
    (w.release frames).goTo
      (.stopped (some (.errorf s!"github.com/wsm25/swan/transport: invalid batch write count {n}")))
  else match err with
    | some e => ((w.hand (bodies.take n.toNat)).release frames).goTo (.stopped (some e))
    | none =>
      if n = 0 then (w.release frames).goTo (.stopped (some ioErrShortWrite))
      else (w.hand (bodies.take n.toNat)).goTo (.batch frames (bodies.drop n.toNat))

def step (batched : Bool) (w : TxWorker) : Action → TxWorker
  | .enqueue kind payload =>
    if w.framesClosed then w
    else { w with frames := w.frames ++ [some ⟨w.queued.length, kind, payload⟩]
                  queued := w.queued ++ [⟨w.queued.length, kind, payload⟩] }
  | .enqueueNil => if w.framesClosed then w else { w with frames := w.frames ++ [none] }
  | .close => { w with closed := true }
  | .closeFrames => { w with framesClosed := true }
  | .receive =>
    if w.phase = .select then
      w.next (fun f => .burst [f] Transport.writeBatch) .select
        (if w.framesClosed then w.goTo (.stopped none) else w)
    else w
  | .observeClose => if w.phase = .select ∧ w.closed then w.goTo .draining else w
  | .turn => w.turn batched
  | .write n err =>
    match w.phase with
    | .writing (x :: b) f rest closing => w.wrote (x :: b) f rest closing n err
    | _ => w
  | .writeBatch n err =>
    match w.phase with
    | .batch frames (body :: bodies) => w.wroteBatch frames (body :: bodies) n err
    | _ => w

def run (batched : Bool) (actions : List Action) : TxWorker := actions.foldl (step batched) start

/-! ### What the worker is for -/

def Phase.inHand : Phase → List Frame
  | .burst frames _ | .single frames _ | .batch frames _ => frames
  | .writing _ f rest _ => f :: rest
  | .select | .draining | .stopped _ => []

/-- The datagrams that the wire is still to take, with the errors of those that cannot be shaped. -/
def Phase.pending : Phase → List (Except Err Bytes)
  | .burst frames _ | .single frames _ => frames.map shapedPayload
  | .writing [] _ rest _ => rest.map shapedPayload
  | .writing (x :: b) _ rest _ => .ok (x :: b) :: rest.map shapedPayload
  | .batch _ bodies => bodies.map .ok
  | .select | .draining | .stopped _ => []

/-- `Run` has returned with an error. -/
def Phase.failed : Phase → Bool
  | .stopped (some _) => true
  | _ => false

structure Conserved (w : TxWorker) : Prop where
  /-- Frames are taken in the order of the queue. -/
  order : w.taken ++ w.frames.reduceOption = w.queued
  /-- No two frames are the same. -/
  numbered : w.queued.map Frame.no = List.range w.queued.length
  /-- A frame that was taken was released, or is in the hands of the worker: one of them, and once. -/
  released : w.released ++ w.phase.inHand = w.taken
  /-- The wire was given the datagrams of the frames, in order, each whole and once. -/
  handed : w.handed.map .ok <+: w.taken.map shapedPayload
  /-- Until a failure, what it was not given it will be given. -/
  complete : w.phase.failed = false → w.handed.map .ok ++ w.phase.pending = w.taken.map shapedPayload

/-- The step is none of those that go wrong: on the path that writes frames one by one, the datagram is not
empty, `Write` takes the whole of it or fails, and only the last frame of a burst fails. -/
def Clean (w : TxWorker) : Action → Prop
  | .turn =>
    match w.phase with
    | .single (f :: rest) _ =>
      match shapedPayload f with
      | .ok b => b ≠ []
      | .error _ => rest = []
    | _ => True
  | .write n err =>
    match w.phase with
    | .writing (x :: b) _ rest _ =>
      err = none ∧ n = (x :: b).length ∨ rest = [] ∧ ¬ (err = none ∧ 0 < n ∧ n < (x :: b).length)
    | _ => True
  | _ => True

/-! ### Steps that conserve -/

theorem shapeAll_ok {frames : List Frame} {bodies : List Bytes} (h : shapeAll frames = .ok bodies) :
    frames.map shapedPayload = bodies.map .ok := by
  induction frames generalizing bodies with
  | nil =>
    cases h
    rfl
  | cons f frames ih =>
    unfold shapeAll at h
    split at h
    · cases h
    · cases h
    · rename_i body rest hbody hrest
      cases h
      rw [List.map_cons, List.map_cons, hbody, ih hrest]

theorem conserved_start : Conserved start :=
  ⟨rfl, rfl, rfl, List.prefix_rfl, fun _ => rfl⟩

section Steps

variable {w : TxWorker} (hw : Conserved w)

include hw

theorem Conserved.enqueue (kind : Kind) (payload : Bytes) :
    Conserved { w with frames := w.frames ++ [some ⟨w.queued.length, kind, payload⟩]
                       queued := w.queued ++ [⟨w.queued.length, kind, payload⟩] } :=
  { hw with
    order := by
      rw [← hw.order]
      simp [List.reduceOption_append]
    numbered := by
      rw [List.map_append, hw.numbered, List.length_append, List.length_singleton, List.range_succ]
      rfl }

theorem Conserved.enqueueNil : Conserved { w with frames := w.frames ++ [none] } :=
  { hw with order := by rw [← hw.order]; simp [List.reduceOption_append] }

theorem Conserved.goTo {p : Phase} (fs : List Frame) (ds : List Bytes) (hlive : w.phase.failed = false)
    (hfs : fs ++ p.inHand = w.phase.inHand)
    (hds : ds.map .ok <+: w.phase.pending)
    (hp : p.failed = false → ds.map .ok ++ p.pending = w.phase.pending) :
    Conserved (((w.hand ds).release fs).goTo p) where
  order := hw.order
  numbered := hw.numbered
  released := by
    change w.released ++ fs ++ p.inHand = w.taken
    rw [List.append_assoc, hfs, hw.released]
  handed := by
    change (w.handed ++ ds).map .ok <+: w.taken.map shapedPayload
    rw [← hw.complete hlive, List.map_append]
    exact (List.prefix_append_right_inj _).mpr hds
  complete hf := by
    change (w.handed ++ ds).map .ok ++ p.pending = w.taken.map shapedPayload
    rw [List.map_append, List.append_assoc, hp hf, hw.complete hlive]

theorem Conserved.goTo_same {p : Phase} (hlive : w.phase.failed = false) (hfs : p.inHand = w.phase.inHand)
    (hp : p.failed = false → p.pending = w.phase.pending) : Conserved (w.goTo p) := by
  have hnext := hw.goTo [] [] hlive hfs List.nil_prefix hp
  simpa using hnext

theorem Conserved.fail (e : Err) (hlive : w.phase.failed = false) {fs : List Frame}
    (hfs : fs = w.phase.inHand) : Conserved ((w.release fs).goTo (.stopped (some e))) := by
  have hnext := hw.goTo (p := .stopped (some e)) fs [] hlive (by simp [hfs, Phase.inHand]) List.nil_prefix
    (by simp [Phase.failed])
  simpa using hnext

theorem Conserved.next {took : Frame → Phase} {nil : Phase} {empty : TxWorker}
    (hlive : w.phase.failed = false)
    (htook : ∀ f, (took f).inHand = w.phase.inHand ++ [f] ∧
      (took f).pending = w.phase.pending ++ [shapedPayload f])
    (hnil : nil.inHand = w.phase.inHand ∧ nil.pending = w.phase.pending)
    (hempty : w.frames = [] → Conserved empty) : Conserved (w.next took nil empty) := by
  have horder := hw.order
  have hcomplete := hw.complete hlive
  unfold TxWorker.next
  split
  · rename_i f q hq
    rw [hq, List.reduceOption_cons_of_some] at horder
    refine ⟨?_, hw.numbered, ?_, ?_, fun _ => ?_⟩
    · change w.taken ++ [f] ++ q.reduceOption = w.queued
      rw [← horder, List.append_assoc, List.singleton_append]
    · change w.released ++ (took f).inHand = w.taken ++ [f]
      rw [(htook f).1, ← List.append_assoc, hw.released]
    · change w.handed.map .ok <+: (w.taken ++ [f]).map shapedPayload
      rw [List.map_append]
      exact hw.handed.trans (List.prefix_append _ _)
    · change w.handed.map .ok ++ (took f).pending = (w.taken ++ [f]).map shapedPayload
      rw [(htook f).2, ← List.append_assoc, hcomplete, List.map_append]
      rfl
  · rename_i q hq
    rw [hq, List.reduceOption_cons_of_none] at horder
    refine ⟨horder, hw.numbered, ?_, hw.handed, fun _ => ?_⟩
    · change w.released ++ nil.inHand = w.taken
      rw [hnil.1, hw.released]
    · change w.handed.map .ok ++ nil.pending = w.taken.map shapedPayload
      rw [hnil.2, hcomplete]
  · exact hempty ‹_›

theorem Conserved.writeBurst (batched : Bool) {frames : List Frame} {left : ℕ}
    (hp : w.phase = .burst frames left) : Conserved (w.writeBurst batched frames) := by
  have hlive : w.phase.failed = false := by rw [hp]; rfl
  unfold TxWorker.writeBurst
  split
  · split
    · rename_i bodies hbodies
      refine hw.goTo_same hlive (by rw [hp]; rfl) fun _ => ?_
      rw [hp]
      exact (shapeAll_ok hbodies).symm
    · exact hw.fail _ hlive (by rw [hp]; rfl)
  · exact hw.goTo_same hlive (by rw [hp]; rfl) fun _ => by rw [hp]; rfl

theorem Conserved.turn (batched : Bool) (hclean : w.Clean .turn) : Conserved (w.turn batched) := by
  cases hp : w.phase with
  | select => simpa [TxWorker.turn, hp] using hw
  | stopped => simpa [TxWorker.turn, hp] using hw
  | burst frames left =>
    have hlive : w.phase.failed = false := by rw [hp]; rfl
    cases left with
    | zero =>
      simp only [TxWorker.turn, hp]
      exact hw.writeBurst batched hp
    | succ left =>
      simp only [TxWorker.turn, hp]
      refine hw.next hlive (fun f => ?_) ?_ fun _ => hw.writeBurst batched hp
      · simp [hp, Phase.inHand, Phase.pending]
      · simp [hp, Phase.inHand, Phase.pending]
  | single frames closing =>
    have hlive : w.phase.failed = false := by rw [hp]; rfl
    cases frames with
    | nil =>
      simp only [TxWorker.turn, hp]
      refine hw.goTo_same hlive ?_ fun _ => ?_
      · rw [hp]; split <;> rfl
      · rw [hp]; split <;> rfl
    | cons f rest =>
      simp only [TxWorker.turn, hp]
      simp only [Clean, hp] at hclean
      split
      · rename_i b hb
        rw [hb] at hclean
        refine hw.goTo_same hlive (by rw [hp]; rfl) fun _ => ?_
        rw [hp]
        cases b with
        | nil => exact absurd rfl hclean
        | cons x b => simp [Phase.pending, hb]
      · rename_i e he
        rw [he] at hclean
        exact hw.fail e hlive (by rw [hp, hclean]; rfl)
  | writing b f rest closing =>
    have hlive : w.phase.failed = false := by rw [hp]; rfl
    cases b with
    | nil =>
      simp only [TxWorker.turn, hp]
      have hnext := hw.goTo (p := .single rest closing) [f] [] hlive (by rw [hp]; rfl) List.nil_prefix
        fun _ => by rw [hp]; rfl
      simpa using hnext
    | cons => simpa [TxWorker.turn, hp] using hw
  | batch frames bodies =>
    have hlive : w.phase.failed = false := by rw [hp]; rfl
    cases bodies with
    | nil =>
      simp only [TxWorker.turn, hp]
      have hnext := hw.goTo (p := .select) frames [] hlive (by rw [hp]; exact List.append_nil _)
        List.nil_prefix fun _ => by rw [hp]; rfl
      simpa using hnext
    | cons => simpa [TxWorker.turn, hp] using hw
  | draining =>
    have hlive : w.phase.failed = false := by rw [hp]; rfl
    simp only [TxWorker.turn, hp]
    refine hw.next hlive (fun f => ?_) ?_ fun _ => ?_
    · simp [hp, Phase.inHand, Phase.pending]
    · simp [hp]
    · exact hw.goTo_same hlive (by rw [hp]; rfl) fun _ => by rw [hp]; rfl

theorem Conserved.wrote {x : UInt8} {b : Bytes} {f : Frame} {rest : List Frame} {closing : Bool} {n : ℤ}
    {err : Option Err} (hp : w.phase = .writing (x :: b) f rest closing)
    (hclean : w.Clean (.write n err)) : Conserved (w.wrote (x :: b) f rest closing n err) := by
  have hlive : w.phase.failed = false := by rw [hp]; rfl
  simp only [Clean, hp] at hclean
  unfold TxWorker.wrote
  by_cases hwhole : err = none ∧ n = (x :: b).length
  · obtain ⟨rfl, rfl⟩ := hwhole
    have hnext := hw.goTo (p := .writing [] f rest closing) [] [x :: b] hlive (by rw [hp]; rfl)
      (by rw [hp]; exact List.prefix_append [_] _) fun _ => by rw [hp]; rfl
    have hlen : ¬ (((x :: b).length : ℤ) = 0) := by rw [List.length_cons]; omega
    rw [if_neg (by omega)]
    dsimp only
    rw [if_neg hlen, Int.toNat_natCast, List.take_length, List.drop_length]
    simpa using hnext
  · obtain ⟨rfl, hshort⟩ := hclean.resolve_left hwhole
    have hfail (e : Err) : Conserved ((w.release [f]).goTo (.stopped (some e))) :=
      hw.fail e hlive (by rw [hp]; rfl)
    split_ifs with hrange hzero
    · exact hfail _
    · cases err <;> exact hfail _
    · cases err with
      | some e => exact hfail e
      | none =>
        have hne : n ≠ (x :: b).length := fun h => hwhole ⟨rfl, h⟩
        have hcut : ¬ (0 < n ∧ n < (x :: b).length) := fun h => hshort ⟨rfl, h⟩
        omega

theorem Conserved.wroteBatch {frames : List Frame} {bodies : List Bytes} (n : ℤ) (err : Option Err)
    (hp : w.phase = .batch frames bodies) : Conserved (w.wroteBatch frames bodies n err) := by
  have hlive : w.phase.failed = false := by rw [hp]; rfl
  have hall : frames = w.phase.inHand := by rw [hp]; rfl
  unfold TxWorker.wroteBatch
  split
  · exact hw.fail _ hlive hall
  · split
    · rename_i e
      refine hw.goTo frames _ hlive (by rw [← hall]; exact List.append_nil _) ?_ (by simp [Phase.failed])
      rw [hp, Phase.pending]
      exact (List.take_prefix _ _).map _
    · split
      · exact hw.fail _ hlive hall
      · have hnext := hw.goTo (p := .batch frames (bodies.drop n.toNat)) [] (bodies.take n.toNat) hlive hall
          (by rw [hp, Phase.pending]; exact (List.take_prefix _ _).map _)
          fun _ => by rw [hp, Phase.pending, Phase.pending, ← List.map_append, List.take_append_drop]
        simpa using hnext

/-- **A clean step conserves.** -/
theorem Conserved.step (batched : Bool) (a : Action) (hclean : w.Clean a) :
    Conserved (w.step batched a) := by
  cases a with
  | enqueue kind payload =>
    simp only [TxWorker.step]
    split
    · exact hw
    · exact hw.enqueue kind payload
  | enqueueNil =>
    simp only [TxWorker.step]
    split
    · exact hw
    · exact hw.enqueueNil
  | close => exact { hw with }
  | closeFrames => exact { hw with }
  | receive =>
    simp only [TxWorker.step]
    split
    · rename_i hp
      have hlive : w.phase.failed = false := by rw [hp]; rfl
      refine hw.next hlive (fun f => ?_) ?_ fun _ => ?_
      · simp [hp, Phase.inHand, Phase.pending]
      · simp [hp]
      · split
        · exact hw.goTo_same hlive (by rw [hp]; rfl) fun _ => by rw [hp]; rfl
        · exact hw
    · exact hw
  | observeClose =>
    simp only [TxWorker.step]
    split
    · rename_i hp
      exact hw.goTo_same (by rw [hp.1]; rfl) (by rw [hp.1]; rfl) fun _ => by rw [hp.1]; rfl
    · exact hw
  | turn => exact hw.turn batched hclean
  | write n err =>
    simp only [TxWorker.step]
    split
    · exact hw.wrote ‹_› hclean
    · exact hw
  | writeBatch n err =>
    simp only [TxWorker.step]
    split
    · exact hw.wroteBatch n err ‹_›
    · exact hw

/-! ### Steps that do not -/

theorem Conserved.rest_eq_nil {f : Frame} {rest : List Frame} (hp : w.phase.inHand = f :: rest)
    {e : Err} (h : Conserved ((w.release [f]).goTo (.stopped (some e)))) : rest = [] := by
  have hold := hw.released
  have hnew : w.released ++ [f] ++ [] = w.taken := h.released
  rw [← hold, hp, List.append_nil] at hnew
  have htail := List.append_cancel_left hnew
  simpa using htail.symm

theorem Conserved.clean_turn {batched : Bool} (h : Conserved (w.turn batched)) : w.Clean .turn := by
  simp only [Clean]
  split
  · rename_i f rest closing hp
    have hlive : w.phase.failed = false := by rw [hp]; rfl
    simp only [TxWorker.turn, hp] at h
    split at h
    · rename_i b hb
      -- an empty datagram is not pending any more, but it was not given to the wire
      rintro rfl
      have hold := hw.complete hlive
      have hnew : w.handed.map .ok ++ rest.map shapedPayload = w.taken.map shapedPayload := h.complete rfl
      rw [← hnew, hp, Phase.pending, List.map_cons] at hold
      have hlen := congrArg List.length (List.append_cancel_left hold)
      simp at hlen
    · exact hw.rest_eq_nil (by rw [hp]; rfl) h
  · trivial

theorem Conserved.clean_write {batched : Bool} {n : ℤ} {err : Option Err}
    (h : Conserved (w.step batched (.write n err))) : w.Clean (.write n err) := by
  simp only [Clean]
  split
  · rename_i x b f rest closing hp
    have hlive : w.phase.failed = false := by rw [hp]; rfl
    simp only [TxWorker.step, hp, TxWorker.wrote] at h
    have hrest {e : Err} (h : Conserved ((w.release [f]).goTo (.stopped (some e)))) : rest = [] :=
      hw.rest_eq_nil (by rw [hp]; rfl) h
    split at h
    · exact .inr ⟨hrest h, by omega⟩
    · split at h
      · exact .inr ⟨hrest h, by simp⟩
      · split at h
        · exact .inr ⟨hrest h, by omega⟩
        · -- the bytes that were taken are the next datagram only if they are all of it
          refine .inl ⟨rfl, ?_⟩
          have hold := hw.complete hlive
          have hnew : (w.handed ++ [(x :: b).take n.toNat]).map .ok <+: w.taken.map shapedPayload := h.handed
          rw [← hold, hp, List.map_append, List.prefix_append_right_inj, Phase.pending] at hnew
          have heq : (x :: b).take n.toNat = x :: b := by simpa using hnew
          have hle : (x :: b).length ≤ n.toNat := by
            rw [← heq, List.length_take]
            exact Nat.min_le_left _ _
          omega
  · trivial

/-- **The steps that conserve are the clean ones.** -/
theorem Conserved.step_iff (batched : Bool) (a : Action) :
    Conserved (w.step batched a) ↔ w.Clean a := by
  refine ⟨fun h => ?_, hw.step batched a⟩
  cases a with
  | turn => exact hw.clean_turn h
  | write => exact hw.clean_write h
  | _ => trivial

end Steps

/-! ### Runs -/

theorem run_concat (batched : Bool) (actions : List Action) (a : Action) :
    run batched (actions ++ [a]) = (run batched actions).step batched a := by
  simp [run]

/-- **The transmit worker conserves datagrams and frames exactly in the runs whose steps are all clean.** -/
theorem tx_conserves_iff (batched : Bool) (actions : List Action) :
    (∀ past, past <+: actions → Conserved (run batched past)) ↔
      Justified (fun past a => (run batched past).Clean a) actions := by
  induction actions using List.reverseRecOn with
  | nil =>
    refine ⟨fun _ => justified_nil, fun _ past h => ?_⟩
    rw [List.prefix_nil.mp h]
    exact conserved_start
  | append_singleton actions a ih =>
    rw [justified_concat, ← ih]
    constructor
    · intro h
      have hpast : ∀ past, past <+: actions → Conserved (run batched past) :=
        fun past hp => h past (hp.trans (List.prefix_append _ _))
      have hlast := h (actions ++ [a]) List.prefix_rfl
      rw [run_concat] at hlast
      exact ⟨hpast, ((hpast actions List.prefix_rfl).step_iff batched a).mp hlast⟩
    · rintro ⟨hpast, hclean⟩ past hp
      rcases List.prefix_concat_iff.mp hp with rfl | hp
      · rw [run_concat]
        exact (hpast actions List.prefix_rfl).step batched a hclean
      · exact hpast past hp

/-- Two ESP frames are queued and taken in one burst. -/
def sampleBurst : List Action :=
  [.enqueue .esp [1, 2], .enqueue .esp [3], .receive, .turn, .turn, .turn]

/-- The first `Write` fails and the second frame is never released; or the first `Write` takes one byte of
two and the datagram goes out in two pieces. -/
theorem not_conserved_sampleBurst :
    ¬ Conserved (run false (sampleBurst ++ [.write 0 (some (.errorf "network is unreachable"))])) ∧
      ¬ Conserved (run false (sampleBurst ++ [.write 1 none, .write 1 none])) := by
  constructor
  · intro h
    exact absurd h.released (by decide)
  · intro h
    exact absurd h.handed (by decide)

end TxWorker

end Swan.Transport
