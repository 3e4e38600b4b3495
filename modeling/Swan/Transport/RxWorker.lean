import Swan.Transport.Frame

/-! # The receive worker

`RxWorker` of `transport/workers.go`. A reader goroutine takes buffers from the pool, lets the wire fill
them, one at a time or up to `rxBatch` at once, and classifies the datagrams in turn; IKE messages go to
`ctl` one by one, ESP packets to the loop of `Run`, which collects them and delivers a batch to `esp`. Both
goroutines wait in a `select` for the other end or for `Close`, and every `select` is a step of its own:
the wire, the receivers, the ticker and `Close` come in between as they like.

A buffer is named by the `Get` that took it out of the pool. `Doing` says what a step can do, `Inv` is
kept by every step, and `rx_conserves` says what follows for every run. -/

namespace Swan.Transport

open Swan.Lib

def rxBatch : ℕ := 32

/-- A buffer of the pool, as the number of the `Get` that took it. -/
abbrev Buffer := ℕ

/-- A classified datagram, with the buffer that its release puts back. -/
structure Packet where
  kind : Kind
  payload : Bytes
  backing : Buffer
  deriving DecidableEq, Repr

/-- A datagram in the buffer it was read into. -/
structure Datagram where
  backing : Buffer
  payload : Bytes
  deriving DecidableEq, Repr

namespace RxWorker

/-- What the reader still has to do after a read: datagrams to classify, buffers that were not filled,
and the error of the read. -/
structure Work where
  filled : List Datagram
  unfilled : List Buffer
  err : Option Err
  deriving DecidableEq, Repr

inductive Reader where
  | top
  /-- The wire has the buffers. -/
  | reading (bufs : List Buffer)
  | classifying (work : Work)
  /-- Before the `select` that sends to `ctl`. -/
  | sendingIKE (pkt : Packet) (work : Work)
  /-- Before the `select` that sends to the loop. -/
  | sendingESP (pkt : Packet) (work : Work)
  /-- Before the `select` that reports an error. -/
  | failing (err : Err)
  | done
  deriving DecidableEq, Repr

/-- Where the loop of `Run` is. -/
inductive Loop where
  | select (batch : List Packet) (fastOK : Bool)
  /-- Before the `select` that sends to `esp`; `fastOK` is its value afterwards. -/
  | delivering (batch : List Packet) (fastOK : Bool)
  | stopped (result : Option Err)
  deriving DecidableEq, Repr

end RxWorker

structure RxWorker where
  reader : RxWorker.Reader
  loop : RxWorker.Loop
  closed : Bool
  /-- The channel of one error from the reader to the loop. -/
  readErr : Option Err
  /-- What was delivered. -/
  ctl : List Packet
  esp : List (List Packet)
  keepalives : ℕ
  /-- How many buffers were taken from the pool. -/
  got : ℕ
  /-- The buffers that were put back. -/
  put : List Buffer
  /-- The datagrams that the wire has returned. -/
  received : List Datagram
  /-- The wire has returned an error. -/
  failed : Bool
  deriving DecidableEq, Repr

namespace RxWorker

/-- A step of one of the goroutines or of the environment. -/
inductive Action where
  | close
  /-- The reader goes on where it does not wait. -/
  | turn
  /-- The wire returns. -/
  | wire (datagrams : List Bytes) (err : Option Err)
  /-- The reader's send to `ctl` or to the loop succeeds. -/
  | takeIKE
  | takeESP
  /-- The reader finds the worker closed in a `select`. -/
  | quit
  | tick
  /-- The loop's send to `esp` succeeds. -/
  | takeBatch
  /-- The loop finds the worker closed in a `select`. -/
  | stop
  /-- The loop receives the error of the reader. -/
  | fail
  deriving DecidableEq, Repr

def start : RxWorker := ⟨.top, .select [] true, false, none, [], [], 0, 0, [], [], false⟩

def putBack (w : RxWorker) (bufs : List Buffer) : RxWorker := { w with put := w.put ++ bufs }

def releaseBatch (w : RxWorker) (batch : List Packet) : RxWorker := w.putBack (batch.map Packet.backing)

/-- How many buffers a read asks for. -/
def width (batched : Bool) : ℕ := if batched then rxBatch else 1

/-- The head of the reader's loop: stop if the worker is closed, or take buffers from the pool. -/
def begin (batched : Bool) (w : RxWorker) : RxWorker :=
  if w.closed then { w with reader := .done }
  else { w with reader := .reading (List.range' w.got (width batched)), got := w.got + width batched }

/-- What the wire can return: `Read` fills its buffer, `ReadBatch` at most all of them. -/
def legal (batched : Bool) (bufs : List Buffer) (datagrams : List Bytes) : Bool :=
  if batched then datagrams.length ≤ bufs.length else datagrams.length = bufs.length

/-- The datagrams of a read that count: those of `ReadBatch` also when it fails, that of `Read` only when
it does not. -/
def valid (batched : Bool) (datagrams : List Bytes) (err : Option Err) : List Bytes :=
  if batched ∨ err = none then datagrams else []

/-- The wire has returned from `Read` or `ReadBatch`. -/
def returned (w : RxWorker) (bufs : List Buffer) (datagrams : List Bytes) (err : Option Err) :
    RxWorker :=
  let filled := bufs.zipWith Datagram.mk datagrams
  { w with reader := .classifying ⟨filled, bufs.drop datagrams.length, err⟩
           received := w.received ++ filled
           failed := w.failed || err.isSome }

def ikePacket (d : Datagram) : Packet := ⟨.ike, d.payload.drop nonESPMarkerLen, d.backing⟩

def espPacket (d : Datagram) : Packet := ⟨.esp, d.payload, d.backing⟩

/-- The beginning of `classifyAndDeliver`, up to its `select`. -/
def classifyAndDeliver (w : RxWorker) (d : Datagram) (work : Work) : RxWorker :=
  match classify d.payload with
  | .keepalive =>
    { w with reader := .classifying work, keepalives := w.keepalives + 1 }.putBack [d.backing]
  | .ike => { w with reader := .sendingIKE (ikePacket d) work }
  | .esp => { w with reader := .sendingESP (espPacket d) work }

/-- The end of a round of the reader: put back what was not filled and look at the error. -/
def endRead (w : RxWorker) (unfilled : List Buffer) (err : Option Err) : RxWorker :=
  { w with reader := match err with
      | none => .top
      | some e => if e = ioEOF ∧ w.closed then .done else .failing e }.putBack unfilled

/-- The reader goes on to its next `select` or to the wire. -/
def turn (batched : Bool) (w : RxWorker) : RxWorker :=
  match w.reader with
  | .top => w.begin batched
  | .classifying ⟨d :: filled, unfilled, err⟩ => w.classifyAndDeliver d ⟨filled, unfilled, err⟩
  | .classifying ⟨[], unfilled, err⟩ => w.endRead unfilled err
  | .failing e => if w.readErr = none then { w with reader := .done, readErr := some e } else w
  | .reading _ | .sendingIKE _ _ | .sendingESP _ _ | .done => w

def Work.held (work : Work) : List Buffer := work.filled.map Datagram.backing ++ work.unfilled

/-- The reader stops in a `select`: it releases its packet and puts back the other buffers. -/
def quit (w : RxWorker) : RxWorker :=
  match w.reader with
  | .sendingIKE pkt work | .sendingESP pkt work =>
    { w with reader := .done }.putBack (pkt.backing :: work.held)
  | .failing _ => { w with reader := .done }
  | .top | .reading _ | .classifying _ | .done => w

/-- The loop has a new packet: a full batch is delivered, and so is the first packet after a gap. -/
def Loop.receive (batch : List Packet) (fastOK : Bool) (pkt : Packet) : Loop :=
  if rxBatch ≤ (batch ++ [pkt]).length then .delivering (batch ++ [pkt]) true
  else if fastOK then .delivering (batch ++ [pkt]) false
  else .select (batch ++ [pkt]) false

def stopLoop (w : RxWorker) (result : Option Err) : RxWorker :=
  match w.loop with
  | .select batch _ | .delivering batch _ => { w with loop := .stopped result }.releaseBatch batch
  | .stopped _ => w

def failLoop (w : RxWorker) (e : Err) : RxWorker :=
  { w with readErr := none }.stopLoop (if e = ioEOF ∧ w.closed then none else some e)

def step (batched : Bool) (w : RxWorker) : Action → RxWorker
  | .close => { w with closed := true }
  | .turn => w.turn batched
  | .wire datagrams err =>
    match w.reader with
    | .reading bufs =>
      if legal batched bufs datagrams then w.returned bufs (valid batched datagrams err) err else w
    | _ => w
  | .takeIKE =>
    match w.reader with
    | .sendingIKE pkt work => { w with reader := .classifying work, ctl := w.ctl ++ [pkt] }
    | _ => w
  | .takeESP =>
    match w.reader, w.loop with
    | .sendingESP pkt work, .select batch fastOK =>
      { w with reader := .classifying work, loop := .receive batch fastOK pkt }
    | _, _ => w
  | .quit => if w.closed then w.quit else w
  | .tick =>
    match w.loop with
    | .select (pkt :: batch) _ => { w with loop := .delivering (pkt :: batch) true }
    | _ => w
  | .takeBatch =>
    match w.loop with
    | .delivering batch fastOK => { w with loop := .select [] fastOK, esp := w.esp ++ [batch] }
    | _ => w
  | .stop => if w.closed then w.stopLoop none else w
  | .fail =>
    match w.readErr, w.loop with
    | some e, .select _ _ => w.failLoop e
    | _, _ => w

def run (batched : Bool) (actions : List Action) : RxWorker := actions.foldl (step batched) start

/-! ### Who has which buffer and which datagram -/

def Reader.filled : Reader → List Datagram
  | .classifying work | .sendingIKE _ work | .sendingESP _ work => work.filled
  | .top | .reading _ | .failing _ | .done => []

def Reader.held : Reader → List Buffer
  | .reading bufs => bufs
  | .classifying work => work.held
  | .sendingIKE pkt work | .sendingESP pkt work => pkt.backing :: work.held
  | .top | .failing _ | .done => []

def Loop.batch : Loop → List Packet
  | .select batch _ | .delivering batch _ => batch
  | .stopped _ => []

def Loop.running : Loop → Bool
  | .stopped _ => false
  | .select _ _ | .delivering _ _ => true

def held (w : RxWorker) : List Buffer := w.reader.held ++ w.loop.batch.map Packet.backing

/-- The buffers inside delivered packets. -/
def handed (w : RxWorker) : List Buffer :=
  w.ctl.map Packet.backing ++ w.esp.flatten.map Packet.backing

def asIKE (d : Datagram) : Option Packet := if classify d.payload = .ike then some (ikePacket d) else none

def asESP (d : Datagram) : Option Packet := if classify d.payload = .esp then some (espPacket d) else none

def isKeepalive (d : Datagram) : Bool := classify d.payload = .keepalive

def Reader.ike : Reader → List Packet
  | .sendingIKE pkt work => pkt :: work.filled.filterMap asIKE
  | r => r.filled.filterMap asIKE

def Reader.esp : Reader → List Packet
  | .sendingESP pkt work => pkt :: work.filled.filterMap asESP
  | r => r.filled.filterMap asESP

/-- The ESP packets in order: those delivered, those of the batch and those of the reader, which nobody
takes any more once the loop has stopped. -/
def espLine (w : RxWorker) : List Packet :=
  w.esp.flatten ++ w.loop.batch ++ if w.loop.running then w.reader.esp else []

def Reader.broken : Reader → Bool
  | .classifying work | .sendingIKE _ work | .sendingESP _ work => work.err.isSome
  | .failing _ => true
  | .top | .reading _ | .done => false

/-- What every step keeps. -/
structure Inv (w : RxWorker) : Prop where
  buffers : ∀ b, w.put.count b + w.handed.count b + w.held.count b = (List.range w.got).count b
  ike : w.ctl ++ w.reader.ike <+: w.received.filterMap asIKE
  ike_eq : w.reader ≠ .done → w.ctl ++ w.reader.ike = w.received.filterMap asIKE
  esp : w.espLine <+: w.received.filterMap asESP
  esp_eq : w.reader ≠ .done → w.loop.running → w.espLine = w.received.filterMap asESP
  keepalives : w.reader ≠ .done →
    w.keepalives + w.reader.filled.countP isKeepalive = w.received.countP isKeepalive
  broken : w.reader.broken → w.failed
  ended : w.reader = .done ∨ w.loop.running = false ∨ w.readErr.isSome → w.closed ∨ w.failed

theorem inv_start : Inv start where
  buffers b := by simp [start, handed, held, Reader.held, Loop.batch]
  ike := by simp [start, Reader.ike, Reader.filled]
  ike_eq _ := by simp [start, Reader.ike, Reader.filled]
  esp := by simp [start, espLine, Reader.esp, Reader.filled, Loop.batch, Loop.running]
  esp_eq _ _ := by simp [start, espLine, Reader.esp, Reader.filled, Loop.batch, Loop.running]
  keepalives _ := by simp [start, Reader.filled]
  broken h := by simp [start, Reader.broken] at h
  ended h := by simp [start, Loop.running] at h

/-! ### The reader -/

/-- What the reader does in a step: the buffers it takes from the pool and puts back, the datagrams it is
given, whether with an error, the IKE packets it delivers and the keepalives it consumes. -/
structure Doing where
  fresh : List Buffer := []
  put : List Buffer := []
  new : List Datagram := []
  failed : Bool := false
  sent : List Packet := []
  kept : ℕ := 0

/-- The worker after a step of the reader to `r'`. -/
def after (w : RxWorker) (r' : Reader) (e : Doing) : RxWorker :=
  { w with reader := r', got := w.got + e.fresh.length, put := w.put ++ e.put
           received := w.received ++ e.new, failed := w.failed || e.failed
           ctl := w.ctl ++ e.sent, keepalives := w.keepalives + e.kept }

/-- Nothing is lost in a step of the reader from `r` to `r'`, but that a reader that stops has given up
its packets. -/
structure Reader.Moves (r r' : Reader) (e : Doing) : Prop where
  live : r ≠ .done
  held : ∀ b, r.held.count b + e.fresh.count b =
    e.put.count b + (e.sent.map Packet.backing).count b + r'.held.count b
  ike : e.sent ++ r'.ike <+: r.ike ++ e.new.filterMap asIKE
  esp : r'.esp <+: r.esp ++ e.new.filterMap asESP
  same : r' ≠ .done → e.sent ++ r'.ike = r.ike ++ e.new.filterMap asIKE ∧
    r'.esp = r.esp ++ e.new.filterMap asESP ∧
    e.kept + r'.filled.countP isKeepalive =
      r.filled.countP isKeepalive + e.new.countP isKeepalive

theorem Reader.moves_of_eq {r r' : Reader} {e : Doing} (live : r ≠ .done)
    (held : ∀ b, r.held.count b + e.fresh.count b =
      e.put.count b + (e.sent.map Packet.backing).count b + r'.held.count b)
    (ike : e.sent ++ r'.ike = r.ike ++ e.new.filterMap asIKE)
    (esp : r'.esp = r.esp ++ e.new.filterMap asESP)
    (keepalives : e.kept + r'.filled.countP isKeepalive =
      r.filled.countP isKeepalive + e.new.countP isKeepalive) : r.Moves r' e :=
  ⟨live, held, ike ▸ List.prefix_rfl, esp ▸ List.prefix_rfl, fun _ => ⟨ike, esp, keepalives⟩⟩

theorem Reader.moves_done {r : Reader} (live : r ≠ .done) : r.Moves .done { put := r.held } :=
  ⟨live, fun b => by simp [Reader.held], List.nil_prefix, List.nil_prefix, fun h => absurd rfl h⟩

theorem map_backing_zipWith (bufs : List Buffer) (datagrams : List Bytes) :
    (bufs.zipWith Datagram.mk datagrams).map Datagram.backing = bufs.take datagrams.length := by
  induction bufs generalizing datagrams with
  | nil => simp
  | cons b bufs ih =>
    cases datagrams with
    | nil => rfl
    | cons d datagrams => simp [ih]

section Steps

variable {w : RxWorker} (hw : Inv w)

include hw

theorem Inv.close : Inv { w with closed := true } :=
  { hw with ended := fun _ => .inl rfl }

theorem Inv.after {r' : Reader} {e : Doing} (h : w.reader.Moves r' e)
    (hfresh : e.fresh = List.range' w.got e.fresh.length)
    (hbroken : r'.broken → w.failed || e.failed) (hdone : r' = .done → w.closed ∨ w.failed) :
    Inv (w.after r' e) where
  buffers b := by
    have hb := hw.buffers b
    have hheld := h.held b
    have hrange : List.range (w.got + e.fresh.length) = List.range w.got ++ e.fresh := by
      have happ := @List.range'_append_1 0 w.got e.fresh.length
      rw [Nat.zero_add, ← hfresh] at happ
      rw [List.range_eq_range', List.range_eq_range', happ]
    simp only [handed, RxWorker.held, RxWorker.after, List.count_append, List.map_append, hrange] at hb ⊢
    omega
  ike := by
    have hpre := (List.prefix_append_right_inj w.ctl).mpr h.ike
    rw [← List.append_assoc, ← List.append_assoc, hw.ike_eq h.live, ← List.filterMap_append] at hpre
    exact hpre
  ike_eq hr := by
    change w.ctl ++ e.sent ++ r'.ike = (w.received ++ e.new).filterMap asIKE
    rw [List.append_assoc, (h.same hr).1, ← List.append_assoc, hw.ike_eq h.live, List.filterMap_append]
  esp := by
    change w.esp.flatten ++ w.loop.batch ++ (if w.loop.running then r'.esp else []) <+:
      (w.received ++ e.new).filterMap asESP
    rw [List.filterMap_append]
    cases hrun : w.loop.running with
    | true =>
      rw [← hw.esp_eq h.live hrun, espLine, hrun, if_pos rfl, if_pos rfl, List.append_assoc _ w.reader.esp]
      exact (List.prefix_append_right_inj _).mpr h.esp
    | false =>
      have hpre := hw.esp
      rw [espLine, hrun] at hpre
      exact hpre.trans (List.prefix_append _ _)
  esp_eq hr hrun := by
    change w.esp.flatten ++ w.loop.batch ++ (if w.loop.running then r'.esp else []) =
      (w.received ++ e.new).filterMap asESP
    have hrun' : w.loop.running := hrun
    rw [if_pos hrun', (h.same hr).2.1, List.filterMap_append, ← hw.esp_eq h.live hrun, espLine,
      if_pos hrun', List.append_assoc _ w.reader.esp]
  keepalives hr := by
    have hk := hw.keepalives h.live
    have heq := (h.same hr).2.2
    change w.keepalives + e.kept + r'.filled.countP isKeepalive =
      (w.received ++ e.new).countP isKeepalive
    rw [List.countP_append]
    omega
  broken := hbroken
  ended hend := by
    have hold : w.closed ∨ w.failed := by
      rcases hend with hr | hend
      · exact hdone hr
      · exact hw.ended (.inr hend)
    exact hold.imp_right fun hf => by simp [RxWorker.after, hf]

theorem Inv.done {put : List Buffer} (hlive : w.reader ≠ .done) (hput : w.reader.held = put)
    (h : w.closed ∨ w.failed) : Inv ({ w with reader := .done }.putBack put) := by
  have hnext := hw.after (Reader.moves_done hlive) rfl (by simp [Reader.broken]) fun _ => h
  simpa [RxWorker.after, putBack, hput] using hnext

theorem Inv.begin {batched : Bool} (hr : w.reader = .top) : Inv (w.begin batched) := by
  unfold RxWorker.begin
  split
  · rename_i hclosed
    have hnext := hw.done (by simp [hr]) rfl (.inl hclosed)
    simpa [putBack, hr, Reader.held] using hnext
  · have hmoves : w.reader.Moves (.reading (List.range' w.got (width batched)))
        { fresh := List.range' w.got (width batched) } := by
      rw [hr]
      refine Reader.moves_of_eq (by simp) (fun b => ?_) rfl rfl rfl
      simp [Reader.held]
    have hnext := hw.after hmoves (by simp) (by simp [Reader.broken]) (by simp)
    simpa [RxWorker.after] using hnext

theorem Inv.returned {bufs : List Buffer} (hr : w.reader = .reading bufs) (datagrams : List Bytes)
    (err : Option Err) : Inv (w.returned bufs datagrams err) := by
  have hmoves : w.reader.Moves
      (.classifying ⟨bufs.zipWith Datagram.mk datagrams, bufs.drop datagrams.length, err⟩)
      { new := bufs.zipWith Datagram.mk datagrams, failed := err.isSome } := by
    rw [hr]
    refine Reader.moves_of_eq (by simp) (fun b => ?_) rfl rfl (by simp [Reader.filled])
    simp only [Reader.held, Work.held, map_backing_zipWith, List.take_append_drop]
    simp
  have hnext := hw.after hmoves rfl (by simp +contextual [Reader.broken]) (by simp)
  simpa [RxWorker.after, RxWorker.returned] using hnext

theorem Inv.classifyAndDeliver {d : Datagram} {filled : List Datagram} {unfilled : List Buffer}
    {err : Option Err} (hr : w.reader = .classifying ⟨d :: filled, unfilled, err⟩) :
    Inv (w.classifyAndDeliver d ⟨filled, unfilled, err⟩) := by
  have hbroken : err.isSome → w.failed := by
    have hb := hw.broken
    rwa [hr] at hb
  unfold RxWorker.classifyAndDeliver
  cases hd : classify d.payload with
  | keepalive =>
    have hmoves : w.reader.Moves (.classifying ⟨filled, unfilled, err⟩)
        { put := [d.backing], kept := 1 } := by
      rw [hr]
      refine Reader.moves_of_eq (by simp) (fun b => ?_) ?_ ?_ ?_
      · simp only [Reader.held, Work.held, List.map_cons, List.cons_append, List.count_cons, List.count_nil,
          List.map_nil]
        omega
      · simp [Reader.ike, Reader.filled, asIKE, hd]
      · simp [Reader.esp, Reader.filled, asESP, hd]
      · simp [Reader.filled, isKeepalive, hd, Nat.add_comm]
    have hnext := hw.after hmoves rfl (by simpa [Reader.broken] using hbroken) (by simp)
    simpa [RxWorker.after, putBack] using hnext
  | ike =>
    have hmoves : w.reader.Moves (.sendingIKE (ikePacket d) ⟨filled, unfilled, err⟩) {} := by
      rw [hr]
      refine Reader.moves_of_eq (by simp) (fun b => ?_) ?_ ?_ ?_
      · simp [Reader.held, Work.held, ikePacket]
      · simp [Reader.ike, Reader.filled, asIKE, hd]
      · simp [Reader.esp, Reader.filled, asESP, hd]
      · simp [Reader.filled, isKeepalive, hd]
    have hnext := hw.after hmoves rfl (by simpa [Reader.broken] using hbroken) (by simp)
    simpa [RxWorker.after] using hnext
  | esp =>
    have hmoves : w.reader.Moves (.sendingESP (espPacket d) ⟨filled, unfilled, err⟩) {} := by
      rw [hr]
      refine Reader.moves_of_eq (by simp) (fun b => ?_) ?_ ?_ ?_
      · simp [Reader.held, Work.held, espPacket]
      · simp [Reader.ike, Reader.filled, asIKE, hd]
      · simp [Reader.esp, Reader.filled, asESP, hd]
      · simp [Reader.filled, isKeepalive, hd]
    have hnext := hw.after hmoves rfl (by simpa [Reader.broken] using hbroken) (by simp)
    simpa [RxWorker.after] using hnext

theorem Inv.endRead {unfilled : List Buffer} {err : Option Err}
    (hr : w.reader = .classifying ⟨[], unfilled, err⟩) : Inv (w.endRead unfilled err) := by
  have hheld : w.reader.held = unfilled := by rw [hr]; rfl
  have hmoves (r' : Reader) (hempty : r'.held = []) (hike : r'.ike = []) (hesp : r'.esp = [])
      (hfilled : r'.filled = []) : w.reader.Moves r' { put := unfilled } := by
    refine Reader.moves_of_eq (by simp [hr]) (fun b => ?_) ?_ ?_ ?_
    · simp [hheld, hempty]
    · rw [hike, hr]; rfl
    · rw [hesp, hr]; rfl
    · rw [hfilled, hr]; rfl
  cases err with
  | none =>
    have hnext := hw.after (hmoves .top rfl rfl rfl rfl) rfl (by simp [Reader.broken]) (by simp)
    simpa [RxWorker.after, RxWorker.endRead, putBack] using hnext
  | some e =>
    have hfailed : w.failed := hw.broken (by rw [hr]; rfl)
    unfold RxWorker.endRead
    dsimp only
    split
    · exact hw.done (by simp [hr]) hheld (.inr hfailed)
    · have hnext := hw.after (hmoves (.failing e) rfl rfl rfl rfl) rfl (by simp [hfailed]) (by simp)
      simpa [RxWorker.after, putBack] using hnext

theorem Inv.turn (batched : Bool) : Inv (w.turn batched) := by
  unfold RxWorker.turn
  split
  · exact hw.begin ‹_›
  · exact hw.classifyAndDeliver ‹_›
  · exact hw.endRead ‹_›
  · rename_i e hr
    have hfailed : w.failed := hw.broken (by rw [hr]; rfl)
    split
    · have hempty : w.reader.held = [] := by rw [hr]; rfl
      have hnext := hw.done (by simp [hr]) hempty (.inr hfailed)
      have hreport : Inv { w with reader := .done, readErr := some e, put := w.put ++ [] } :=
        { hnext with ended := fun _ => .inr hfailed }
      simpa using hreport
    · exact hw
  all_goals exact hw

theorem Inv.takeIKE {pkt : Packet} {work : Work} (hr : w.reader = .sendingIKE pkt work) :
    Inv { w with reader := .classifying work, ctl := w.ctl ++ [pkt] } := by
  have hmoves : w.reader.Moves (.classifying work) { sent := [pkt] } := by
    rw [hr]
    refine Reader.moves_of_eq (by simp) (fun b => ?_) ?_ ?_ ?_
    · simp [Reader.held, List.count_cons, Nat.add_comm]
    · simp [Reader.ike, Reader.filled]
    · simp [Reader.esp, Reader.filled]
    · simp [Reader.filled]
  have hbroken := hw.broken
  rw [hr] at hbroken
  have hnext := hw.after hmoves rfl (by simpa [Reader.broken] using hbroken) (by simp)
  simpa [RxWorker.after] using hnext

theorem Inv.quit (hclosed : w.closed) : Inv w.quit := by
  unfold RxWorker.quit
  split
  · exact hw.done (by simp [*]) (by simp [*, Reader.held]) (.inl hclosed)
  · exact hw.done (by simp [*]) (by simp [*, Reader.held]) (.inl hclosed)
  · have hnext := hw.done (by simp [*]) rfl (.inl hclosed)
    simpa [putBack, *, Reader.held] using hnext
  all_goals exact hw

/-! ### The loop -/

/-- The invariant after a step of the loop to `l'` that delivers the batches `out` and puts back the buffers
`put`; packets are given up only when the loop stops. -/
theorem Inv.loop (l' : Loop) (out : List (List Packet)) (put : List Buffer)
    (hheld : ∀ b, (w.loop.batch.map Packet.backing).count b =
      (out.flatten.map Packet.backing).count b + put.count b + (l'.batch.map Packet.backing).count b)
    (hline : out.flatten ++ l'.batch <+: w.loop.batch)
    (hsame : l'.running → w.loop.running ∧ out.flatten ++ l'.batch = w.loop.batch)
    (hstop : l'.running = false → w.closed ∨ w.failed) :
    Inv { w with loop := l', esp := w.esp ++ out, put := w.put ++ put } where
  buffers b := by
    have hb := hw.buffers b
    have hl := hheld b
    simp only [handed, RxWorker.held, List.count_append, List.map_append, List.flatten_append] at hb ⊢
    omega
  ike := hw.ike
  ike_eq := hw.ike_eq
  esp := by
    change (w.esp ++ out).flatten ++ l'.batch ++ (if l'.running then w.reader.esp else []) <+: _
    rw [List.flatten_append, List.append_assoc w.esp.flatten]
    cases hrun : l'.running with
    | true =>
      obtain ⟨hold, heq⟩ := hsame hrun
      have hesp := hw.esp
      rwa [espLine, hold, ← heq] at hesp
    | false =>
      refine List.IsPrefix.trans ?_ hw.esp
      rw [espLine, if_neg Bool.false_ne_true, List.append_nil]
      exact ((List.prefix_append_right_inj _).mpr hline).trans (List.prefix_append _ _)
  esp_eq hr hrun := by
    obtain ⟨hold, heq⟩ := hsame hrun
    change (w.esp ++ out).flatten ++ l'.batch ++ (if l'.running then w.reader.esp else []) = _
    have hesp := hw.esp_eq hr hold
    rw [espLine, hold, ← heq] at hesp
    rw [List.flatten_append, List.append_assoc w.esp.flatten, hrun]
    exact hesp
  keepalives := hw.keepalives
  broken := hw.broken
  ended hend := by
    rcases hend with hr | hrun | herr
    · exact hw.ended (.inl hr)
    · exact hstop hrun
    · exact hw.ended (.inr (.inr herr))

theorem Inv.tick {pkt : Packet} {batch : List Packet} {fastOK : Bool}
    (hl : w.loop = .select (pkt :: batch) fastOK) :
    Inv { w with loop := .delivering (pkt :: batch) true } := by
  have hnext := hw.loop (.delivering (pkt :: batch) true) [] [] (by simp [hl, Loop.batch])
    (by simp [hl, Loop.batch]) (by simp [hl, Loop.batch, Loop.running]) (by simp [Loop.running])
  simpa using hnext

theorem Inv.takeBatch {batch : List Packet} {fastOK : Bool} (hl : w.loop = .delivering batch fastOK) :
    Inv { w with loop := .select [] fastOK, esp := w.esp ++ [batch] } := by
  have hnext := hw.loop (.select [] fastOK) [batch] [] (by simp [hl, Loop.batch])
    (by simp [hl, Loop.batch]) (by simp [hl, Loop.batch, Loop.running]) (by simp [Loop.running])
  simpa using hnext

theorem Inv.stopLoop (result : Option Err) (h : w.closed ∨ w.failed) : Inv (w.stopLoop result) := by
  have hstopped : Inv ({ w with loop := .stopped result }.releaseBatch w.loop.batch) := by
    have hnext := hw.loop (.stopped result) [] (w.loop.batch.map Packet.backing) (by simp [Loop.batch])
      List.nil_prefix (by simp [Loop.running]) (fun _ => h)
    simpa [releaseBatch, putBack] using hnext
  unfold RxWorker.stopLoop
  split
  · rename_i hl
    rwa [hl] at hstopped
  · rename_i hl
    rwa [hl] at hstopped
  · exact hw

theorem Inv.failLoop {e : Err} (he : w.readErr = some e) : Inv (w.failLoop e) := by
  have hover : w.closed ∨ w.failed := hw.ended (.inr (.inr (by simp [he])))
  have htaken : Inv { w with readErr := none } := { hw with ended := fun _ => hover }
  exact htaken.stopLoop _ hover

omit hw in
theorem Loop.batch_receive (batch : List Packet) (fastOK : Bool) (pkt : Packet) :
    (Loop.receive batch fastOK pkt).batch = batch ++ [pkt] := by
  unfold Loop.receive
  split_ifs <;> rfl

omit hw in
theorem Loop.running_receive (batch : List Packet) (fastOK : Bool) (pkt : Packet) :
    (Loop.receive batch fastOK pkt).running = true := by
  unfold Loop.receive
  split_ifs <;> rfl

theorem Inv.takeESP {pkt : Packet} {work : Work} {batch : List Packet} {fastOK : Bool}
    (hr : w.reader = .sendingESP pkt work) (hl : w.loop = .select batch fastOK) :
    Inv { w with reader := .classifying work, loop := .receive batch fastOK pkt } := by
  have hlive : w.reader ≠ .done := by simp [hr]
  have hrun : w.loop.running := by rw [hl]; rfl
  have hike := hw.ike_eq hlive
  have hkeep := hw.keepalives hlive
  have hbroken := hw.broken
  have hesp := hw.esp_eq hlive hrun
  rw [hr] at hike hkeep hbroken
  -- both lines are the same, cut in another place
  have hline : RxWorker.espLine { w with reader := .classifying work, loop := .receive batch fastOK pkt } =
      w.received.filterMap asESP := by
    rw [← hesp, espLine, espLine, Loop.batch_receive, Loop.running_receive, hr, hl]
    simp [Loop.batch, Loop.running, Reader.esp, Reader.filled]
  refine ⟨fun b => ?_, ?_, fun _ => hike, ?_, fun _ _ => hline, fun _ => hkeep, hbroken, ?_⟩
  · have hb := hw.buffers b
    have hbatch : w.loop.batch = batch := by rw [hl]; rfl
    simp only [handed, RxWorker.held, hr, hbatch, Reader.held, Loop.batch_receive, List.count_append,
      List.map_append, List.map_cons, List.map_nil, List.count_cons, List.count_nil] at hb ⊢
    omega
  · exact hike ▸ List.prefix_rfl
  · exact hline ▸ List.prefix_rfl
  · rintro (hdone | hstop | herr)
    · exact absurd hdone (by simp)
    · exact absurd hstop (by simp [Loop.running_receive])
    · exact hw.ended (.inr (.inr herr))

/-- **Every step keeps the invariant.** -/
theorem Inv.step (batched : Bool) (a : Action) : Inv (w.step batched a) := by
  cases a with
  | close => exact hw.close
  | turn => exact hw.turn batched
  | wire datagrams err =>
    simp only [RxWorker.step]
    split
    · split
      · exact hw.returned ‹_› _ err
      · exact hw
    · exact hw
  | takeIKE =>
    simp only [RxWorker.step]
    split
    · exact hw.takeIKE ‹_›
    · exact hw
  | takeESP =>
    simp only [RxWorker.step]
    split
    · exact hw.takeESP ‹_› ‹_›
    · exact hw
  | quit =>
    simp only [RxWorker.step]
    split
    · exact hw.quit ‹_›
    · exact hw
  | tick =>
    simp only [RxWorker.step]
    split
    · exact hw.tick ‹_›
    · exact hw
  | takeBatch =>
    simp only [RxWorker.step]
    split
    · exact hw.takeBatch ‹_›
    · exact hw
  | stop =>
    simp only [RxWorker.step]
    split
    · exact hw.stopLoop none (.inl ‹_›)
    · exact hw
  | fail =>
    simp only [RxWorker.step]
    split
    · exact hw.failLoop ‹_›
    · exact hw

end Steps

theorem inv_run (batched : Bool) (actions : List Action) : Inv (run batched actions) :=
  List.foldlRecOn actions _ inv_start fun _ hw a _ => hw.step batched a

/-! ### Runs -/

/-- `Run` has returned: the loop has stopped and the reader has finished. -/
def Finished (w : RxWorker) : Prop := w.reader = .done ∧ w.loop.running = false

structure Conserved (w : RxWorker) : Prop where
  /-- A buffer that was taken from the pool was put back, is inside a delivered packet or still with the
  worker: one of them, and once. -/
  buffers : ∀ b, w.put.count b + w.handed.count b + w.held.count b = if b < w.got then 1 else 0
  released : w.Finished → w.held = []
  /-- The delivered packets are the datagrams of their kind in the order of arrival, from the first on. -/
  ike : w.ctl <+: w.received.filterMap asIKE
  esp : w.esp.flatten <+: w.received.filterMap asESP
  /-- Nothing is missing before `Close` and before a read error: what was not delivered is in the batch or
  in the hands of the reader. -/
  complete : w.closed = false → w.failed = false →
    w.ctl ++ w.reader.ike = w.received.filterMap asIKE ∧
    w.esp.flatten ++ w.loop.batch ++ w.reader.esp = w.received.filterMap asESP ∧
    w.keepalives + w.reader.filled.countP isKeepalive = w.received.countP isKeepalive
  /-- A reader that waits for the wire has nothing in its hands. -/
  between : ∀ bufs, w.reader = .reading bufs →
    w.reader.ike = [] ∧ w.reader.esp = [] ∧ w.reader.filled = []

/-- **The receive worker loses and doubles nothing**: every buffer is put back once or handed over in one
packet, and packets are delivered in the order of arrival, by their kind, without a gap until the worker is
closed or a read fails. -/
theorem rx_conserves (batched : Bool) (actions : List Action) : Conserved (run batched actions) := by
  have hw := inv_run batched actions
  generalize run batched actions = w at hw
  refine ⟨fun b => ?_, ?_, ?_, ?_, ?_, ?_⟩
  · rw [hw.buffers b, List.nodup_range.count]
    simp only [List.mem_range]
  · rintro ⟨hr, hl⟩
    cases hloop : w.loop with
    | select | delivering => simp [hloop, Loop.running] at hl
    | stopped => simp [held, hr, hloop, Reader.held, Loop.batch]
  · exact (List.prefix_append _ _).trans hw.ike
  · have hesp := hw.esp
    rw [espLine, List.append_assoc] at hesp
    exact (List.prefix_append _ _).trans hesp
  · intro hclosed hfailed
    have hover : ¬ (w.closed ∨ w.failed) := by simp [hclosed, hfailed]
    have hlive : w.reader ≠ .done := fun h => hover (hw.ended (.inl h))
    have hrun : w.loop.running := by
      by_contra h
      exact hover (hw.ended (.inr (.inl (by simpa using h))))
    have hesp := hw.esp_eq hlive hrun
    rw [espLine, if_pos hrun] at hesp
    exact ⟨hw.ike_eq hlive, hesp, hw.keepalives hlive⟩
  · intro bufs hr
    simp [hr, Reader.ike, Reader.esp, Reader.filled]

/-- Two datagrams arrive together with an error; the first is delivered, the worker is closed before the
second is taken, and the other buffers go back. -/
example :
    let w := run true [.turn, .wire [[0, 0, 0, 0, 7], [1, 2]] (some ioEOF), .turn, .takeIKE, .turn, .close,
      .quit, .stop]
    w.reader = .done ∧ w.loop = .stopped none ∧ w.ctl = [⟨.ike, [7], 0⟩] ∧ w.esp = [] ∧
      w.put = List.range' 1 31 := by
  decide

end RxWorker

end Swan.Transport
