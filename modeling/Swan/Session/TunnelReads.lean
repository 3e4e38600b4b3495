import Swan.Lib.Log
import Swan.Session.FramedWire

/-! # Reading from the tunnel

`Read` and `ReadBatch` of `tunnel.go` over the queue of decrypted packets. A call takes batches off the
queue, gives the bytes of one packet to a buffer and keeps what did not fit. Batches arrive, the tunnel
is closed and the queue is closed between any two steps of a call; every receive from a channel is one
step.

The log records what happens. `Inv` is kept by every step (`inv_step`): the packets that were released,
those at hand and those queued are the packets that arrived, in order; and the pieces given to buffers are
cut from the released packets one by one (`Cut`). `tunnel_reads` says what follows for every run. -/

namespace Swan.Session.TunnelReads

open Swan.Lib

/-- What happens at the tunnel. -/
inductive Event where
  | queued (batch : List Bytes)
  | tunnelClosed
  | inboundClosed
  /-- A buffer was given these bytes. -/
  | filled (b : Bytes)
  /-- The backing of a packet was released. -/
  | released (packet : Bytes)
  /-- A call returned: the number of bytes or of packets, and the error. -/
  | returned (n : ℕ) (err : Option Err)
  deriving DecidableEq, Repr

/-- A call of a user, with the sizes of its buffers. -/
inductive Call where
  | read (size : ℕ)
  | readBatch (sizes : List ℕ)
  deriving DecidableEq, Repr

/-- The buffer that is being filled: its size, whether the call waits for it, and for `ReadBatch` the
sizes of the buffers after it and the number of those before it. -/
structure Current where
  size : ℕ
  block : Bool
  batch : Option (List ℕ × ℕ)
  deriving DecidableEq, Repr

inductive Reader where
  | idle
  /-- At the head of the loop of `read`. -/
  | top (c : Current)
  /-- Before the second `select`, which waits. -/
  | waiting (c : Current)
  /-- Before the last drain, after the tunnel was found closed. -/
  | draining (c : Current)
  deriving DecidableEq, Repr

structure Tunnel where
  pending : Bytes
  pendingBatch : List Bytes
  inbound : List (List Bytes)
  inboundClosed : Bool
  closed : Bool
  reader : Reader
  log : List Event
  deriving DecidableEq, Repr

/-- A step of the environment, of a user or of the reader; the reader chooses whether it looks at the
closed tunnel first when it waits. -/
inductive Action where
  | enqueue (batch : List Bytes)
  | close
  | closeInbound
  | call (c : Call)
  | turn (closedFirst : Bool)
  deriving DecidableEq, Repr

namespace Tunnel

def start : Tunnel := ⟨[], [], [], false, false, .idle, []⟩

def emit (t : Tunnel) (es : List Event) : Tunnel := { t with log := t.log ++ es }

def goTo (t : Tunnel) (r : Reader) : Tunnel := { t with reader := r }

def finish (t : Tunnel) (n : ℕ) (err : Option Err) : Tunnel := (t.emit [.returned n err]).goTo .idle

/-- `read` returns to its caller: `ReadBatch` goes on with the next buffer after one that was filled. -/
def answer (t : Tunnel) (c : Current) (got : ℕ) (err : Option Err) : Tunnel :=
  match c.batch with
  | none => t.finish got err
  | some ([], n) => if 0 < got then t.finish (n + 1) none else t.finish n err
  | some (size :: rest, n) =>
    if 0 < got then t.goTo (.top ⟨size, false, some (rest, n + 1)⟩) else t.finish n err

/-- Copy a packet to the buffer, keep what is left of it and release its backing. -/
def deliverPacket (t : Tunnel) (c : Current) (packet : Bytes) : Tunnel :=
  ({ t with pending := packet.drop c.size }.emit
    [.filled (packet.take c.size), .released packet]).answer c (min c.size packet.length) none

/-- A receive from the queue; `otherwise` is what the call does when nothing is there. -/
def receive (t : Tunnel) (c : Current) (otherwise : Tunnel) : Tunnel :=
  match t.inbound with
  | batch :: rest => { t with inbound := rest, pendingBatch := batch }.goTo (.top c)
  | [] => if t.inboundClosed then t.answer c 0 (some ioEOF) else otherwise

/-- The loop of `read` up to its second `select`. -/
def atTop (t : Tunnel) (c : Current) : Tunnel :=
  if t.pending ≠ [] then
    ({ t with pending := t.pending.drop c.size }.emit [.filled (t.pending.take c.size)]).answer c
      (min c.size t.pending.length) none
  else match t.pendingBatch with
    | packet :: rest =>
      let t := { t with pendingBatch := rest }
      if packet = [] then t.emit [.released packet] else t.deliverPacket c packet
    | [] => t.receive c (if c.block then t.goTo (.waiting c) else t.answer c 0 none)

def turn (t : Tunnel) (closedFirst : Bool) : Tunnel :=
  match t.reader with
  | .idle => t
  | .top c => t.atTop c
  | .waiting c => if closedFirst ∧ t.closed then t.goTo (.draining c) else t.receive c t
  | .draining c => t.receive c (t.answer c 0 (some ioEOF))

def call (t : Tunnel) : Call → Tunnel
  | .read size => t.goTo (.top ⟨size, true, none⟩)
  | .readBatch [] => t.finish 0 none
  | .readBatch (size :: rest) => t.goTo (.top ⟨size, true, some (rest, 0)⟩)

def step (t : Tunnel) : Action → Tunnel
  | .enqueue batch =>
    if t.inboundClosed then t else { t with inbound := t.inbound ++ [batch] }.emit [.queued batch]
  | .close => { t with closed := true }.emit [.tunnelClosed]
  | .closeInbound => { t with inboundClosed := true }.emit [.inboundClosed]
  | .call c => if t.reader = .idle then t.call c else t
  | .turn closedFirst => t.turn closedFirst

end Tunnel

/-! ### Reading the log -/

def queuedIn (log : List Event) : List Bytes :=
  log.flatMap fun | .queued batch => batch | _ => []

def filledIn (log : List Event) : List Bytes :=
  log.flatMap fun | .filled b => [b] | _ => []

/-- The packets whose backing was released. -/
def releasedIn (log : List Event) : List Bytes :=
  log.flatMap fun | .released p => [p] | _ => []

section

variable (log es : List Event)

@[simp] theorem queuedIn_append : queuedIn (log ++ es) = queuedIn log ++ queuedIn es := List.flatMap_append

@[simp] theorem filledIn_append : filledIn (log ++ es) = filledIn log ++ filledIn es := List.flatMap_append

@[simp] theorem releasedIn_append : releasedIn (log ++ es) = releasedIn log ++ releasedIn es :=
  List.flatMap_append

end

/-- The pieces are cut from the packets one by one, in order; of the last packet `rest` is left. -/
def Cut (pieces packets : List Bytes) (rest : Bytes) : Prop :=
  (∃ groups : List (List Bytes), pieces = groups.flatten ∧ packets = groups.map List.flatten ∧ rest = []) ∨
    ∃ (groups : List (List Bytes)) (last : List Bytes), pieces = groups.flatten ++ last ∧
      packets = groups.map List.flatten ++ [last.flatten ++ rest]

namespace Cut

variable {pieces packets : List Bytes} {rest : Bytes}

theorem nil : Cut [] [] [] := .inl ⟨[], rfl, rfl, rfl⟩

theorem exists_groups (h : Cut pieces packets []) :
    ∃ groups : List (List Bytes), pieces = groups.flatten ∧ packets = groups.map List.flatten := by
  rcases h with ⟨groups, hpieces, hpackets, -⟩ | ⟨groups, last, hpieces, hpackets⟩
  · exact ⟨groups, hpieces, hpackets⟩
  · refine ⟨groups ++ [last], ?_, ?_⟩
    · rw [hpieces, List.flatten_append, List.flatten_singleton]
    · rw [hpackets, List.append_nil, List.map_append]
      rfl

theorem packet (h : Cut pieces packets []) (group : List Bytes) (rest : Bytes) :
    Cut (pieces ++ group) (packets ++ [group.flatten ++ rest]) rest := by
  obtain ⟨groups, hpieces, hpackets⟩ := h.exists_groups
  exact .inr ⟨groups, group, by rw [hpieces], by rw [hpackets]⟩

theorem more (h : Cut pieces packets rest) (hrest : rest ≠ []) (k : ℕ) :
    Cut (pieces ++ [rest.take k]) packets (rest.drop k) := by
  rcases h with ⟨-, -, -, hnil⟩ | ⟨groups, last, hpieces, hpackets⟩
  · exact absurd hnil hrest
  · refine .inr ⟨groups, last ++ [rest.take k], ?_, ?_⟩
    · rw [hpieces, List.append_assoc]
    · rw [hpackets, List.flatten_append, List.flatten_singleton, List.append_assoc, List.take_append_drop]

theorem flatten_flatten (groups : List (List Bytes)) :
    groups.flatten.flatten = (groups.map List.flatten).flatten := by
  induction groups with
  | nil => rfl
  | cons g groups ih => simp [ih]

theorem bytes (h : Cut pieces packets rest) : pieces.flatten ++ rest = packets.flatten := by
  rcases h with ⟨groups, rfl, rfl, rfl⟩ | ⟨groups, last, rfl, rfl⟩
  · rw [List.append_nil, flatten_flatten]
  · rw [List.flatten_append, List.flatten_append, flatten_flatten, List.flatten_singleton,
      List.append_assoc]

end Cut

/-! ### What every step keeps -/

/-- Everything that arrived has been returned, and the tunnel or its queue is closed. -/
structure AllOut (log : List Event) : Prop where
  bytes : (filledIn log).flatten = (queuedIn log).flatten
  released : releasedIn log = queuedIn log
  closed : .tunnelClosed ∈ log ∨ .inboundClosed ∈ log

def AtEnd (past : List Event) (e : Event) : Prop := ∀ n, e = .returned n (some ioEOF) → AllOut past

/-- What holds wherever the reader is. -/
structure Kept (t : Tunnel) : Prop where
  packets : releasedIn t.log ++ t.pendingBatch ++ t.inbound.flatten = queuedIn t.log
  cut : Cut (filledIn t.log) (releasedIn t.log) t.pending
  closed : t.closed = true → .tunnelClosed ∈ t.log
  inboundClosed : t.inboundClosed = true → .inboundClosed ∈ t.log
  ends : Justified AtEnd t.log

structure Inv (t : Tunnel) : Prop extends Kept t where
  /-- A reader that waits has nothing at hand. -/
  parked : ∀ c, t.reader = .waiting c ∨ t.reader = .draining c → t.pending = [] ∧ t.pendingBatch = []
  draining : ∀ c, t.reader = .draining c → t.closed = true

section

variable {t : Tunnel} {c : Current} {n : ℕ} {err : Option Err}

theorem Kept.goTo (h : Kept t) (r : Reader) : Kept (t.goTo r) :=
  ⟨h.packets, h.cut, h.closed, h.inboundClosed, h.ends⟩

theorem Kept.inv (h : Kept t) (hreader : t.reader = .idle ∨ ∃ c, t.reader = .top c) : Inv t := by
  refine ⟨h, ?_, ?_⟩
  · rcases hreader with hr | ⟨c, hr⟩ <;> simp [hr]
  · rcases hreader with hr | ⟨c, hr⟩ <;> simp [hr]

theorem Kept.emit (h : Kept t) {t' : Tunnel} {es : List Event} (hlog : t'.log = t.log)
    (hes : ∀ e ∈ es, ∀ n, e ≠ .returned n (some ioEOF))
    (hpackets : releasedIn t.log ++ releasedIn es ++ t'.pendingBatch ++ t'.inbound.flatten =
      queuedIn t.log ++ queuedIn es)
    (hcut : Cut (filledIn t.log ++ filledIn es) (releasedIn t.log ++ releasedIn es) t'.pending)
    (hclosed : t'.closed = true → t.closed = true ∨ .tunnelClosed ∈ es)
    (hinbound : t'.inboundClosed = true → t.inboundClosed = true ∨ .inboundClosed ∈ es) :
    Kept (t'.emit es) := by
  have hlog' : (t'.emit es).log = t.log ++ es := by rw [Tunnel.emit, hlog]
  refine ⟨?_, ?_, fun hc => ?_, fun hc => ?_, ?_⟩
  · rw [hlog', releasedIn_append, queuedIn_append]
    exact hpackets
  · rw [hlog', filledIn_append, releasedIn_append]
    exact hcut
  · rw [hlog', List.mem_append]
    exact (hclosed hc).imp_left h.closed
  · rw [hlog', List.mem_append]
    exact (hinbound hc).imp_left h.inboundClosed
  · rw [hlog']
    exact h.ends.append_of_forall fun e he _ n hn => absurd hn (hes e he n)

theorem inv_start : Inv .start :=
  Kept.inv ⟨rfl, .nil, by simp [Tunnel.start], by simp [Tunnel.start], justified_nil⟩ (.inl rfl)

theorem Kept.allOut (h : Kept t) (hpending : t.pending = []) (hbatch : t.pendingBatch = [])
    (hinbound : t.inbound = []) (hover : t.closed = true ∨ t.inboundClosed = true) : AllOut t.log := by
  have hreleased : releasedIn t.log = queuedIn t.log := by
    have hpackets := h.packets
    rwa [hbatch, hinbound, List.flatten_nil, List.append_nil, List.append_nil] at hpackets
  have hbytes := h.cut.bytes
  rw [hpending, List.append_nil, hreleased] at hbytes
  exact ⟨hbytes, hreleased, hover.imp h.closed h.inboundClosed⟩

theorem Kept.finish (h : Kept t) (hend : err = some ioEOF → AllOut t.log) : Inv (t.finish n err) := by
  refine Kept.inv ⟨?_, ?_, fun hc => List.mem_append_left _ (h.closed hc),
    fun hc => List.mem_append_left _ (h.inboundClosed hc), ?_⟩ (.inl rfl)
  · change releasedIn (t.log ++ [.returned n err]) ++ t.pendingBatch ++ t.inbound.flatten =
      queuedIn (t.log ++ [.returned n err])
    rw [releasedIn_append, queuedIn_append]
    simpa [releasedIn, queuedIn] using h.packets
  · change Cut (filledIn (t.log ++ [.returned n err])) (releasedIn (t.log ++ [.returned n err])) t.pending
    rw [filledIn_append, releasedIn_append]
    simpa [releasedIn, filledIn] using h.cut
  · refine justified_concat.mpr ⟨h.ends, fun m hm => hend ?_⟩
    injection hm

theorem Kept.answer (h : Kept t) (hend : err = some ioEOF → AllOut t.log) (got : ℕ) :
    Inv (t.answer c got err) := by
  have hnone : (none : Option Err) = some ioEOF → AllOut t.log := fun hn => by cases hn
  unfold Tunnel.answer
  split
  · exact h.finish hend
  · split_ifs
    · exact h.finish hnone
    · exact h.finish hend
  · split_ifs
    · exact (h.goTo _).inv (.inr ⟨_, rfl⟩)
    · exact h.finish hend

theorem Kept.answer_none (h : Kept t) (got : ℕ) : Inv (t.answer c got none) :=
  h.answer (fun hn => by cases hn) got

theorem Kept.receive {otherwise : Tunnel} (h : Kept t) (hpending : t.pending = [])
    (hbatch : t.pendingBatch = []) (hother : t.inbound = [] → Inv otherwise) :
    Inv (t.receive c otherwise) := by
  unfold Tunnel.receive
  split
  · rename_i batch rest hinbound
    have hpackets := h.packets
    rw [hbatch, hinbound, List.append_nil, List.flatten_cons, ← List.append_assoc] at hpackets
    have hkept : Kept { t with inbound := rest, pendingBatch := batch } :=
      ⟨hpackets, h.cut, h.closed, h.inboundClosed, h.ends⟩
    exact (hkept.goTo _).inv (.inr ⟨c, rfl⟩)
  · rename_i hinbound
    split_ifs with hclosed
    · exact h.answer (fun _ => h.allOut hpending hbatch hinbound (.inr hclosed)) 0
    · exact hother hinbound

theorem Kept.atTop (h : Kept t) (hreader : t.reader = .top c) : Inv (t.atTop c) := by
  unfold Tunnel.atTop
  by_cases hpending : t.pending = []
  swap
  · -- the rest of the last packet
    rw [if_pos hpending]
    refine Kept.answer_none ?_ _
    refine h.emit rfl (by simp) ?_ ?_ .inl .inl
    · simpa [releasedIn, queuedIn] using h.packets
    · have hmore := h.cut.more hpending c.size
      simpa [releasedIn, filledIn] using hmore
  rw [if_neg (not_not.mpr hpending)]
  have hcut : Cut (filledIn t.log) (releasedIn t.log) [] := by
    rw [← hpending]
    exact h.cut
  split
  · rename_i packet rest hbatch
    have hpackets := h.packets
    rw [hbatch] at hpackets
    by_cases hempty : packet = []
    · -- an empty packet is released and skipped
      simp only [if_pos hempty]
      refine Kept.inv ?_ (.inr ⟨c, hreader⟩)
      refine h.emit rfl (by simp) ?_ ?_ .inl .inl
      · simpa [releasedIn, queuedIn] using hpackets
      · have hnext := hcut.packet [] []
        simpa [releasedIn, filledIn, hempty, hpending] using hnext
    · simp only [if_neg hempty]
      refine Kept.answer_none ?_ _
      refine h.emit rfl (by simp) ?_ ?_ .inl .inl
      · simpa [releasedIn, queuedIn] using hpackets
      · have hnext := hcut.packet [packet.take c.size] (packet.drop c.size)
        rw [List.flatten_singleton, List.take_append_drop] at hnext
        exact hnext
  · rename_i hbatch
    refine h.receive hpending hbatch fun hinbound => ?_
    split_ifs
    · exact ⟨h.goTo _, fun _ _ => ⟨hpending, hbatch⟩, fun d hd => by cases hd⟩
    · exact h.answer_none 0

theorem inv_turn (h : Inv t) (closedFirst : Bool) : Inv (t.turn closedFirst) := by
  unfold Tunnel.turn
  split
  · exact h
  · rename_i c hreader
    exact h.toKept.atTop hreader
  · rename_i c hreader
    obtain ⟨hpending, hbatch⟩ := h.parked c (.inl hreader)
    split_ifs with hclosed
    · exact ⟨h.toKept.goTo _, fun _ _ => ⟨hpending, hbatch⟩, fun _ _ => hclosed.2⟩
    · exact h.toKept.receive hpending hbatch fun _ => h
  · rename_i c hreader
    obtain ⟨hpending, hbatch⟩ := h.parked c (.inr hreader)
    refine h.toKept.receive hpending hbatch fun hinbound => ?_
    exact h.toKept.answer (fun _ => h.allOut hpending hbatch hinbound (.inl (h.draining c hreader))) 0

/-- **One step.** -/
theorem inv_step (h : Inv t) (a : Action) : Inv (t.step a) := by
  cases a with
  | enqueue batch =>
    simp only [Tunnel.step]
    split_ifs
    · exact h
    · refine ⟨h.toKept.emit rfl (by simp) ?_ ?_ .inl .inl, h.parked, h.draining⟩
      · rw [← h.packets]
        simp [releasedIn, queuedIn]
      · simpa [releasedIn, filledIn] using h.cut
  | close =>
    refine ⟨h.toKept.emit rfl (by simp) ?_ ?_ (fun _ => .inr List.mem_cons_self) .inl, h.parked,
      fun _ _ => rfl⟩
    · simpa [releasedIn, queuedIn] using h.packets
    · simpa [releasedIn, filledIn] using h.cut
  | closeInbound =>
    refine ⟨h.toKept.emit rfl (by simp) ?_ ?_ .inl (fun _ => .inr List.mem_cons_self), h.parked,
      h.draining⟩
    · simpa [releasedIn, queuedIn] using h.packets
    · simpa [releasedIn, filledIn] using h.cut
  | call c =>
    simp only [Tunnel.step]
    split_ifs
    · unfold Tunnel.call
      split
      · exact (h.toKept.goTo _).inv (.inr ⟨_, rfl⟩)
      · exact h.toKept.finish fun hn => by cases hn
      · exact (h.toKept.goTo _).inv (.inr ⟨_, rfl⟩)
    · exact h
  | turn closedFirst => exact inv_turn h closedFirst

end

def run (actions : List Action) : Tunnel := actions.foldl Tunnel.step .start

/-- **Any number of steps.** -/
theorem inv_run (actions : List Action) : Inv (run actions) :=
  List.foldlRecOn actions Tunnel.step inv_start fun _ h a _ => inv_step h a

/-- **Reads neither lose nor merge packets.** In every run: the bytes given to buffers are a prefix of
the bytes that arrived; every buffer has bytes of one packet only; every packet is released once, in
order, when it leaves the queue; and when the end of the stream is returned, everything that arrived
before has been returned and the tunnel or its queue is closed. -/
theorem tunnel_reads (actions : List Action) :
    (filledIn (run actions).log).flatten <+: (queuedIn (run actions).log).flatten ∧
    Cut (filledIn (run actions).log) (releasedIn (run actions).log) (run actions).pending ∧
    releasedIn (run actions).log ++ (run actions).pendingBatch ++ (run actions).inbound.flatten =
      queuedIn (run actions).log ∧
    ∀ past n later, (run actions).log = past ++ .returned n (some ioEOF) :: later → AllOut past := by
  have h := inv_run actions
  refine ⟨?_, h.cut, h.packets, fun past n later hlog => h.ends past _ later hlog n rfl⟩
  rw [← h.packets, List.flatten_append, List.flatten_append, ← h.cut.bytes, List.append_assoc,
    List.append_assoc]
  exact List.prefix_append _ _

/-- A batch of two packets, read into a buffer that is too small, and a closed tunnel. -/
def sampleActions : List Action :=
  [.enqueue [[1, 2, 3], [4]], .call (.read 2), .turn false, .turn false, .close,
   .call (.readBatch [0, 4]), .turn false, .call (.readBatch [4, 4, 4]), .turn false, .turn false,
   .turn false, .call (.read 4), .turn false, .turn true, .turn false]

theorem sample_tunnel_reads :
    filledIn (run sampleActions).log = [[1, 2], [], [3], [4]] ∧
      AllOut (run sampleActions).log.dropLast := by
  refine ⟨by decide, ?_⟩
  have hlog : (run sampleActions).log = (run sampleActions).log.dropLast ++ [.returned 0 (some ioEOF)] := by
    decide
  exact (tunnel_reads sampleActions).2.2.2 _ 0 [] hlog

end Swan.Session.TunnelReads
