import Swan.Lib.Run
import Swan.Session.Updates

/-! # The workers of the data plane

The two workers of `esp/pipeline.go` and the reads and writes of `tunnel.go`, with the queues between
them and the watcher of the control plane. Every receive from a queue, every send and every load of a
shared pointer is one step; the steps of the workers, of the users and of the watcher interleave in
any way. `Session.Start` gives the pipeline no channel that the end of a child would close, so the
workers stop with the context only.

`deletion_ends_dataplane`: after the deletion of the active child nothing more of it is sent or
delivered, writes fail, and reads return what was queued and then the end of the stream, if at the
deletion no packet was on its way out and no datagram that is queued or arrives later belongs to an
installed child. Otherwise the workers go on (`deleted_child_still_runs`). -/

namespace Swan.Session

open Swan.Lib Swan.Xcrypto Swan.Control Swan.Esp

inductive InWorker where
  | idle
  /-- Within a batch: the datagrams that are left and the packets so far. -/
  | decrypting (rest out : List Bytes)
  | exited
  deriving DecidableEq, Repr

inductive OutWorker where
  | idle
  /-- Taking packets that are ready. -/
  | collecting (packets : List Bytes)
  | sending (frames : List Bytes)
  | exited
  deriving DecidableEq, Repr

/-- The data plane with its queues. -/
structure Plane where
  data : Dataplane
  rng : Rng
  /-- Whether the context has ended. -/
  canceled : Bool
  /-- Batches of datagrams for the inbound worker. -/
  espIn : List (List Bytes)
  inWorker : InWorker
  /-- Batches of packets for the reader. -/
  pktOut : List (List Bytes)
  /-- What is left of the packet that is being read. -/
  pending : Bytes
  /-- What is left of the batch that is being read. -/
  pendingBatch : List Bytes
  /-- The packets of the writes that have passed their checks. -/
  writers : List Bytes
  /-- Packets for the outbound worker. -/
  pktIn : List Bytes
  outWorker : OutWorker

/-- What can happen next. -/
inductive Plane.Action where
  | arrive (batch : List Bytes)
  | takeBatch
  | decrypt
  | deliver
  | read (n : ℕ)
  | write (packet : Bytes)
  /-- A waiting write puts its packet into the queue. -/
  | enqueue (i : ℕ)
  /-- A waiting write sees the end of the tunnel. -/
  | refuse (i : ℕ)
  | takePacket
  | encrypt
  | sendFrame
  | update (u : DataplaneUpdate)
  | cancel
  | exitIn
  | exitOut
  /-- The teardown of the session throws the unread packets away. -/
  | drainOut

def Plane.Action.Installs : Action → Bool
  | .update (.childInstalled _ _ _) => true
  | _ => false

/-- What the user, the reader's queue and the transport see of a step. -/
inductive Plane.Obs where
  | delivered (batch : List Bytes)
  | frame (datagram : Bytes)
  | read (bytes : Bytes)
  | eof
  | wrote (n : ℕ)
  | closedPipe
  deriving DecidableEq, Repr

/-- How many further packets the outbound worker takes at once. -/
def txBatch : ℕ := 32

/-- The first packet that is not empty, with what is left of its batch and the later batches. -/
def nextPacket : List (List Bytes) → Option (Bytes × List Bytes × List (List Bytes))
  | [] => none
  | batch :: batches =>
    match batch.dropWhile (· = []) with
    | packet :: rest => some (packet, rest, batches)
    | [] => nextPacket batches

namespace Plane

/-- A read of at most `n` bytes; it waits if there is nothing to read and the tunnel is open. -/
def readStep (n : ℕ) (p : Plane) : Option (Obs × Plane) :=
  if p.pending ≠ [] then some (.read (p.pending.take n), { p with pending := p.pending.drop n })
  else
    match nextPacket (p.pendingBatch :: p.pktOut) with
    | some (packet, rest, batches) => some (.read (packet.take n),
        { p with pending := packet.drop n, pendingBatch := rest, pktOut := batches })
    | none =>
      if p.data.tunnel.ended then some (.eof, { p with pendingBatch := [], pktOut := [] }) else none

def start (data : Dataplane) (rng : Rng) : Plane :=
  ⟨data, rng, false, [], .idle, [], [], [], [], [], .idle⟩

def deleteChild (flow : FlowConfig) (child : ChildSA) (p : Plane) : Plane :=
  { p with data := watchControlUpdates flow (.childDeleted child) p.data }

/-- The packets that are still to be read. -/
def queued (p : Plane) : List Bytes :=
  (p.pending :: p.pendingBatch ++ p.pktOut.flatten).filter (· ≠ [])

/-- What reads of the given sizes return if the queue gets no more packets: one packet after the
other, in as many pieces as it takes, and then the end of the stream, again and again. -/
def serve : List Bytes → List ℕ → List Obs
  | _, [] => []
  | [], _ :: ns => .eof :: serve [] ns
  | b :: queue, n :: ns =>
    .read (b.take n) :: serve (if b.drop n = [] then queue else b.drop n :: queue) ns

def Obs.IsRead : Obs → Bool
  | .read _ | .eof => true
  | _ => false

end Plane

section Step

variable [Crypto]

/-- Encrypt packets in order. Packets that fail are dropped, but if the sequence numbers are used up
the worker ends. -/
def encryptAll : List Bytes → Outbound × Rng → Option (List Bytes) × (Outbound × Rng)
  | [], s => (some [], s)
  | packet :: rest, s =>
    match (Outbound.process packet).run s with
    | (.ok datagram, s') => ((encryptAll rest s').1.map (datagram :: ·), (encryptAll rest s').2)
    | (.error e, s') => if e = errSeqWrapped then (none, s') else encryptAll rest s'

namespace Plane

/-- The next step, if it can happen, and what is seen of it. -/
def step (flow : FlowConfig) (p : Plane) : Action → Option (Option Obs × Plane)
  | .arrive batch => some (none, { p with espIn := p.espIn ++ [batch] })
  | .takeBatch =>
    match p.inWorker, p.espIn with
    | .idle, batch :: rest => some (none, { p with inWorker := .decrypting batch [], espIn := rest })
    | _, _ => none
  | .decrypt =>
    match p.inWorker with
    | .decrypting (d :: rest) out =>
      if p.canceled then none
      else
        match (Pipeline.processInbound d).run p.data.pipeline with
        | (.ok ip, pipeline) => some (none, { p with
            inWorker := .decrypting rest (out ++ [ip]), data := { p.data with pipeline } })
        | (.error _, pipeline) => some (none, { p with
            inWorker := .decrypting rest out, data := { p.data with pipeline } })
    | _ => none
  | .deliver =>
    match p.inWorker with
    | .decrypting [] [] => some (none, { p with inWorker := .idle })
    | .decrypting [] out =>
      some (some (.delivered out), { p with inWorker := .idle, pktOut := p.pktOut ++ [out] })
    | _ => none
  | .read n => (p.readStep n).map fun (o, p') => (some o, p')
  | .write packet =>
    if p.data.tunnel.ended then some (some .closedPipe, p)
    else if packet = [] then some (some (.wrote 0), p)
    else some (none, { p with writers := p.writers ++ [packet] })
  | .enqueue i =>
    match p.writers[i]? with
    | none => none
    | some packet =>
      -- the flag is read again after the send
      some (some (if p.data.tunnel.ended then .closedPipe else .wrote packet.length),
        { p with writers := p.writers.eraseIdx i, pktIn := p.pktIn ++ [packet] })
  | .refuse i =>
    match p.writers[i]? with
    | none => none
    | some _ =>
      if p.data.tunnel.ended then some (some .closedPipe, { p with writers := p.writers.eraseIdx i })
      else none
  | .takePacket =>
    match p.outWorker, p.pktIn with
    | .idle, packet :: rest =>
      some (none, { p with outWorker := .collecting [packet], pktIn := rest })
    | .collecting packets, packet :: rest =>
      if packets.length ≤ txBatch then
        some (none, { p with outWorker := .collecting (packets ++ [packet]), pktIn := rest })
      else none
    | _, _ => none
  | .encrypt =>
    match p.outWorker with
    | .collecting packets =>
      if p.pktIn = [] ∨ packets.length = txBatch + 1 then
        match encryptAll packets (p.data.pipeline.outbound, p.rng) with
        | (some frames, outbound, rng) => some (none, { p with
            outWorker := .sending frames, rng
            data := { p.data with pipeline := { p.data.pipeline with outbound } } })
        | (none, outbound, rng) => some (none, { p with
            outWorker := .exited, rng
            data := { p.data with pipeline := { p.data.pipeline with outbound } } })
      else none
    | _ => none
  | .sendFrame =>
    match p.outWorker with
    | .sending [] => some (none, { p with outWorker := .idle })
    | .sending (f :: rest) => some (some (.frame f), { p with outWorker := .sending rest })
    | _ => none
  | .update u => some (none, { p with data := watchControlUpdates flow u p.data })
  | .cancel => some (none, { p with canceled := true })
  | .exitIn => if p.canceled then some (none, { p with inWorker := .exited }) else none
  | .exitOut =>
    match p.outWorker with
    -- between the first packet and the first frame the worker does not look at the context
    | .collecting _ => none
    | _ => if p.canceled then some (none, { p with outWorker := .exited }) else none
  | .drainOut => if p.canceled then some (none, { p with pktOut := [] }) else none

/-- A step, added to what has been seen so far. -/
def observe (flow : FlowConfig) (a : Action) (x : List Obs × Plane) : Option (List Obs × Plane) :=
  (x.2.step flow a).map fun r => (x.1 ++ r.1.toList, r.2)

/-- A sequence of steps, each of which meets the condition, and what is seen of them. -/
def Runs (flow : FlowConfig) (C : Action → Plane → Prop) (p : Plane) (obs : List Obs) (q : Plane) :
    Prop :=
  Lib.Runs (fun a x x' => observe flow a x = some x') (fun a x => C a x.2) ([], p) (obs, q)

theorem exists_runs {flow : FlowConfig} {C : Action → Plane → Prop} {as : List Action} {p : Plane}
    {obs : List Obs} (hC : ∀ a ∈ as, ∀ q, C a q)
    (h : (follow (observe flow) as ([], p)).map Prod.fst = some obs) : ∃ q, Runs flow C p obs q := by
  obtain ⟨⟨obs, q⟩, hq, rfl⟩ := Option.map_eq_some_iff.mp h
  exact ⟨q, runs_of_follow hq fun a ha => fun h => ⟨hC a ha _, h⟩⟩

end Plane

end Step

/-! ### Reads -/

theorem filter_dropWhile_nil (l : List Bytes) :
    (l.dropWhile (· = [])).filter (· ≠ []) = l.filter (· ≠ []) := by
  induction l with
  | nil => rfl
  | cons b l ih =>
    by_cases hb : b = []
    · subst hb
      simpa using ih
    · rw [List.dropWhile_cons_of_neg (by simpa using hb)]

theorem head_ne_nil_of_dropWhile {l rest : List Bytes} {packet : Bytes}
    (h : l.dropWhile (· = []) = packet :: rest) : packet ≠ [] := by
  have := List.head_dropWhile_not (fun b : Bytes => decide (b = [])) (l := l) (by simp [h])
  simpa [h] using this

theorem nextPacket_some {batches later : List (List Bytes)} {packet : Bytes} {rest : List Bytes}
    (h : nextPacket batches = some (packet, rest, later)) : packet ≠ [] ∧
    batches.flatten.filter (· ≠ []) = packet :: (rest ++ later.flatten).filter (· ≠ []) := by
  induction batches with
  | nil => cases h
  | cons batch batches ih =>
    have hfilter := filter_dropWhile_nil batch
    unfold nextPacket at h
    cases hd : batch.dropWhile (· = []) with
    | nil =>
      rw [hd] at h hfilter
      rw [List.flatten_cons, List.filter_append, ← hfilter]
      exact ih h
    | cons packet' rest' =>
      rw [hd] at h hfilter
      have hne := head_ne_nil_of_dropWhile hd
      obtain ⟨rfl, rfl, rfl⟩ : packet' = packet ∧ rest' = rest ∧ batches = later := by
        simpa using h
      refine ⟨hne, ?_⟩
      rw [List.flatten_cons, List.filter_append, ← hfilter, List.filter_cons_of_pos (by simpa),
        List.filter_append, List.cons_append]

theorem nextPacket_none {batches : List (List Bytes)} (h : nextPacket batches = none) :
    batches.flatten.filter (· ≠ []) = [] := by
  induction batches with
  | nil => rfl
  | cons batch batches ih =>
    have hfilter := filter_dropWhile_nil batch
    unfold nextPacket at h
    cases hd : batch.dropWhile (· = []) with
    | nil =>
      rw [hd] at h hfilter
      rw [List.flatten_cons, List.filter_append, ← hfilter]
      exact ih h
    | cons packet rest =>
      rw [hd] at h
      cases h

namespace Plane

theorem filter_drop_cons (b : Bytes) (n : ℕ) (l : List Bytes) :
    (b.drop n :: l).filter (· ≠ []) =
      if b.drop n = [] then l.filter (· ≠ []) else b.drop n :: l.filter (· ≠ []) := by
  by_cases h : b.drop n = []
  · rw [if_pos h, h]
    rfl
  · rw [if_neg h, List.filter_cons_of_pos (by simpa using h)]

theorem readStep_ended {p : Plane} (hended : p.data.tunnel.ended) (n : ℕ) :
    ∃ o pending batch out, Obs.IsRead o ∧
      p.readStep n = some (o, { p with pending := pending, pendingBatch := batch, pktOut := out }) ∧
      ∀ ns, o :: serve (queued { p with pending := pending, pendingBatch := batch, pktOut := out })
        ns = serve p.queued (n :: ns) := by
  unfold readStep
  by_cases hp : p.pending = []
  · rw [if_neg (not_not.mpr hp)]
    have hqueue : p.queued = (p.pendingBatch :: p.pktOut).flatten.filter (· ≠ []) := by
      simp [queued, hp]
    cases hnext : nextPacket (p.pendingBatch :: p.pktOut) with
    | none =>
      refine ⟨.eof, p.pending, [], [], rfl, by simp [hended], fun ns => ?_⟩
      rw [hqueue, nextPacket_none hnext]
      simp [queued, hp, serve]
    | some r =>
      obtain ⟨packet, rest, later⟩ := r
      refine ⟨.read _, _, _, _, rfl, rfl, fun ns => ?_⟩
      rw [hqueue, (nextPacket_some hnext).2, serve, queued, List.cons_append, filter_drop_cons]
  · rw [if_pos hp]
    refine ⟨.read _, _, _, _, rfl, rfl, fun ns => ?_⟩
    rw [queued, queued, List.cons_append, List.cons_append, filter_drop_cons,
      List.filter_cons_of_pos (by simpa using hp), serve]

/-! ### After the deletion of the active child -/

/-- No inbound codec has the SPI of the datagram. -/
def Foreign (p : Plane) (d : Bytes) : Prop :=
  p.data.pipeline.inbound.codec (beUint32 (d.take 4)) = none

/-- No packet is on its way out, and no datagram on its way in belongs to an installed child. -/
structure Quiet (p : Plane) : Prop where
  writers : p.writers = []
  pktIn : p.pktIn = []
  outWorker : p.outWorker = .idle ∨ p.outWorker = .sending [] ∨ p.outWorker = .exited
  espIn : ∀ batch ∈ p.espIn, ∀ d ∈ batch, p.Foreign d
  inWorker : ∀ rest out, p.inWorker = .decrypting rest out → out = [] ∧ ∀ d ∈ rest, p.Foreign d

/-- Steps that bring no datagram of an installed child and no new child, and that do not throw away
packets before they are read. -/
def Calm : Action → Plane → Prop
  | .arrive batch, p => ∀ d ∈ batch, p.Foreign d
  | .update (.childInstalled _ _ _), _ => False
  | .drainOut, p => p.pktOut.flatten.filter (· ≠ []) = []
  | _, _ => True

/-- What a calm step of a quiet plane does: nothing is seen of it but the failure of a write, or a
read takes the next of the queue. -/
def Fades (p : Plane) (o : Option Obs) (p' : Plane) : Prop :=
  (o = none ∨ o = some .closedPipe) ∧ p'.queued = p.queued ∨
  ∃ r n, o = some r ∧ r.IsRead ∧ ∀ ns, r :: serve p'.queued ns = serve p.queued (n :: ns)

theorem Quiet.of_data {p : Plane} {data : Dataplane} (h : p.Quiet)
    (hforeign : ∀ d, p.Foreign d → Foreign { p with data } d) : Quiet { p with data } where
  writers := h.writers
  pktIn := h.pktIn
  outWorker := h.outWorker
  espIn batch hb d hd := hforeign d (h.espIn batch hb d hd)
  inWorker rest out hw := ⟨(h.inWorker rest out hw).1, fun d hd =>
    hforeign d ((h.inWorker rest out hw).2 d hd)⟩

section Deletion

variable [Crypto] {flow : FlowConfig} {p p' : Plane}

omit [Crypto] in
theorem watchControlUpdates_ended {u : DataplaneUpdate} (hu : Calm (.update u) p)
    (hended : p.data.tunnel.ended) : (watchControlUpdates flow u p.data).tunnel.ended ∧
    ∀ d, p.Foreign d → Foreign { p with data := watchControlUpdates flow u p.data } d := by
  cases u with
  | childInstalled child keys sel => exact hu.elim
  | assigned config => exact ⟨hended, fun d hd => hd⟩
  | childDeleted child =>
    unfold watchControlUpdates
    dsimp only
    split_ifs
    · exact ⟨rfl, fun d hd => hd⟩
    · refine ⟨hended, fun d hd => ?_⟩
      unfold Foreign at hd ⊢
      rw [Pipeline.codec_dropInboundSPI, hd, ite_self]

theorem run_processInbound_of_foreign {d : Bytes} (h : p.Foreign d) :
    ∃ e, (Pipeline.processInbound d).run p.data.pipeline = (.error e, p.data.pipeline) := by
  rcases Pipeline.run_processInbound p.data.pipeline d with herr | ⟨_, c, _, hc, -⟩
  · exact herr
  · rw [Foreign, hc] at h
    cases h

theorem Quiet.step {a : Action} {o : Option Obs} (hq : p.Quiet) (hended : p.data.tunnel.ended)
    (hcalm : Calm a p) (hstep : p.step flow a = some (o, p')) :
    p'.data.tunnel.ended ∧ p'.Quiet ∧ p.Fades o p' := by
  have hsilent : ∀ {q : Plane}, q.queued = p.queued → p.Fades none q :=
    fun h => .inl ⟨.inl rfl, h⟩
  cases a with
  | arrive batch =>
    obtain ⟨rfl, rfl⟩ := Prod.mk.inj (Option.some.inj hstep)
    refine ⟨hended, { hq with espIn := fun b hb d hd => ?_ }, hsilent rfl⟩
    rcases List.mem_append.mp hb with hb | hb
    · exact hq.espIn b hb d hd
    · exact hcalm d (List.mem_singleton.mp hb ▸ hd)
  | takeBatch =>
    simp only [Plane.step] at hstep
    split at hstep
    · next batch rest hw he =>
      obtain ⟨rfl, rfl⟩ := Prod.mk.inj (Option.some.inj hstep)
      refine ⟨hended, { hq with espIn := fun b hb => ?_, inWorker := ?_ }, hsilent rfl⟩
      · exact hq.espIn b (he ▸ List.mem_cons_of_mem _ hb)
      · rintro _ _ ⟨⟩
        exact ⟨rfl, hq.espIn batch (he ▸ List.mem_cons_self)⟩
    · cases hstep
  | decrypt =>
    simp only [Plane.step] at hstep
    split at hstep
    · next d rest out hw =>
      obtain ⟨rfl, hforeign⟩ := hq.inWorker _ _ hw
      obtain ⟨e, hrun⟩ := run_processInbound_of_foreign (hforeign d List.mem_cons_self)
      rw [hrun] at hstep
      split_ifs at hstep
      obtain ⟨rfl, rfl⟩ := Prod.mk.inj (Option.some.inj hstep)
      refine ⟨hended, { hq with inWorker := ?_ }, hsilent rfl⟩
      rintro _ _ ⟨⟩
      exact ⟨rfl, fun d hd => hforeign d (List.mem_cons_of_mem _ hd)⟩
    · cases hstep
  | deliver =>
    simp only [Plane.step] at hstep
    split at hstep
    · obtain ⟨rfl, rfl⟩ := Prod.mk.inj (Option.some.inj hstep)
      exact ⟨hended, { hq with inWorker := fun _ _ h => by cases h }, hsilent rfl⟩
    · next out hne hw =>
      exact absurd (hq.inWorker _ _ hw).1 hne
    · cases hstep
  | read n =>
    obtain ⟨r, pending, batch, out, hr, hread, hserve⟩ := readStep_ended hended n
    simp only [Plane.step, hread, Option.map_some] at hstep
    obtain ⟨rfl, rfl⟩ := Prod.mk.inj (Option.some.inj hstep)
    exact ⟨hended, { hq with }, .inr ⟨r, n, rfl, hr, hserve⟩⟩
  | write packet =>
    simp only [Plane.step, hended, if_true] at hstep
    obtain ⟨rfl, rfl⟩ := Prod.mk.inj (Option.some.inj hstep)
    exact ⟨hended, hq, .inl ⟨.inr rfl, rfl⟩⟩
  | enqueue i =>
    simp [Plane.step, hq.writers] at hstep
  | refuse i =>
    simp [Plane.step, hq.writers] at hstep
  | takePacket =>
    simp only [Plane.step] at hstep
    rw [hq.pktIn] at hstep
    rcases hq.outWorker with hw | hw | hw <;> rw [hw] at hstep <;> cases hstep
  | encrypt =>
    simp only [Plane.step] at hstep
    rcases hq.outWorker with hw | hw | hw <;> rw [hw] at hstep <;> cases hstep
  | sendFrame =>
    simp only [Plane.step] at hstep
    rcases hq.outWorker with hw | hw | hw <;> rw [hw] at hstep
    · cases hstep
    · obtain ⟨rfl, rfl⟩ := Prod.mk.inj (Option.some.inj hstep)
      exact ⟨hended, { hq with outWorker := .inl rfl }, hsilent rfl⟩
    · cases hstep
  | update u =>
    obtain ⟨rfl, rfl⟩ := Prod.mk.inj (Option.some.inj hstep)
    obtain ⟨hended', hforeign⟩ := watchControlUpdates_ended hcalm hended
    exact ⟨hended', hq.of_data hforeign, hsilent rfl⟩
  | cancel =>
    obtain ⟨rfl, rfl⟩ := Prod.mk.inj (Option.some.inj hstep)
    exact ⟨hended, { hq with }, hsilent rfl⟩
  | exitIn =>
    simp only [Plane.step] at hstep
    split_ifs at hstep
    obtain ⟨rfl, rfl⟩ := Prod.mk.inj (Option.some.inj hstep)
    exact ⟨hended, { hq with inWorker := fun _ _ h => by cases h }, hsilent rfl⟩
  | exitOut =>
    simp only [Plane.step] at hstep
    split at hstep
    · cases hstep
    · split_ifs at hstep
      obtain ⟨rfl, rfl⟩ := Prod.mk.inj (Option.some.inj hstep)
      exact ⟨hended, { hq with outWorker := .inr (.inr rfl) }, hsilent rfl⟩
  | drainOut =>
    simp only [Plane.step] at hstep
    split_ifs at hstep
    obtain ⟨rfl, rfl⟩ := Prod.mk.inj (Option.some.inj hstep)
    refine ⟨hended, { hq with }, hsilent ?_⟩
    unfold queued
    rw [List.filter_append, List.filter_append, hcalm]
    rfl

/-- Where calm steps from `p` have led: what has been read, followed by what would be read next, is
what the queue of `p` serves. -/
structure Drains (p : Plane) (x : List Obs × Plane) : Prop where
  ended : x.2.data.tunnel.ended
  quiet : x.2.Quiet
  seen : ∀ o ∈ x.1, o.IsRead ∨ o = .closedPipe
  served : ∃ ns, ∀ ms, serve p.queued (ns ++ ms) = x.1.filter Obs.IsRead ++ serve x.2.queued ms

theorem Drains.step {a : Action} {x x' : List Obs × Plane} (h : p.Drains x) (hcalm : Calm a x.2)
    (hstep : observe flow a x = some x') : p.Drains x' := by
  obtain ⟨⟨o, q⟩, hq, rfl⟩ := Option.map_eq_some_iff.mp hstep
  obtain ⟨hended, hquiet, hfades⟩ := h.quiet.step h.ended hcalm hq
  obtain ⟨ns, hns⟩ := h.served
  refine ⟨hended, hquiet, fun r hr => ?_, ?_⟩
  · rcases List.mem_append.mp hr with hr | hr
    · exact h.seen r hr
    · rcases hfades with ⟨rfl | rfl, -⟩ | ⟨r, n, rfl, hread, -⟩
      · cases hr
      · exact .inr (List.mem_singleton.mp hr)
      · exact .inl (List.mem_singleton.mp hr ▸ hread)
  · rcases hfades with ⟨rfl | rfl, hqueue⟩ | ⟨r, n, rfl, hread, hserve⟩
    · exact ⟨ns, fun ms => by simp [hns, hqueue]⟩
    · exact ⟨ns, fun ms => by simp [hns, hqueue, Obs.IsRead]⟩
    · exact ⟨ns ++ [n], fun ms => by simp [hns, hread, ← hserve]⟩

theorem Quiet.runs {obs : List Obs} (hr : Runs flow Calm p obs p') (hq : p.Quiet)
    (hended : p.data.tunnel.ended) : p'.data.tunnel.ended ∧
    (∀ o ∈ obs, o.IsRead ∨ o = .closedPipe) ∧ ∃ ns, obs.filter Obs.IsRead = serve p.queued ns := by
  have h := hr.invariant (I := p.Drains) ⟨hended, hq, by simp, [], fun _ => rfl⟩
    fun hcalm hstep h => h.step hcalm hstep
  obtain ⟨ns, hns⟩ := h.served
  refine ⟨h.ended, h.seen, ns, ?_⟩
  rw [← List.append_nil ns, hns []]
  cases p'.queued <;> simp [serve]

/-- **The end of the data plane**: after the deletion of the active child, if nothing of a child was
on its way and only calm steps follow, no frame is sent, no packet is delivered, every write fails,
and the reads return the packets that were queued and then the end of the stream; no read waits. -/
theorem deletion_ends_dataplane {child : ChildSA} {obs : List Obs}
    (hactive : p.data.tunnel.childSA.outboundSPI = child.outboundSPI) (hq : p.Quiet)
    (hr : Runs flow Calm (p.deleteChild flow child) obs p') :
    (∀ d, .frame d ∉ obs) ∧ (∀ batch, .delivered batch ∉ obs) ∧ (∀ n, .wrote n ∉ obs) ∧
    (∀ packet, p'.step flow (.write packet) = some (some .closedPipe, p')) ∧
    (∃ ns, obs.filter Obs.IsRead = serve p.queued ns) ∧
    ∀ n, ∃ o q, p'.step flow (.read n) = some (some o, q) ∧ o.IsRead := by
  have hdata : watchControlUpdates flow (.childDeleted child) p.data =
      { p.data with tunnel := { p.data.tunnel with ended := true } } := if_pos hactive
  rw [deleteChild, hdata] at hr
  have hquiet : Quiet { p with data :=
      { p.data with tunnel := { p.data.tunnel with ended := true } } } := hq.of_data fun d hd => hd
  obtain ⟨hended, hobs, hreads⟩ := hquiet.runs hr rfl
  refine ⟨fun d hd => ?_, fun b hb => ?_, fun n hn => ?_, fun packet => ?_, hreads, fun n => ?_⟩
  · rcases hobs _ hd with h | h <;> cases h
  · rcases hobs _ hb with h | h <;> cases h
  · rcases hobs _ hn with h | h <;> cases h
  · simp only [Plane.step, hended, if_true]
  · obtain ⟨o, pending, batch, out, ho, hread, -⟩ := readStep_ended hended n
    exact ⟨o, _, by simp only [Plane.step, hread, Option.map_some]; rfl, ho⟩

end Deletion

section Sample

attribute [local instance] plainCrypto

/-- A child whose peer sends the datagrams of `Pipeline.sampleDatagram`. -/
def deletedChild : ChildSA := ⟨7, 8, [], [], false⟩

def samplePlane : Plane :=
  start (.start sampleFlow deletedChild cbcSelection cbcChildKeys
    ⟨none, none, 0, [], [], 0⟩) zeroRng

/-- A write is queued and a datagram has arrived. -/
def pendingPlane : Plane :=
  { samplePlane with pktIn := [[0x45, 9]], espIn := [[Pipeline.sampleDatagram]] }

/-- What the outbound worker makes of the queued packet. -/
def sentFrame : Bytes :=
  ((encryptAll [[0x45, 9]] (samplePlane.data.pipeline.outbound, zeroRng)).1.getD []).headD []

/-- The end of the stream is read; then the inbound worker delivers the datagram, which is read, and
the outbound worker sends the packet under the SPI of the deleted child. -/
theorem deleted_child_still_runs :
    Runs sampleFlow (fun a _ => ¬a.Installs) samplePlane [.wrote 2] pendingPlane ∧
    pendingPlane.data.tunnel.childSA = deletedChild ∧
    ∃ p f, Runs sampleFlow (fun a _ => ¬a.Installs) (pendingPlane.deleteChild sampleFlow deletedChild)
      [.eof, .delivered [[0x45, 1]], .read [0x45, 1], .frame f] p ∧
    f.take 4 = putUint32 deletedChild.outboundSPI := by
  refine ⟨?_, rfl, ?_⟩
  · have hfollow : follow (observe sampleFlow) [.write [0x45, 9], .enqueue 0,
        .arrive [Pipeline.sampleDatagram]] ([], samplePlane) = some ([.wrote 2], pendingPlane) := rfl
    exact runs_of_follow hfollow (by simp [Action.Installs])
  · have hfollow : (follow (observe sampleFlow)
        [.read 4, .takeBatch, .decrypt, .deliver, .read 4, .takePacket, .encrypt, .sendFrame]
        ([], pendingPlane.deleteChild sampleFlow deletedChild)).map Prod.fst =
        some [.eof, .delivered [[0x45, 1]], .read [0x45, 1], .frame sentFrame] := by decide +kernel
    obtain ⟨p, hp⟩ := exists_runs (C := fun a _ => ¬a.Installs) (by simp [Action.Installs]) hfollow
    exact ⟨p, _, hp, by decide +kernel⟩

/-- One packet is queued when the child is deleted. -/
def queuedPlane : Plane := { samplePlane with pktOut := [[[0x45, 1]]] }

theorem sample_deletion_ends_dataplane :
    ∃ p, Runs sampleFlow Calm (queuedPlane.deleteChild sampleFlow deletedChild)
      [.closedPipe, .read [0x45, 1], .eof] p ∧
    ∃ ns, [Obs.read [0x45, 1], .eof] = serve [[0x45, 1]] ns := by
  have hquiet : queuedPlane.Quiet := by
    refine ⟨rfl, rfl, .inl rfl, ?_, ?_⟩ <;> simp [queuedPlane, samplePlane, start]
  have hfollow : (follow (observe sampleFlow) [.write [0x45], .read 4, .read 4]
      ([], queuedPlane.deleteChild sampleFlow deletedChild)).map Prod.fst =
      some [.closedPipe, .read [0x45, 1], .eof] := by decide +kernel
  obtain ⟨p, hp⟩ := exists_runs (C := Calm) (by simp [Calm]) hfollow
  exact ⟨p, hp, (deletion_ends_dataplane rfl hquiet hp).2.2.2.2.1⟩

end Sample

end Plane

end Swan.Session
