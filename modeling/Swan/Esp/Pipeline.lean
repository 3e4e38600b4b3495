import Swan.Esp.Outflow
import Swan.Xcrypto.Instance

/-! # The codec table of the data plane

The part of `esp/pipeline.go` that chooses the codec of a datagram and that the control plane
drives: the inbound codecs by SPI and the outbound codec. `inbound_at_most_once`: over any sequence
of datagrams, installations and removals no sequence number of a codec is delivered twice. -/

namespace Swan.Esp

open Swan.Lib Swan.Xcrypto

/-- The inbound codecs, each under its own SPI. -/
structure InboundTable where
  codec : UInt32 → Option Inbound
  spi_codec : ∀ spi c, codec spi = some c → c.cfg.spi = spi

namespace InboundTable

def empty : InboundTable := ⟨fun _ => none, fun _ _ h => by cases h⟩

/-- The table with a codec in the place of its SPI. -/
def insert (c : Inbound) (t : InboundTable) : InboundTable where
  codec spi := if spi = c.cfg.spi then some c else t.codec spi
  spi_codec spi c' h := by
    split_ifs at h with hspi
    · rw [← Option.some.inj h, hspi]
    · exact t.spi_codec spi c' h

def erase (spi : UInt32) (t : InboundTable) : InboundTable where
  codec have' := if have' = spi then none else t.codec have'
  spi_codec spi' c h := by
    split_ifs at h
    exact t.spi_codec spi' c h

def spis (t : InboundTable) : Set UInt32 := {spi | (t.codec spi).isSome}

@[simp] theorem codec_insert_self (c : Inbound) (t : InboundTable) :
    (t.insert c).codec c.cfg.spi = some c := if_pos rfl

theorem codec_insert_of_ne {c : Inbound} {t : InboundTable} {spi : UInt32} (h : spi ≠ c.cfg.spi) :
    (t.insert c).codec spi = t.codec spi := if_neg h

@[simp] theorem codec_erase_self (spi : UInt32) (t : InboundTable) : (t.erase spi).codec spi = none :=
  if_pos rfl

theorem codec_erase_of_ne {t : InboundTable} {spi spi' : UInt32} (h : spi' ≠ spi) :
    (t.erase spi).codec spi' = t.codec spi' := if_neg h

theorem mem_spis_insert {c : Inbound} {t : InboundTable} {spi : UInt32} :
    spi ∈ (t.insert c).spis ↔ spi ∈ t.spis ∨ spi = c.cfg.spi := by
  by_cases h : spi = c.cfg.spi
  · subst h
    simp [spis]
  · simp [spis, codec_insert_of_ne h, h]

theorem mem_spis_erase {t : InboundTable} {spi dropped : UInt32} :
    spi ∈ (t.erase dropped).spis ↔ spi ∈ t.spis ∧ spi ≠ dropped := by
  by_cases h : spi = dropped
  · subst h
    simp [spis]
  · simp [spis, codec_erase_of_ne h, h]

end InboundTable

/-- The codecs of the data plane. -/
structure Pipeline where
  inbound : InboundTable
  outbound : Outbound

namespace Pipeline

def newPipeline (inbound : Inbound) (outbound : Outbound) : Pipeline :=
  ⟨InboundTable.empty.insert inbound, outbound⟩

/-- Install the codecs of a new child; the inbound codecs with other SPIs stay. The SPI of the
replaced child makes no difference. -/
def replaceChild (inbound : Inbound) (outbound : Outbound) (_oldInboundSPI : UInt32)
    (p : Pipeline) : Pipeline :=
  ⟨p.inbound.insert inbound, outbound⟩

def dropInboundSPI (spi : UInt32) (p : Pipeline) : Pipeline :=
  if spi = 0 then p else { p with inbound := p.inbound.erase spi }

@[simp] theorem outbound_dropInboundSPI (spi : UInt32) (p : Pipeline) :
    (p.dropInboundSPI spi).outbound = p.outbound := by
  unfold dropInboundSPI
  split <;> rfl

theorem mem_spis_dropInboundSPI {dropped spi : UInt32} {p : Pipeline} (h : dropped ≠ 0) :
    spi ∈ (p.dropInboundSPI dropped).inbound.spis ↔ spi ∈ p.inbound.spis ∧ spi ≠ dropped := by
  rw [dropInboundSPI, if_neg h]
  exact InboundTable.mem_spis_erase

theorem codec_dropInboundSPI (dropped spi : UInt32) (p : Pipeline) :
    (p.dropInboundSPI dropped).inbound.codec spi =
      if spi = dropped ∧ dropped ≠ 0 then none else p.inbound.codec spi := by
  unfold dropInboundSPI
  by_cases h : dropped = 0
  · simp [h]
  · by_cases hspi : spi = dropped
    · simp [h, hspi]
    · simp [h, hspi, InboundTable.codec_erase_of_ne hspi]

section Inbound

variable [Crypto]

/-- Decrypt a datagram with the codec of its SPI. -/
def processInbound (payload : Bytes) : Eff Pipeline Bytes := do
  if payload.length < 4 then
    Eff.fail (.errorf "github.com/wsm25/swan/esp: ESP packet too short for SPI") else
  let p ← Eff.get
  match p.inbound.codec (beUint32 (payload.take 4)) with
  | none =>
    Eff.fail (.errorf "github.com/wsm25/swan/esp: ESP SPI does not match a known inbound SPI")
  | some codec =>
    Eff.zoom (fun _ => codec) (fun c p => { p with inbound := p.inbound.insert c })
      (Inbound.processPooled payload)

omit [Crypto] in
theorem insert_codec {t : InboundTable} {spi : UInt32} {c : Inbound} (h : t.codec spi = some c) :
    t.insert c = t := by
  have hspi := t.spi_codec spi c h
  have : (t.insert c).codec = t.codec := by
    funext s
    by_cases hs : s = c.cfg.spi
    · rw [hs, InboundTable.codec_insert_self, hspi, h]
    · exact InboundTable.codec_insert_of_ne hs
  cases t
  simp only [InboundTable.insert] at this ⊢
  congr

theorem run_processInbound (p : Pipeline) (payload : Bytes) :
    (∃ e, (processInbound payload).run p = (.error e, p)) ∨
    ∃ inner c w, p.inbound.codec (beUint32 (payload.take 4)) = some c ∧
      c.window.accept (seqOf payload) = some w ∧
      (processInbound payload).run p =
        (.ok inner, { p with inbound := p.inbound.insert { c with window := w } }) := by
  unfold processInbound
  by_cases hlen : payload.length < 4
  · rw [if_pos hlen]
    exact .inl ⟨_, rfl⟩
  rw [if_neg hlen, Eff.run_bind_of_ok (Eff.run_get p)]
  cases hc : p.inbound.codec (beUint32 (payload.take 4)) with
  | none => exact .inl ⟨_, rfl⟩
  | some c =>
    simp only [Eff.run_zoom]
    rcases Inbound.run_processPooled c payload with ⟨e, h⟩ | ⟨inner, w, hw, h⟩
    · refine .inl ⟨e, ?_⟩
      rw [h, insert_codec hc]
    · exact .inr ⟨inner, c, w, rfl, hw, by rw [h]⟩

/-! ### Whole runs -/

/-- What happens to a pipeline: a datagram arrives or the control plane changes the table. -/
inductive Op where
  | datagram (payload : Bytes)
  | replaceChild (inbound : InboundConfig) (outbound : OutboundConfig) (oldInboundSPI : UInt32)
  | dropInboundSPI (spi : UInt32)

def apply (p : Pipeline) : Op → Pipeline
  | .datagram payload => ((processInbound payload).run p).2
  | .replaceChild inbound outbound old =>
    p.replaceChild (newInbound inbound) (newOutbound outbound) old
  | .dropInboundSPI spi => p.dropInboundSPI spi

/-- The SPI and the sequence number of the packet that an operation delivers. -/
def delivery (p : Pipeline) : Op → Option (UInt32 × UInt32)
  | .datagram payload =>
    match ((processInbound payload).run p).1 with
    | .ok _ => some (beUint32 (payload.take 4), seqOf payload)
    | .error _ => none
  | _ => none

def deliveries : List Op → Pipeline → List (UInt32 × UInt32)
  | [], _ => []
  | op :: ops, p => (p.delivery op).toList ++ deliveries ops (p.apply op)

def Op.installedSPI : Op → Option UInt32
  | .replaceChild inbound _ _ => some inbound.spi
  | _ => none

/-- The pipeline after the SPIs `used` were installed and the packets `log` were delivered. -/
structure Tracks (p : Pipeline) (used : List UInt32) (log : List (UInt32 × UInt32)) : Prop where
  installed : ∀ spi c, p.inbound.codec spi = some c → spi ∈ used
  window : ∀ spi c, p.inbound.codec spi = some c → ∃ seen, c.window.Tracks seen ∧
    ∀ seq, seq ∈ seen ↔ (spi, seq) ∈ log
  logged : ∀ m ∈ log, m.1 ∈ used
  nodup : log.Nodup

variable {p : Pipeline} {used : List UInt32} {log : List (UInt32 × UInt32)}

theorem Tracks.apply (h : p.Tracks used log) (op : Op)
    (hfresh : ∀ spi, op.installedSPI = some spi → spi ∉ used) :
    (p.apply op).Tracks (used ++ op.installedSPI.toList) (log ++ (p.delivery op).toList) := by
  cases op with
  | datagram payload =>
    simp only [Pipeline.apply, delivery, Op.installedSPI, Option.toList_none, List.append_nil]
    rcases run_processInbound p payload with ⟨e, hrun⟩ | ⟨inner, c, w, hc, hw, hrun⟩
    · rw [hrun]
      simpa using h
    · rw [hrun]
      obtain ⟨seen, htracks, hseen⟩ := h.window _ c hc
      obtain ⟨-, hnew, -⟩ := (ReplayWindow.isSome_accept htracks (seqOf payload)).mp (by
        rw [hw]; rfl)
      have hspi : beUint32 (payload.take 4) = c.cfg.spi := (p.inbound.spi_codec _ c hc).symm
      refine ⟨fun spi c' hc' => ?_, fun spi c' hc' => ?_, fun m hm => ?_, ?_⟩
      · by_cases hs : spi = c.cfg.spi
        · exact hs ▸ hspi ▸ h.installed _ c hc
        · rw [InboundTable.codec_insert_of_ne (by exact hs)] at hc'
          exact h.installed spi c' hc'
      · by_cases hs : spi = c.cfg.spi
        · subst hs
          rw [InboundTable.codec_insert_self (c := { c with window := w })] at hc'
          obtain rfl := Option.some.inj hc'
          refine ⟨seqOf payload :: seen, htracks.accept hw, fun seq => ?_⟩
          simp [hseen, hspi, or_comm]
        · rw [InboundTable.codec_insert_of_ne (by exact hs)] at hc'
          obtain ⟨seen', ht', hs'⟩ := h.window spi c' hc'
          refine ⟨seen', ht', fun seq => ?_⟩
          simp [hs', hspi, hs]
      · rcases List.mem_append.mp hm with hm | hm
        · exact h.logged m hm
        · obtain rfl := List.mem_singleton.mp hm
          exact h.installed _ c hc
      · refine List.nodup_append.mpr ⟨h.nodup, List.nodup_singleton _, ?_⟩
        rintro m hm m' hm' rfl
        obtain rfl := List.mem_singleton.mp hm'
        exact hnew ((hseen _).mpr hm)
  | replaceChild inbound outbound old =>
    have hnew := hfresh inbound.spi rfl
    simp only [Pipeline.apply, delivery, Op.installedSPI, Option.toList_none, List.append_nil,
      Option.toList_some]
    refine ⟨fun spi c hc => ?_, fun spi c hc => ?_, fun m hm => ?_, h.nodup⟩
    · by_cases hs : spi = inbound.spi
      · exact List.mem_append_right _ (List.mem_singleton.mpr hs)
      · rw [replaceChild, InboundTable.codec_insert_of_ne (by exact hs)] at hc
        exact List.mem_append_left _ (h.installed spi c hc)
    · by_cases hs : spi = inbound.spi
      · subst hs
        obtain rfl := Option.some.inj ((InboundTable.codec_insert_self (newInbound inbound)
          p.inbound).symm.trans hc)
        refine ⟨[], ReplayWindow.tracks_zero, fun seq => ?_⟩
        simp only [List.not_mem_nil, false_iff]
        exact fun hlog => hnew (h.logged _ hlog)
      · rw [replaceChild, InboundTable.codec_insert_of_ne (by exact hs)] at hc
        exact h.window spi c hc
    · exact List.mem_append_left _ (h.logged m hm)
  | dropInboundSPI dropped =>
    have hsub : ∀ spi c, (p.dropInboundSPI dropped).inbound.codec spi = some c →
        p.inbound.codec spi = some c := by
      intro spi c hc
      rw [codec_dropInboundSPI] at hc
      split_ifs at hc
      exact hc
    simp only [Pipeline.apply, delivery, Op.installedSPI, Option.toList_none, List.append_nil]
    exact ⟨fun spi c hc => h.installed spi c (hsub spi c hc),
      fun spi c hc => h.window spi c (hsub spi c hc), h.logged, h.nodup⟩

theorem Tracks.nodup_deliveries : ∀ {ops : List Op} {p : Pipeline} {used : List UInt32}
    {log : List (UInt32 × UInt32)}, p.Tracks used log →
    (used ++ ops.filterMap Op.installedSPI).Nodup → (log ++ deliveries ops p).Nodup
  | [], _, _, _, h, _ => by
    rw [deliveries, List.append_nil]
    exact h.nodup
  | op :: ops, p, used, log, h, hfresh => by
    have hinst : used ++ (op :: ops).filterMap Op.installedSPI =
        used ++ op.installedSPI.toList ++ ops.filterMap Op.installedSPI := by
      cases hop : op.installedSPI <;> simp [hop]
    rw [hinst] at hfresh
    have hstep := h.apply op fun spi hspi hmem => by
      rw [hspi] at hfresh
      have hleft := (List.nodup_append.mp hfresh).1
      exact (List.nodup_append.mp hleft).2.2 spi hmem spi (List.mem_singleton_self _) rfl
    rw [deliveries, ← List.append_assoc]
    exact Tracks.nodup_deliveries hstep hfresh

omit [Crypto] in
theorem tracks_newPipeline (cfg : InboundConfig) (outbound : Outbound) :
    (newPipeline (newInbound cfg) outbound).Tracks [cfg.spi] [] where
  installed spi c hc := by
    by_cases hs : spi = cfg.spi
    · exact List.mem_singleton.mpr hs
    · rw [newPipeline, InboundTable.codec_insert_of_ne (by exact hs)] at hc
      cases hc
  window spi c hc := by
    by_cases hs : spi = cfg.spi
    · subst hs
      obtain rfl := Option.some.inj ((InboundTable.codec_insert_self (newInbound cfg)
        InboundTable.empty).symm.trans hc)
      exact ⟨[], ReplayWindow.tracks_zero, fun _ => Iff.rfl.trans (by simp)⟩
    · rw [newPipeline, InboundTable.codec_insert_of_ne (by exact hs)] at hc
      cases hc
  logged m hm := by cases hm
  nodup := List.nodup_nil

theorem deliveries_append : ∀ (ops ops' : List Op) (p : Pipeline),
    deliveries (ops ++ ops') p = deliveries ops p ++ deliveries ops' (ops.foldl apply p)
  | [], _, _ => rfl
  | op :: ops, ops', p => by
    rw [List.cons_append, deliveries, deliveries_append ops ops', deliveries, List.append_assoc]
    rfl

/-- **At most once**: in every run in which the installed inbound SPIs are fresh, no sequence number
of a codec is delivered twice, so a datagram that was delivered is rejected from then on; a rejected
datagram changes nothing, and a change of the table leaves the other codecs with their windows. -/
theorem inbound_at_most_once (cfg : InboundConfig) (outbound : Outbound) (ops : List Op)
    (hfresh : (cfg.spi :: ops.filterMap Op.installedSPI).Nodup) :
    (deliveries ops (newPipeline (newInbound cfg) outbound)).Nodup ∧
    (∀ pre payload, pre ++ [.datagram payload] <+: ops →
      (beUint32 (payload.take 4), seqOf payload) ∈
        deliveries pre (newPipeline (newInbound cfg) outbound) →
      ∃ e, ((processInbound payload).run
        (pre.foldl apply (newPipeline (newInbound cfg) outbound))).1 = .error e) ∧
    ∀ p : Pipeline,
      (∀ payload e, ((processInbound payload).run p).1 = .error e →
        ((processInbound payload).run p).2 = p) ∧
      (∀ inbound outbound' old spi, spi ≠ inbound.cfg.spi →
        (p.replaceChild inbound outbound' old).inbound.codec spi = p.inbound.codec spi) ∧
      ∀ dropped spi, (p.dropInboundSPI dropped).inbound.codec spi =
        if spi = dropped ∧ dropped ≠ 0 then none else p.inbound.codec spi := by
  have hnodup : (deliveries ops (newPipeline (newInbound cfg) outbound)).Nodup := by
    have h := (tracks_newPipeline cfg outbound).nodup_deliveries hfresh
    rwa [List.nil_append] at h
  refine ⟨hnodup, ?_, fun p => ⟨?_, ?_, fun dropped spi => codec_dropInboundSPI dropped spi p⟩⟩
  · rintro pre payload ⟨post, rfl⟩ hmem
    set q := pre.foldl apply (newPipeline (newInbound cfg) outbound) with hq
    cases hrun : ((processInbound payload).run q).1 with
    | error e => exact ⟨e, rfl⟩
    | ok inner =>
      have hdel : q.delivery (.datagram payload) =
          some (beUint32 (payload.take 4), seqOf payload) := by
        simp only [delivery, hrun]
      rw [List.append_assoc, deliveries_append, ← hq, List.singleton_append, deliveries,
        hdel] at hnodup
      exact absurd rfl ((List.nodup_append.mp hnodup).2.2 _ hmem _ List.mem_cons_self)
  · intro payload e herr
    rcases run_processInbound p payload with ⟨e', hrun⟩ | ⟨inner, c, w, -, -, hrun⟩
    · rw [hrun]
    · rw [hrun] at herr
      cases herr
  · intro inbound outbound' old spi hspi
    exact InboundTable.codec_insert_of_ne hspi

end Inbound

section Sample

attribute [local instance] plainCrypto

/-- The first datagram of a peer that sends under the SPI 7. -/
def sampleDatagram : Bytes :=
  ((Outbound.sent [[0x45, 1]] (newOutbound ⟨7, cbcSelection, cbcChildKeys, ⟨0, false, ⟨0, 0⟩⟩⟩,
    zeroRng)).map Prod.snd).headD []

def sampleInbound : InboundConfig :=
  ⟨7, cbcSelection, ⟨cbcChildKeys.sker, cbcChildKeys.skar, cbcChildKeys.skei, cbcChildKeys.skai⟩⟩

def sampleOutbound : OutboundConfig := ⟨8, cbcSelection, cbcChildKeys, ⟨0, false, ⟨0, 0⟩⟩⟩

/-- The datagram arrives, a new child is installed, and the datagram arrives again. -/
def sampleOps : List Op :=
  [.datagram sampleDatagram, .replaceChild { sampleInbound with spi := 9 } sampleOutbound 7,
    .datagram sampleDatagram]

theorem sample_at_most_once :
    deliveries sampleOps (newPipeline (newInbound sampleInbound) (newOutbound sampleOutbound)) =
      [(7, 1)] ∧
    ∃ e, ((processInbound sampleDatagram).run ((sampleOps.take 2).foldl apply
      (newPipeline (newInbound sampleInbound) (newOutbound sampleOutbound)))).1 = .error e :=
  ⟨by decide +kernel, (inbound_at_most_once sampleInbound (newOutbound sampleOutbound) sampleOps
    (by decide +kernel)).2.1 (sampleOps.take 2) sampleDatagram ⟨[], rfl⟩ (by decide +kernel)⟩

end Sample

end Pipeline

end Swan.Esp
